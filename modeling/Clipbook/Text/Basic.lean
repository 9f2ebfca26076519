/-!
# Clipbook — text

A text is the list of its characters, so that a position is a number of characters and a scan is
a recursion on the list.
-/

namespace Clipbook

abbrev Text := List Char

instance : LawfulBEq Text := inferInstanceAs (LawfulBEq (List Char))

namespace Text

/-! ## Ends -/

def trimStart (drop : Char → Bool) (t : Text) : Text :=
  t.dropWhile drop

def trimEnd (drop : Char → Bool) (t : Text) : Text :=
  (t.reverse.dropWhile drop).reverse

def trim (drop : Char → Bool) (t : Text) : Text :=
  trimEnd drop (trimStart drop t)

/-- `t` without a leading `start`, if it has one. -/
def after? : (start t : Text) → Option Text
  | [], t => some t
  | _ :: _, [] => none
  | s :: start, c :: t => if s = c then after? start t else none

/-- `t` without a trailing `stop`, if it has one. -/
def before? (stop t : Text) : Option Text :=
  (after? stop.reverse t.reverse).map List.reverse

def startsWith (start t : Text) : Bool :=
  (after? start t).isSome

def endsWith (stop t : Text) : Bool :=
  (before? stop t).isSome

/-! ## Pieces -/

/-- The pieces between the occurrences of a character; there is one more of them. -/
def splitOn (sep : Char) : Text → List Text
  | [] => [[]]
  | c :: t =>
    if c = sep then [] :: splitOn sep t
    else
      match splitOn sep t with
      | [] => [[c]]
      | piece :: pieces => (c :: piece) :: pieces

def lines (t : Text) : List Text :=
  splitOn '\n' t

def join (sep : Text) : List Text → Text
  | [] => []
  | [piece] => piece
  | piece :: pieces => piece ++ sep ++ join sep pieces

theorem splitOn_ne_nil (sep : Char) (t : Text) : splitOn sep t ≠ [] := by
  cases t with
  | nil => exact List.cons_ne_nil _ _
  | cons c t =>
    rw [splitOn]
    split
    · exact List.cons_ne_nil _ _
    · split <;> exact List.cons_ne_nil _ _

theorem join_cons_concat (sep piece : Text) (pieces : List Text) (last : Text) :
    join sep (piece :: (pieces ++ [last])) = piece ++ sep ++ join sep (pieces ++ [last]) := by
  cases pieces with
  | nil => rfl
  | cons p pieces => rfl

/-- Pieces that are not empty put together are empty only if there are none. -/
theorem join_eq_nil_iff (sep : Text) {pieces : List Text} (h : ∀ p ∈ pieces, p ≠ []) :
    join sep pieces = [] ↔ pieces = [] := by
  match pieces with
  | [] => exact iff_of_true rfl rfl
  | [p] => exact iff_of_false (h p (List.mem_cons_self ..)) (List.cons_ne_nil _ _)
  | p :: q :: pieces =>
    refine iff_of_false ?_ (List.cons_ne_nil _ _)
    show p ++ sep ++ join sep (q :: pieces) ≠ []
    rw [List.append_assoc]
    exact List.append_ne_nil_of_left_ne_nil (h p (List.mem_cons_self ..)) _

/-- Copies a text, with `image` in the place of each occurrence of `found`; the first `skip`
characters belong to an occurrence already written. -/
def replaceFrom (found image : Text) (skip : Nat) : Text → Text
  | [] => []
  | c :: t =>
    match skip with
    | n + 1 => replaceFrom found image n t
    | 0 =>
      if startsWith found (c :: t) then image ++ replaceFrom found image (found.length - 1) t
      else c :: replaceFrom found image 0 t

/-- Every occurrence of a non-empty `found`, left to right and without overlap, replaced. -/
def replaceAll (found image : Text) (t : Text) : Text :=
  if found = [] then t else replaceFrom found image 0 t

/-- What stands before and after the first occurrence of a character. -/
def cut? (sep : Char) : Text → Option (Text × Text)
  | [] => none
  | c :: t => if c = sep then some ([], t) else (cut? sep t).map fun p => (c :: p.1, p.2)

/-- What stands before and after the last occurrence of a character. -/
def cutLast? (sep : Char) (t : Text) : Option (Text × Text) :=
  (cut? sep t.reverse).map fun p => (p.2.reverse, p.1.reverse)

/-- `t` from the first occurrence of `found` on: what stands before it and what after. -/
def find? (found : Text) : Text → Option (Text × Text)
  | [] => if found = [] then some ([], []) else none
  | c :: t =>
    match after? found (c :: t) with
    | some rest => some ([], rest)
    | none => (find? found t).map fun p => (c :: p.1, p.2)

def contains (found t : Text) : Bool :=
  (find? found t).isSome

/-- The number of bytes of a text. -/
def byteSize (t : Text) : Nat :=
  t.foldr (fun c n => c.utf8Size + n) 0

/-- A text in double braces. -/
def braced (t : Text) : Text :=
  '\x7b' :: '\x7b' :: t ++ ['\x7d', '\x7d']

/-! ## Numerals -/

/-- The decimal numeral of a natural number. -/
def ofNat (n : Nat) : Text :=
  Nat.toDigits 10 n

def ofInt : Int → Text
  | .ofNat n => ofNat n
  | .negSucc n => '-' :: ofNat (n + 1)

/-- `t` filled up with `fill` on the left to a width. -/
def padLeft (fill : Char) (width : Nat) (t : Text) : Text :=
  List.replicate (width - t.length) fill ++ t

/-! ## Comparison -/

/-- Whether two texts are equal. -/
def same : (s t : Text) → Bool
  | [], [] => true
  | c :: s, d :: t => if c = d then same s t else false
  | _, _ => false

/-- Texts are the same if they are equal. -/
@[simp] theorem same_eq (s t : Text) : same s t = decide (s = t) := by
  induction s generalizing t with
  | nil => cases t <;> simp [same]
  | cons c s ih =>
    cases t with
    | nil => simp [same]
    | cons d t => by_cases h : c = d <;> simp [same, h, ih]

/-- The order of code points. -/
def le (s t : Text) : Bool :=
  match s, t with
  | [], _ => true
  | _ :: _, [] => false
  | c :: s, d :: t => if c = d then le s t else c.toNat < d.toNat

/-! ## Classes of characters -/

/-- A class of characters as a list of closed ranges of code points. -/
abbrev Ranges := List (Nat × Nat)

def Ranges.contains (ranges : Ranges) (c : Char) : Bool :=
  ranges.any fun range => range.1 ≤ c.toNat && c.toNat ≤ range.2

end Text

end Clipbook
