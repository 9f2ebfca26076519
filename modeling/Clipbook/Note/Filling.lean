import Clipbook.Template.Render

/-!
# Clipbook — texts with slots

A text for a note has slots of two kinds: expressions, and placeholders, which are names in double
braces.  They are filled in once, from left to right; what is put in is not read again.
-/

namespace Clipbook.Note

/-- Placeholders with their values. -/
abbrev Variables := Table Text

inductive Slot where
  | expression (e : Expression)
  | placeholder (start : Nat) (token : Text)
  deriving DecidableEq, Repr

namespace Slot

def start : Slot → Nat
  | expression e => e.start
  | placeholder start _ => start

def stop : Slot → Nat
  | expression e => e.stop
  | placeholder start token => start + token.length

end Slot

/-! ## Placeholders -/

def isBrace (c : Char) : Bool :=
  c = '\x7b' || c = '\x7d'

/-- The placeholder at the start of a text. -/
def placeholder? : Text → Option Text
  | '\x7b' :: '\x7b' :: t =>
    match t.takeWhile fun c => !isBrace c, t.dropWhile fun c => !isBrace c with
    | [], _ => none
    | name, '\x7d' :: '\x7d' :: _ => some (Text.braced name)
    | _, _ => none
  | _ => none

/-- The placeholders of a text from a place on; the first `skip` characters belong to one already
read. -/
def placeholdersFrom (skip place : Nat) : Text → List Slot
  | [] => []
  | c :: t =>
    match skip with
    | n + 1 => placeholdersFrom n (place + 1) t
    | 0 =>
      match placeholder? (c :: t) with
      | some token =>
        .placeholder place token :: placeholdersFrom (token.length - 1) (place + 1) t
      | none => placeholdersFrom 0 (place + 1) t

/-! ## Filling in -/

/-- The slots of a text by their places. -/
def slots (t : Text) : List Slot :=
  ((Expression.findAll t).map Slot.expression ++ placeholdersFrom 0 0 t).mergeSort fun r s =>
    r.start ≤ s.start

/-- A placeholder without its braces. -/
def bare (token : Text) : Text :=
  (token.take (token.length - 2)).drop 2

/-- The item whose fields the expressions speak of. -/
def itemOf (words : Variables) : Value :=
  .obj (Table.extend [] (words.map fun e => (bare e.1, .str e.2)))

/-- What is put in for a slot; nothing for an unknown placeholder. -/
def image (words : Variables) : Slot → Outcome Text
  | .expression e => Expression.evaluate Template.render (itemOf words) e
  | .placeholder _ token => .ok ((words.get? token).getD [])

/-- A text from a place on with its slots filled in; a slot that starts inside of an earlier one is
none. -/
def fillFrom (f : Slot → Outcome Text) (t : Text) : (place : Nat) → List Slot → Outcome Text
  | place, [] => .ok (t.drop place)
  | place, s :: rest =>
    -- an expression may hold a placeholder, and a placeholder the mark of an expression
    if s.start < place then fillFrom f t place rest
    else do
      let image ← f s
      return Text.slice place s.start t ++ image ++ (← fillFrom f t s.stop rest)

/-- A text with its slots filled in. -/
def fill (words : Variables) (t : Text) : Outcome Text :=
  fillFrom (image words) t 0 (slots t)

end Clipbook.Note
