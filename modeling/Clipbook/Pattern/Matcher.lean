import Clipbook.Pattern.Syntax

/-!
# Clipbook — matching

A node is tried at a place with a continuation for what follows it; the first way to satisfy both
wins.  A repetition makes no second step from the place where the last one started, so a text of
length `n` bounds its steps by the least number plus `n + 2`.
-/

namespace Clipbook.Pattern

abbrev Span := Nat × Nat

/-- A place in a text, with what each group has taken so far. -/
structure Cursor where
  before : Text
  after : Text
  index : Nat
  groups : List (Option Span)

namespace Cursor

def span? (s : Cursor) (group : Nat) : Option Span :=
  (s.groups[group]?).join

/-- The text of a span that ends at or before the place. -/
def textOf (s : Cursor) (span : Span) : Text :=
  ((s.before.reverse ++ s.after).drop span.1).take (span.2 - span.1)

def back (s : Cursor) : (n : Nat) → Option Cursor
  | 0 => some s
  | n + 1 =>
    match s.before with
    | [] => none
    | c :: before => back { s with before, after := c :: s.after, index := s.index - 1 } n

end Cursor

def Anchor.holds (a : Anchor) (s : Cursor) : Bool :=
  match a with
  | .textStart => s.before.isEmpty
  | .lineStart => s.before.isEmpty || s.before.head? = some '\n'
  | .nearEnd => s.after.isEmpty || s.after = ['\n']
  | .lineEnd => s.after.isEmpty || s.after.head? = some '\n'
  | .textEnd => s.after.isEmpty
  | .boundary ascii positive =>
    let inWord (c : Option Char) := c.any (Category.word.holds ascii)
    !(s.before.isEmpty && s.after.isEmpty) &&
      ((inWord s.before.head? != inWord s.after.head?) == positive)

abbrev Continuation := Cursor → Option Cursor

/-- The rest of a text after the given characters. -/
def takeText (same : Char → Char → Bool) : (wanted : Text) → Cursor → Option Cursor
  | [], s => some s
  | w :: wanted, s =>
    match s.after with
    | [] => none
    | c :: after =>
      if same w c then
        takeText same wanted { s with before := c :: s.before, after, index := s.index + 1 }
      else none

def Casing.same (casing : Casing) (a b : Char) : Bool :=
  match casing with
  | .exact => a = b
  | .folded => Text.lowerChar a = Text.lowerChar b
  | .asciiFolded => a.toLower = b.toLower

/-- Steps of a repetition: as many as possible first if `greedy`, as few as possible otherwise. -/
def steps (body : Cursor → Continuation → Option Cursor) (greedy : Bool)
    (least : Nat) (most : Option Nat) (k : Continuation) :
    (fuel : Nat) → (count : Nat) → (last : Option Nat) → Cursor → Option Cursor
  | 0, _, _, _ => none
  | fuel + 1, count, last, s =>
    -- rounds that have to be there may be empty
    if count < least then body s (steps body greedy least most k fuel (count + 1) last)
    else
      let more : Unit → Option Cursor := fun _ =>
        -- a round that took nothing is the last one, else there would be no end
        if most.all (count < ·) ∧ last ≠ some s.index then
          body s (steps body greedy least most k fuel (count + 1) (some s.index))
        else none
      if greedy then more () <|> k s else k s <|> more ()

/-- Steps of a repetition that gives nothing back. -/
def possess (body : Cursor → Continuation → Option Cursor) (least : Nat) (most : Option Nat) :
    (fuel : Nat) → (count : Nat) → (last : Option Nat) → Cursor → Option Cursor
  | 0, _, _, s => some s
  | fuel + 1, count, last, s =>
    if count < least then
      match body s some with
      | some s' => possess body least most fuel (count + 1) last s'
      | none => none
    else if most.all (count < ·) ∧ last ≠ some s.index then
      match body s some with
      | some s' => possess body least most fuel (count + 1) (some s.index) s'
      | none => some s
    else some s

/-- The first way to match a node at a place and to go on from there. -/
def Node.run : Node → Cursor → Continuation → Option Cursor
  | empty, s, k => k s
  | set cs, s, k =>
    match s.after with
    | [] => none
    | c :: after =>
      if cs.holds c then k { s with before := c :: s.before, after, index := s.index + 1 }
      else none
  | any lineEnds, s, k =>
    match s.after with
    | [] => none
    | c :: after =>
      if lineEnds || c ≠ '\n' then
        k { s with before := c :: s.before, after, index := s.index + 1 }
      else none
  | anchor a, s, k => if a.holds s then k s else none
  | seq p q, s, k => p.run s fun s' => q.run s' k
  -- what follows is tried with the first side before the second side is
  | alt p q, s, k => p.run s k <|> q.run s k
  | group index p, s, k =>
    p.run s fun s' => k { s' with groups := s'.groups.set index (some (s.index, s'.index)) }
  | repeated least most greed p, s, k =>
    -- every round that counts takes a character, except for those that have to be there
    let fuel := least + s.after.length + 3
    match greed with
    | .greedy => steps p.run true least most k fuel 0 none s
    | .lazy => steps p.run false least most k fuel 0 none s
    | .possessive => (possess p.run least most fuel 0 none s).bind k
  -- what the group takes is not tried again
  | atomic p, s, k => (p.run s some).bind k
  | ahead positive p, s, k =>
    match p.run s some, positive with
    -- a look stays where it is, and what its groups took is kept
    | some s', true => k { s with groups := s'.groups }
    | none, false => k s
    | _, _ => none
  | behind positive width p, s, k =>
    -- a look behind is of fixed width, so it starts as far back
    match (s.back width).bind fun b => p.run b some, positive with
    | some s', true => k { s with groups := s'.groups }
    | none, false => k s
    | _, _ => none
  | again index casing, s, k =>
    match s.span? index with
    | none => none
    | some span => (takeText casing.same (s.textOf span) s).bind k
  | ifGroup index yes no, s, k =>
    match s.span? index with
    | some _ => yes.run s k
    | none => no.run s k

end Clipbook.Pattern
