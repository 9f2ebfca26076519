import Clipbook.Pattern.Matcher

/-!
# Clipbook — matches of a pattern

All matches in a text, left to right.  An empty match is followed by a non-empty one at the same
place or by one further on.
-/

namespace Clipbook

/-- A match: where it starts and stops, and what each group took; group 0 is not among them. -/
structure Match where
  start : Nat
  stop : Nat
  groups : List (Option Pattern.Span)

namespace Pattern

/-- The match at a place; with `advance` an empty one does not count. -/
def matchAt (p : Pattern) (advance : Bool) (before after : Text) (index : Nat) :
    Option Cursor :=
  p.node.run ⟨before, after, index, List.replicate (p.groups + 1) none⟩ fun s =>
    if advance && s.index = index then none else some s

/-- The first match at or after a place, with where it starts. -/
def searchFrom (p : Pattern) (advance : Bool) (before : Text) (index : Nat) :
    (after : Text) → Option (Nat × Cursor)
  | [] => (p.matchAt advance before [] index).map (index, ·)
  | c :: after =>
    match p.matchAt advance before (c :: after) index with
    | some s => some (index, s)
    | none => searchFrom p false (c :: before) (index + 1) after

/-- The matches from a place on. -/
def matchesFrom (p : Pattern) :
    (fuel : Nat) → (advance : Bool) → (before after : Text) → (index : Nat) → List Match
  | 0, _, _, _, _ => []
  | fuel + 1, advance, before, after, index =>
    match p.searchFrom advance before index after with
    | none => []
    -- behind an empty match the next one has to take something
    | some (start, s) =>
      ⟨start, s.index, s.groups.drop 1⟩
        :: matchesFrom p fuel (s.index = start) s.before s.after s.index

/-- All matches of a pattern in a text. -/
def findAll (p : Pattern) (t : Text) : List Match :=
  p.matchesFrom (2 * t.length + 2) false [] t 0

end Pattern

namespace Text

/-- The characters of a text from one place to another. -/
def slice (start stop : Nat) (t : Text) : Text :=
  (t.drop start).take (stop - start)

end Text

namespace Match

def text (m : Match) (subject : Text) : Text :=
  Text.slice m.start m.stop subject

/-- What a group took, if it took part in the match. -/
def group? (m : Match) (subject : Text) (index : Nat) : Option Text :=
  (m.groups[index - 1]?).join.map fun span => Text.slice span.1 span.2 subject

/-- Copies a text from a place on, with an image in the place of each match. -/
def replaceFrom (image : Match → Text) (subject : Text) : (place : Nat) → List Match → Text
  | place, [] => subject.drop place
  | place, m :: ms =>
    Text.slice place m.start subject ++ image m ++ replaceFrom image subject m.stop ms

/-- The text with an image in the place of each match. -/
def replaceAll (image : Match → Text) (subject : Text) (ms : List Match) : Text :=
  replaceFrom image subject 0 ms

/-- What stands between the matches from a place on, and what their groups took. -/
def splitFrom (subject : Text) : (place : Nat) → List Match → List (Option Text)
  | place, [] => [some (subject.drop place)]
  | place, m :: ms =>
    some (Text.slice place m.start subject)
      :: m.groups.map (·.map fun span => Text.slice span.1 span.2 subject)
      ++ splitFrom subject m.stop ms

end Match

/-- The pieces of a text between the matches of a pattern, with what its groups took between
them. -/
def Pattern.split (p : Pattern) (t : Text) : List (Option Text) :=
  Match.splitFrom t 0 (p.findAll t)

end Clipbook
