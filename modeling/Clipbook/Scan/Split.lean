import Clipbook.Scan
import Clipbook.Text.Word

/-!
# Clipbook — splitting arguments

Arguments are separated where the scan is at the top level.  A pattern that never closes is no
pattern: the text is then split again with every slash taken as it is.
-/

namespace Clipbook.Scan

/-! ## Lists -/

/-- One pass over the rest of a text: the parts, untrimmed, and the scan at the end of the last
one. -/
def passFrom (sep : Char) (s : Scan) : Text → List Text × Scan
  | [] => ([], s)
  | c :: t =>
    if c = sep ∧ s.splits then
      -- a slash behind the separator can open a pattern again
      let r := passFrom sep { s with read := [] } t
      (s.text :: r.1, r.2)
    else passFrom sep (s.step c) t

def pass (sep : Char) (regexes : Bool) (t : Text) : List Text × Scan :=
  passFrom sep (start regexes) t

/-- The parts of a pass, trimmed; an empty last part is dropped. -/
def parts (r : List Text × Scan) : List Text :=
  (r.1 ++ if r.2.read = [] then [] else [r.2.text]).map Text.strip

/-- The parts of a text between its separators at the top level. -/
def splitTop (sep : Char) (regexes : Bool) (t : Text) : List Text :=
  let r := pass sep regexes t
  -- the second reading is the last one: without patterns none can be left open
  if r.2.inRegex then parts (pass sep false t) else parts r

/-! ## Pairs -/

/-- One pass to the first separator: what stands before and after it, or the scan at the end. -/
def cutFrom (sep : Char) (s : Scan) (before : Text) : Text → (Text × Text) ⊕ Scan
  | [] => .inr s
  | c :: t =>
    if c = sep ∧ s.splits then .inl (before.reverse, t)
    else cutFrom sep (s.step c) (c :: before) t

/-- A text split at its first separator at the top level; the right side is missing if there is
none. -/
def splitPair (sep : Char) (regexes : Bool) (t : Text) : Text × Option Text :=
  let whole := (Text.strip t, none)
  let cut (r : Text × Text) := (Text.strip r.1, some (Text.strip r.2))
  match cutFrom sep (start regexes) [] t with
  | .inl r => cut r
  | .inr s =>
    -- no separator was found, because a slash hid it
    if s.inRegex then
      match cutFrom sep (start false) [] t with
      | .inl r => cut r
      | .inr _ => whole
    else whole

end Clipbook.Scan
