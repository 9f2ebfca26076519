import Clipbook.Scan.Split

/-!
# Clipbook — filter chains

A chain `name(args):name:name(args)` is a list of calls.  The arguments of a call keep their
parentheses.
-/

namespace Clipbook

structure Call where
  name : Text
  args : Text
  deriving DecidableEq, Repr

namespace Call

def isNameChar (c : Char) : Bool :=
  Text.isWord c || c = '-'

/-- The call a part of a chain spells; a part without a name spells none. -/
def ofPart? (part : Text) : Option Call :=
  match part.takeWhile isNameChar with
  | [] => none
  | name => some ⟨name, Text.strip (part.dropWhile isNameChar)⟩

/-- The calls of a chain, in order. -/
def chain (t : Text) : List Call :=
  (Scan.splitTop ':' true t).filterMap ofPart?

end Call

end Clipbook
