import Clipbook.Pattern.Fold
import Clipbook.Text.Blank
import Clipbook.Text.Digit
import Clipbook.Text.Word

/-!
# Clipbook — patterns

The tree of a pattern.  Options that change the meaning of a node (letter case, line ends, ASCII
classes) are part of the node.
-/

namespace Clipbook.Pattern

/-! ## Characters -/

inductive Category where
  | digit
  | space
  | word
  deriving DecidableEq, Repr

def isAsciiSpace (c : Char) : Bool :=
  c = ' ' || ('\t' ≤ c && c ≤ '\r')

def Category.holds (category : Category) (ascii : Bool) (c : Char) : Bool :=
  match category with
  | .digit => if ascii then c.isDigit else Text.isDecimal c
  | .space => if ascii then isAsciiSpace c else Text.isBlank c
  | .word => if ascii then c.isAlphanum || c = '_' else Text.isWord c

/-- A member of a set: a range of code points, or a category or its complement. -/
inductive Member where
  | range (first last : Nat)
  | category (category : Category) (positive : Bool)
  deriving DecidableEq, Repr

/-- How letters of different case compare. -/
inductive Casing where
  | exact
  | folded
  | asciiFolded
  deriving DecidableEq, Repr

namespace Member

def holds (ascii : Bool) (c : Char) : Member → Bool
  | range first last => first ≤ c.toNat && c.toNat ≤ last
  | category k positive => k.holds ascii c == positive

/-- Whether a range has a letter with another case in it. -/
def cased (casing : Casing) : Member → Bool
  | range first last =>
    last - first > 2000 || (List.range (last - first + 1)).any fun i =>
      match casing with
      | .asciiFolded => (Char.ofNat (first + i)).isAlpha
      | _ => Text.isCased (Char.ofNat (first + i))
  | category .. => false

/-- Whether a member, its letters taken as small ones, holds a small letter. -/
def holdsFolded (casing : Casing) (ascii : Bool) (c : Char) : Member → Bool
  | range first last =>
    match casing with
    | .asciiFolded => (c.toNat :: asciiPreimages c).any fun n => first ≤ n && n ≤ last
    | _ => (preimages c).any fun n => first ≤ n && n ≤ last
  | m => m.holds ascii c

end Member

/-- A set of characters, or the complement of one. -/
structure CharSet where
  members : List Member
  negated : Bool
  casing : Casing
  ascii : Bool
  deriving DecidableEq, Repr

/-- Folding applies only where the set holds a letter with two cases. -/
def CharSet.holds (s : CharSet) (c : Char) : Bool :=
  let inside :=
    match s.casing with
    | .exact => s.members.any (·.holds s.ascii c)
    | casing =>
      if s.members.any (·.cased casing) then
        let small := if casing = .asciiFolded then c.toLower else Text.lowerChar c
        s.members.any (·.holdsFolded casing s.ascii small)
      else s.members.any (·.holds s.ascii c)
  inside != s.negated

/-! ## Places -/

inductive Anchor where
  | textStart
  | lineStart
  /-- The end, or the place before a line end at the end. -/
  | nearEnd
  | lineEnd
  | textEnd
  | boundary (ascii positive : Bool)
  deriving DecidableEq, Repr

/-! ## Trees -/

inductive Greed where
  | greedy
  | lazy
  | possessive
  deriving DecidableEq, Repr

inductive Node where
  | empty
  | set (s : CharSet)
  | any (lineEnds : Bool)
  | anchor (a : Anchor)
  | seq (p q : Node)
  | alt (p q : Node)
  | group (index : Nat) (p : Node)
  | repeated (least : Nat) (most : Option Nat) (greed : Greed) (p : Node)
  | atomic (p : Node)
  | ahead (positive : Bool) (p : Node)
  | behind (positive : Bool) (width : Nat) (p : Node)
  | again (index : Nat) (casing : Casing)
  | ifGroup (index : Nat) (yes no : Node)
  deriving Repr

end Pattern

/-- A pattern with the number of its groups and the names of some. -/
structure Pattern where
  node : Pattern.Node
  groups : Nat
  names : Table Nat

end Clipbook
