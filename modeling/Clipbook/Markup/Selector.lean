import Clipbook.Markup.Node

/-!
# Clipbook — selectors

A selector is a list of tests that an element must all pass; a selector list is a list of
alternatives.  A relation to another element is a test of its own.
-/

namespace Clipbook.Markup

inductive Combinator where
  | descendant
  | child
  | sibling
  | adjacent
  deriving DecidableEq, Repr

/-- How the value of an attribute is compared. -/
inductive Comparison where
  | equal
  | starts
  | ends
  | includes
  | word
  | dashed
  deriving DecidableEq, Repr

structure ValueTest where
  comparison : Comparison
  value : Text
  ignoreCase : Bool
  deriving DecidableEq, Repr

/-- The places `step · n + offset`, for every `n` if it is `cyclic`, else the place `offset`. -/
structure Progression where
  step : Int
  offset : Int
  cyclic : Bool
  deriving DecidableEq, Repr

/-- Whether a place, counted from one, belongs to a progression. -/
def Progression.holds (p : Progression) (place : Nat) : Bool :=
  let rest : Int := place - p.offset
  if !p.cyclic || p.step = 0 then rest = 0
  else if 0 < p.step then 0 ≤ rest && rest % p.step = 0
  else rest ≤ 0 && rest % p.step = 0

inductive Test where
  | never
  | tag (space : Option Text) (name : Text)
  | id (name : Text)
  | className (name : Text)
  | attribute (space : Text) (name : Text) (value : Option ValueTest)
  /-- The place among the siblings that satisfy a list, or have the same name, counted from the
  first or the last one. -/
  | place (p : Progression) (sameName fromLast : Bool) (among : Option (List (List Test)))
  | root
  | empty
  | contains (own : Bool) (texts : List Text)
  | oneOf (positive : Bool) (alternatives : List (List Test))
  /-- An element before this one passes tests. -/
  | related (c : Combinator) (tests : List Test)
  /-- An element inside or after this one passes tests. -/
  | has (c : Combinator) (tests : List Test)

abbrev Selector := List Test

end Clipbook.Markup
