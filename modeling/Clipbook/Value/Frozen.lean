import Clipbook.Value.Key

/-!
# Clipbook — frozen values

A whole value, lists and tables included, makes a key.  Keys are compared part by part and numbers
by what they are worth, so that every part goes with its kind: truth values, integers and floats
stay apart, and so do lists and tables.
-/

namespace Clipbook

/-- A key: a kind, a scalar or a row of keys. -/
inductive Frozen where
  | kind (k : Kind)
  | scalar (v : Value)
  | row (parts : List Frozen)

namespace Frozen

mutual

def eqv : Frozen → Frozen → Bool
  | kind k, kind l => k = l
  | scalar v, scalar w => v.sameKey w
  | row a, row b => eqvParts a b
  | _, _ => false

def eqvParts : List Frozen → List Frozen → Bool
  | [], [] => true
  | a :: as, b :: bs => a.eqv b && eqvParts as bs
  | _, _ => false

end

instance : BEq Frozen := ⟨eqv⟩

end Frozen

namespace Value

mutual

/-- The key of a value, in which the members of a table keep their order. -/
def freeze : Value → Frozen
  | arr items => .row [.kind .arr, .row (freezeItems items)]
  | obj members => .row [.kind .obj, .row (freezeMembers members)]
  | v => .row [.kind v.kind, .scalar v]

def freezeItems : List Value → List Frozen
  | [] => []
  | v :: vs => v.freeze :: freezeItems vs

def freezeMembers : List (Text × Value) → List Frozen
  | [] => []
  | (k, v) :: ms => .row [.scalar (.str k), v.freeze] :: freezeMembers ms

end

/-- The key of a value; one that is nested too deeply has none. -/
def frozen (v : Value) : Except Fault Frozen :=
  if v.tooDeep then .error .tooDeep else .ok v.freeze

/-- Whether two values have the same key. -/
def sharesKey (v w : Value) : Except Fault Bool := do
  let k ← v.frozen
  let l ← w.frozen
  return k == l

end Value

end Clipbook
