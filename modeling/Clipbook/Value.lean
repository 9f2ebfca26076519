import Clipbook.Fault
import Clipbook.Number.Decimal
import Clipbook.Table

/-!
# Clipbook — values

A value is a scalar, a list of values or an ordered table of values.
-/

namespace Clipbook

inductive Value where
  | null
  | bool (b : Bool)
  | int (n : Int)
  | float (x : Binary)
  | str (t : Text)
  | arr (items : List Value)
  | obj (members : List (Text × Value))

namespace Value

instance : Inhabited Value := ⟨.null⟩

def kind : Value → Kind
  | null => .null
  | bool _ => .bool
  | int _ => .int
  | float _ => .float
  | str _ => .str
  | arr _ => .arr
  | obj _ => .obj

/-- Null, false, zero and everything empty count as nothing. -/
def isNothing : Value → Bool
  | null => true
  | bool b => !b
  | int n => n = 0
  | float (.finite _ m _) => m = 0
  | float _ => false
  | str t => t = []
  | arr items => items.isEmpty
  | obj members => members.isEmpty

/-! ## Nesting -/

/-- Containers deeper than this are neither read nor printed nor searched.

The limit is a nominal one.  What a program has is a stack, and what recurses on a value takes more
or less of it at each level: reading and printing take the least, a key, the markup of a tree and
YAML several times as much.  So a condition on the nesting of a value says where the exact limit
does not matter: it holds of values nested well below, and fails of those well above. -/
def maxNesting : Nat := 1000

mutual

/-- The number of containers around the deepest value. -/
def depth : Value → Nat
  | arr items => itemsDepth items + 1
  | obj members => membersDepth members + 1
  | _ => 0

def itemsDepth : List Value → Nat
  | [] => 0
  | v :: vs => max v.depth (itemsDepth vs)

def membersDepth : List (Text × Value) → Nat
  | [] => 0
  | (_, v) :: ms => max v.depth (membersDepth ms)

end

def tooDeep (v : Value) : Bool :=
  maxNesting < v.depth

end Value

end Clipbook
