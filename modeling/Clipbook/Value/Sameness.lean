import Clipbook.Value

/-!
# Clipbook — sameness of values

Values are the same if they have the same kinds throughout, equal scalars and equal members in
equal order.  The two zeros are the same number, and a not-a-number is the same as itself.
-/

namespace Clipbook

def Binary.same : Binary → Binary → Bool
  | nan, nan => true
  | x, y => x.eqv y

namespace Value

mutual

def same : Value → Value → Bool
  | null, null => true
  | bool a, bool b => a = b
  | int a, int b => a = b
  | float a, float b => a.same b
  | str a, str b => a = b
  | arr a, arr b => sameItems a b
  | obj a, obj b => sameMembers a b
  | _, _ => false

def sameItems : List Value → List Value → Bool
  | [], [] => true
  | v :: vs, w :: ws => v.same w && sameItems vs ws
  | _, _ => false

def sameMembers : List (Text × Value) → List (Text × Value) → Bool
  | [], [] => true
  | (k, v) :: vs, (l, w) :: ws => k = l && v.same w && sameMembers vs ws
  | _, _ => false

end

end Value

end Clipbook
