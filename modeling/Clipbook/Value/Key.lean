import Clipbook.Fault
import Clipbook.Value.Sameness

/-!
# Clipbook — values as keys

In a table by values, keys are equal if they are equal as numbers or the same.
-/

namespace Clipbook

namespace Value

/-- A number as a fraction. -/
def fraction? : Value → Option (Int × Nat)
  | bool b => some (if b then 1 else 0, 1)
  | int n => some (n, 1)
  | float (.finite negative m e) =>
    let r := Binary.ratio m e
    some (if negative then -r.1 else r.1, r.2)
  | _ => none

def sameKey (v w : Value) : Bool :=
  match v.fraction?, w.fraction? with
  | some a, some b => a.1 * b.2 = b.1 * a.2
  | _, _ => v.same w

/-- Lists and objects are no keys. -/
def key : Value → Except Fault Value
  | arr _ => .error (.unhashable .arr)
  | obj _ => .error (.unhashable .obj)
  | v => .ok v

/-! ## Order -/

def isText : Value → Bool
  | str _ => true
  | _ => false

def isNumber : Value → Bool
  | bool _ | int _ | float _ => true
  | _ => false

def keyLe : Value → Value → Bool
  | str s, str t => Text.le s t
  | float (.infinite true), _ => true
  | _, float (.infinite false) => true
  | v, w =>
    match v.fraction?, w.fraction? with
    | some a, some b => a.1 * b.2 ≤ b.1 * a.2
    | _, _ => false

end Value

/-- An ordered table whose keys are values. -/
abbrev Book (α : Type) := List (Value × α)

namespace Book

variable {α : Type}

def get? (key : Value) (b : Book α) : Option α :=
  (b.find? fun e => e.1.sameKey key).map (·.2)

/-- Writes an entry; an equal key stays where it is, with the new value. -/
def put (key : Value) (value : α) : Book α → Book α
  | [] => [(key, value)]
  | (k, v) :: b => if k.sameKey key then (k, value) :: b else (k, v) :: put key value b

def ofList (entries : List (Value × α)) : Book α :=
  entries.foldl (fun b e => put e.1 e.2 b) []

def keys (b : Book α) : List Value :=
  b.map (·.1)

/-- The entries ordered by key, where all keys are texts or all are numbers. -/
def ordered (b : Book α) : Book α :=
  if b.keys.all Value.isText || b.keys.all Value.isNumber then
    b.mergeSort fun e f => e.1.keyLe f.1
  else b

end Book

end Clipbook
