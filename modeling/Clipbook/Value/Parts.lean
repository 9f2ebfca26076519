import Clipbook.Fault
import Clipbook.Value

/-!
# Clipbook — parts of values

What a value consists of, and which kinds of values can be asked for it.
-/

namespace Clipbook.Value

/-- What a value consists of, taken one by one: items, keys or characters. -/
def elements : Value → Except Fault (List Value)
  | arr items => .ok items
  | obj members => .ok (members.map fun m => .str m.1)
  | str t => .ok (t.map fun c => .str [c])
  | v => .error (.notIterable v.kind)

/-- The elements of a value; nothing has none. -/
def elementsIfAny (v : Value) : Except Fault (List Value) :=
  if v.isNothing then .ok [] else v.elements

/-- The members of an object, the only value that has something under a key. -/
def members : Value → Except Fault (Table Value)
  | obj members => .ok members
  | arr _ => .error .indexNotInteger
  | str _ => .error .indexNotInteger
  | v => .error (.notSubscriptable v.kind)

/-- The members of an object, the only value that may have something under a key. -/
def fields : Value → Except Fault (Table Value)
  | obj members => .ok members
  | v => .error (.noMember v.kind "get".toList)

/-- A value, or another one in the place of nothing. -/
def orElse (v default : Value) : Value :=
  if v.isNothing then default else v

end Clipbook.Value
