import Clipbook.Filter.Split
import Clipbook.Number.Integer

/-!
# Clipbook — laying out values

Grouping a flat list into objects, and indenting lines.
-/

namespace Clipbook.Filter

/-! ## Groups -/

/-- A list in rows of a width, the last of which may be shorter; `left` counts the items that the
row may still take. -/
def rowsFrom (width : Nat) (left : Nat) (row : List Value) : List Value → List (List Value)
  | [] => if row = [] then [] else [row.reverse]
  | v :: vs =>
    match left with
    | 0 => row.reverse :: rowsFrom width (width - 1) [v] vs
    | n + 1 => rowsFrom width n (v :: row) vs

def rows (width : Nat) (vs : List Value) : List (List Value) :=
  rowsFrom width width [] vs

/-- The object of a row: each key takes the item at its place. -/
def group (keys : List Text) (row : List Value) : Value :=
  .obj (Table.ofList (keys.zip row))

/-- The items of a list in objects with the given keys, as JSON.  A text that is no JSON is one
item, and what is neither is left as it is. -/
def regrouped (param : Text) (v : Value) : Outcome Value := do
  let keys := if param = [] then [] else (arguments param).map Text.stripQuotes
  if keys = [] then return v
  let grouped (items : List Value) : Except Fault Value :=
    (Value.arr ((rows keys.length items).map (group keys))).json?.map .str
  -- a text that is read as itself is no JSON
  match v, ← v.parsed with
  | _, .arr items => grouped items
  | .str t, .str s => if s = t then grouped [v] else return v
  | _, _ => return v

/-! ## Lines -/

/-- The number of tabs an argument asks for; one, unless it consists of digits. -/
def level (param : Text) : Except Fault Nat :=
  -- some of the digits may spell no number, and then this fails
  let digits := Text.stripQuotes (Text.stripParens (Text.strip param))
  if digits ≠ [] ∧ digits.all Text.isDigit then (Number.readInt digits).map Int.toNat
  else .ok 1

/-- Every line of the text of a value behind tabs. -/
def indented (param : Text) (v : Value) : Outcome Value := do
  let tabs := List.replicate (← level param) '\t'
  let t ← v.text
  return .str (Text.join ['\n'] ((Text.lines t).map (tabs ++ ·)))

end Clipbook.Filter
