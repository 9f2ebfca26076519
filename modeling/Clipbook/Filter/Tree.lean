import Clipbook.Markup.Fragment
import Clipbook.Outcome
import Clipbook.Text.Case
import Clipbook.Value.Reader

/-!
# Clipbook — markup as objects

An element is `{name: [children], "attributes": {…}}` and a text is `{"text": …}`.  Texts of blanks
only are left out.
-/

namespace Clipbook.Filter

open Markup

/-! ## To objects -/

def attributesKey : Text := "attributes".toList

def textKey : Text := "text".toList

def attributesValue (as : Table AttributeValue) : Value :=
  .obj (as.map fun a => (a.1, .str a.2.text))

mutual

def nodeValue? : Node → Option Value
  | .text kind t =>
    if kind.hasNotation || Text.blank t then none
    else some (.obj [(textKey, .str (Text.strip t))])
  | .element name as _ cs =>
    some (.obj (Table.ofList
      [(Text.lower name, .arr (nodeValues cs)), (attributesKey, attributesValue as)]))

def nodeValues : List Node → List Value
  | [] => []
  | n :: ns =>
    match nodeValue? n with
    | some v => v :: nodeValues ns
    | none => nodeValues ns

end

/-- The fragment a value holds, as JSON, by way of one of the readers. -/
def toTreeBy (closing : Closing) (v : Value) : Outcome Value := do
  let ns ← readFragmentBy closing (← v.text)
  return .str (← (Value.arr (nodeValues ns)).json?)

/-- The fragment a value holds, as JSON. -/
def toTree (v : Value) : Outcome Value :=
  toTreeBy .atOnce v

/-! ## To markup -/

def attributeTexts : List (Text × Value) → Except Fault (List Text)
  | [] => .ok []
  | (key, v) :: as => do
    let t ← v.text
    return (key ++ '=' :: '"' :: t ++ ['"']) :: (← attributeTexts as)

/-- The attributes an object lists, as they stand in a tag. -/
def attributesMarkup (members : Table Value) : Except Fault Text :=
  match (members.get? attributesKey).getD .null with
  | .obj as => (attributeTexts as).map (Text.join [' '])
  | v => if v.isNothing then .ok [] else .error (.noMember v.kind "items".toList)

mutual

/-- The markup of a tree that is nested at most `levels` deep. -/
def markup (levels : Nat) : Value → Except Fault Text
  | .arr items =>
    match levels with
    | 0 => .error .tooDeep
    | n + 1 => itemsMarkup n items
  | .obj members =>
    match levels with
    | 0 => .error .tooDeep
    | n + 1 => membersMarkup n (attributesMarkup members) members
  | v => v.text

def itemsMarkup (levels : Nat) : List Value → Except Fault Text
  | [] => .ok []
  | v :: vs => do
    let t ← markup levels v
    return t ++ (← itemsMarkup levels vs)

/-- Each member of an object is an element or a text; all its elements share its attributes. -/
def membersMarkup (levels : Nat) (attributes : Except Fault Text) :
    List (Text × Value) → Except Fault Text
  | [] => .ok []
  | (key, v) :: ms => do
    let t ←
      if key = textKey then v.text
      else if key = attributesKey then .ok []
      else do
        let as ← attributes
        let inner ← markup levels v
        .ok ('<' :: key ++ ' ' :: as ++ '>' :: inner ++ '<' :: '/' :: key ++ ['>'])
    return t ++ (← membersMarkup levels attributes ms)

end

/-- The markup of the tree a value holds; a text that holds none is left as it is. -/
def toMarkup (v : Value) : Outcome Value := do
  match ← v.parsed with
  | .str t => return .str t
  | w => return .str (← markup Value.maxNesting w)

end Clipbook.Filter
