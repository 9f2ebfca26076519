import Clipbook.FilePath
import Clipbook.Number.Integer
import Clipbook.Value.Key
import Clipbook.Value.Parts
import Clipbook.Value.Printer
import Clipbook.Value.Reader

/-!
# Clipbook — templates for notes

A template says how the name, the folder, the properties and the content of a note are made.  Its
texts have slots.  Templates are read from JSON text, which does not have to hold texts for them.
-/

namespace Clipbook

/-! ## Properties -/

inductive PropertyType where
  | text
  | multitext
  | number
  | checkbox
  | date
  deriving DecidableEq, Repr

namespace PropertyType

def all : List PropertyType :=
  [text, multitext, number, checkbox, date]

def name : PropertyType → Text
  | text => "text".toList
  | multitext => "multitext".toList
  | number => "number".toList
  | checkbox => "checkbox".toList
  | date => "date".toList

def ofValue? : Value → Option PropertyType
  | .str t => all.find? fun type => type.name = t
  | _ => none

end PropertyType

structure Property where
  name : Value
  value : Value
  type : PropertyType := .text

/-- A property as an object tells it; the type comes before the name. -/
def Property.ofValue (v : Value) : Except Fault Property := do
  let fields ← v.fields
  let type := ((fields.get? "type".toList).getD .null).orElse (.str "text".toList)
  match PropertyType.ofValue? type, fields.get? "name".toList with
  -- a wrong type is told before a missing name
  | none, name =>
    .error (.unknownPropertyType type.literal (name.getD .null).literal)
  | some _, none => .error (.missingKey "name".toList)
  | some type, some name =>
    -- only the value may be missing
    return { name, value := (fields.get? "value".toList).getD (.str []), type }

/-! ## Templates -/

structure NoteTemplate where
  name : Value := .str "Default".toList
  nameFormat : Value := .str (Text.braced "title".toList)
  path : Value := .str "Clippings".toList
  contentFormat : Value := .str (Text.braced "content".toList)
  properties : List Property := []

namespace NoteTemplate

/-- A placeholder. -/
def slot (name : String) : Value :=
  .str (Text.braced name.toList)

/-- The template for those who have none. -/
def standard : NoteTemplate :=
  { properties :=
      [⟨.str "title".toList, slot "title", .text⟩, ⟨.str "source".toList, slot "url", .text⟩,
       ⟨.str "author".toList, slot "author", .multitext⟩,
       ⟨.str "published".toList, slot "published", .date⟩,
       ⟨.str "created".toList, slot "date", .date⟩,
       ⟨.str "description".toList, slot "description", .text⟩,
       ⟨.str "tags".toList, .str "clippings".toList, .multitext⟩] }

/-- A template as an object tells it; the properties come before the name. -/
def ofValue (v : Value) : Except Fault NoteTemplate := do
  let fields ← v.fields
  let get (key : String) : Value := (fields.get? key.toList).getD .null
  -- a fault of a property comes before one of the name
  let properties ← (← (get "properties").elementsIfAny).mapM Property.ofValue
  match fields.get? "name".toList with
  | none => .error (.missingKey "name".toList)
  | some name =>
    return { name
             nameFormat := (get "noteNameFormat").orElse (slot "title")
             path := (fields.get? "path".toList).getD (.str "Clippings".toList)
             contentFormat := (get "noteContentFormat").orElse (slot "content")
             properties }

end NoteTemplate

/-! ## Files of templates -/

/-- Templates by their names. -/
abbrev Templates := Book NoteTemplate

namespace Templates

def standard : Templates :=
  [(NoteTemplate.standard.name, NoteTemplate.standard)]

/-- Line ends of all kinds as one kind. -/
def unifyLineEnds : Text → Text
  | '\r' :: '\n' :: t => '\n' :: unifyLineEnds t
  | c :: t => (if c = '\r' then '\n' else c) :: unifyLineEnds t
  | [] => []

/-- A fault of a template's shape, with its class. -/
def shapeFault? (f : Fault) : Option Text :=
  let told (kind : String) (message : Text) : Text :=
    kind.toList ++ '(' :: Text.quoted message ++ [')']
  match f with
  | .missingKey key => some (told "KeyError" key)
  | .noMember .. => some (told "AttributeError" f.message)
  | .notIterable .. => some (told "TypeError" f.message)
  | _ => none

/-- A template of the file at a path. -/
def templateOf (path : Text) (v : Value) : Except Fault NoteTemplate :=
  match NoteTemplate.ofValue v with
  | .ok t => .ok t
  | .error f =>
    match shapeFault? f with
    | some reason => .error (.invalidTemplate path reason)
    | none => .error f

/-- Adds the templates that values tell of. -/
def addAll (path : Text) (templates : Templates) : List Value → Except Fault Templates
  | [] => .ok templates
  | v :: vs => do
    let t ← templateOf path v
    -- of two templates with one name the later one stays, in the place of the earlier one
    addAll path (templates.put (← t.name.key) t) vs

/-- The values of a file: those of a list, or one object. -/
def valuesOf (path : Text) : Value → Except Fault (List Value)
  | .obj members => .ok [.obj members]
  | .arr items => .ok items
  | _ => .error (.invalidTemplatesFile path "expected a list of templates".toList)

/-- The templates in the text of the file at a path. -/
def read (path content : Text) : Except Fault Templates := do
  let v ←
    match Value.ofJson (unifyLineEnds content) with
    | .error (.json cause place) =>
      .error (.invalidTemplatesFile path (Fault.json cause place).message)
    | r => r
  addAll path [] (← valuesOf path v)

end Templates

end Clipbook
