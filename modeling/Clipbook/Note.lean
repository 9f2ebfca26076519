import Clipbook.FileName
import Clipbook.Note.Filling
import Clipbook.Note.Template
import Clipbook.Yaml

/-!
# Clipbook — notes

A note is a template filled in: a name, a folder, typed properties and a content.  Its text has the
properties in front of the content.
-/

namespace Clipbook

structure Note where
  name : Text
  path : Text
  properties : Book Value
  content : Text

/-! ## Typed properties -/

namespace PropertyType

/-- The parts of a list with commas. -/
def parts (t : Text) : List Value :=
  (((Text.splitOn ',' t).map Text.strip).filter fun part => part ≠ []).map .str

/-- A list, as JSON text or with commas. -/
def listOf (t : Text) : Except Fault Value :=
  if t.head? = some '[' then
    match Value.ofJson t with
    | .ok (.arr items) => .ok (.arr items)
    -- a text in brackets that is no JSON may still be a list with commas
    | .ok _ | .error (.json ..) => .ok (.arr (parts t))
    -- a limit of the reader is not taken for a list with commas
    | .error f => .error f
  else .ok (.arr (parts t))

/-- A number, or the text where it is none. -/
def numberOf (t : Text) : Value :=
  match Number.readInt t with
  | .ok n => .int n
  | .error _ => ((Number.readBinary? t).map .float).getD (.str t)

def checked (t : Text) : Bool :=
  Text.lower (Text.strip t) ∈ ["true".toList, "1".toList, "yes".toList]

/-- The value of a text for a property. -/
def read (t : Text) : PropertyType → Except Fault Value
  | multitext => listOf t
  | number => .ok (numberOf t)
  | checkbox => .ok (.bool (checked t))
  | text | date => .ok (.str t)

end PropertyType

namespace Note

/-! ## Filling in templates -/

/-- Only texts have slots. -/
def fillValue (words : Variables) : Value → Outcome Text
  | .str t => fill words t
  | v => .fail (.noMember v.kind "find".toList)

def propertyOf (words : Variables) (p : Property) : Outcome (Value × Value) := do
  let t ← fillValue words p.value
  let v ← p.type.read (Text.strip t)
  -- the name is asked for last: a fault of the value comes first
  return (← p.name.key, v)

/-- The note a template makes of variables. -/
def ofTemplate (t : NoteTemplate) (words : Variables) : Outcome Note := do
  let name ← fillValue words t.nameFormat
  let path ← fillValue words t.path
  let properties ← Outcome.mapList (propertyOf words) t.properties
  let content ← fillValue words t.contentFormat
  return { name := FileName.sanitize name
           path := Text.strip path
           properties := Book.ofList properties
           content := Text.strip content }

/-! ## Files -/

def fileName (n : Note) : Text :=
  n.name ++ ".md".toList

/-- The path of the file, in the folder of the note. -/
def filePath (n : Note) : FilePath :=
  (FilePath.read n.path).append (FilePath.read n.fileName)

/-- The text of the file. -/
def text (n : Note) : Text :=
  if n.properties.isEmpty then n.content
  else
    -- the blanks at the end of a note without content go with the others
    Text.strip ("---\n".toList ++ Text.strip (Yaml.block n.properties) ++ "\n---\n\n".toList
      ++ n.content)

end Note

end Clipbook
