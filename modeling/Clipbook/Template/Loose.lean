import Clipbook.Table
import Clipbook.Text.Blank
import Clipbook.Text.Word

/-!
# Clipbook — loose objects

Items sometimes arrive as `key: value, key: "value"`.  A key is a word, a value goes on to a comma
or a closing brace, or is a text in quotes.
-/

namespace Clipbook.Loose

/-- The rest of a text in quotes up to its end; an escape may not break the line. -/
def quotedRest : Text → Option Text
  | [] => none
  | '"' :: _ => some ['"']
  | '\\' :: c :: t => if c = '\n' then none else (quotedRest t).map ('\\' :: c :: ·)
  | ['\\'] => none
  | c :: t => (quotedRest t).map (c :: ·)

def isBareChar (c : Char) : Bool :=
  c ≠ ',' && c ≠ '\x7d'

/-- A value after the colon and blanks: in quotes, or bare. -/
def valueHere? (t : Text) : Option Text :=
  let bare := t.takeWhile isBareChar
  let bare? := if bare = [] then none else some bare
  match t with
  | '"' :: rest =>
    match quotedRest rest with
    | some r => some ('"' :: r)
    | none => bare?
  | _ => bare?

/-- A value after the colon, with the number of characters up to its end; where nothing but
blanks comes, the last of them is the value. -/
def value? (t : Text) : Option (Text × Nat) :=
  let blanks := t.takeWhile Text.isBlank
  match valueHere? (t.dropWhile Text.isBlank) with
  | some v => some (v, blanks.length + v.length)
  | none => blanks.getLast?.map fun b => ([b], blanks.length)

/-- A value without its quotes, or missing where it is the word for that. -/
def tidy (raw : Text) : Option Text :=
  let v := Text.stripEnd raw
  let v :=
    match v with
    | '"' :: body => (Text.before? ['"'] body).getD v
    | _ => v
  if v = "undefined".toList then none else some v

/-- A field at the start of a text, with its length. -/
def field? (t : Text) : Option (Text × Option Text × Nat) :=
  match t.takeWhile Text.isWord, t.dropWhile Text.isWord with
  | [], _ => none
  | key, ':' :: rest => (value? rest).map fun r => (key, tidy r.1, key.length + 1 + r.2)
  | _, _ => none

/-- The fields of a text; the first `skip` characters belong to what is already read. -/
def fieldsFrom (skip : Nat) : Text → List (Text × Option Text)
  | [] => []
  | c :: t =>
    match skip with
    | n + 1 => fieldsFrom n t
    | 0 =>
      match field? (c :: t) with
      | some (key, value, length) => (key, value) :: fieldsFrom (length - 1) t
      | none => fieldsFrom 0 t

/-- The fields of a loose object; the last one of a name counts. -/
def read (t : Text) : Table (Option Text) :=
  Table.ofList (fieldsFrom 0 t)

end Clipbook.Loose
