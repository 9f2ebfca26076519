import Clipbook.Fault
import Clipbook.Value

/-!
# Clipbook — text of values

Three ways to write a value: as compact JSON text, as the text it contributes to a template, and
as a literal in a message.
-/

namespace Clipbook.Value

/-! ## JSON text -/

/-- Quotes, backslashes and control characters are escaped, all else is written as it is. -/
def escape (c : Char) : Text :=
  if c = '"' then "\\\"".toList
  else if c = '\\' then "\\\\".toList
  else if c = '\n' then "\\n".toList
  else if c = '\r' then "\\r".toList
  else if c = '\t' then "\\t".toList
  else if c.toNat = 0x8 then "\\b".toList
  else if c.toNat = 0xc then "\\f".toList
  else if c.toNat < 0x20 then "\\u".toList ++ Text.hex 4 c.toNat
  else [c]

def jsonText (t : Text) : Text :=
  '"' :: t.flatMap escape ++ ['"']

def jsonFloat : Binary → Text
  | .nan => "NaN".toList
  | .infinite negative => if negative then "-Infinity".toList else "Infinity".toList
  | x => x.text

mutual

/-- The JSON text of a value before what comes after it. -/
def writeJson : Value → (rest : Text) → Text
  | null, rest => "null".toList ++ rest
  | bool b, rest => (if b then "true".toList else "false".toList) ++ rest
  | int n, rest => Text.ofInt n ++ rest
  | float x, rest => jsonFloat x ++ rest
  | str t, rest => jsonText t ++ rest
  | arr items, rest => '[' :: writeItems items (']' :: rest)
  | obj members, rest => '\x7b' :: writeMembers members ('\x7d' :: rest)

def writeItems : List Value → Text → Text
  | [], rest => rest
  | [v], rest => v.writeJson rest
  | v :: w :: vs, rest => v.writeJson (',' :: writeItems (w :: vs) rest)

def writeMembers : List (Text × Value) → Text → Text
  | [], rest => rest
  | [(k, v)], rest => jsonText k ++ ':' :: v.writeJson rest
  | (k, v) :: m :: ms, rest =>
    jsonText k ++ ':' :: v.writeJson (',' :: writeMembers (m :: ms) rest)

end

/-- Compact JSON text. -/
def json (v : Value) : Text :=
  v.writeJson []

/-- JSON text of a value that is not nested too deeply. -/
def json? (v : Value) : Except Fault Text :=
  if v.tooDeep then .error .tooDeep else .ok v.json

/-! ## Text in a template -/

/-- A number that is an integer is written as one; lists and tables are written as JSON. -/
def shown : Value → Text
  | null => []
  | str t => t
  | bool b => if b then "true".toList else "false".toList
  | int n => Text.ofInt n
  | float x => match x.toInt? with | some n => Text.ofInt n | none => x.text
  | v => v.json

/-- The shown text of a value that is not nested too deeply. -/
def text (v : Value) : Except Fault Text :=
  if v.tooDeep then .error .tooDeep else .ok v.shown

/-! ## Literals -/

mutual

def literal : Value → Text
  | null => "None".toList
  | bool b => if b then "True".toList else "False".toList
  | int n => Text.ofInt n
  | float x => x.text
  | str t => Text.quoted t
  | arr items => '[' :: literalItems items ++ [']']
  | obj members => '\x7b' :: literalMembers members ++ ['\x7d']

def literalItems : List Value → Text
  | [] => []
  | [v] => v.literal
  | v :: w :: vs => v.literal ++ ',' :: ' ' :: literalItems (w :: vs)

def literalMembers : List (Text × Value) → Text
  | [] => []
  | [(k, v)] => Text.quoted k ++ ':' :: ' ' :: v.literal
  | (k, v) :: m :: ms =>
    Text.quoted k ++ ':' :: ' ' :: v.literal ++ ',' :: ' ' :: literalMembers (m :: ms)

end

/-- The text of a value where messages and names are made of it: a text as it is, else the
literal. -/
def plain : Value → Text
  | str t => t
  | v => v.literal

end Clipbook.Value
