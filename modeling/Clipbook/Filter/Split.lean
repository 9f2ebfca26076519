import Clipbook.Filter.Replace
import Clipbook.Value.Reader

/-!
# Clipbook — splitting text

A single character splits where it stands, a longer separator is a pattern, and the empty one
splits between all characters.
-/

namespace Clipbook.Filter

/-- A piece, or what a group of the separator took; a group may have taken nothing. -/
def pieceValue : Option Text → Value
  | some t => .str t
  | none => .null

/-- The pieces of a text, unless the separator is an invalid pattern. -/
def pieces? (separator t : Text) : Outcome (Option (List Value)) :=
  match separator with
  | [] => .ok (some (t.map fun c => .str [c]))
  -- one character stands for itself, more of them are a pattern
  | [c] => .ok (some ((Text.splitOn c t).map .str))
  | _ => do
    match ← Pattern.orWarn (.invalidSplitPattern separator) (Pattern.read {} separator) with
    | some p => return some ((p.split t).map pieceValue)
    | none => return none

def separatorOf (param : Text) : Text :=
  Text.stripQuotes (Text.stripParens param)

/-- The pieces of the text of a value, as a list in JSON. -/
def splitText (param : Text) (v : Value) : Outcome Value := do
  let t ← v.text
  if param = [] then return .str (Value.arr [.str t]).json
  else
    match ← pieces? (separatorOf param) t with
    | some ps => return .str (Value.arr ps).json
    -- a warning was given, and the value stays as it is
    | none => return v

/-- The pieces of an item; an item that cannot be split is one piece. -/
def itemPieces (separator : Text) (item : Value) : Outcome (List Value) := do
  let t ← item.text
  return (← pieces? separator t).getD [.str t]

/-- The pieces of all items of a value, in one list. -/
def splitEach (param : Text) (v : Value) : Outcome Value := do
  let items ← v.items
  if param = [] then return .arr items
  else return .arr (← Outcome.mapList (itemPieces (separatorOf param)) items).flatten

end Clipbook.Filter
