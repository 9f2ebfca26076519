import Clipbook.Number.Integer
import Clipbook.Value

/-!
# Clipbook — paths into values

A path is a row of keys separated by points and brackets.  A key of digits indexes a list;
otherwise a key names a member of a table, and where there is nothing to index or name the path
leads to null.
-/

namespace Clipbook

namespace Path

def isSeparator (c : Char) : Bool :=
  c = '.' || c = '[' || c = ']'

/-- The keys of a path, after the characters of the current one, last first. -/
def keysFrom (key : Text) : Text → List Text
  | [] => if key = [] then [] else [key.reverse]
  | c :: t =>
    if isSeparator c then
      if key = [] then keysFrom [] t else key.reverse :: keysFrom [] t
    else keysFrom (c :: key) t

def keys (path : Text) : List Text :=
  keysFrom [] path

/-- Whether a key consists of digits, of which some may spell no number. -/
def isIndex (key : Text) : Bool :=
  key ≠ [] && key.all Text.isDigit

end Path

namespace Value

/-- What one key leads to. -/
def step (v : Value) (key : Text) : Except Fault Value :=
  match v with
  | arr items =>
    if Path.isIndex key then
      -- an index past the end leads to nothing, and is no fault
      (Number.readInt key).map fun i => (items[i.toNat]?).getD null
    else .ok null
  | obj members => .ok ((Table.get? key members).getD null)
  | _ => .ok null

/-- What a row of keys leads to. -/
def follow (v : Value) : List Text → Except Fault Value
  | [] => .ok v
  | key :: keys =>
    match v.step key with
    | .error e => .error e
    -- what is missing has no parts, so the other keys are not looked at
    | .ok null => .ok null
    | .ok w => w.follow keys

/-- What a path leads to. -/
def at_ (v : Value) (path : Text) : Except Fault Value :=
  v.follow (Path.keys path)

end Value

end Clipbook
