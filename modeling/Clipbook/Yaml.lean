import Clipbook.Value.Key
import Clipbook.Yaml.Scalar

/-!
# Clipbook — values as YAML

Lists and objects are written as blocks, a line for each element, and empty ones in brackets.
Objects are ordered by their keys.
-/

namespace Clipbook.Yaml

/-! ## Order -/

mutual

/-- A value with the members of all objects in it ordered by their keys. -/
def ordered : Value → Value
  | .arr items => .arr (orderedItems items)
  | .obj members => .obj (Table.sorted (orderedMembers members))
  | v => v

def orderedItems : List Value → List Value
  | [] => []
  | v :: vs => ordered v :: orderedItems vs

def orderedMembers : List (Text × Value) → List (Text × Value)
  | [] => []
  | (k, v) :: ms => (k, ordered v) :: orderedMembers ms

end

/-! ## Keys -/

/-- The text of a key, by which its size is told. -/
def keyText : Value → Text
  | .str t => t
  | v => scalar false 0 0 v

/-- Whether a key fits before its colon. -/
def isSimpleKey (k : Value) : Bool :=
  !multiline (keyText k) && Text.byteSize (keyText k) ≤ 128

/-! ## Blocks -/

/-- A key with its colon, in lines indented by `n`. -/
def keyLine (n : Nat) (k : Value) : Text :=
  if isSimpleKey k then scalar false (n + 2) n k ++ [':']
  -- a key that does not fit takes a line of its own
  else '?' :: ' ' :: scalar true (n + 2) (n + 2) k ++ margin n ++ [':']

/-- The column behind a key with its colon. -/
def columnAfter (n : Nat) (k : Value) : Nat :=
  if isSimpleKey k then n + (keyLine n k).length else n + 1

mutual

/-- A value behind a mark that ends before a column; `opens` tells whether a block can go on in
the line of the mark. -/
def behind (n column : Nat) (opens : Bool) : Value → Text
  | .arr [] => " []".toList
  | .obj [] => [' ', '\x7b', '\x7d']
  -- items may stand below their key without being indented
  | .arr (v :: vs) => if opens then ' ' :: items (n + 2) (v :: vs) else margin n ++ items n (v :: vs)
  | .obj (m :: ms) =>
    (if opens then [' '] else margin (n + 2)) ++ members (n + 2) (m :: ms)
  | v => ' ' :: scalar true (n + 2) (column + 1) v

/-- Items in lines indented by `n`, from the first dash on. -/
def items (n : Nat) : List Value → Text
  | [] => []
  | [v] => '-' :: behind n (n + 1) true v
  | v :: w :: vs => '-' :: behind n (n + 1) true v ++ margin n ++ items n (w :: vs)

/-- Members in lines indented by `n`, from the first key on. -/
def members (n : Nat) : List (Text × Value) → Text
  | [] => []
  | [(k, v)] =>
    keyLine n (.str k) ++ behind n (columnAfter n (.str k)) (!isSimpleKey (.str k)) v
  | (k, v) :: m :: ms =>
    keyLine n (.str k) ++ behind n (columnAfter n (.str k)) (!isSimpleKey (.str k)) v ++ margin n
      ++ members n (m :: ms)

end

/-- A table of values by values, with a line for each of its keys. -/
def block (book : Book Value) : Text :=
  let entry (e : Value × Value) : Text :=
    keyLine 0 e.1 ++ behind 0 (columnAfter 0 e.1) (!isSimpleKey e.1) (ordered e.2)
  Text.join ['\n'] (book.ordered.map entry)

end Clipbook.Yaml
