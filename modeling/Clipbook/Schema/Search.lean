import Clipbook.Cache
import Clipbook.Outcome
import Clipbook.Value.Frozen

/-!
# Clipbook — properties of schema data

The schema data of a page is a graph of objects and lists.  A dotted property is looked up in it
from the root, and where its next key is missing, in the objects and lists inside.  A list is
searched element by element.
-/

namespace Clipbook.Schema

def joinKey (path key : Text) : Text :=
  if path = [] then key else path ++ '.' :: key

def authorName : Text := "author.name".toList

/-- The keys and the path with which the elements of a list are searched; each author of a list
is asked for a name alone. -/
def elementSearch (keys : List Text) (path : Text) : List Text × Text :=
  if path = authorName then (["name".toList], "name".toList) else (keys, path)

/-- The text a member of an object holds under `name`, if it is one. -/
def nameOf (members : List (Text × Value)) : Text :=
  match Table.get? "name".toList members with
  | some (.str t) => t
  | _ => []

mutual

/-- What the keys lead to in a value that was reached by `path`. -/
def search : Value → (keys : List Text) → (path : Text) → Text
  | .str t, _, _ => t
  | .arr items, keys, path =>
    let (keys, path) := elementSearch keys path
    Text.join [',', ' '] ((searchItems items keys path).filter (· ≠ []))
  | .obj members, [], _ => nameOf members
  | .obj members, key :: keys, path =>
    match searchKey members key keys (joinKey path key) with
    -- a member that gives nothing hides what is deeper
    | some t => t
    | none => searchInside members (key :: keys) path
  | _, _, _ => []

/-- What each element gives. -/
def searchItems : List Value → List Text → Text → List Text
  | [], _, _ => []
  | v :: vs, keys, path => search v keys path :: searchItems vs keys path

/-- What the member of the given key gives, if there is one. -/
def searchKey : List (Text × Value) → Text → List Text → Text → Option Text
  | [], _, _, _ => none
  | (k, v) :: ms, key, keys, path =>
    if k = key then some (search v keys path) else searchKey ms key keys path

/-- What the first object or list inside gives that gives something. -/
def searchInside : List (Text × Value) → List Text → Text → Text
  | [], _, _ => []
  | (k, v) :: ms, keys, path =>
    match v.kind with
    | .arr | .obj =>
      -- keys that were not found here may be found below
      match search v keys (joinKey path k) with
      | [] => searchInside ms keys path
      | t => t
    | _ => searchInside ms keys path

end

/-- What a dotted property leads to. -/
def property (v : Value) (prop : Text) : Text :=
  search v (Text.splitOn '.' prop) []

/-- A text, or another one in the place of the empty one. -/
def orElse (default t : Text) : Text :=
  if t = [] then default else t

/-- What a dotted property leads to, or a default where that is nothing. -/
def lookup (v : Value) (prop default : Text) : Outcome Text :=
  if v.isNothing then .ok default
  else if v.tooDeep then do
    Outcome.warn (.deepSchema prop)
    return default
  else .ok (orElse default (property v prop))

/-! ## Remembered properties -/

/-- Some data, frozen, with a property looked up in it. -/
structure Query where
  data : Frozen
  property : Text

instance : BEq Query where
  beq p q := p.data == q.data && p.property = q.property

abbrev Memo := Cache Query Text

def Memo.defaultCapacity : Nat := 256

/-- A look-up by way of the cache; what is found is remembered, and so is that nothing was. -/
def Memo.lookup (m : Memo) (v : Value) (prop default : Text) : Outcome Text × Memo :=
  if v.isNothing then (.ok default, m)
  else if v.tooDeep then (Schema.lookup v prop default, m)
  else
    match m.get ⟨v.freeze, prop⟩ with
    | (some t, m) => (.ok (orElse default t), m)
    | (none, m) =>
      -- the default is not remembered, since the next call may have another one
      let t := Schema.property v prop
      (.ok (orElse default t), m.put ⟨v.freeze, prop⟩ t)

end Clipbook.Schema
