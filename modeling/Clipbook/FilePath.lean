import Clipbook.Fault
import Clipbook.Table

/-!
# Clipbook — file paths

A path is a list of names, absolute or relative.  A location is an absolute path without dots: the
names of the folders from the root on, and the last name.
-/

namespace Clipbook

/-- Names from the root on. -/
abbrev Location := List Text

structure FilePath where
  /-- Empty in a relative path, else one slash or two. -/
  root : Text
  parts : List Text
  deriving DecidableEq, Repr

namespace FilePath

def parent : Text := ['.', '.']

/-! ## Reading and writing -/

/-- Empty names and single dots say nothing. -/
def isName (part : Text) : Bool :=
  part ≠ [] && part ≠ ['.']

def rootOf (t : Text) : Text :=
  match (t.takeWhile (· = '/')).length with
  | 0 => []
  -- two slashes are a root of their own, three are one slash
  | 2 => ['/', '/']
  | _ => ['/']

def read (t : Text) : FilePath :=
  ⟨rootOf t, (Text.splitOn '/' t).filter isName⟩

def text (p : FilePath) : Text :=
  if p.root = [] ∧ p.parts = [] then ['.'] else p.root ++ Text.join ['/'] p.parts

/-! ## Joining -/

/-- A path taken from a folder; an absolute one stays as it is. -/
def append (folder p : FilePath) : FilePath :=
  if p.root = [] then ⟨folder.root, folder.parts ++ p.parts⟩ else p

/-- A path with the home of a user in the place of a tilde and the name of the user. -/
def expandHome (homes : Table Text) (p : FilePath) : Except Fault FilePath :=
  match p.root, p.parts with
  | [], ('~' :: user) :: parts =>
    match homes.get? user with
    | some home => let h := read home; .ok ⟨h.root, h.parts ++ parts⟩
    | none => .error .unknownHome
  | _, _ => .ok p

/-! ## Locations -/

/-- The place a name leads to; two dots lead up, at the root they lead nowhere. -/
def step (l : Location) (part : Text) : Location :=
  if part = parent then l.dropLast else l ++ [part]

/-- The location of a path seen from a folder. -/
def locate (folder : Location) (p : FilePath) : Location :=
  -- a path from the root does not depend on the folder
  p.parts.foldl step (if p.root = [] then folder else [])

end FilePath

namespace Location

def text (l : Location) : Text :=
  '/' :: Text.join ['/'] l

/-- The last name; the root has none. -/
def name (l : Location) : Text :=
  l.getLast?.getD []

/-- Whether a location is a folder or something inside of it. -/
def within (folder l : Location) : Bool :=
  folder.isPrefixOf l

end Location

end Clipbook
