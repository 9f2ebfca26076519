import Clipbook.FilePath

/-!
# Clipbook — files

Folders, and files with their texts, by their locations.
-/

namespace Clipbook

structure Files where
  folders : List Location := []
  files : List (Location × Text) := []

namespace Files

/-- No name is longer, in bytes. -/
def maxNameSize : Nat := 255

/-! ## Reading -/

def isFolder (fs : Files) (l : Location) : Bool :=
  l = [] || l ∈ fs.folders

def text? (fs : Files) (l : Location) : Option Text :=
  (fs.files.find? fun e => e.1 = l).map (·.2)

def isFile (fs : Files) (l : Location) : Bool :=
  (fs.text? l).isSome

/-- Where a path leads, name by name, if every name but the last leads to a folder. -/
def walk? (fs : Files) : Location → List Text → Option Location
  | l, [] => if fs.isFolder l || fs.isFile l then some l else none
  | l, part :: parts =>
    if fs.isFolder l then fs.walk? (FilePath.step l part) parts else none

/-- What a path leads to, seen from a folder. -/
def find? (fs : Files) (folder : Location) (p : FilePath) : Option Location :=
  fs.walk? (if p.root = [] then folder else []) p.parts

/-! ## Writing -/

def addFolder (fs : Files) (l : Location) : Files :=
  if fs.isFolder l then fs else { fs with folders := l :: fs.folders }

/-- Makes folders of names from a folder on; those made before a fault stay. -/
def makeFolders (fs : Files) : Location → List Text → Except PathFault Unit × Files
  | _, [] => (.ok (), fs)
  | above, name :: names =>
    let l := above ++ [name]
    if maxNameSize < Text.byteSize name then (.error .nameTooLong, fs)
    else if fs.isFile l then (.error (if names = [] then .isFile else .belowFile), fs)
    else (fs.addFolder l).makeFolders l names

/-- Writes the text of a file; what was there is lost. -/
def put (l : Location) (t : Text) : List (Location × Text) → List (Location × Text)
  | [] => [(l, t)]
  | (k, old) :: files => if k = l then (k, t) :: files else (k, old) :: put l t files

/-- Writes a file, with the folders it is in. -/
def write (fs : Files) (l : Location) (t : Text) : Except PathFault Unit × Files :=
  match fs.makeFolders [] l.dropLast with
  | (.error cause, fs) => (.error cause, fs)
  | (.ok (), fs) =>
    if maxNameSize < Text.byteSize l.name then (.error .nameTooLong, fs)
    else if fs.isFolder l then (.error .isFolder, fs)
    else (.ok (), { fs with files := put l t fs.files })

end Files

end Clipbook
