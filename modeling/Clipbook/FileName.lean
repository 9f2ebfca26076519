import Clipbook.Text.Blank

/-!
# Clipbook — names of notes

A title becomes a name that no file system rejects and that can be linked to: without the
characters that end a link or cut a path, without points at its ends, and other than the names of
devices.
-/

namespace Clipbook.FileName

/-- Characters that no name may hold. -/
def isUnsafe (c : Char) : Bool :=
  c ∈ ['#', '|', '^', '[', ']', '<', '>', ':', '"', '/', '\\', '?', '*'] || c.toNat < 0x20

def maxLength : Nat := 245

def untitled : Text := "Untitled".toList

/-- The names of devices, in lower case. -/
def isDevice (t : Text) : Bool :=
  match t with
  | ['c', 'o', 'm', n] | ['l', 'p', 't', n] => n.isDigit
  | _ => t ∈ ["con".toList, "prn".toList, "aux".toList, "nul".toList]

/-- Whether a name is that of a device, with anything after a point. -/
def isReserved (t : Text) : Bool :=
  isDevice ((t.takeWhile (· ≠ '.')).map Char.toLower)

def isTail (c : Char) : Bool :=
  c ∈ ['.', ' ', '\t', '\n']

def sanitize (title : Text) : Text :=
  let t := title.filter fun c => !isUnsafe c
  let t := if isReserved t then '_' :: t else t
  let t := Text.strip (Text.trimStart (· = '.') (Text.trimEnd isTail t))
  match t.take maxLength with
  | [] => untitled
  | t => t

end Clipbook.FileName
