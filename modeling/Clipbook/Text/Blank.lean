import Clipbook.Text.Basic

/-!
# Clipbook — blanks

Spaces, line ends and the separators of every script.  Trimming drops them, and the class `\s` of
a pattern matches them.
-/

namespace Clipbook.Text

def blankRanges : Ranges :=
  [(0x9, 0xd), (0x1c, 0x20), (0x85, 0x85), (0xa0, 0xa0), (0x1680, 0x1680), (0x2000, 0x200a),
   (0x2028, 0x2029), (0x202f, 0x202f), (0x205f, 0x205f), (0x3000, 0x3000)]

def isBlank (c : Char) : Bool :=
  blankRanges.contains c

/-- `t` without the blanks at its ends. -/
def strip (t : Text) : Text :=
  trim isBlank t

def stripEnd (t : Text) : Text :=
  trimEnd isBlank t

def stripStart (t : Text) : Text :=
  trimStart isBlank t

/-- A text of blanks only, the empty one among them. -/
def blank (t : Text) : Bool :=
  t.all isBlank

end Clipbook.Text
