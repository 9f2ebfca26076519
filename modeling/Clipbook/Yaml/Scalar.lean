import Clipbook.Value.Printer
import Clipbook.Yaml.Meaning

/-!
# Clipbook — scalars in YAML

A text is written plain where nothing in it could be taken for something else, in single quotes
where it is printable, and with escapes in double quotes otherwise.  Long lines are broken at
single spaces.
-/

namespace Clipbook.Yaml

inductive Style where
  | plain
  | single
  | double
  deriving DecidableEq, Repr

/-! ## Characters -/

def isBreak (c : Char) : Bool :=
  c = '\n' || c = '\r' || c.toNat = 0x85 || c.toNat = 0x2028 || c.toNat = 0x2029

/-- What may follow a mark that has a meaning. -/
def isSeparator (c : Char) : Bool :=
  isGap c || isBreak c || c.toNat = 0

/-- Characters that are written as they are. -/
def isPrintable (c : Char) : Bool :=
  let n := c.toNat
  n = 0xa || (0x20 ≤ n && n ≤ 0x7e) || (0xa0 ≤ n && n ≤ 0xfffd && n ≠ 0xfeff)

/-! ## Marks -/

def endsMark (t : Text) : Bool :=
  t.head?.all isSeparator

/-- Characters that cannot start a plain text. -/
def isIndicator (c : Char) : Bool :=
  c ∈ ['#', ',', '[', ']', '\x7b', '\x7d', '&', '*', '!', '|', '>', '\'', '"', '%', '@', '\x60']

def marksStart : Text → Bool
  | [] => false
  | c :: t => isIndicator c || ((c = '?' || c = '-') && endsMark t)

/-- Whether a value or a remark would start in a text; `gap` tells whether a blank stands
before it. -/
def marksInside (gap : Bool) : Text → Bool
  | [] => false
  | c :: t =>
    (c = ':' && endsMark t) || (c = '#' && gap) || marksInside (isSeparator c) t

def startsDocument (t : Text) : Bool :=
  Text.startsWith "---".toList t || Text.startsWith "...".toList t

/-! ## Blanks -/

/-- Whether a space stands next to a line break. -/
def spaceAtBreak : Text → Bool
  | [] => false
  | [_] => false
  | c :: d :: t => (c = ' ' && isBreak d) || (isBreak c && d = ' ') || spaceAtBreak (d :: t)

def isEdge (c : Char) : Bool :=
  c = ' ' || isBreak c

def hasEdges (t : Text) : Bool :=
  t.head?.any isEdge || t.getLast?.any isEdge

def multiline (t : Text) : Bool :=
  t.any isBreak

/-! ## Styles -/

def allowsSingle (t : Text) : Bool :=
  t.all isPrintable && !spaceAtBreak t

def allowsPlain (t : Text) : Bool :=
  allowsSingle t && !multiline t && !hasEdges t && !startsDocument t && !marksStart t
    && !marksInside true t

/-- The style for a text. -/
def styleOf (t : Text) : Style :=
  if allowsPlain t && !hasMeaning t then .plain
  else if allowsSingle t then .single
  else .double

/-! ## Writing -/

/-- Lines are broken after this many characters. -/
def width : Nat := 80

def indentation (n : Nat) : Text :=
  List.replicate n ' '

/-- A new line with an indentation. -/
def margin (n : Nat) : Text :=
  '\n' :: indentation n

/-- What was read last. -/
inductive Last where
  | nothing
  | space
  | lineEnd
  | other
  deriving DecidableEq, Repr

/-- Whether a line may be broken at a space in a column. -/
def breaksAt (wraps : Bool) (last : Last) (column : Nat) (rest : Text) : Bool :=
  wraps && (last = .other || last = .lineEnd) && width < column && rest ≠ []

/-- A text from a column on, each character by its image.  A line end is written as an empty line,
and each one after it as one more. -/
def flow (image : Char → Text) (wraps : Bool) (indent : Nat) (last : Last) (column : Nat) :
    Text → Text
  | [] => if last = .lineEnd then indentation indent else []
  | c :: t =>
    if c = ' ' then
      -- one space is all that a break stands for, so two are not broken
      if breaksAt wraps last column t && t.head? ≠ some ' ' then
        margin indent ++ flow image wraps indent .space indent t
      else ' ' :: flow image wraps indent .space (column + 1) t
    else if isBreak c then
      -- the first line end would be read as a space
      (if last ≠ .lineEnd ∧ c = '\n' then ['\n'] else [])
        ++ c :: flow image wraps indent .lineEnd 0 t
    else
      let start := if last = .lineEnd then indentation indent else []
      start ++ image c ++ flow image wraps indent .other (column + start.length + (image c).length) t

def quoteTwice (c : Char) : Text :=
  if c = '\'' then ['\'', '\''] else [c]

/-- Letters for escaped characters. -/
def escapeLetter? (c : Char) : Option Char :=
  match c.toNat with
  | 0x0 => some '0'
  | 0x7 => some 'a'
  | 0x8 => some 'b'
  | 0x9 => some 't'
  | 0xa => some 'n'
  | 0xb => some 'v'
  | 0xc => some 'f'
  | 0xd => some 'r'
  | 0x1b => some 'e'
  | 0x22 => some '"'
  | 0x5c => some '\\'
  | 0x85 => some 'N'
  | 0x2028 => some 'L'
  | 0x2029 => some 'P'
  | _ => none

def escape (c : Char) : Text :=
  let hex (letter : Char) (width : Nat) : Text :=
    letter :: (Text.hex width c.toNat).map Char.toUpper
  '\\' ::
    match escapeLetter? c with
    | some letter => [letter]
    | none =>
      if c.toNat ≤ 0xff then hex 'x' 2 else if c.toNat ≤ 0xffff then hex 'u' 4 else hex 'U' 8

def needsEscape (c : Char) : Bool :=
  !isPrintable c || isBreak c || c = '"' || c = '\\'

/-- A text with escapes; where a line is broken before another space, that one is escaped. -/
def escaped (wraps : Bool) (indent : Nat) (last : Last) (column : Nat) : Text → Text
  | [] => []
  | c :: t =>
    if needsEscape c then
      escape c ++ escaped wraps indent .other (column + (escape c).length) t
    else if c = ' ' then
      if breaksAt wraps last column t then
        -- spaces at the start of a line are not read unless one is escaped
        let mark : Text := if t.head? = some ' ' then ['\\'] else []
        margin indent ++ mark ++ escaped wraps indent .space (indent + mark.length) t
      else ' ' :: escaped wraps indent .space (column + 1) t
    else c :: escaped wraps indent .other (column + 1) t

/-- A text from a column on; further lines are indented. -/
def textScalar (wraps : Bool) (indent column : Nat) (t : Text) : Text :=
  match styleOf t with
  | .plain => flow (fun c => [c]) wraps indent .nothing column t
  | .single => '\'' :: flow quoteTwice wraps indent .nothing (column + 1) t ++ ['\'']
  | .double => '"' :: escaped wraps indent .nothing (column + 1) t ++ ['"']

/-- Numbers in scientific notation have a point. -/
def pointed (t : Text) : Text :=
  if '.' ∈ t then t else t.flatMap fun c => if c = 'e' then ['.', '0', 'e'] else [c]

def floatScalar : Binary → Text
  | .nan => ".nan".toList
  | .infinite negative => if negative then "-.inf".toList else ".inf".toList
  | x => pointed x.text

/-- The scalar a value is written as; lists and objects are none. -/
def scalar (wraps : Bool) (indent column : Nat) : Value → Text
  | .str t => textScalar wraps indent column t
  | .null => "null".toList
  | .bool b => if b then "true".toList else "false".toList
  | .int n => Text.ofInt n
  | .float x => floatScalar x
  | _ => []

end Clipbook.Yaml
