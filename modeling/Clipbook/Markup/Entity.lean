import Clipbook.Fault
import Clipbook.Markup.Entity.Table
import Clipbook.Number.Integer
import Clipbook.Text.Word

/-!
# Clipbook — character references

Names and numbers that stand for characters in markup: reading them in attribute values and in
whole texts, and choosing names for the characters of a text.
-/

namespace Clipbook.Markup

structure Entity where
  name : Text
  text : Text
  /-- Read without its semicolon too. -/
  loose : Bool
  /-- The name to write. -/
  preferred : Bool

def hexNumber (digits : Text) : Nat :=
  digits.foldl (fun n c =>
    n * 16 + (if c.isDigit then c.toNat - '0'.toNat else c.toLower.toNat - 'a'.toNat + 10)) 0

/-- The entity an entry of the table spells. -/
def Entity.ofEntry? (entry : Text) : Option Entity :=
  (Text.cut? ':' entry).map fun r =>
    let codes := r.2.filter fun c => c ≠ '?' && c ≠ '!'
    { name := r.1
      text := (Text.splitOn '+' codes).map fun code => Char.ofNat (hexNumber code)
      loose := '?' ∈ r.2
      preferred := '!' ∈ r.2 }

def entities : List Entity :=
  ((Text.lines entityTable.toList).flatMap (Text.splitOn ' ')).filterMap Entity.ofEntry?

/-- The text a name stands for. -/
def namedText? (name : Text) : Option Text :=
  (entities.find? (·.name = name)).map (·.text)

/-- The text a name stands for without a semicolon. -/
def looseText? (name : Text) : Option Text :=
  (entities.find? fun e => e.loose && e.name = name).map (·.text)

/-! ## Numeric references -/

/-- What the codes 128 to 159 stand for in the character set they were once written in. -/
def windowsCodes : List (Nat × Nat) :=
  [(0x80, 0x20ac), (0x82, 0x201a), (0x83, 0x192), (0x84, 0x201e), (0x85, 0x2026), (0x86, 0x2020),
   (0x87, 0x2021), (0x88, 0x2c6), (0x89, 0x2030), (0x8a, 0x160), (0x8b, 0x2039), (0x8c, 0x152),
   (0x8e, 0x17d), (0x91, 0x2018), (0x92, 0x2019), (0x93, 0x201c), (0x94, 0x201d), (0x95, 0x2022),
   (0x96, 0x2013), (0x97, 0x2014), (0x98, 0x2dc), (0x99, 0x2122), (0x9a, 0x161), (0x9b, 0x203a),
   (0x9c, 0x153), (0x9e, 0x17e), (0x9f, 0x178)]

def isSurrogate (n : Nat) : Bool := 0xd800 ≤ n && n ≤ 0xdfff

/-- The character of a code, if there is one. -/
def charOfCode (n : Nat) : Char :=
  if isSurrogate n ∨ 0x10ffff < n then '\ufffd' else Char.ofNat n

/-- Codes that are no characters: controls, and the two last ones of each plane. -/
def isNonCharacter (n : Nat) : Bool :=
  (1 ≤ n && n ≤ 8) || (0xe ≤ n && n ≤ 0x1f) || (0x7f ≤ n && n ≤ 0x9f) || n = 0xb ||
    (0xfdd0 ≤ n && n ≤ 0xfdef) || n % 0x10000 = 0xfffe || n % 0x10000 = 0xffff

/-- What a numeric reference in a whole text stands for. -/
def textOfCode (n : Nat) : Text :=
  match windowsCodes.lookup n with
  | some m => [Char.ofNat m]
  | none =>
    if n = 0 then ['\ufffd']
    else if n = 0xd then ['\r']
    else if 0x80 ≤ n ∧ n ≤ 0x9f then [Char.ofNat n]
    else if isSurrogate n ∨ 0x10ffff < n then ['\ufffd']
    else if isNonCharacter n then []
    else [Char.ofNat n]

def isHexDigit (c : Char) : Bool :=
  c.isDigit || ('a' ≤ c && c ≤ 'f') || ('A' ≤ c && c ≤ 'F')

/-- A decimal code; more digits than a number may have are a fault. -/
def decimalCode (digits : Text) : Except Fault Nat :=
  if Number.maxDigits < digits.length then .error (.longNumeral digits.length)
  else .ok (Number.ofDigits (digits.map fun c => c.toNat - '0'.toNat))

/-! ## References in whole texts -/

def isNameChar (c : Char) : Bool :=
  !(c ∈ ['\t', '\n', '\x0c', ' ', '<', '&', '#', ';'])

/-- The longest beginning of a name that stands for a text without a semicolon, of the given
length at most and of at least two characters. -/
def loosePart (name : Text) : (length : Nat) → Option (Text × Text)
  | 0 => none
  | 1 => none
  | n + 2 =>
    match looseText? (name.take (n + 2)) with
    | some t => some (t, name.drop (n + 2))
    | none => loosePart name (n + 1)

/-- What a name with or without its semicolon stands for; an unknown one stands for itself. -/
def nameText (name : Text) (closed : Bool) : Text :=
  let whole := if closed then namedText? name else looseText? name
  let semicolon := if closed then [';'] else []
  match whole with
  | some t => t
  | none =>
    match loosePart name (if closed then name.length else name.length - 1) with
    | some (t, rest) => t ++ rest ++ semicolon
    | none => '&' :: name ++ semicolon

/-- What the text after an ampersand stands for, with the number of characters taken. -/
def reference? (t : Text) : Except Fault (Option (Text × Nat)) :=
  let closing (rest : Text) : Nat := if rest.head? = some ';' then 1 else 0
  match t with
  | '#' :: 'x' :: rest | '#' :: 'X' :: rest =>
    let digits := rest.takeWhile isHexDigit
    if digits = [] then .ok none
    else .ok (some (textOfCode (hexNumber digits),
      digits.length + 2 + closing (rest.drop digits.length)))
  | '#' :: rest =>
    let digits := rest.takeWhile Char.isDigit
    if digits = [] then .ok none
    else (decimalCode digits).map fun n =>
      some (textOfCode n, digits.length + 1 + closing (rest.drop digits.length))
  | _ =>
    let name := (t.take 32).takeWhile isNameChar
    if name = [] then .ok none
    else
      let closed := closing (t.drop name.length)
      .ok (some (nameText name (closed = 1), name.length + closed))

/-- Copies a text with its references replaced; the first `skip` characters are already read. -/
def unescapeFrom (skip : Nat) : Text → Except Fault Text
  | [] => .ok []
  | c :: t =>
    match skip with
    | n + 1 => unescapeFrom n t
    | 0 =>
      if c = '&' then
        match reference? t with
        | .error e => .error e
        | .ok none => (unescapeFrom 0 t).map ('&' :: ·)
        | .ok (some (image, length)) => (unescapeFrom length t).map (image ++ ·)
      else (unescapeFrom 0 t).map (c :: ·)

/-- A text with all character references replaced by what they stand for. -/
def unescape (t : Text) : Except Fault Text :=
  unescapeFrom 0 t

/-! ## Names for characters -/

/-- The name to write for a sequence of characters: a preferred one, else the last. -/
def nameOf? (t : Text) : Option Text :=
  match entities.find? fun e => e.preferred && e.text = t with
  | some e => some e.name
  | none => (entities.reverse.find? (·.text = t)).map (·.name)

/-- Whether a sequence is written by name: not if it is ASCII, save for the angle brackets. -/
def isNamed (t : Text) : Bool :=
  t = ['<'] || t = ['>'] || t.any (0x80 ≤ ·.toNat)

/-- The body of a reference after an ampersand, if a complete one comes next. -/
def ambiguous? (t : Text) : Bool :=
  let closedAfter (body : Text) (rest : Text) : Bool := body ≠ [] && rest.head? = some ';'
  let numeric :=
    match t with
    | '#' :: rest =>
      closedAfter (rest.takeWhile Text.isDecimal) (rest.dropWhile Text.isDecimal) ||
        match rest with
        | x :: hex => (x = 'x' || x = 'X') &&
            closedAfter (hex.takeWhile isHexDigit) (hex.dropWhile isHexDigit)
        | [] => false
    | _ => false
  numeric || closedAfter (t.takeWhile Text.isWord) (t.dropWhile Text.isWord)

/-- Ampersands that would start a reference, escaped. -/
def escapeAmbiguous : Text → Text
  | [] => []
  | c :: t =>
    if c = '&' ∧ ambiguous? t then "&amp;".toList ++ escapeAmbiguous t
    else c :: escapeAmbiguous t

def written (name : Text) : Text :=
  '&' :: name ++ [';']

/-- Characters with a name written by it; of two characters that have one name together, the
second is skipped. -/
def writeNamesFrom (skip : Bool) : Text → Text
  | [] => []
  | c :: t =>
    if skip then writeNamesFrom false t
    else
      let pair :=
        match t with
        | d :: _ => if isNamed [c, d] then nameOf? [c, d] else none
        | [] => none
      match pair with
      | some name => written name ++ writeNamesFrom true t
      | none =>
        match if isNamed [c] then nameOf? [c] else none with
        | some name => written name ++ writeNamesFrom false t
        | none => c :: writeNamesFrom false t

/-- A text with every character that has a name written by it. -/
def writeNames (t : Text) : Text :=
  writeNamesFrom false (escapeAmbiguous t)

/-- A text with its ampersands and angle brackets escaped. -/
def escapeMarkup (t : Text) : Text :=
  t.flatMap fun c =>
    if c = '&' then "&amp;".toList
    else if c = '<' then "&lt;".toList
    else if c = '>' then "&gt;".toList
    else [c]

end Clipbook.Markup
