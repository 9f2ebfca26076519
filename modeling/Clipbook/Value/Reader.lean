import Clipbook.Number.Integer
import Clipbook.Value.Printer

/-!
# Clipbook — reading JSON text

A reader takes the rest of a text and gives a value with what is left of it.  A fault carries how
much was left where it arose, from which its place follows.  Not-a-number and the infinities are
read too; a later member of the same name replaces the value of an earlier one.
-/

namespace Clipbook.Value.Reader

/-- Why a reader stopped, with the number of characters left where it did. -/
inductive Stop where
  | json (fault : JsonFault) (left : Nat)
  | fault (f : Fault)

abbrev Result (α : Type) := Except Stop (α × Text)

def isSpace (c : Char) : Bool :=
  c = ' ' || c = '\t' || c = '\n' || c = '\r'

def skip (t : Text) : Text :=
  t.dropWhile isSpace

/-! ## Texts -/

def hexValue? (c : Char) : Option Nat :=
  if c.isDigit then some (c.toNat - '0'.toNat)
  else if 'a' ≤ c ∧ c ≤ 'f' then some (c.toNat - 'a'.toNat + 10)
  else if 'A' ≤ c ∧ c ≤ 'F' then some (c.toNat - 'A'.toNat + 10)
  else none

/-- Four hexadecimal digits with at least one character after them. -/
def unit? : Text → Option (Nat × Text)
  | a :: b :: c :: d :: e :: t =>
    match hexValue? a, hexValue? b, hexValue? c, hexValue? d with
    | some a, some b, some c, some d => some (((a * 16 + b) * 16 + c) * 16 + d, e :: t)
    | _, _, _, _ => none
  | _ => none

def isHigh (n : Nat) : Bool := 0xd800 ≤ n && n < 0xdc00

def isLow (n : Nat) : Bool := 0xdc00 ≤ n && n < 0xe000

/-- The character a unit stands for.  Half a pair is no character and stands for the replacement
character; a reader whose texts may hold halves keeps it. -/
def ofUnit (n : Nat) : Char :=
  if 0xd800 ≤ n ∧ n < 0xe000 then '\ufffd' else Char.ofNat n

/-- The character after `\u`, which may take a second escape. -/
def unicode (t : Text) : Result Char :=
  match unit? t with
  | none => .error (.json .badUnicodeEscape (t.length + 1))
  | some (n, '\\' :: 'u' :: rest) =>
    -- two halves are one character, a half alone is none
    if isHigh n ∧ 5 ≤ rest.length then
      match unit? rest with
      | none => .error (.json .badUnicodeEscape (rest.length + 1))
      | some (m, rest') =>
        if isLow m then .ok (Char.ofNat (0x10000 + (n - 0xd800) * 0x400 + (m - 0xdc00)), rest')
        else .ok (ofUnit n, '\\' :: 'u' :: rest)
    else .ok (ofUnit n, '\\' :: 'u' :: rest)
  | some (n, rest) => .ok (ofUnit n, rest)

def plainEscape? : Char → Option Char
  | '"' => some '"'
  | '\\' => some '\\'
  | '/' => some '/'
  | 'b' => some '\x08'
  | 'f' => some '\x0c'
  | 'n' => some '\n'
  | 'r' => some '\r'
  | 't' => some '\t'
  | _ => none

/-- The rest of a text whose quote stood with `start` characters left, after the characters
read so far, last first. -/
def text (start : Nat) : (fuel : Nat) → Text → Text → Result Text
  | 0, _, _ => .error (.json .openText start)
  | _ + 1, _, [] => .error (.json .openText start)
  | fuel + 1, read, c :: t =>
    if c = '"' then .ok (read.reverse, t)
    else if c = '\\' then
      match t with
      | [] => .error (.json .openText start)
      | 'u' :: rest =>
        match unicode rest with
        | .ok (x, rest') => text start fuel (x :: read) rest'
        | .error e => .error e
      | e :: rest =>
        match plainEscape? e with
        | some x => text start fuel (x :: read) rest
        | none => .error (.json .badEscape (t.length + 1))
    else if c.toNat < 0x20 then .error (.json .controlCharacter (t.length + 1))
    else text start fuel (c :: read) t

/-- The text after an opening quote. -/
def textAfterQuote (t : Text) : Result Text :=
  text (t.length + 1) (t.length + 1) [] t

/-! ## Numbers -/

def isDigit (c : Char) : Bool := c.isDigit

def digitValues (t : Text) : List Nat :=
  t.map fun c => c.toNat - '0'.toNat

/-- The digits of a fraction, if a point with a digit after it comes next. -/
def fraction : Text → Text × Text
  | '.' :: c :: t => if isDigit c then ((c :: t).takeWhile isDigit, t.dropWhile isDigit)
    else ([], '.' :: c :: t)
  | t => ([], t)

/-- The digits of an exponent and its sign, if a complete one comes next. -/
def exponent (t : Text) : Option (Bool × Text) × Text :=
  match t with
  | c :: rest =>
    if c = 'e' ∨ c = 'E' then
      let (negative, body) := Number.sign rest
      match body.takeWhile isDigit with
      | [] => (none, t)
      | digits => (some (negative, digits), body.dropWhile isDigit)
    else (none, t)
  | [] => (none, t)

/-- The whole digits of a number: a zero alone, or digits that do not start with one. -/
def whole : Text → Text × Text
  | '0' :: t => (['0'], t)
  | t => (t.takeWhile isDigit, t.dropWhile isDigit)

def number (t : Text) : Result Value :=
  let (negative, body) : Bool × Text :=
    match t with
    | '-' :: body => (true, body)
    | _ => (false, t)
  let (digits, afterWhole) := whole body
  if digits = [] then .error (.json .expectedValue t.length)
  else
    let (part, afterPart) := fraction afterWhole
    let (power, rest) := exponent afterPart
    -- without a fraction and an exponent it is an integer
    if part = [] ∧ power = none then
      if Number.maxDigits < digits.length then .error (.fault (.longNumeral digits.length))
      else .ok (.int (Number.signed negative (Number.ofDigits (digitValues digits))), rest)
    else
      let e : Int :=
        match power with
        | some (sign, p) => Number.signed sign (Number.ofDigits (digitValues p))
        | none => 0
      .ok (.float (.ofDecimal negative (Number.ofDigits (digitValues (digits ++ part)))
        (e - part.length)), rest)

/-! ## Values -/

/-- The words that stand for values. -/
def words : List (Text × Value) :=
  [("null".toList, .null), ("true".toList, .bool true), ("false".toList, .bool false),
   ("NaN".toList, .float .nan), ("Infinity".toList, .float (.infinite false)),
   ("-Infinity".toList, .float (.infinite true))]

def word? (t : Text) : Option (Value × Text) :=
  words.findSome? fun w => (Text.after? w.1 t).map fun rest => (w.2, rest)

mutual

/-- One value inside `levels` more containers at most. -/
def value : (fuel levels : Nat) → Text → Result Value
  | 0, _, t => .error (.json .expectedValue t.length)
  | fuel + 1, levels, t =>
    match t with
    | '"' :: rest => (textAfterQuote rest).map fun r => (.str r.1, r.2)
    | '[' :: rest =>
      match levels with
      | 0 => .error (.fault .tooDeep)
      | levels + 1 =>
        match skip rest with
        | ']' :: rest' => .ok (.arr [], rest')
        | rest' => (items fuel levels [] rest').map fun r => (.arr r.1, r.2)
    | '\x7b' :: rest =>
      match levels with
      | 0 => .error (.fault .tooDeep)
      | levels + 1 =>
        match skip rest with
        | '\x7d' :: rest' => .ok (.obj [], rest')
        | rest' => (members fuel levels [] rest').map fun r => (.obj r.1, r.2)
    | _ =>
      match word? t with
      | some r => .ok r
      | none => number t

/-- The items of a list up to its end, after those read so far, last first. -/
def items : (fuel levels : Nat) → List Value → Text → Result (List Value)
  | 0, _, _, t => .error (.json .expectedValue t.length)
  | fuel + 1, levels, read, t =>
    match value fuel levels t with
    | .error e => .error e
    | .ok (v, rest) =>
      match skip rest with
      | ']' :: rest' => .ok ((v :: read).reverse, rest')
      | ',' :: rest' => items fuel levels (v :: read) (skip rest')
      | rest' => .error (.json .expectedComma rest'.length)

/-- The members of a table up to its end, added to those read so far. -/
def members : (fuel levels : Nat) → Table Value → Text → Result (Table Value)
  | 0, _, _, t => .error (.json .expectedValue t.length)
  | fuel + 1, levels, read, t =>
    match t with
    | '"' :: rest =>
      match textAfterQuote rest with
      | .error e => .error e
      | .ok (key, afterKey) =>
        match skip afterKey with
        | ':' :: rest' =>
          match value fuel levels (skip rest') with
          | .error e => .error e
          | .ok (v, afterValue) =>
            match skip afterValue with
            -- of two members with one key the later one stays, in the place of the earlier one
            | '\x7d' :: rest'' => .ok (read.put key v, rest'')
            | ',' :: rest'' => members fuel levels (read.put key v) (skip rest'')
            | rest'' => .error (.json .expectedComma rest''.length)
        | rest' => .error (.json .expectedColon rest'.length)
    | _ => .error (.json .expectedName t.length)

end

/-- A whole text: one value with spaces around it. -/
def document (t : Text) : Except Stop Value :=
  match value (2 * t.length + 2) maxNesting (skip t) with
  | .error e => .error e
  | .ok (v, rest) =>
    match skip rest with
    | [] => .ok v
    | rest' => .error (.json .extraData rest'.length)

/-- The fault of a reader that stopped in a text. -/
def Stop.toFault (whole : Text) : Stop → Fault
  | .json cause left => .json cause (Position.after (whole.take (whole.length - left)))
  | .fault f => f

end Reader

/-- The value a JSON text holds. -/
def ofJson (t : Text) : Except Fault Value :=
  match t with
  -- the mark is a character here, and no JSON starts with it
  | '\ufeff' :: _ => .error (.json .byteOrderMark (Position.after []))
  | _ => (Reader.document t).mapError (Reader.Stop.toFault t)

/-- The value of a text that holds JSON; any other value, and a text that holds none, as it is.
Numerals too long and texts nested too deeply are faults. -/
def parsed : Value → Except Fault Value
  | str t =>
    match ofJson t with
    | .ok v => .ok v
    -- no JSON, so the text stands for itself
    | .error (.json ..) => .ok (str t)
    | .error f => .error f
  | v => .ok v

/-- The items of a value: those of a list, else the value alone. -/
def items (v : Value) : Except Fault (List Value) :=
  v.parsed.map fun
    | arr items => items
    | w => [w]

end Clipbook.Value
