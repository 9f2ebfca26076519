import Clipbook.Fault
import Clipbook.Number.Binary
import Clipbook.Text.Blank
import Clipbook.Text.Digit
import Clipbook.Text.Quoted

/-!
# Clipbook — reading numbers

An integer is written in the digits of any script, with a sign and single underscores between
digits, and blanks around it.  A number may also have a fraction and an exponent, or be infinite or
no number at all.
-/

namespace Clipbook.Number

/-- More digits than this are refused. -/
def maxDigits : Nat := 4300

def ofDigits (values : List Nat) : Nat :=
  values.foldl (fun n d => n * 10 + d) 0

/-- The decimal digits at the start of a text, single underscores between them allowed, and the
rest. -/
def digitRun : Text → List Nat × Text
  | [] => ([], [])
  | '_' :: c :: t =>
    match Text.decimalValue? c with
    | some d => let r := digitRun t; (d :: r.1, r.2)
    | none => ([], '_' :: c :: t)
  | c :: t =>
    match Text.decimalValue? c with
    | some d => let r := digitRun t; (d :: r.1, r.2)
    | none => ([], c :: t)

/-- Digits that start with a digit, not with an underscore. -/
def digits (t : Text) : List Nat × Text :=
  match t with
  | '_' :: _ => ([], t)
  | _ => digitRun t

def sign : Text → Bool × Text
  | '-' :: t => (true, t)
  | '+' :: t => (false, t)
  | t => (false, t)

def signed (negative : Bool) (n : Nat) : Int :=
  if negative then -n else n

/-- The integer a text spells. -/
def readInt (t : Text) : Except Fault Int :=
  let (negative, body) := sign (Text.stripStart t)
  let (values, rest) := digits body
  -- too many digits are told even where the text is no number
  if maxDigits < values.length then .error (.longNumeral values.length)
  else if values = [] ∨ !Text.blank rest then .error (.notInteger t)
  else .ok (signed negative (ofDigits values))

/-- A fraction after a point: its digits and the rest. -/
def fraction : Text → List Nat × Text
  | '.' :: t => digits t
  | t => ([], t)

/-- An exponent: `none` if it is begun and has no digits. -/
def exponent? : Text → Option (Int × Text)
  | c :: t =>
    if c = 'e' ∨ c = 'E' then
      let (negative, body) := sign t
      match digits body with
      | ([], _) => none
      | (values, rest) => some (signed negative (ofDigits values), rest)
    else some (0, c :: t)
  | [] => some (0, [])

/-- The number a text spells, if it spells one. -/
def readBinary? (t : Text) : Option Binary :=
  let (negative, body) := sign (Text.strip t)
  let word := body.map Char.toLower
  if word = "inf".toList ∨ word = "infinity".toList then some (.infinite negative)
  else if word = "nan".toList then some .nan
  else
    let (whole, afterWhole) := digits body
    let (part, afterPart) := fraction afterWhole
    -- a point alone is no number
    if whole = [] ∧ part = [] then none
    else
      match exponent? afterPart with
      | some (e, []) => some (.ofDecimal negative (ofDigits (whole ++ part)) (e - part.length))
      | _ => none

end Clipbook.Number
