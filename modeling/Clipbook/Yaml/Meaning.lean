import Clipbook.Text.Basic

/-!
# Clipbook — words with a meaning in YAML

Some plain words are no texts: truth values, nothing, numbers and times.  A text that looks like one
of them has to be quoted.
-/

namespace Clipbook.Yaml

/-! ## Words -/

def truthWords : List Text :=
  ["yes", "Yes", "YES", "no", "No", "NO", "true", "True", "TRUE", "false", "False", "FALSE", "on",
    "On", "ON", "off", "Off", "OFF"].map String.toList

def otherWords : List Text :=
  ["", "~", "null", "Null", "NULL", "=", "<<", ".nan", ".NaN", ".NAN"].map String.toList

def infiniteWords : List Text :=
  [".inf", ".Inf", ".INF"].map String.toList

/-! ## Numbers -/

def unsigned : Text → Text
  | '-' :: t => t
  | '+' :: t => t
  | t => t

/-- Digits with underscores between them. -/
def isSpacedDigit (c : Char) : Bool :=
  c.isDigit || c = '_'

def startsWithDigit (t : Text) : Bool :=
  t.head?.any Char.isDigit

def isDigits (t : Text) : Bool :=
  startsWithDigit t && t.all isSpacedDigit

/-- One of sixty, in one digit or two. -/
def isSixtieth : Text → Bool
  | [c] => c.isDigit
  | [c, d] => c.isDigit && c.toNat ≤ '5'.toNat && d.isDigit
  | _ => false

/-- A number and sixtieths of it with colons between them. -/
def isSexagesimal (t : Text) : Bool :=
  match Text.splitOn ':' t with
  | first :: part :: parts => isDigits first && (part :: parts).all isSixtieth
  | _ => false

/-- Characters of a kind and underscores, and at least one of them. -/
def allOf (f : Char → Bool) (t : Text) : Bool :=
  t ≠ [] && t.all fun c => f c || c = '_'

def isHexDigit (c : Char) : Bool :=
  c.isDigit || ('a'.toNat ≤ c.toNat && c.toNat ≤ 'f'.toNat)
    || ('A'.toNat ≤ c.toNat && c.toNat ≤ 'F'.toNat)

/-- Binary, octal and hexadecimal numbers start with a zero, and others do not. -/
def isInteger (t : Text) : Bool :=
  match unsigned t with
  | ['0'] => true
  | '0' :: 'b' :: digits => allOf (fun c => c = '0' || c = '1') digits
  | '0' :: 'x' :: digits => allOf isHexDigit digits
  | '0' :: digits => allOf (fun c => c.isDigit && c.toNat ≤ '7'.toNat) digits
  | digits => isDigits digits || isSexagesimal digits

/-- Nothing, or a signed exponent of ten. -/
def isExponent : Text → Bool
  | [] => true
  | e :: sign :: digits =>
    (e = 'e' || e = 'E') && (sign = '-' || sign = '+') && digits ≠ [] && digits.all Char.isDigit
  | _ => false

def isFraction (t : Text) : Bool :=
  match Text.cut? '.' (unsigned t) with
  | none => false
  | some (whole, rest) =>
    let digits := rest.takeWhile isSpacedDigit
    let exponent := rest.dropWhile isSpacedDigit
    if whole = [] then unsigned t = t && startsWithDigit digits && isExponent exponent
    else
      (isDigits whole && isExponent exponent) || (isSexagesimal whole && exponent = [])

/-! ## Times -/

/-- A text after `low` to `high` digits, as many of them as there are. -/
def afterDigits? (low high : Nat) (t : Text) : Option Text :=
  let n := ((t.take high).takeWhile Char.isDigit).length
  if low ≤ n then some (t.drop n) else none

def isGap (c : Char) : Bool :=
  c = ' ' || c = '\t'

/-- A text after what separates a date from a time of day. -/
def afterSeparator? : Text → Option Text
  | 'T' :: t => some t
  | 't' :: t => some t
  | c :: t => if isGap c then some (t.dropWhile isGap) else none
  | [] => none

def afterFraction : Text → Text
  | '.' :: t => t.dropWhile Char.isDigit
  | t => t

/-- Nothing, or an offset from universal time. -/
def isZone (t : Text) : Bool :=
  t = [] ||
    match t.dropWhile isGap with
    | ['Z'] => true
    | sign :: t =>
      (sign = '-' || sign = '+') &&
        match afterDigits? 1 2 t with
        | some [] => true
        | some (':' :: t) => afterDigits? 2 2 t = some []
        | _ => false
    | [] => false

def isDate (t : Text) : Bool :=
  (do
    let t ← Text.after? ['-'] (← afterDigits? 4 4 t)
    let t ← Text.after? ['-'] (← afterDigits? 2 2 t)
    afterDigits? 2 2 t) = some []

def isTime (t : Text) : Bool :=
  (do
    let t ← Text.after? ['-'] (← afterDigits? 4 4 t)
    let t ← Text.after? ['-'] (← afterDigits? 1 2 t)
    let t ← afterSeparator? (← afterDigits? 1 2 t)
    let t ← Text.after? [':'] (← afterDigits? 1 2 t)
    let t ← Text.after? [':'] (← afterDigits? 2 2 t)
    return afterFraction (← afterDigits? 2 2 t)).any isZone

/-- Whether a plain word is no text. -/
def hasMeaning (t : Text) : Bool :=
  t ∈ truthWords || t ∈ otherWords || unsigned t ∈ infiniteWords || isInteger t || isFraction t
    || isDate t || isTime t

end Clipbook.Yaml
