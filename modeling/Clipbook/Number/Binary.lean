/-!
# Clipbook — binary numbers

Numbers of 53 significant bits, with infinities and a not-a-number, as a sign, a mantissa and an
exponent of two.  All arithmetic is exact arithmetic on natural numbers followed by one rounding
to the nearest such number, ties to the even mantissa.
-/

namespace Clipbook

/-- `finite negative m e` is `m · 2^e`, with `m < 2^53`, `-1074 ≤ e`, and `2^52 ≤ m` unless
`e = -1074`. -/
inductive Binary where
  | nan
  | infinite (negative : Bool)
  | finite (negative : Bool) (mantissa : Nat) (exponent : Int)
  deriving DecidableEq, Repr

namespace Binary

/-! ## Rounding -/

/-- The integer nearest to `num / den`, a half going to the even neighbour. -/
def roundQuotient (num den : Nat) : Nat :=
  let q := num / den
  let r := num % den
  if 2 * r < den then q
  else if den < 2 * r then q + 1
  else q + q % 2

/-- `num / den · 2^(-e)` as a quotient of natural numbers. -/
def scale (num den : Nat) (e : Int) : Nat × Nat :=
  if 0 ≤ e then (num, den * Nat.pow 2 e.toNat) else (num * Nat.pow 2 (-e).toNat, den)

/-- The exponent that leaves the quotient of `num` and `den` 53 bits, but none below `-1074`. -/
def exponentOf (num den : Nat) : Int :=
  let guess : Int := (num.log2 : Int) - den.log2 - 52
  let s := scale num den guess
  -- the guess is too large by one at most
  max (if s.1 / s.2 < Nat.pow 2 52 then guess - 1 else guess) (-1074)

/-- The number nearest to `num / den`. -/
def ofRatio (negative : Bool) (num den : Nat) : Binary :=
  if num = 0 then finite negative 0 (-1074)
  else
    let e := exponentOf num den
    let s := scale num den e
    let m := roundQuotient s.1 s.2
    -- rounding may take one bit more
    let r : Nat × Int := if m = Nat.pow 2 53 then (Nat.pow 2 52, e + 1) else (m, e)
    if 971 < r.2 then infinite negative else finite negative r.1 r.2

def ofNat (n : Nat) : Binary :=
  ofRatio false n 1

/-- The number nearest to `digits · 10^exponent`. -/
def ofDecimal (negative : Bool) (digits : Nat) (exponent : Int) : Binary :=
  if digits = 0 then finite negative 0 (-1074)
  else
    let length : Int := (Nat.toDigits 10 digits).length
    -- far outside of what can be told apart no power has to be computed
    if 400 < length + exponent then infinite negative
    else if length + exponent < -400 then finite negative 0 (-1074)
    else if 0 ≤ exponent then ofRatio negative (digits * Nat.pow 10 exponent.toNat) 1
    else ofRatio negative digits (Nat.pow 10 (-exponent).toNat)

/-! ## Parts -/

/-- `m · 2^e` as a quotient. -/
def ratio (m : Nat) (e : Int) : Nat × Nat :=
  if 0 ≤ e then (m * Nat.pow 2 e.toNat, 1) else (m, Nat.pow 2 (-e).toNat)

/-- The integer a number is, if it is one. -/
def toInt? : Binary → Option Int
  | finite negative m e =>
    let r := ratio m e
    if r.1 % r.2 = 0 then
      some (if negative then -(r.1 / r.2 : Nat) else (r.1 / r.2 : Nat))
    else none
  | _ => none

/-- Equality of values: the two zeros are equal, a not-a-number differs from all numbers. -/
def eqv : Binary → Binary → Bool
  | nan, _ => false
  | _, nan => false
  | finite s m e, finite s' m' e' => (m = 0 && m' = 0) || (s = s' && m = m' && e = e')
  | x, y => x = y

/-! ## Arithmetic on numbers that are not negative -/

/-- The number nearest to the sum. -/
def add : Binary → Binary → Binary
  | finite _ m e, finite _ m' e' =>
    let r := ratio m e
    let r' := ratio m' e'
    ofRatio false (r.1 * r'.2 + r'.1 * r.2) (r.2 * r'.2)
  | infinite _, finite .. => infinite false
  | finite .., infinite _ => infinite false
  | infinite _, infinite _ => infinite false
  | _, _ => nan

/-- The number nearest to a multiple. -/
def timesNat (k : Nat) : Binary → Binary
  | finite s m e =>
    let r := ratio m e
    ofRatio s (r.1 * k) r.2
  | infinite s => if k = 0 then nan else infinite s
  | nan => nan

/-- The integral quotient and the remainder of a number by a whole one.  The remainder is exact; the
quotient is the rounded one of the rest of the number, and so may be that of a neighbour where the
number is too large for its units. -/
def divide (k : Nat) : Binary → Option (Nat × Binary)
  | finite _ m e =>
    let r := ratio m e
    let left := r.1 % (k * r.2)
    match ofRatio false (r.1 - left) r.2 with
    | finite _ m' e' =>
      let s := ratio m' e'
      match ofRatio false s.1 (s.2 * k) with
      | finite _ m'' e'' =>
        let q := ratio m'' e''
        let floor := q.1 / q.2
        let up := q.2 < 2 * (q.1 % q.2)
        some (if up then floor + 1 else floor, ofRatio false left r.2)
      | _ => none
    | _ => none
  | _ => none

end Binary

end Clipbook
