import Clipbook.Number.Binary
import Clipbook.Text.Basic

/-!
# Clipbook — decimal text of binary numbers

The shortest decimal that reads back as the same number, and decimals of a given number of
significant digits.  For each number of digits the value has two neighbours on the decimal grid;
the first grid with a neighbour inside the interval that rounds to the number gives the digits,
and of two neighbours inside it the nearer one does.
-/

namespace Clipbook

/-- `digits · 10^exponent`. -/
structure Decimal where
  digits : Nat
  exponent : Int
  deriving DecidableEq, Repr

namespace Decimal

/-! ## Grids -/

/-- `num / den · 10^(-k)` as a quotient. -/
def scale (num den : Nat) (k : Int) : Nat × Nat :=
  if 0 ≤ k then (num, den * Nat.pow 10 k.toNat) else (num * Nat.pow 10 (-k).toNat, den)

/-- The number of zeros between the point and the first digit of `num / den < 1`, plus one. -/
def leadingZeros (num den : Nat) : (fuel : Nat) → Nat
  | 0 => 0
  | fuel + 1 => if den ≤ num then 0 else 1 + leadingZeros (num * 10) den fuel

/-- The exponent of ten of the first significant digit of a positive quotient. -/
def magnitude (num den : Nat) : Int :=
  if den ≤ num then (Nat.toDigits 10 (num / den)).length - 1
  else -(leadingZeros num den 400)

/-! ## Shortest decimals -/

/-- The interval of quotients `(low, high)` over `den` that round to `m · 2^e`, and the value
itself; the ends belong to it exactly if `m` is even. -/
structure Interval where
  low : Nat
  value : Nat
  high : Nat
  den : Nat
  closed : Bool

/-- Below a power of two the neighbour is half as far away. -/
def Interval.of (m : Nat) (e : Int) : Interval :=
  let unit := (Binary.ratio 1 e).1
  let den := (Binary.ratio 1 e).2
  -- all is counted in quarters of a unit, so that the ends of the interval are whole
  let below := if m = Nat.pow 2 52 ∧ -1074 < e then unit else 2 * unit
  ⟨4 * m * unit - below, 4 * m * unit, 4 * m * unit + 2 * unit, 4 * den, m % 2 = 0⟩

/-- Whether `d · 10^k` lies in the interval. -/
def Interval.holds (i : Interval) (d : Nat) (k : Int) : Bool :=
  let lo := scale i.low i.den k
  let hi := scale i.high i.den k
  if i.closed then lo.1 ≤ d * lo.2 && d * hi.2 ≤ hi.1
  else lo.1 < d * lo.2 && d * hi.2 < hi.1

/-- The best decimal of the grid `10^k` in the interval. -/
def Interval.on? (i : Interval) (k : Int) : Option Decimal :=
  let s := scale i.value i.den k
  let d := s.1 / s.2
  let rest := s.1 % s.2
  match i.holds d k, i.holds (d + 1) k with
  | true, true =>
    -- both neighbours read back: the nearer one is taken, the even one of two
    let up := s.2 < 2 * rest || (s.2 = 2 * rest && d % 2 = 1)
    some ⟨if up then d + 1 else d, k⟩
  | true, false => some ⟨d, k⟩
  | false, true => some ⟨d + 1, k⟩
  | false, false => none

/-- The first hit on the grids of `10^k`, `10^(k-1)` and so on. -/
def Interval.search (i : Interval) (k : Int) : (grids : Nat) → Decimal
  | 0 => ⟨0, 0⟩
  | grids + 1 => (i.on? k).getD (search i (k - 1) grids)

/-- The shortest decimal that reads back as the positive number `m · 2^e`. -/
def shortest (m : Nat) (e : Int) : Decimal :=
  let i := Interval.of m e
  -- seventeen digits tell all numbers apart
  i.search (magnitude i.value i.den) 18

/-- The decimal of `places` significant digits nearest to a positive quotient, ties to even. -/
def rounded (places num den : Nat) : Decimal :=
  let k := magnitude num den - (places - 1 : Nat)
  let s := scale num den k
  ⟨Binary.roundQuotient s.1 s.2, k⟩

/-! ## Notation -/

/-- The digits without the zeros at their end, and the exponent of ten of the first of them. -/
def normalize (d : Decimal) : Text × Int :=
  let digits := Text.ofNat d.digits
  (Text.trimEnd (· = '0') digits, d.exponent + digits.length - 1)

/-- Positional notation of digits whose first has the exponent `first`. -/
def positional (digits : Text) (first : Int) : Text × Text :=
  if first < 0 then (['0'], List.replicate (-first - 1).toNat '0' ++ digits)
  else
    let whole := first.toNat + 1
    (digits.take whole ++ List.replicate (whole - digits.length) '0', digits.drop whole)

/-- Scientific notation, with a signed exponent of at least two digits. -/
def scientific (digits : Text) (first : Int) : Text :=
  let mantissa :=
    match digits with
    | [] => ['0']
    | [d] => [d]
    | d :: rest => d :: '.' :: rest
  mantissa ++ 'e' :: (if first < 0 then '-' else '+')
    :: Text.padLeft '0' 2 (Text.ofNat first.natAbs)

end Decimal

namespace Binary

/-- The shortest text that reads back: positional from `10^-4` up to `10^16`, with a fraction
always shown, and scientific beyond. -/
def text : Binary → Text
  | nan => "nan".toList
  | infinite negative => if negative then "-inf".toList else "inf".toList
  | finite negative m e =>
    let body :=
      if m = 0 then "0.0".toList
      else
        let (digits, first) := (Decimal.shortest m e).normalize
        if -4 ≤ first ∧ first < 16 then
          let (whole, fraction) := Decimal.positional digits first
          whole ++ '.' :: (if fraction = [] then ['0'] else fraction)
        else Decimal.scientific digits first
    if negative then '-' :: body else body

/-- Six significant digits at most: positional from `10^-4` up to `10^6`, and no zeros at the end
of a fraction. -/
def general : Binary → Text
  | nan => "nan".toList
  | infinite negative => if negative then "-inf".toList else "inf".toList
  | finite negative m e =>
    let body :=
      if m = 0 then ['0']
      else
        let r := ratio m e
        let (digits, first) := (Decimal.rounded 6 r.1 r.2).normalize
        if -4 ≤ first ∧ first < 6 then
          let (whole, fraction) := Decimal.positional digits first
          if fraction = [] then whole else whole ++ '.' :: fraction
        else Decimal.scientific digits first
    if negative then '-' :: body else body

end Binary

end Clipbook
