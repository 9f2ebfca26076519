import Clipbook.Number.Integer
import Clipbook.Time.Calendar

/-!
# Clipbook — instants

An instant is a number of milliseconds since the first of January 1970, divided by a thousand as a
binary number and rounded to microseconds.
-/

namespace Clipbook

/-- Whole seconds and the microseconds after them. -/
structure Instant where
  seconds : Int
  micros : Nat
  deriving DecidableEq, Repr

namespace Instant

/-- The instant of a number of seconds, the fraction rounded to microseconds, ties to even. -/
def ofSeconds (negative : Bool) (num den : Nat) : Instant :=
  let fraction := Binary.ofRatio false (num % den * 1000000) den
  let micros : Nat :=
    match fraction with
    | .finite _ m e => let r := Binary.ratio m e; Binary.roundQuotient r.1 r.2
    | _ => 0
  let whole : Nat := num / den + micros / 1000000
  let micros := micros % 1000000
  if !negative then ⟨whole, micros⟩
  else if micros = 0 then ⟨-whole, 0⟩
  else ⟨-whole - 1, 1000000 - micros⟩

/-- The first and the last second of the years that can be told apart. -/
def firstSecond : Int := -67768040609740800

def lastSecond : Int := 67768036191676799

/-- The seconds that are counted at all. -/
def secondLimit : Int := Int.pow 2 63

def ofMilliseconds (n : Int) : Except Fault Instant :=
  match Binary.ofRatio (n < 0) n.natAbs 1000 with
  | .finite negative m e =>
    let r := Binary.ratio m e
    let i := ofSeconds negative r.1 r.2
    if i.seconds < -secondLimit ∨ secondLimit < i.seconds then .error .instantOutOfRange
    else if i.seconds < firstSecond ∨ lastSecond < i.seconds then .error .instantNotRepresentable
    else .ok i
  | _ => .error .quotientTooLarge

/-- The date of an instant; years have one to four digits. -/
def date (i : Instant) : Except Fault Date :=
  let d := Date.ofDays (i.seconds.fdiv 86400)
  if 1 ≤ d.year ∧ d.year ≤ 9999 then .ok d
  else .error (.yearOutOfRange (if d.year < Int.pow 2 31 then d.year else d.year - Int.pow 2 32))

def clock (i : Instant) : Text :=
  clockText (i.seconds.fmod 86400).toNat

/-- An instant to the millisecond, in universal time. -/
def stamp (i : Instant) : Except Fault Text :=
  i.date.map fun d =>
    d.text ++ 'T' :: i.clock ++ '.' :: Text.padLeft '0' 3 (Text.ofNat (i.micros / 1000)) ++ ['Z']

end Instant

/-- The stamp of a number of milliseconds. -/
def stampOf (milliseconds : Int) : Except Fault Text :=
  Instant.ofMilliseconds milliseconds >>= Instant.stamp

end Clipbook
