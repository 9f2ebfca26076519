import Clipbook.Time.Instant

/-!
# Clipbook — moments

A moment is a time as a clock shows it: a date, the second of the day and, if it is known, how far
the clock is ahead of universal time.
-/

namespace Clipbook

structure Moment where
  date : Date
  second : Nat
  /-- In seconds. -/
  ahead : Option Int
  deriving DecidableEq, Repr

namespace Moment

/-! ## Writing -/

/-- Hours and minutes with a sign, and seconds if there are any. -/
def aheadText (n : Int) : Text :=
  let clock := clockText n.natAbs
  (if n < 0 then '-' else '+') :: if n.natAbs % 60 = 0 then clock.take 5 else clock

def text (m : Moment) : Text :=
  m.date.text ++ 'T' :: clockText m.second
    ++ match m.ahead with
      | some n => aheadText n
      | none => []

/-- What a clock set to universal time shows at an instant. -/
def ofInstant (i : Instant) : Except Fault Moment :=
  i.date.map fun d => ⟨d, (i.seconds.fmod 86400).toNat, some 0⟩

def ofMilliseconds (n : Int) : Except Fault Moment :=
  Instant.ofMilliseconds n >>= ofInstant

/-! ## Reading -/

/-- A number of so many digits, and what comes after it. -/
def number? (width : Nat) (t : Text) : Option (Nat × Text) :=
  let digits := t.take width
  if digits.length = width ∧ digits.all Char.isDigit then
    some (digits.foldl (fun n c => 10 * n + (c.toNat - '0'.toNat)) 0, t.drop width)
  else none

/-- Two more digits, with or without a mark before them, or zero where none follow. -/
def numberAfter? (mark : Char) : Text → Option (Nat × Text)
  | [] => some (0, [])
  | c :: t =>
    if c = mark then number? 2 t
    else if c.isDigit then number? 2 (c :: t)
    else some (0, c :: t)

/-- A time of day in seconds; a fraction of a second is left out. -/
def clock? (t : Text) : Option (Nat × Text) := do
  let (hours, t) ← number? 2 t
  let (minutes, t) ← numberAfter? ':' t
  let (seconds, t) ← numberAfter? ':' t
  let t :=
    match t with
    | '.' :: rest | ',' :: rest => rest.dropWhile Char.isDigit
    | _ => t
  if hours < 24 ∧ minutes < 60 ∧ seconds < 60 then
    some (3600 * hours + 60 * minutes + seconds, t)
  else none

def ahead? : Text → Option (Option Int)
  | [] => some none
  | ['Z'] => some (some 0)
  | '+' :: t => (clock? t).map fun c => some c.1
  | '-' :: t => (clock? t).map fun c => some (-c.1)
  | _ => none

/-- A date in digits, with the time of day after any character, and the offset after that. -/
def read? (t : Text) : Option Moment := do
  let (year, t) ← number? 4 t
  let (month, t) ← numberAfter? '-' t
  let (day, t) ← numberAfter? '-' t
  match t with
  | [] => some ⟨⟨year, month, day⟩, 0, none⟩
  | _ :: t =>
    let (second, t) ← clock? t
    return ⟨⟨year, month, day⟩, second, ← ahead? t⟩

end Moment

end Clipbook
