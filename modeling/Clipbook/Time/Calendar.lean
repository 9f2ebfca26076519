import Clipbook.Text.Basic

/-!
# Clipbook — the calendar

Days are counted from the first of January 1970 and the leap rule holds for all years, before and
after.
-/

namespace Clipbook

structure Date where
  year : Int
  month : Nat
  day : Nat
  deriving DecidableEq, Repr

namespace Date

/-- The number of days in 400 years. -/
def era : Int := 146097

/-- The date of a day.  Years are taken to start in March, so that the leap day is the last one. -/
def ofDays (days : Int) : Date :=
  let shifted := days + 719468
  let dayOfEra := (shifted.fmod era).toNat
  let yearOfEra := (dayOfEra - dayOfEra / 1460 + dayOfEra / 36524 - dayOfEra / 146096) / 365
  let dayOfYear := dayOfEra - (365 * yearOfEra + yearOfEra / 4 - yearOfEra / 100)
  let march := (5 * dayOfYear + 2) / 153
  let month := if march < 10 then march + 3 else march - 9
  let year := shifted.fdiv era * 400 + yearOfEra
  ⟨if month ≤ 2 then year + 1 else year, month, dayOfYear - (153 * march + 2) / 5 + 1⟩

/-- A date in digits, with dashes. -/
def text (d : Date) : Text :=
  Text.padLeft '0' 4 (Text.ofInt d.year) ++ '-' :: Text.padLeft '0' 2 (Text.ofNat d.month) ++ '-'
    :: Text.padLeft '0' 2 (Text.ofNat d.day)

end Date

/-- The time of a day in seconds. -/
def clockText (seconds : Nat) : Text :=
  Text.padLeft '0' 2 (Text.ofNat (seconds / 3600)) ++ ':'
    :: Text.padLeft '0' 2 (Text.ofNat (seconds / 60 % 60)) ++ ':'
    :: Text.padLeft '0' 2 (Text.ofNat (seconds % 60))

end Clipbook
