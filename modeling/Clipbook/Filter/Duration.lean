import Clipbook.Number.Integer
import Clipbook.Outcome
import Clipbook.Text.Case
import Clipbook.Value.Printer

/-!
# Clipbook — durations

A duration `P1Y2M3W4DT5H6M7S` becomes `hours:minutes:seconds`.  A year has 365 days and a month
has 30.  Every part is optional, but one has to be there.
-/

namespace Clipbook

namespace Duration

/-- A unit with the letter that marks it and its number of seconds. -/
structure Part where
  mark : Char
  seconds : Nat

def dateParts : List Part :=
  [⟨'y', 365 * 86400⟩, ⟨'m', 30 * 86400⟩, ⟨'w', 7 * 86400⟩, ⟨'d', 86400⟩]

def timeParts : List Part :=
  [⟨'h', 3600⟩, ⟨'m', 60⟩, ⟨'s', 1⟩]

/-- Letters count in either case; the long s is one of its forms. -/
def marks (mark c : Char) : Bool :=
  Char.toLower c = mark || (mark = 's' && c = 'ſ')

/-- A numeral with an optional fraction at the start of a text, and the rest. -/
def numeral? (t : Text) : Option (Text × Text) :=
  match t.takeWhile Text.isDecimal, t.dropWhile Text.isDecimal with
  | [], _ => none
  | whole, '.' :: rest =>
    match rest.takeWhile Text.isDecimal with
    -- a point without digits behind it is no part of the numeral
    | [] => some (whole, '.' :: rest)
    | part => some (whole ++ '.' :: part, rest.dropWhile Text.isDecimal)
  | whole, rest => some (whole, rest)

/-- The amount of a part at the start of a text, in seconds, and the rest. -/
def amount? (part : Part) (t : Text) : Option (Binary × Text) :=
  match numeral? t with
  | some (numeral, c :: rest) =>
    if marks part.mark c then
      (Number.readBinary? numeral).map fun x => (x.timesNat part.seconds, rest)
    else none
  | _ => none

/-- The amounts of parts in their order, each of them optional, and the rest. -/
def amounts : List Part → Text → List Binary × Text
  | [], t => ([], t)
  | part :: parts, t =>
    match amount? part t with
    | some (x, rest) => let r := amounts parts rest; (x :: r.1, r.2)
    -- a part that is not there is passed over
    | none => amounts parts t

/-- The amounts of a whole duration. -/
def read? (t : Text) : Option (List Binary) :=
  match t with
  | c :: t =>
    if marks 'p' c then
      let date := amounts dateParts t
      let time : List Binary × Text :=
        match date.2 with
        | d :: rest => if marks 't' d then amounts timeParts rest else ([], d :: rest)
        -- there need not be a time of day
        | [] => ([], [])
      -- nothing may be left over, and one amount has to be there
      if time.2 = [] ∧ date.1 ++ time.1 ≠ [] then some (date.1 ++ time.1) else none
    else none
  | [] => none

def total (amounts : List Binary) : Binary :=
  amounts.foldl .add (.ofNat 0)

def twoDigits (t : Text) : Text :=
  Text.padLeft '0' 2 t

/-- A number of seconds as a clock shows it. -/
def clock (seconds : Binary) : Except Fault Text :=
  match seconds.divide 3600 with
  | none => .error .notANumber
  | some (hours, rest) =>
    let minutes := (rest.divide 60).elim 0 Prod.fst
    -- seconds may have a fraction, hours and minutes have none
    let left := (seconds.divide 60).elim seconds Prod.snd
    let leftText :=
      match left.toInt? with
      | some n => Text.ofInt n
      | none => left.general
    .ok (twoDigits (Text.ofNat hours) ++ ':' :: twoDigits (Text.ofNat minutes) ++ ':'
      :: twoDigits leftText)

end Duration

namespace Filter

/-- A duration as hours, minutes and seconds; what is no duration is left as it is. -/
def duration (v : Value) : Outcome Value := do
  let t ← v.text
  match Duration.read? (Text.strip t) with
  | some amounts => return .str (← Duration.clock (Duration.total amounts))
  | none =>
    Outcome.warn .invalidDuration
    return v

end Filter

end Clipbook
