import Clipbook.Filter.Duration
import Clipbook.Proofs.Number.Whole
import Clipbook.Proofs.Outcome

/-!
# Clipbook — durations keep their time

A duration names up to seven amounts in a fixed order, the first four of them before a `T` and the
others behind it; the letter `M` stands for months in front of the `T` and for minutes behind it.
Reading goes through the parts in their order and passes over those that are missing.  It cannot
take the amount of one part for that of another, because the letters of the parts on each side of
the `T` are different.

The amounts are binary numbers.  Below `2^53` these are the whole numbers themselves, so that the
clock shows the time exactly: nothing is rounded in the products, in the sum or in the divisions.

Main results:

* `amounts_print` — written amounts are read back.
* `read?_text` — and so is a written duration.
* `clock_whole` — what a clock shows of a whole number of seconds.
* `duration_text` — hours, minutes and seconds make up the time of the duration.
-/

namespace Clipbook.Duration

open Number (Numeral)

/-! ## Writing -/

/-- A letter as a capital or as it is. -/
def inCase (capital : Bool) (c : Char) : Char :=
  if capital then c.toUpper else c

/-- An amount as it is written, with zeros in front of its numeral and its letter in either case. -/
structure Amount where
  value : Nat
  zeros : Nat := 0
  capital : Bool := true

namespace Amount

def numeral (a : Amount) : Text :=
  List.replicate a.zeros '0' ++ Text.ofNat a.value

/-- An amount that is missing counts as none of its unit. -/
def valueOf (a? : Option Amount) : Nat :=
  (a?.map value).getD 0

end Amount

/-- Parts with their amounts, one after the other. -/
def print (ps : List (Part × Option Amount)) : Text :=
  ps.flatMap fun p =>
    match p.2 with
    | none => []
    | some a => a.numeral ++ [inCase a.capital p.1.mark]

/-- The seconds of each amount that is there. -/
def secondsOf (ps : List (Part × Option Amount)) : List Nat :=
  ps.filterMap fun p => p.2.map fun a => a.value * p.1.seconds

/-- A duration as it is written. -/
structure Written where
  capitalStart : Bool := true
  years : Option Amount := none
  months : Option Amount := none
  weeks : Option Amount := none
  days : Option Amount := none
  capitalTime : Bool := true
  hours : Option Amount := none
  minutes : Option Amount := none
  seconds : Option Amount := none

namespace Written

def date (w : Written) : List (Part × Option Amount) :=
  dateParts.zip [w.years, w.months, w.weeks, w.days]

def time (w : Written) : List (Part × Option Amount) :=
  timeParts.zip [w.hours, w.minutes, w.seconds]

/-- Only a duration with amounts of time has a `T`. -/
def text (w : Written) : Text :=
  inCase w.capitalStart 'p' :: print w.date ++
    if secondsOf w.time = [] then [] else inCase w.capitalTime 't' :: print w.time

/-- The time of a duration in seconds. -/
def total (w : Written) : Nat :=
  let days := 365 * Amount.valueOf w.years + 30 * Amount.valueOf w.months +
    7 * Amount.valueOf w.weeks + Amount.valueOf w.days
  86400 * days + 3600 * Amount.valueOf w.hours + 60 * Amount.valueOf w.minutes +
    Amount.valueOf w.seconds

/-- At least one amount is there. -/
def HasAmount (w : Written) : Prop :=
  ∃ p ∈ w.date ++ w.time, p.2.isSome = true

end Written

/-! ## Letters -/

/-- No character of a numeral, and no blank. -/
def isMark (c : Char) : Bool :=
  !Text.isDecimal c && c ≠ '.' && !Text.isBlank c

/-- Parts that can be told from one another by their letters. -/
structure Distinct (parts : List Part) : Prop where
  letters : ∀ p ∈ parts, ∀ capital, isMark (inCase capital p.mark) = true
  marks : ∀ p ∈ parts, ∀ capital, marks p.mark (inCase capital p.mark) = true
  apart : parts.Pairwise fun p q => ∀ capital, Duration.marks p.mark (inCase capital q.mark) = false
  units : ∀ p ∈ parts, 0 < p.seconds

/-- The parts of a date are told apart by their letters. -/
theorem distinct_dateParts : Distinct dateParts :=
  ⟨by decide, by decide, by decide, by decide⟩

/-- The parts of a time are told apart by their letters. -/
theorem distinct_timeParts : Distinct timeParts :=
  ⟨by decide, by decide, by decide, by decide⟩

variable {part : Part} {parts : List Part} {ps : List (Part × Option Amount)} {t rest : Text}
  {n : Nat} {c : Char} {w : Written}

theorem Distinct.of_cons (h : Distinct (part :: parts)) : Distinct parts where
  letters p hp := h.letters p (List.mem_cons_of_mem _ hp)
  marks p hp := h.marks p (List.mem_cons_of_mem _ hp)
  apart := (List.pairwise_cons.mp h.apart).2
  units p hp := h.units p (List.mem_cons_of_mem _ hp)

/-! ## Amounts -/

theorem isDecimal_of_isMark (h : isMark c = true) : Text.isDecimal c = false := by
  simp only [isMark, Bool.and_eq_true, Bool.not_eq_true'] at h
  exact h.1.1

theorem isDecimal_of_isDigit (h : c.isDigit = true) : Text.isDecimal c = true := by
  rw [Text.isDecimal, Text.decimalValue?_of_isDigit h]
  rfl

/-- No numeral begins there. -/
theorem numeral?_of_stops (h : Text.Stops Text.isDecimal rest) : numeral? rest = none := by
  have hnone : ∀ d ∈ ([] : Text), Text.isDecimal d = true := nofun
  have hspan := (Text.span_run hnone h).1
  rw [List.nil_append] at hspan
  rw [numeral?, hspan]

/-- A numeral is read up to the letter behind it. -/
theorem numeral?_numeral (h : Numeral t n) (hc : isMark c = true) (rest : Text) :
    numeral? (t ++ c :: rest) = some (t, c :: rest) := by
  have hrun : ∀ d ∈ t, Text.isDecimal d = true := fun d hd => isDecimal_of_isDigit (h.digits d hd)
  have hspan := Text.span_run_cons hrun (isDecimal_of_isMark hc) rest
  have hpoint : c ≠ '.' := by
    rintro rfl
    cases hc
  rw [numeral?, hspan.1, hspan.2]
  split
  · exact absurd rfl h.ne_nil
  · next heq => exact absurd (List.cons.inj heq).1 hpoint
  · rfl

/-- An amount is read where the letter of its part follows the digits. -/
theorem amount?_numeral (h : Numeral t n) (hc : isMark c = true) (rest : Text) :
    amount? part (t ++ c :: rest) =
      if marks part.mark c then
        (Number.readBinary? t).map fun x => (x.timesNat part.seconds, rest)
      else none := by
  rw [amount?, numeral?_numeral h hc]

/-- The digits of an amount stand for its value. -/
theorem Amount.numeral_value (a : Amount) : Numeral a.numeral a.value :=
  Number.numeral_zeros a.zeros a.value

theorem print_cons_none (part : Part) (ps : List (Part × Option Amount)) :
    print ((part, none) :: ps) = print ps := rfl

/-- A part that is there is written as its amount and its letter. -/
theorem print_cons_some (part : Part) (a : Amount) (ps : List (Part × Option Amount))
    (rest : Text) : print ((part, some a) :: ps) ++ rest =
      a.numeral ++ inCase a.capital part.mark :: (print ps ++ rest) := by
  simp [print]

/-- A part that is missing is passed over: the first amount that is there has another letter. -/
theorem amount?_print_eq_none
    (hletters : ∀ p ∈ ps, ∀ capital, isMark (inCase capital p.1.mark) = true)
    (hother : ∀ p ∈ ps, ∀ capital, marks part.mark (inCase capital p.1.mark) = false)
    (hrest : Text.Stops Text.isDecimal rest) : amount? part (print ps ++ rest) = none := by
  induction ps with
  | nil => rw [amount?, print, List.flatMap_nil, List.nil_append, numeral?_of_stops hrest]
  | cons p ps ih =>
    obtain ⟨first, a?⟩ := p
    cases a? with
    | none =>
      exact ih (fun p hp => hletters p (List.mem_cons_of_mem _ hp))
        fun p hp => hother p (List.mem_cons_of_mem _ hp)
    | some a =>
      -- the first amount that is there has the letter of another part
      have hletter := hletters _ (List.mem_cons_self ..) a.capital
      have hfirst := hother _ (List.mem_cons_self ..) a.capital
      rw [print_cons_some, amount?_numeral a.numeral_value hletter, hfirst]
      rfl

/-- **Written amounts are read back**, each as the seconds it stands for. -/
theorem amounts_print (hdistinct : Distinct (ps.map Prod.fst)) (hless : (secondsOf ps).sum < 2 ^ 53)
    (hrest : Text.Stops Text.isDecimal rest) :
    ∃ xs, amounts (ps.map Prod.fst) (print ps ++ rest) = (xs, rest) ∧
      List.Forall₂ Binary.Whole (secondsOf ps) xs := by
  induction ps with
  | nil => exact ⟨[], rfl, .nil⟩
  | cons p ps ih =>
    obtain ⟨part, a?⟩ := p
    rw [List.map_cons] at hdistinct ⊢
    cases a? with
    | none =>
      -- a part that is missing takes nothing: the next letter is that of another part
      obtain ⟨xs, hread, hwhole⟩ := ih hdistinct.of_cons hless
      have hletters : ∀ p ∈ ps, ∀ capital, isMark (inCase capital p.1.mark) = true :=
        fun p hp => hdistinct.of_cons.letters p.1 (List.mem_map_of_mem hp)
      have hother : ∀ p ∈ ps, ∀ capital, marks part.mark (inCase capital p.1.mark) = false :=
        fun p hp => (List.pairwise_cons.mp hdistinct.apart).1 p.1 (List.mem_map_of_mem hp)
      refine ⟨xs, ?_, hwhole⟩
      rw [print_cons_none, amounts, amount?_print_eq_none hletters hother hrest]
      exact hread
    | some a =>
      -- the sum bounds every amount, and the amount bounds its numeral
      have hsum : a.value * part.seconds + (secondsOf ps).sum < 2 ^ 53 := hless
      have hunit := hdistinct.units part (List.mem_cons_self ..)
      have hvalue : a.value < 2 ^ 53 := by
        have := Nat.le_mul_of_pos_right a.value hunit
        omega
      obtain ⟨xs, hread, hwhole⟩ := ih hdistinct.of_cons (by omega)
      obtain ⟨x, hx, hxwhole⟩ := Number.readBinary?_numeral a.numeral_value hvalue
      have hletter := hdistinct.letters part (List.mem_cons_self ..) a.capital
      have hmarks := hdistinct.marks part (List.mem_cons_self ..) a.capital
      -- so neither the numeral nor the product is rounded
      have hproduct : a.value * part.seconds < 2 ^ 53 := by omega
      refine ⟨x.timesNat part.seconds :: xs, ?_, .cons (hxwhole.timesNat hproduct) hwhole⟩
      rw [print_cons_some, amounts, amount?_numeral a.numeral_value hletter, if_pos hmarks, hx]
      show ((x.timesNat part.seconds :: (amounts (ps.map Prod.fst) (print ps ++ rest)).1,
        (amounts (ps.map Prod.fst) (print ps ++ rest)).2) : List Binary × Text) = _
      rw [hread]

/-! ## Whole durations -/

/-- A duration has no amounts if none of its parts is there. -/
theorem secondsOf_eq_nil_iff : secondsOf ps = [] ↔ ∀ p ∈ ps, p.2.isSome = false := by
  rw [secondsOf, List.filterMap_eq_nil_iff]
  refine forall₂_congr fun p _ => ?_
  cases p.2 with
  | none => exact iff_of_true rfl rfl
  | some a => exact iff_of_false nofun nofun

/-- A part that is there counts as many seconds as it has. -/
theorem sum_secondsOf_cons (part : Part) (a? : Option Amount) (ps : List (Part × Option Amount)) :
    (secondsOf ((part, a?) :: ps)).sum =
      Amount.valueOf a? * part.seconds + (secondsOf ps).sum := by
  cases a? with
  | none =>
    show (secondsOf ps).sum = 0 * part.seconds + (secondsOf ps).sum
    rw [Nat.zero_mul, Nat.zero_add]
  | some a => rfl

theorem sum_secondsOf_nil : (secondsOf []).sum = 0 := rfl

namespace Written

theorem sum_date (w : Written) : (secondsOf w.date).sum =
    Amount.valueOf w.years * (365 * 86400) + (Amount.valueOf w.months * (30 * 86400) +
      (Amount.valueOf w.weeks * (7 * 86400) + (Amount.valueOf w.days * 86400 + 0))) := by
  rw [date, dateParts, List.zip_cons_cons, List.zip_cons_cons, List.zip_cons_cons,
    List.zip_cons_cons, List.zip_nil_right, sum_secondsOf_cons, sum_secondsOf_cons,
    sum_secondsOf_cons, sum_secondsOf_cons, sum_secondsOf_nil]

theorem sum_time (w : Written) : (secondsOf w.time).sum =
    Amount.valueOf w.hours * 3600 + (Amount.valueOf w.minutes * 60 +
      (Amount.valueOf w.seconds * 1 + 0)) := by
  rw [time, timeParts, List.zip_cons_cons, List.zip_cons_cons, List.zip_cons_cons,
    List.zip_nil_right, sum_secondsOf_cons, sum_secondsOf_cons, sum_secondsOf_cons,
    sum_secondsOf_nil]

/-- The unit of each part is the one that the time of a duration counts it in. -/
theorem total_eq (w : Written) :
    w.total = (secondsOf w.date).sum + (secondsOf w.time).sum := by
  rw [w.sum_date, w.sum_time, total]
  omega

end Written

/-- What is written consists of digits and letters. -/
theorem isBlank_of_mem_print
    (hletters : ∀ p ∈ ps, ∀ capital, isMark (inCase capital p.1.mark) = true)
    (hc : c ∈ print ps) : Text.isBlank c = false := by
  obtain ⟨⟨part, a?⟩, hp, hc⟩ := List.mem_flatMap.mp hc
  cases a? with
  | none => cases hc
  | some a =>
    rcases List.mem_append.mp hc with hdigit | hletter
    · exact Text.isBlank_eq_false_of_isDigit (a.numeral_value.digits c hdigit)
    · have hmark := hletters (part, some a) hp a.capital
      rw [← List.mem_singleton.mp hletter] at hmark
      simp only [isMark, Bool.and_eq_true, Bool.not_eq_true'] at hmark
      exact hmark.2

namespace Written

theorem map_fst_date (w : Written) : w.date.map Prod.fst = dateParts := rfl

theorem map_fst_time (w : Written) : w.time.map Prod.fst = timeParts := rfl

/-- The amounts of a date are read back as whole numbers. -/
theorem amounts_date (w : Written) (hless : (secondsOf w.date).sum < 2 ^ 53)
    (hrest : Text.Stops Text.isDecimal rest) :
    ∃ xs, amounts dateParts (print w.date ++ rest) = (xs, rest) ∧
      List.Forall₂ Binary.Whole (secondsOf w.date) xs := by
  have hdistinct : Distinct (w.date.map Prod.fst) := distinct_dateParts
  exact amounts_print hdistinct hless hrest

/-- The amounts of a time are read back as whole numbers. -/
theorem amounts_time (w : Written) (hless : (secondsOf w.time).sum < 2 ^ 53)
    (hrest : Text.Stops Text.isDecimal rest) :
    ∃ xs, amounts timeParts (print w.time ++ rest) = (xs, rest) ∧
      List.Forall₂ Binary.Whole (secondsOf w.time) xs := by
  have hdistinct : Distinct (w.time.map Prod.fst) := distinct_timeParts
  exact amounts_print hdistinct hless hrest

end Written

theorem isBlank_of_mem_text (w : Written) (hc : c ∈ w.text) : Text.isBlank c = false := by
  have hstart : ∀ capital, Text.isBlank (inCase capital 'p') = false := by decide
  have htime : ∀ capital, Text.isBlank (inCase capital 't') = false := by decide
  have hdate : ∀ p ∈ w.date, ∀ capital, isMark (inCase capital p.1.mark) = true := by
    intro p hp
    exact distinct_dateParts.letters p.1 (w.map_fst_date ▸ List.mem_map_of_mem hp)
  -- amounts are digits, and what stands between them are the letters of the parts
  have hclock : ∀ p ∈ w.time, ∀ capital, isMark (inCase capital p.1.mark) = true := by
    intro p hp
    exact distinct_timeParts.letters p.1 (w.map_fst_time ▸ List.mem_map_of_mem hp)
  rcases List.mem_cons.mp hc with rfl | hc
  · exact hstart w.capitalStart
  rcases List.mem_append.mp hc with hc | hc
  · exact isBlank_of_mem_print hdate hc
  split at hc
  · cases hc
  · rcases List.mem_cons.mp hc with rfl | hc
    · exact htime w.capitalTime
    · exact isBlank_of_mem_print hclock hc

/-- **A written duration is read back**, amount by amount. -/
theorem read?_text (hsome : w.HasAmount) (hless : w.total < 2 ^ 53) :
    ∃ xs, read? w.text = some xs ∧
      List.Forall₂ Binary.Whole (secondsOf w.date ++ secondsOf w.time) xs := by
  have hstart : ∀ capital, marks 'p' (inCase capital 'p') = true := by decide
  have hseparates : ∀ capital, marks 't' (inCase capital 't') = true := by decide
  have hstops : ∀ capital, Text.isDecimal (inCase capital 't') = false := by decide
  rw [w.total_eq] at hless
  -- some amount is left when those that are missing are left out
  have hne : secondsOf w.date ++ secondsOf w.time ≠ [] := by
    obtain ⟨p, hp, hpsome⟩ := hsome
    intro hnil
    obtain ⟨hdate, htime⟩ := List.append_eq_nil_iff.mp hnil
    have hnone : p.2.isSome = false := (List.mem_append.mp hp).elim
      (secondsOf_eq_nil_iff.mp hdate p) (secondsOf_eq_nil_iff.mp htime p)
    rw [hpsome] at hnone
    cases hnone
  by_cases htime : secondsOf w.time = []
  · obtain ⟨xs, hread, hwhole⟩ := w.amounts_date (by omega) (Text.stops_nil _)
    have hxs : xs ≠ [] := by
      rintro rfl
      rw [htime, List.append_nil] at hne
      exact hne (List.forall₂_nil_right_iff.mp hwhole)
    refine ⟨xs, ?_, ?_⟩
    · rw [Written.text, if_pos htime, List.cons_append, read?, if_pos (hstart _), hread]
      dsimp only
      rw [List.append_nil, if_pos ⟨rfl, hxs⟩]
    · rwa [htime, List.append_nil]
  · have hstop := Text.stops_cons (hstops w.capitalTime) (print w.time)
    obtain ⟨xs, hdate, hxs⟩ := w.amounts_date (by omega) hstop
    obtain ⟨ys, hclock, hys⟩ := w.amounts_time (by omega) (Text.stops_nil _)
    have hwhole : List.Forall₂ Binary.Whole (secondsOf w.date ++ secondsOf w.time) (xs ++ ys) :=
      List.rel_append hxs hys
    have hxsys : xs ++ ys ≠ [] := by
      intro hnil
      rw [hnil] at hwhole
      exact hne (List.forall₂_nil_right_iff.mp hwhole)
    rw [List.append_nil] at hclock
    refine ⟨xs ++ ys, ?_, hwhole⟩
    rw [Written.text, if_neg htime, List.cons_append, read?, if_pos (hstart _), hdate]
    simp only [hseparates, if_true, hclock]
    exact if_pos ⟨trivial, hxsys⟩

/-! ## The clock -/

/-- Whole numbers add up exactly below the bound of the binary format. -/
theorem whole_foldl_add {ns : List Nat} {xs : List Binary} {x : Binary}
    (hwhole : List.Forall₂ Binary.Whole ns xs) (hx : Binary.Whole n x)
    (hless : n + ns.sum < 2 ^ 53) : Binary.Whole (n + ns.sum) (xs.foldl .add x) := by
  induction hwhole generalizing n x with
  | nil => exact hx
  | cons hy hrest ih =>
    rw [List.sum_cons, ← Nat.add_assoc] at hless ⊢
    exact ih (hx.add hy (by omega)) hless

/-- Nothing is rounded in the sum of amounts. -/
theorem whole_total {ns : List Nat} {xs : List Binary} (hwhole : List.Forall₂ Binary.Whole ns xs)
    (hless : ns.sum < 2 ^ 53) : Binary.Whole ns.sum (total xs) := by
  have h := whole_foldl_add hwhole (Binary.whole_ofNat (n := 0) (by decide)) (by omega)
  rwa [Nat.zero_add] at h

/-- **What a clock shows of a whole number of seconds.** -/
theorem clock_whole {x : Binary} (hx : Binary.Whole n x) (hless : n < 2 ^ 53) :
    clock x = .ok (twoDigits (Text.ofNat (n / 3600)) ++
      ':' :: twoDigits (Text.ofNat (n % 3600 / 60)) ++
      ':' :: twoDigits (Text.ofNat (n % 60))) := by
  -- what is left of a whole number is whole, so it can be divided again
  have hrestless : n % 3600 < 2 ^ 53 := Nat.lt_of_le_of_lt (Nat.mod_le n 3600) hless
  obtain ⟨rest, hhours, hrest⟩ := hx.divide hless (d := 3600) (by decide)
  obtain ⟨_, hminutes, -⟩ := hrest.divide hrestless (d := 60) (by decide)
  obtain ⟨left, hseconds, hleft⟩ := hx.divide hless (d := 60) (by decide)
  rw [clock, hhours]
  dsimp only
  rw [hminutes, hseconds]
  dsimp only [Option.elim]
  rw [hleft.toInt?]
  rfl

/-- Two digits at least show a number, with a zero in front of it or without. -/
theorem numeral_twoDigits (n : Nat) :
    Numeral (twoDigits (Text.ofNat n)) n ∧ 2 ≤ (twoDigits (Text.ofNat n)).length := by
  refine ⟨Number.numeral_zeros _ n, ?_⟩
  rw [twoDigits, Text.padLeft, List.length_append, List.length_replicate]
  omega

/-- **A duration keeps its time.**  The clock shows hours, minutes below 60 and seconds below 60, in
two digits at least, and together they are the time of the duration. -/
theorem duration_text (hsome : w.HasAmount) (hless : w.total < 2 ^ 53) :
    ∃ hh mm ss h m s, Filter.duration (.str w.text) = pure (.str (hh ++ ':' :: mm ++ ':' :: ss)) ∧
      (Numeral hh h ∧ 2 ≤ hh.length) ∧ (Numeral mm m ∧ 2 ≤ mm.length) ∧
        (Numeral ss s ∧ 2 ≤ ss.length) ∧ m < 60 ∧ s < 60 ∧ h * 3600 + m * 60 + s = w.total := by
  obtain ⟨xs, hread, hwhole⟩ := read?_text hsome hless
  have hsum : (secondsOf w.date ++ secondsOf w.time).sum = w.total := by
    rw [List.sum_append, w.total_eq]
  -- the amounts add up exactly, and the clock shows the sum
  have htotal := whole_total hwhole (hsum ▸ hless)
  rw [hsum] at htotal
  have hclock := clock_whole htotal hless
  have htext : (Value.str w.text).text = .ok w.text := rfl
  have hstrip : Text.strip w.text = w.text :=
    Text.strip_eq_self (Text.trimmed_of_not_blank fun c hc => isBlank_of_mem_text w hc)
  refine ⟨_, _, _, w.total / 3600, w.total % 3600 / 60, w.total % 60, ?_, numeral_twoDigits _,
    numeral_twoDigits _, numeral_twoDigits _, ?_, ?_, ?_⟩
  · rw [Filter.duration, htext, Outcome.liftM_ok, pure_bind, hstrip, hread]
    dsimp only
    rw [hclock, Outcome.liftM_ok, pure_bind]
  · omega
  · omega
  · omega

/-- Months and minutes, weeks beside days, a zero in front and a small letter; the hours are more
than a clock has. -/
theorem duration_text_mixed :
    let w : Written := { months := some { value := 1 }, days := some { value := 0 },
                         minutes := some { value := 90, zeros := 1, capital := false },
                         seconds := some { value := 61 } }
    w.HasAmount ∧ w.total < 2 ^ 53 ∧ w.text = "P1M0DT090m61S".toList ∧
      ∃ hh mm ss h m s,
        Filter.duration (.str w.text) = pure (.str (hh ++ ':' :: mm ++ ':' :: ss)) ∧
          (Numeral hh h ∧ 2 ≤ hh.length) ∧ (Numeral mm m ∧ 2 ≤ mm.length) ∧
            (Numeral ss s ∧ 2 ≤ ss.length) ∧ m < 60 ∧ s < 60 ∧ h * 3600 + m * 60 + s = 2597461 := by
  intro w
  have hsome : w.HasAmount := ⟨_, List.mem_cons_of_mem _ (List.mem_cons_self ..), rfl⟩
  have hless : w.total < 2 ^ 53 := by decide
  exact ⟨hsome, hless, by decide, duration_text hsome hless⟩

end Clipbook.Duration
