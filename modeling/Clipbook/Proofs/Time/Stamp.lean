import Clipbook.Proofs.Number.Integer
import Clipbook.Proofs.Outcome
import Clipbook.Time.Instant

/-!
# Clipbook — what stamps are written with

The year of a stamp is never negative, so that its numerals have no signs: a stamp is made of digits
and of a few marks that stand between them.

Main results:

* `Stamp.isMark_of_mem_stampOf` — the characters of a stamp.
* `Stamp.stampOf_ne_nil` — there are some.
-/

namespace Clipbook

namespace Stamp

variable {c : Char} {t : Text} {n : Int} {d : Date} {i : Instant}

/-- Digits, and what stands between the numerals of a stamp. -/
def IsMark (c : Char) : Prop :=
  c.isDigit = true ∨ c ∈ ['-', 'T', ':', '.', 'Z']

instance (c : Char) : Decidable (IsMark c) :=
  inferInstanceAs (Decidable (_ ∨ _))

/-- A number that is not negative is made of digits. -/
theorem isMark_of_mem_ofInt (hn : 0 ≤ n) (hc : c ∈ Text.ofInt n) : IsMark c := by
  obtain ⟨m, rfl⟩ := Int.eq_ofNat_of_zero_le hn
  exact .inl (Text.isDigit_of_mem_ofNat hc)

/-- Zeros in front of a text of marks leave it one. -/
theorem isMark_of_mem_padLeft {width : Nat} (ht : ∀ c ∈ t, IsMark c)
    (hc : c ∈ Text.padLeft '0' width t) : IsMark c := by
  rcases List.mem_append.mp hc with hc | hc
  · rw [List.eq_of_mem_replicate hc]
    exact .inl rfl
  · exact ht c hc

/-- A number with zeros in front is made of digits. -/
theorem isMark_of_mem_numeral {width m : Nat} (hc : c ∈ Text.padLeft '0' width (Text.ofNat m)) :
    IsMark c :=
  isMark_of_mem_padLeft (fun _ hd => .inl (Text.isDigit_of_mem_ofNat hd)) hc

theorem isMark_of_mem_date (hyear : 0 ≤ d.year) (hc : c ∈ d.text) : IsMark c := by
  rw [Date.text, List.mem_append, List.mem_cons, List.mem_append, List.mem_cons] at hc
  rcases hc with (hc | rfl | hc) | rfl | hc
  · exact isMark_of_mem_padLeft (fun _ hd => isMark_of_mem_ofInt hyear hd) hc
  · exact .inr (by decide)
  · exact isMark_of_mem_numeral hc
  · exact .inr (by decide)
  · exact isMark_of_mem_numeral hc

/-- The time of a clock is made of digits and marks. -/
theorem isMark_of_mem_clock {seconds : Nat} (hc : c ∈ clockText seconds) : IsMark c := by
  rw [clockText, List.mem_append, List.mem_cons, List.mem_append, List.mem_cons] at hc
  rcases hc with (hc | rfl | hc) | rfl | hc
  · exact isMark_of_mem_numeral hc
  · exact .inr (by decide)
  · exact isMark_of_mem_numeral hc
  · exact .inr (by decide)
  · exact isMark_of_mem_numeral hc

/-- The years of the calendar are not negative. -/
theorem year_of_date (h : i.date = .ok d) : 0 ≤ d.year := by
  rw [Instant.date] at h
  split at h
  · next hyear =>
    rw [← Except.ok.inj h]
    omega
  · cases h

theorem isMark_of_mem_stamp (h : i.stamp = .ok t) (hc : c ∈ t) : IsMark c := by
  obtain ⟨d, hd, rfl⟩ := Except.map_eq_ok_iff.mp h
  simp only [List.mem_append, List.mem_cons, List.not_mem_nil, or_false] at hc
  rcases hc with ((hc | rfl | hc) | rfl | hc) | rfl
  · exact isMark_of_mem_date (year_of_date hd) hc
  · exact .inr (by decide)
  · exact isMark_of_mem_clock hc
  · exact .inr (by decide)
  · exact isMark_of_mem_numeral hc
  · exact .inr (by decide)

/-- **A stamp is made of digits and marks.** -/
theorem isMark_of_mem_stampOf (h : stampOf n = .ok t) (hc : c ∈ t) : IsMark c := by
  obtain ⟨i, -, hi⟩ := Except.bind_eq_ok_iff.mp h
  exact isMark_of_mem_stamp hi hc

theorem stampOf_ne_nil (h : stampOf n = .ok t) : t ≠ [] := by
  obtain ⟨i, -, hi⟩ := Except.bind_eq_ok_iff.mp h
  obtain ⟨d, -, rfl⟩ := Except.map_eq_ok_iff.mp hi
  exact List.append_ne_nil_of_right_ne_nil _ (List.cons_ne_nil _ _)

theorem isBlank_eq_false_of_isMark (h : IsMark c) : Text.isBlank c = false := by
  have hmarks : (['-', 'T', ':', '.', 'Z'].all fun c => !Text.isBlank c) = true := by decide
  refine h.elim Text.isBlank_eq_false_of_isDigit fun hc => ?_
  exact (Bool.not_eq_true' _).mp (List.all_eq_true.mp hmarks c hc)

end Stamp

end Clipbook
