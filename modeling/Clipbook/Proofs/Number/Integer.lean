import Clipbook.Number.Integer
import Clipbook.Proofs.Text.Trimmed
import Mathlib.Data.List.TakeWhile

/-!
# Clipbook — numerals read back

A natural number is written in decimal digits, and reading them gives the number back, as long as
they are not too many.  There are digits that spell no number; a text of digits can be read if it
holds none of them.

Main results:

* `readInt_ofNat` — a numeral reads back.
* `exists_readInt_iff` — which texts of digits can be read.
-/

namespace Clipbook

/-! ## Digits -/

namespace Text

variable {c : Char} {n : Nat}

theorem toNat_of_isDigit (h : c.isDigit = true) : 48 ≤ c.toNat ∧ c.toNat ≤ 57 := by
  rw [Char.isDigit, Bool.and_eq_true, decide_eq_true_eq, decide_eq_true_eq] at h
  exact ⟨UInt32.le_iff_toNat_le.mp h.1, UInt32.le_iff_toNat_le.mp h.2⟩

theorem isBlank_eq_false_of_isDigit (h : c.isDigit = true) : isBlank c = false := by
  rw [← Bool.not_eq_true]
  intro hblank
  have hdigit := toNat_of_isDigit h
  have hapart := toNat_of_isBlank hblank
  omega

/-- A digit stands for its distance from zero. -/
theorem decimalValue?_of_isDigit (h : c.isDigit = true) :
    decimalValue? c = some (c.toNat - '0'.toNat) := by
  have hdigit := toNat_of_isDigit h
  rw [decimalValue?, if_pos (by omega), if_pos h]

/-- No blank is among the ten digits of a script. -/
theorem decimalZeros_apart_blankRanges :
    Ranges.apart (decimalZeros.map fun z => (z, z + 9)) blankRanges = true := by
  decide +kernel

theorem isBlank_eq_false_of_isDecimal (h : isDecimal c = true) : isBlank c = false := by
  rw [isDecimal, decimalValue?] at h
  split at h
  · split at h
    · next hdigit => exact isBlank_eq_false_of_isDigit hdigit
    · cases h
  · rw [Option.isSome_map, List.find?_isSome] at h
    obtain ⟨z, hz, hrange⟩ := h
    rw [Bool.and_eq_true, decide_eq_true_eq, decide_eq_true_eq] at hrange
    refine Ranges.contains_eq_false_of_apart decimalZeros_apart_blankRanges
      (Ranges.contains_eq_true_iff.mpr ⟨(z, z + 9), List.mem_map_of_mem hz, hrange.1, ?_⟩)
    exact Nat.le_of_lt_succ hrange.2

theorem numeralRanges_apart_blankRanges : numeralRanges.apart blankRanges = true := by
  decide +kernel

/-- No number is a blank, of whatever kind it is. -/
theorem isBlank_eq_false_of_isNumeric (h : isNumeric c = true) : isBlank c = false := by
  rw [isNumeric, Bool.or_eq_true] at h
  rcases h with h | h
  · exact isBlank_eq_false_of_isDecimal h
  · exact Ranges.contains_eq_false_of_apart numeralRanges_apart_blankRanges h

/-- Digits in circles and the like are numeral signs. -/
theorem ornamentalDigits_within_numeralRanges :
    ∀ a ∈ ornamentalDigits, ∃ b ∈ numeralRanges, b.1 ≤ a.1 ∧ a.2 ≤ b.2 := by
  decide +kernel

theorem isNumeric_of_isDigit (h : isDigit c = true) : isNumeric c = true := by
  rw [isDigit, Bool.or_eq_true] at h
  rw [isNumeric, Bool.or_eq_true]
  refine h.imp_right fun h => ?_
  obtain ⟨a, ha, hlo, hhi⟩ := Ranges.contains_eq_true_iff.mp h
  obtain ⟨b, hb, hlo', hhi'⟩ := ornamentalDigits_within_numeralRanges a ha
  exact Ranges.contains_eq_true_iff.mpr ⟨b, hb, Nat.le_trans hlo' hlo, Nat.le_trans hhi hhi'⟩

/-- Different numbers have different numerals. -/
theorem ofNat_injective : Function.Injective ofNat := fun m n h => by
  rw [← Nat.ofDigitChars_ten_toDigits (n := m), ← Nat.ofDigitChars_ten_toDigits (n := n)]
  exact congrArg _ h

theorem isDigit_of_mem_ofNat (h : c ∈ ofNat n) : c.isDigit = true :=
  Nat.isDigit_of_mem_toDigits (by decide) (Nat.le_refl _) h

theorem ofNat_ne_nil (n : Nat) : ofNat n ≠ [] :=
  Nat.toDigits_ne_nil

/-- A numeral starts with a zero only if it is that of zero. -/
theorem head?_ofNat_ne (hn : 0 < n) : (ofNat n).head? ≠ some '0' := by
  have hdigit : ∀ d < 10, 0 < d → d.digitChar ≠ '0' := by decide
  induction n using Nat.strongRecOn with
  | _ n ih =>
    by_cases hlt : n < 10
    · rw [ofNat, Nat.toDigits_of_lt_base hlt, List.head?_cons]
      exact fun h => hdigit n hlt hn (Option.some.inj h)
    · -- the first digit is that of the tenth part
      have hstep : ofNat n = ofNat (n / 10) ++ [(n % 10).digitChar] :=
        Nat.toDigits_of_base_le (by decide) (Nat.le_of_not_lt hlt)
      rw [hstep, List.head?_append, Option.or_of_isSome (by simp [ofNat_ne_nil])]
      exact ih (n / 10) (by omega) (by omega)

/-- A numeral has as many digits as its number needs. -/
theorem length_ofNat_le_iff {k : Nat} (hk : 0 < k) : (ofNat n).length ≤ k ↔ n < Nat.pow 10 k :=
  Nat.length_toDigits_le_iff (by decide) hk

/-- The first number with one digit more. -/
theorem length_ofNat_pow {k : Nat} (hk : 0 < k) : (ofNat (Nat.pow 10 k)).length = k + 1 := by
  have hless : Nat.pow 10 k < Nat.pow 10 (k + 1) :=
    Nat.pow_lt_pow_right (by decide) (Nat.lt_succ_self k)
  have hle : (ofNat (Nat.pow 10 k)).length ≤ k + 1 :=
    (length_ofNat_le_iff (Nat.succ_pos k)).mpr hless
  have hlt : ¬(ofNat (Nat.pow 10 k)).length ≤ k :=
    fun h => Nat.lt_irrefl _ ((length_ofNat_le_iff hk).mp h)
  omega

end Text

/-! ## Integers -/

namespace Number

variable {t : Text}

theorem digitRun_of_isDigit {t : Text} (h : ∀ c ∈ t, c.isDigit = true) :
    digitRun t = (t.map fun c => c.toNat - '0'.toNat, []) := by
  induction t with
  | nil => rfl
  | cons c t ih =>
    have hc := h c (List.mem_cons_self ..)
    have hvalue := Text.decimalValue?_of_isDigit hc
    have ih := ih fun d hd => h d (List.mem_cons_of_mem _ hd)
    unfold digitRun
    split
    · next heq => cases heq
    · next heq =>
      -- an underscore is no digit
      obtain ⟨rfl, -⟩ := List.cons.inj heq
      exact absurd hc (by decide)
    · next heq =>
      obtain ⟨rfl, rfl⟩ := List.cons.inj heq
      rw [hvalue, ih]
      rfl

/-- A text of digits has no marks between them. -/
theorem digits_of_isDigit {t : Text} (h : ∀ c ∈ t, c.isDigit = true) :
    digits t = (t.map fun c => c.toNat - '0'.toNat, []) := by
  unfold digits
  split
  · exact absurd (h '_' (List.mem_cons_self ..)) (by decide)
  · exact digitRun_of_isDigit h

theorem sign_of_isDigit {t : Text} (h : ∀ c ∈ t, c.isDigit = true) : sign t = (false, t) := by
  unfold sign
  split
  · exact absurd (h '-' (List.mem_cons_self ..)) (by decide)
  · exact absurd (h '+' (List.mem_cons_self ..)) (by decide)
  · rfl

theorem ofDigits_ofNat (n : Nat) :
    ofDigits ((Text.ofNat n).map fun c => c.toNat - '0'.toNat) = n := by
  have hread := Nat.ofDigitChars_ten_toDigits (n := n)
  rw [Nat.ofDigitChars_eq_foldl] at hread
  rw [ofDigits, List.foldl_map]
  simp only [Nat.mul_comm _ 10]
  exact hread

/-- **A numeral reads back**, if it has not too many digits. -/
theorem readInt_ofNat (n : Nat) :
    readInt (Text.ofNat n) =
      if n < Nat.pow 10 maxDigits then .ok n else .error (.longNumeral (Text.ofNat n).length) := by
  have hdigit : ∀ c ∈ Text.ofNat n, c.isDigit = true := fun c => Text.isDigit_of_mem_ofNat
  have hstrip : Text.stripStart (Text.ofNat n) = Text.ofNat n :=
    Text.trimStart_eq_self fun c hc =>
      Text.isBlank_eq_false_of_isDigit (hdigit c (List.mem_of_head? hc))
  have hlength : (Text.ofNat n).length ≤ maxDigits ↔ n < Nat.pow 10 maxDigits :=
    Text.length_ofNat_le_iff (by decide)
  have hne := Text.ofNat_ne_nil n
  rw [readInt, hstrip, sign_of_isDigit hdigit]
  simp only [digits_of_isDigit hdigit, List.length_map, List.map_eq_nil_iff]
  by_cases hn : n < Nat.pow 10 maxDigits
  · rw [if_neg (Nat.not_lt.mpr (hlength.mpr hn)), if_neg (by simp [hne, Text.blank]),
      ofDigits_ofNat, if_pos hn]
    rfl
  · rw [if_pos (Nat.lt_of_not_le fun hle => hn (hlength.mp hle)), if_neg hn]

/-- Among numbers, digits that spell one are read up to the first that does not. -/
theorem digitRun_of_numeric (h : ∀ c ∈ t, Text.isNumeric c = true) :
    (digitRun t).1.length = (t.takeWhile Text.isDecimal).length ∧
      (digitRun t).2 = t.dropWhile Text.isDecimal := by
  induction t with
  | nil => exact ⟨rfl, rfl⟩
  | cons c t ih =>
    have ih := ih fun d hd => h d (List.mem_cons_of_mem _ hd)
    unfold digitRun
    split
    · next heq => cases heq
    · next heq =>
      -- an underscore is no digit
      obtain ⟨rfl, -⟩ := List.cons.inj heq
      exact absurd (h '_' (List.mem_cons_self ..)) (by decide)
    · next heq =>
      obtain ⟨rfl, rfl⟩ := List.cons.inj heq
      cases hvalue : Text.decimalValue? c with
      | some d =>
        have hdecimal : Text.isDecimal c = true := by rw [Text.isDecimal, hvalue]; rfl
        rw [List.takeWhile_cons_of_pos hdecimal, List.dropWhile_cons_of_pos hdecimal]
        exact ⟨congrArg Nat.succ ih.1, ih.2⟩
      | none =>
        have hdecimal : ¬Text.isDecimal c = true := by rw [Text.isDecimal, hvalue]; nofun
        rw [List.takeWhile_cons_of_neg hdecimal, List.dropWhile_cons_of_neg hdecimal]
        exact ⟨rfl, rfl⟩

theorem sign_of_isNumeric {c : Char} (h : Text.isNumeric c = true) (u : Text) :
    sign (c :: u) = (false, c :: u) := by
  unfold sign
  split
  · next heq =>
    obtain ⟨rfl, -⟩ := List.cons.inj heq
    exact absurd h (by decide)
  · next heq =>
    obtain ⟨rfl, -⟩ := List.cons.inj heq
    exact absurd h (by decide)
  · rfl

/-- No underscore stands before a number. -/
theorem digits_of_isNumeric {c : Char} (h : Text.isNumeric c = true) (u : Text) :
    digits (c :: u) = digitRun (c :: u) := by
  unfold digits
  split
  · next heq =>
    obtain ⟨rfl, -⟩ := List.cons.inj heq
    exact absurd h (by decide)
  · rfl

/-- Behind the digits that are read nothing is blank, so all are read or something is left over. -/
theorem blank_digitRun_iff (h : ∀ c ∈ t, Text.isNumeric c = true) :
    Text.blank (digitRun t).2 = true ↔ ∀ c ∈ t, Text.isDecimal c = true := by
  rw [(digitRun_of_numeric h).2, ← List.dropWhile_eq_nil_iff]
  constructor
  · intro hblank
    rw [Text.blank, List.all_eq_true] at hblank
    refine List.eq_nil_iff_forall_not_mem.mpr fun d hd => ?_
    have hnumeric := h d ((List.dropWhile_suffix Text.isDecimal).subset hd)
    have hnot := Text.isBlank_eq_false_of_isNumeric hnumeric
    rw [hblank d hd] at hnot
    cases hnot
  · intro hnil
    rw [hnil]
    rfl

/-- How a text of digits and other numbers is read. -/
theorem readInt_of_isNumeric (hne : t ≠ []) (h : ∀ c ∈ t, Text.isNumeric c = true) :
    readInt t =
      if maxDigits < (t.takeWhile Text.isDecimal).length then
        .error (.longNumeral (t.takeWhile Text.isDecimal).length)
      else if t.all Text.isDecimal = true then .ok (ofDigits (digitRun t).1)
      else .error (.notInteger t) := by
  obtain ⟨c, u, rfl⟩ := List.exists_cons_of_ne_nil hne
  have hfirst := h c (List.mem_cons_self ..)
  have hstrip : Text.stripStart (c :: u) = c :: u :=
    Text.trimStart_eq_self fun d hd => by
      rw [← Option.some.inj hd]
      exact Text.isBlank_eq_false_of_isNumeric hfirst
  have hlength := (digitRun_of_numeric h).1
  have hblank := blank_digitRun_iff h
  rw [readInt, hstrip, sign_of_isNumeric hfirst]
  simp only [digits_of_isNumeric hfirst, hlength, List.all_eq_true]
  by_cases hall : ∀ d ∈ c :: u, Text.isDecimal d = true
  -- as many values as characters, and there is at least one
  · have hvalues : (digitRun (c :: u)).1 ≠ [] := by
      rw [List.takeWhile_eq_self_iff.mpr hall] at hlength
      exact List.ne_nil_of_length_eq_add_one hlength
    have hread : ¬((digitRun (c :: u)).1 = [] ∨ (!Text.blank (digitRun (c :: u)).2) = true) := by
      rw [hblank.mpr hall]
      exact fun hstop => hstop.elim hvalues nofun
    rw [if_neg hread, if_pos hall]
    rfl
  · have hstop : (digitRun (c :: u)).1 = [] ∨ (!Text.blank (digitRun (c :: u)).2) = true := by
      right
      rw [Bool.not_eq_true', ← Bool.not_eq_true, hblank]
      exact hall
    rw [if_pos hstop, if_neg hall]

/-- **Digits and other numbers spell one** if each of them may stand in it and they are not too
many. -/
theorem exists_readInt_iff (hne : t ≠ []) (h : ∀ c ∈ t, Text.isNumeric c = true) :
    (∃ n, readInt t = .ok n) ↔ (∀ c ∈ t, Text.isDecimal c = true) ∧ t.length ≤ maxDigits := by
  rw [readInt_of_isNumeric hne h]
  simp only [List.all_eq_true]
  by_cases hall : ∀ c ∈ t, Text.isDecimal c = true
  · rw [List.takeWhile_eq_self_iff.mpr hall, if_pos hall, and_iff_right hall]
    split
    · next hlong => exact iff_of_false nofun (Nat.not_le.mpr hlong)
    · next hshort => exact iff_of_true ⟨_, rfl⟩ (Nat.not_lt.mp hshort)
  · rw [if_neg hall]
    refine iff_of_false ?_ fun hread => hall hread.1
    split <;> nofun

end Number

end Clipbook
