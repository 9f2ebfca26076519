import Clipbook.Proofs.Number.Integer
import Mathlib.Tactic.Ring

/-!
# Clipbook — whole numbers among binary ones

A natural number below `2^53` has a binary number of its own, and as long as sums, multiples and
quotients stay below that bound nothing is rounded.  The reason is that rounding only chooses an
exponent: it moves the number up to 53 bits, or leaves it where it is, and loses no digit of it.

Main results:

* `whole_ofRatio` — a quotient that is a whole number is not rounded.
* `Whole.add`, `Whole.timesNat`, `Whole.divide` — arithmetic on whole numbers is exact.
* `readBinary?_numeral` — the digits of a whole number are read exactly.
-/

namespace Clipbook

namespace Binary

variable {n n' den : Nat} {x y : Binary}

/-- A binary number that is a natural number, with any number of zeros behind its last bit. -/
def Whole (n : Nat) (x : Binary) : Prop :=
  ∃ k : Nat, x = finite false (n * 2 ^ k) (-(k : Int))

/-! ## Rounding -/

theorem ratio_neg (m k : Nat) : ratio m (-(k : Int)) = (m, 2 ^ k) := by
  cases k with
  | zero => simp [ratio]
  | succ k =>
    rw [ratio, if_neg (by omega), Int.neg_neg]
    rfl

theorem scale_neg (num den k : Nat) : scale num den (-(k : Int)) = (num * 2 ^ k, den) := by
  cases k with
  | zero => simp [scale]
  | succ k =>
    rw [scale, if_neg (by omega), Int.neg_neg]
    rfl

/-- A quotient without remainder is not rounded. -/
theorem roundQuotient_mul (hden : 0 < den) : roundQuotient (n * den) den = n := by
  rw [roundQuotient, Nat.mul_mod_left, Nat.mul_div_cancel n hden]
  exact if_pos hden

/-- The logarithms of a multiple differ by the one of `n`, or by one more. -/
theorem exists_log2_mul (hn : n ≠ 0) (hless : n < 2 ^ 53) (hden : 0 < den) :
    ∃ j, (n * den).log2 = den.log2 + j ∧ n < 2 ^ (j + 1) ∧ j ≤ 53 := by
  have hnum : n * den ≠ 0 := Nat.mul_ne_zero hn (Nat.ne_of_gt hden)
  have hdenlo : 2 ^ den.log2 ≤ den := Nat.log2_self_le (Nat.ne_of_gt hden)
  have hdenhi : den < 2 ^ (den.log2 + 1) := Nat.lt_log2_self
  have hnumlo : 2 ^ (n * den).log2 ≤ n * den := Nat.log2_self_le hnum
  have hnumhi : n * den < 2 ^ ((n * den).log2 + 1) := Nat.lt_log2_self
  -- both logarithms are squeezed between powers of two
  obtain ⟨j, hj⟩ : ∃ j, (n * den).log2 = den.log2 + j := by
    refine Nat.exists_eq_add_of_le ((Nat.le_log2 hnum).mpr (Nat.le_trans hdenlo ?_))
    exact Nat.le_mul_of_pos_left den (Nat.pos_of_ne_zero hn)
  rw [hj] at hnumlo hnumhi
  refine ⟨j, hj, ?_, ?_⟩
  · have hmul : n * 2 ^ den.log2 < 2 ^ (j + 1) * 2 ^ den.log2 := by
      calc n * 2 ^ den.log2 ≤ n * den := Nat.mul_le_mul_left n hdenlo
        _ < 2 ^ (den.log2 + j + 1) := hnumhi
        _ = 2 ^ (j + 1) * 2 ^ den.log2 := by rw [← Nat.pow_add]; congr 1; omega
    exact Nat.lt_of_mul_lt_mul_right hmul
  · have hpow : 2 ^ (den.log2 + j) < 2 ^ (53 + (den.log2 + 1)) := by
      calc 2 ^ (den.log2 + j) ≤ n * den := hnumlo
        _ < 2 ^ 53 * 2 ^ (den.log2 + 1) := Nat.mul_lt_mul'' hless hdenhi
        _ = 2 ^ (53 + (den.log2 + 1)) := (Nat.pow_add ..).symm
    have := (Nat.pow_lt_pow_iff_right (by decide)).mp hpow
    omega

/-- The exponent of a whole number is not above zero, and leaves its mantissa 53 bits. -/
theorem exists_exponentOf (hn : n ≠ 0) (hless : n < 2 ^ 53) (hden : 0 < den) :
    ∃ k : Nat, exponentOf (n * den) den = -(k : Int) ∧ n * 2 ^ k < 2 ^ 53 := by
  obtain ⟨j, hj, hbound, hjless⟩ := exists_log2_mul hn hless hden
  -- the guess by the logarithms is right or off by one in either direction
  have hguess : ((n * den).log2 : Int) - den.log2 - 52 = (j : Int) - 52 := by
    rw [hj]
    omega
  rw [exponentOf, hguess]
  by_cases hj53 : j = 53
  · -- it is one too high
    subst hj53
    have hscale : scale (n * den) den ((53 : Nat) - 52) = (n * den, den * 2) := by
      rfl
    have hhalf : n * den / (den * 2) < Nat.pow 2 52 := by
      rw [← Nat.div_div_eq_div_mul, Nat.mul_div_cancel n hden]
      show n / 2 < 2 ^ 52
      omega
    refine ⟨0, ?_, by omega⟩
    rw [hscale, if_pos hhalf]
    rfl
  · obtain ⟨k, hk⟩ : ∃ k, j + k = 52 := ⟨52 - j, by omega⟩
    have hneg : (j : Int) - 52 = -(k : Int) := by omega
    have hquotient : n * den * 2 ^ k / den = n * 2 ^ k := by
      rw [Nat.mul_right_comm, Nat.mul_div_cancel _ hden]
    rw [hneg, scale_neg, hquotient]
    by_cases hsmall : n * 2 ^ k < Nat.pow 2 52
    · -- there is one more bit to fill
      have hdouble : n * 2 ^ (k + 1) = n * 2 ^ k * 2 := by rw [Nat.pow_succ, Nat.mul_assoc]
      have hless52 : n * 2 ^ k < 2 ^ 52 := hsmall
      refine ⟨k + 1, ?_, by omega⟩
      rw [if_pos hsmall]
      omega
    · refine ⟨k, ?_, ?_⟩
      · rw [if_neg hsmall]
        omega
      · calc n * 2 ^ k < 2 ^ (j + 1) * 2 ^ k :=
              Nat.mul_lt_mul_of_pos_right hbound (Nat.two_pow_pos k)
          _ = 2 ^ 53 := by rw [← Nat.pow_add]; congr 1; omega

theorem whole_zero : Whole 0 (finite false 0 (-1074)) := by
  refine ⟨1074, ?_⟩
  rw [Nat.zero_mul]
  rfl

/-- **A quotient that is a whole number is not rounded.** -/
theorem whole_ofRatio (hless : n < 2 ^ 53) (hden : 0 < den) :
    Whole n (ofRatio false (n * den) den) := by
  by_cases hn : n = 0
  · subst hn
    rw [ofRatio, if_pos (Nat.zero_mul den)]
    exact whole_zero
  · have hnum : n * den ≠ 0 := Nat.mul_ne_zero hn (Nat.ne_of_gt hden)
    obtain ⟨k, hexponent, hbound⟩ := exists_exponentOf hn hless hden
    -- the quotient is a whole number, so rounding changes nothing, and there is no carry
    have hmantissa : roundQuotient (n * den * 2 ^ k) den = n * 2 ^ k := by
      rw [Nat.mul_right_comm]
      exact roundQuotient_mul hden
    have hcarry : ¬n * 2 ^ k = Nat.pow 2 53 := Nat.ne_of_lt hbound
    refine ⟨k, ?_⟩
    rw [ofRatio, if_neg hnum]
    dsimp only
    rw [hexponent, scale_neg, hmantissa, if_neg hcarry]
    exact if_neg (by dsimp only; omega)

/-- Whole numbers below the bound of the format are exact. -/
theorem whole_ofNat (hless : n < 2 ^ 53) : Whole n (ofNat n) := by
  have h := whole_ofRatio hless Nat.one_pos
  rwa [Nat.mul_one] at h

/-! ## Arithmetic -/

theorem Whole.toInt? (h : Whole n x) : x.toInt? = some (n : Int) := by
  obtain ⟨k, rfl⟩ := h
  rw [Binary.toInt?, ratio_neg]
  dsimp only
  rw [if_pos (Nat.mul_mod_left ..), Nat.mul_div_cancel n (Nat.two_pow_pos k)]
  rfl

/-- Products of whole numbers are exact below the bound of the format. -/
theorem Whole.timesNat (h : Whole n x) (hless : n * n' < 2 ^ 53) :
    Whole (n * n') (x.timesNat n') := by
  obtain ⟨k, rfl⟩ := h
  have hproduct := whole_ofRatio hless (Nat.two_pow_pos k)
  rw [Binary.timesNat, ratio_neg]
  rwa [Nat.mul_right_comm] at hproduct

/-- Sums of whole numbers are exact below the bound of the format. -/
theorem Whole.add (h : Whole n x) (h' : Whole n' y) (hless : n + n' < 2 ^ 53) :
    Whole (n + n') (x.add y) := by
  obtain ⟨k, rfl⟩ := h
  obtain ⟨k', rfl⟩ := h'
  have hsum := whole_ofRatio hless (Nat.mul_pos (Nat.two_pow_pos k) (Nat.two_pow_pos k'))
  have hnum : (n + n') * (2 ^ k * 2 ^ k') = n * 2 ^ k * 2 ^ k' + n' * 2 ^ k' * 2 ^ k := by ring
  rw [Binary.add, ratio_neg, ratio_neg]
  rwa [hnum] at hsum

/-- **Division of whole numbers is exact**: neither the quotient nor the remainder is rounded. -/
theorem Whole.divide (h : Whole n x) (hless : n < 2 ^ 53) {d : Nat} (hd : 0 < d) :
    ∃ y, x.divide d = some (n / d, y) ∧ Whole (n % d) y := by
  obtain ⟨k, rfl⟩ := h
  have hpow : 0 < 2 ^ k := Nat.two_pow_pos k
  have hleft : n * 2 ^ k % (d * 2 ^ k) = n % d * 2 ^ k := Nat.mul_mod_mul_right ..
  have hmultiple : n * 2 ^ k - n % d * 2 ^ k = n / d * d * 2 ^ k := by
    rw [← Nat.sub_mul]
    congr 1
    have := Nat.div_add_mod' n d
    omega
  have hmodless : n % d < 2 ^ 53 := Nat.lt_of_le_of_lt (Nat.mod_le n d) hless
  have hmulless : n / d * d < 2 ^ 53 := Nat.lt_of_le_of_lt (Nat.div_mul_le_self n d) hless
  have hdivless : n / d < 2 ^ 53 := Nat.lt_of_le_of_lt (Nat.div_le_self n d) hless
  -- the multiple of `d` below the number, and then its quotient
  obtain ⟨k', hbelow⟩ := whole_ofRatio hmulless hpow
  obtain ⟨k'', hquotient⟩ := whole_ofRatio hdivless (Nat.mul_pos (Nat.two_pow_pos k') hd)
  have hnum : n / d * d * 2 ^ k' = n / d * (2 ^ k' * d) := by ring
  refine ⟨ofRatio false (n % d * 2 ^ k) (2 ^ k), ?_, whole_ofRatio hmodless hpow⟩
  rw [Binary.divide, ratio_neg]
  dsimp only
  rw [hleft, hmultiple, hbelow]
  dsimp only
  rw [ratio_neg]
  dsimp only
  rw [hnum, hquotient]
  dsimp only
  rw [ratio_neg]
  dsimp only
  rw [Nat.mul_mod_left, Nat.mul_div_cancel _ (Nat.two_pow_pos k''), if_neg (by simp)]

end Binary

/-! ## Digits -/

namespace Number

variable {t : Text} {n : Nat}

/-- Digits that spell a number, with zeros in front of it or without. -/
structure Numeral (t : Text) (n : Nat) : Prop where
  ne_nil : t ≠ []
  digits : ∀ c ∈ t, c.isDigit = true
  value : ofDigits (t.map fun c => c.toNat - '0'.toNat) = n

/-- Zeros before a numeral do not change what it stands for. -/
theorem numeral_zeros (zeros n : Nat) : Numeral (List.replicate zeros '0' ++ Text.ofNat n) n where
  ne_nil := List.append_ne_nil_of_right_ne_nil _ (Text.ofNat_ne_nil n)
  digits c hc := by
    rcases List.mem_append.mp hc with hzero | hdigit
    · rw [List.eq_of_mem_replicate hzero]
      rfl
    · exact Text.isDigit_of_mem_ofNat hdigit
  value := by
    induction zeros with
    | zero => exact ofDigits_ofNat n
    | succ zeros ih => exact ih

/-- No digit is a capital. -/
theorem toLower_of_isDigit {c : Char} (h : c.isDigit = true) : c.toLower = c := by
  have hrange := Text.toNat_of_isDigit h
  refine dif_neg ?_
  rintro ⟨hlo, -⟩
  change 65 ≤ c.toNat at hlo
  omega

/-- A numeral below the bound of the format is read exactly. -/
theorem ofDecimal_whole (hless : n < 2 ^ 53) : Binary.Whole n (Binary.ofDecimal false n 0) := by
  by_cases hn : n = 0
  · subst hn
    exact Binary.whole_zero
  · have hlength : (Nat.toDigits 10 n).length ≤ 400 := by
      refine (Text.length_ofNat_le_iff (by decide)).mpr (Nat.lt_trans hless ?_)
      decide +kernel
    have hpos : 0 < (Nat.toDigits 10 n).length := List.length_pos_iff.mpr Nat.toDigits_ne_nil
    have hratio : n * Nat.pow 10 (0 : Int).toNat = n * 1 := rfl
    rw [Binary.ofDecimal, if_neg hn]
    dsimp only
    rw [if_neg (by omega), if_neg (by omega), if_pos (Int.le_refl 0), hratio]
    exact Binary.whole_ofRatio hless Nat.one_pos

/-- **The digits of a whole number are read exactly.** -/
theorem readBinary?_numeral (h : Numeral t n) (hless : n < 2 ^ 53) :
    ∃ x, readBinary? t = some x ∧ Binary.Whole n x := by
  obtain ⟨hne, hdigit, hvalue⟩ := h
  have hstrip : Text.strip t = t := Text.strip_eq_self
    (Text.trimmed_of_not_blank fun c hc => Text.isBlank_eq_false_of_isDigit (hdigit c hc))
  -- digits are no word
  have hword (c : Char) (hc : c.isDigit = false) (rest : Text) :
      t.map Char.toLower ≠ c :: rest := by
    intro heq
    obtain ⟨d, u, rfl⟩ := List.exists_cons_of_ne_nil hne
    have hd := hdigit d (List.mem_cons_self ..)
    obtain ⟨hhead, -⟩ := List.cons.inj heq
    rw [toLower_of_isDigit hd] at hhead
    rw [hhead, hc] at hd
    cases hd
  refine ⟨Binary.ofDecimal false n 0, ?_, ofDecimal_whole hless⟩
  have hinfinite : ¬(t.map Char.toLower = "inf".toList ∨ t.map Char.toLower = "infinity".toList) :=
    not_or.mpr ⟨hword 'i' rfl _, hword 'i' rfl _⟩
  have hnan : ¬t.map Char.toLower = "nan".toList := hword 'n' rfl _
  rw [readBinary?, hstrip, sign_of_isDigit hdigit]
  dsimp only
  rw [if_neg hinfinite, if_neg hnan, digits_of_isDigit hdigit]
  have hsome : ¬((t.map fun c => c.toNat - '0'.toNat) = [] ∧ True) :=
    fun hnil => hne (List.map_eq_nil_iff.mp hnil.1)
  simp only [fraction, exponent?, List.append_nil, hvalue]
  rw [if_neg hsome]
  rfl

end Number

end Clipbook
