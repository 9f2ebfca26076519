import Clipbook.Proofs.Number.Integer
import Clipbook.Value.Reader

/-!
# Clipbook — numerals in JSON text

An integer is written in decimal digits, with a minus in front of a negative one.  The reader takes
as many digits as there are, then a fraction and an exponent if one is there, so a numeral reads
back where what stands behind it begins none of these.

Main results:

* `number_ofInt` — an integer of not too many digits is read to its last digit.
* `value_ofInt_eq` — and no word is read in its place.
-/

namespace Clipbook.Value.Reader

variable {rest : Text} {n : Nat}

/-! ## What stands behind a value -/

/-- What may stand behind a value: nothing, a comma or a closing bracket. -/
def Ends (rest : Text) : Prop :=
  ∀ c, rest.head? = some c → c ∈ [',', ']', '\x7d']

theorem ends_nil : Ends [] :=
  nofun

/-- A comma and the marks that close a list or an object end a number. -/
theorem ends_cons {c : Char} (hc : c ∈ [',', ']', '\x7d']) (rest : Text) : Ends (c :: rest) := by
  intro d hd
  rwa [← Option.some.inj hd]

/-! ## Digits -/

/-- The digits of a number end where it does. -/
theorem takeWhile_append_of_ends {t : Text} (h : ∀ c ∈ t, isDigit c = true) (hrest : Ends rest) :
    (t ++ rest).takeWhile isDigit = t ∧ (t ++ rest).dropWhile isDigit = rest := by
  refine Text.span_run h fun c hc => ?_
  have hmem := hrest c hc
  simp only [List.mem_cons, List.not_mem_nil, or_false] at hmem
  rcases hmem with rfl | rfl | rfl <;> rfl

/-- A numeral is read to its end: none but that of zero starts with a zero. -/
theorem whole_ofNat (n : Nat) (hrest : Ends rest) :
    whole (Text.ofNat n ++ rest) = (Text.ofNat n, rest) := by
  rcases Nat.eq_zero_or_pos n with rfl | hn
  · rfl
  · have hread := takeWhile_append_of_ends (fun c hc => Text.isDigit_of_mem_ofNat (n := n) hc) hrest
    obtain ⟨c, t, ht⟩ := List.exists_cons_of_ne_nil (Text.ofNat_ne_nil n)
    have hzero := Text.head?_ofNat_ne hn
    rw [ht] at hread hzero ⊢
    unfold whole
    split
    · next heq => exact absurd (congrArg some (List.cons.inj heq).1) hzero
    · rw [hread.1, hread.2]

theorem fraction_of_ends (hrest : Ends rest) : fraction rest = ([], rest) := by
  unfold fraction
  split
  · exact absurd (hrest '.' rfl) (by decide)
  · rfl

theorem exponent_of_ends (hrest : Ends rest) : exponent rest = (none, rest) := by
  cases rest with
  | nil => rfl
  | cons c rest =>
    have hc : ¬(c = 'e' ∨ c = 'E') := by
      rintro (rfl | rfl) <;> exact absurd (hrest _ rfl) (by decide)
    rw [exponent, if_neg hc]

/-- A numeral begins with a digit. -/
theorem exists_ofNat_append (n : Nat) (rest : Text) :
    ∃ c t, Text.ofNat n ++ rest = c :: t ∧ c.isDigit = true := by
  obtain ⟨c, t, ht⟩ := List.exists_cons_of_ne_nil (Text.ofNat_ne_nil n)
  exact ⟨c, t ++ rest, by rw [ht, List.cons_append],
    Text.isDigit_of_mem_ofNat (ht ▸ List.mem_cons_self ..)⟩

theorem ofNat_append_ne {d : Char} (hd : d.isDigit = false) (n : Nat) (rest body : Text) :
    Text.ofNat n ++ rest ≠ d :: body := by
  obtain ⟨c, t, ht, hdigit⟩ := exists_ofNat_append n rest
  rw [ht]
  intro heq
  rw [(List.cons.inj heq).1, hd] at hdigit
  cases hdigit

/-! ## Integers -/

/-- Whatever the sign, the digits behind it are read and nothing else. -/
theorem number_of_sign (negative : Bool) (n : Nat) (hrest : Ends rest) :
    number (if negative then '-' :: (Text.ofNat n ++ rest) else Text.ofNat n ++ rest) =
      if Number.maxDigits < (Text.ofNat n).length then
        .error (.fault (.longNumeral (Text.ofNat n).length))
      else .ok (.int (Number.signed negative n), rest) := by
  have hread := whole_ofNat n hrest
  have hne := Text.ofNat_ne_nil n
  have hvalue : Number.ofDigits (digitValues (Text.ofNat n)) = n := Number.ofDigits_ofNat n
  -- neither a fraction nor an exponent follows, so the numeral is an integer
  have hpart := fraction_of_ends hrest
  have hpower := exponent_of_ends hrest
  cases negative with
  | true =>
    rw [if_pos rfl, number]
    simp only [hread, hne, if_false, hpart, hpower, and_self, if_true, hvalue]
  | false =>
    rw [if_neg Bool.false_ne_true, number]
    · simp only [hread, hne, if_false, hpart, hpower, and_self, if_true, hvalue]
    · exact ofNat_append_ne (by decide) n rest

/-- What reading the numeral of an integer comes to. -/
theorem number_ofInt_eq (n : Int) (hrest : Ends rest) :
    number (Text.ofInt n ++ rest) =
      if Number.maxDigits < (Text.ofNat n.natAbs).length then
        .error (.fault (.longNumeral (Text.ofNat n.natAbs).length))
      else .ok (.int n, rest) := by
  cases n with
  | ofNat n => exact number_of_sign false n hrest
  | negSucc n => exact number_of_sign true (n + 1) hrest

/-- **An integer reads back**, if it has not too many digits. -/
theorem number_ofInt {n : Int} (h : (Text.ofNat n.natAbs).length ≤ Number.maxDigits)
    (hrest : Ends rest) : number (Text.ofInt n ++ rest) = .ok (.int n, rest) := by
  rw [number_ofInt_eq n hrest, if_neg (Nat.not_lt.mpr h)]

/-- An integer starts with a digit or a sign. -/
theorem exists_ofInt_append (n : Int) (rest : Text) :
    ∃ c t, Text.ofInt n ++ rest = c :: t ∧ (c.isDigit = true ∨ c = '-') := by
  cases n with
  | ofNat n =>
    obtain ⟨c, t, ht, hdigit⟩ := exists_ofNat_append n rest
    exact ⟨c, t, ht, .inl hdigit⟩
  | negSucc n => exact ⟨'-', _, rfl, .inr rfl⟩

/-- No word for a value begins with a digit, nor with a minus and a digit. -/
theorem word?_of_isDigit {c : Char} (hc : c.isDigit = true) (t : Text) :
    word? (c :: t) = none ∧ word? ('-' :: c :: t) = none := by
  have hne : ∀ d : Char, d.isDigit = false → d ≠ c := by
    rintro d hd rfl
    rw [hd] at hc
    cases hc
  constructor
  · simp [word?, words, Text.after?, hne 'n' (by decide), hne 't' (by decide),
      hne 'f' (by decide), hne 'N' (by decide), hne 'I' (by decide), hne '-' (by decide)]
  · -- of the words that begin with a minus the rest is infinity
    simp [word?, words, Text.after?, hne 'I' (by decide)]

/-- An integer is none of the words that stand for values. -/
theorem word?_ofInt (n : Int) (rest : Text) : word? (Text.ofInt n ++ rest) = none := by
  cases n with
  | ofNat n =>
    obtain ⟨c, t, ht, hdigit⟩ := exists_ofNat_append n rest
    show word? (Text.ofNat n ++ rest) = none
    rw [ht, (word?_of_isDigit hdigit t).1]
  | negSucc n =>
    obtain ⟨c, t, ht, hdigit⟩ := exists_ofNat_append (n + 1) rest
    show word? ('-' :: (Text.ofNat (n + 1) ++ rest)) = none
    rw [ht, (word?_of_isDigit hdigit t).2]

/-- **No word is read in the place of an integer.** -/
theorem value_ofInt_eq (n : Int) (rest : Text) (fuel levels : Nat) :
    value (fuel + 1) levels (Text.ofInt n ++ rest) = number (Text.ofInt n ++ rest) := by
  have hword := word?_ofInt n rest
  obtain ⟨c, t, ht, hc⟩ := exists_ofInt_append n rest
  -- an integer starts with a digit or a minus, and the reader tells values apart by the first
  -- character
  have hne : ∀ d : Char, d.isDigit = false ∧ d ≠ '-' → c ≠ d := by
    rintro d ⟨hdigit, hminus⟩ rfl
    rcases hc with hc | hc
    · rw [hdigit] at hc
      cases hc
    · exact hminus hc
  rw [ht] at hword ⊢
  rw [value]
  · rw [hword]
  · exact fun _ heq => hne '"' (by decide) (List.cons.inj heq).1
  · exact fun _ heq => hne '[' (by decide) (List.cons.inj heq).1
  · exact fun _ heq => hne '\x7b' (by decide) (List.cons.inj heq).1

theorem value_ofInt {n : Int} (h : (Text.ofNat n.natAbs).length ≤ Number.maxDigits)
    (hrest : Ends rest) (fuel levels : Nat) :
    value (fuel + 1) levels (Text.ofInt n ++ rest) = .ok (.int n, rest) := by
  rw [value_ofInt_eq, number_ofInt h hrest]

end Clipbook.Value.Reader
