import Clipbook.Markup.Entity
import Clipbook.Proofs.Outcome
import Mathlib.Data.List.TakeWhile

/-!
# Clipbook — texts whose references can be read

References to characters are replaced from left to right.  An ampersand is never taken by the
reference before it, so that each of them is looked at; and the one thing that cannot be read
behind an ampersand is a decimal code of too many digits.

Main results:

* `reference?_eq_error_iff` — what cannot be read behind an ampersand.
* `exists_unescape_iff` — when the references of a text are replaced.
-/

namespace Clipbook.Markup

variable {t u image rest digits : Text} {n skip : Nat} {c : Char}

/-! ## Long references -/

/-- A decimal code of too many digits comes next. -/
def LongCode (t : Text) : Prop :=
  ∃ digits after, t = '#' :: digits ++ after ∧ (∀ c ∈ digits, c.isDigit = true) ∧
    Number.maxDigits < digits.length

/-- Somewhere in a text a decimal code of too many digits stands behind an ampersand. -/
def LongReference (t : Text) : Prop :=
  ∃ before after, t = before ++ '&' :: after ∧ LongCode after

/-- A reference that is too long starts here or further on. -/
theorem longReference_cons :
    LongReference (c :: t) ↔ (c = '&' ∧ LongCode t) ∨ LongReference t := by
  constructor
  · rintro ⟨before, after, heq, hcode⟩
    cases before with
    | nil =>
      obtain ⟨rfl, rfl⟩ := List.cons.inj heq
      exact .inl ⟨rfl, hcode⟩
    | cons d before =>
      obtain ⟨rfl, rfl⟩ := List.cons.inj heq
      exact .inr ⟨before, after, rfl, hcode⟩
  · rintro (⟨rfl, hcode⟩ | ⟨before, after, rfl, hcode⟩)
    · exact ⟨[], t, rfl, hcode⟩
    · exact ⟨c :: before, after, rfl, hcode⟩

/-- Text without ampersands may be dropped. -/
theorem longReference_drop (h : '&' ∉ t.take n) : LongReference (t.drop n) ↔ LongReference t := by
  induction n generalizing t with
  | zero => rfl
  | succ n ih =>
    cases t with
    | nil => rfl
    | cons c t =>
      rw [List.take_succ_cons, List.mem_cons, not_or] at h
      rw [List.drop_succ_cons, ih h.2, longReference_cons]
      exact ⟨.inr, fun hc => hc.resolve_left fun hamp => h.1 hamp.1.symm⟩

/-- A code is too long if it has more digits than a number may have. -/
theorem longCode_cons_iff :
    LongCode ('#' :: rest) ↔ Number.maxDigits < (rest.takeWhile Char.isDigit).length := by
  constructor
  · rintro ⟨digits, after, heq, hdigits, hlong⟩
    have hrest : rest = digits ++ after := (List.cons.inj heq).2
    rw [hrest, List.takeWhile_append_of_pos hdigits, List.length_append]
    omega
  · intro hlong
    exact ⟨_, rest.dropWhile Char.isDigit, by
      rw [List.cons_append, List.takeWhile_append_dropWhile], fun c => List.mem_takeWhile_imp, hlong⟩

/-! ## One reference -/

/-- A reference of some characters and perhaps a semicolon takes no ampersand. -/
theorem amp_not_mem_take (hbegin : digits <+: rest) (h : '&' ∉ digits) :
    '&' ∉ rest.take (digits.length
      + if (rest.drop digits.length).head? = some ';' then 1 else 0) := by
  obtain ⟨after, rfl⟩ := hbegin
  rw [List.drop_left, List.take_length_add_append, List.mem_append, not_or]
  refine ⟨h, ?_⟩
  split
  · next hhead =>
    cases after with
    | nil => exact List.not_mem_nil
    | cons d after =>
      rw [Option.some.inj hhead]
      simp
  · simp

/-- What is read of a reference holds no second one. -/
theorem amp_not_mem_takeWhile {p : Char → Bool} (hp : p '&' = false) (t : Text) :
    '&' ∉ t.takeWhile p := fun hmem => by
  rw [List.mem_takeWhile_imp hmem] at hp
  cases hp

/-- **What cannot be read behind an ampersand** is a code of too many digits. -/
theorem reference?_eq_error_iff : (∃ f, reference? t = .error f) ↔ LongCode t := by
  unfold reference?
  split
  · next rest =>
    -- no digit comes first
    rw [longCode_cons_iff, List.takeWhile_cons_of_neg (by decide)]
    dsimp only
    split <;> exact iff_of_false nofun (Nat.not_lt_zero _)
  · next rest =>
    rw [longCode_cons_iff, List.takeWhile_cons_of_neg (by decide)]
    dsimp only
    split <;> exact iff_of_false nofun (Nat.not_lt_zero _)
  · next rest _ _ =>
    rw [longCode_cons_iff]
    dsimp only
    split
    · next hnil =>
      rw [hnil]
      exact iff_of_false nofun (Nat.not_lt_zero _)
    · rw [decimalCode]
      by_cases hlong : Number.maxDigits < (rest.takeWhile Char.isDigit).length
      · rw [if_pos hlong]
        exact iff_of_true ⟨_, rfl⟩ hlong
      · rw [if_neg hlong]
        exact iff_of_false nofun hlong
  · next hhex hhex' hsharp =>
    have hno : ¬LongCode t := by
      rintro ⟨digits, after, rfl, -, -⟩
      exact hsharp _ rfl
    dsimp only
    split <;> exact iff_of_false nofun hno

theorem amp_not_mem_take_cons (hc : c ≠ '&') (h : '&' ∉ t.take n) :
    '&' ∉ (c :: t).take (n + 1) := by
  rw [List.take_succ_cons, List.mem_cons, not_or]
  exact ⟨Ne.symm hc, h⟩

/-- A reference that is read takes no ampersand. -/
theorem amp_not_mem_of_reference? (h : reference? t = .ok (some (image, n))) : '&' ∉ t.take n := by
  -- behind the sign come digits or a name, and perhaps a semicolon
  have hhex (rest : Text) := amp_not_mem_take (List.takeWhile_prefix isHexDigit)
    (amp_not_mem_takeWhile (by decide) rest)
  have hdecimal (rest : Text) := amp_not_mem_take (List.takeWhile_prefix Char.isDigit)
    (amp_not_mem_takeWhile (by decide) rest)
  unfold reference? at h
  split at h
  · next rest =>
    dsimp only at h
    split at h
    · cases h
    · obtain ⟨-, rfl⟩ := Prod.mk.inj (Option.some.inj (Except.ok.inj h))
      rw [Nat.add_right_comm]
      exact amp_not_mem_take_cons (by decide) (amp_not_mem_take_cons (by decide) (hhex rest))
  · next rest =>
    dsimp only at h
    split at h
    · cases h
    · obtain ⟨-, rfl⟩ := Prod.mk.inj (Option.some.inj (Except.ok.inj h))
      rw [Nat.add_right_comm]
      exact amp_not_mem_take_cons (by decide) (amp_not_mem_take_cons (by decide) (hhex rest))
  · next rest _ _ =>
    dsimp only at h
    split at h
    · cases h
    · obtain ⟨code, -, hfound⟩ := Except.map_eq_ok_iff.mp h
      obtain ⟨-, rfl⟩ := Prod.mk.inj (Option.some.inj hfound)
      rw [Nat.add_right_comm]
      exact amp_not_mem_take_cons (by decide) (hdecimal rest)
  · dsimp only at h
    split at h
    · cases h
    · obtain ⟨-, rfl⟩ := Prod.mk.inj (Option.some.inj (Except.ok.inj h))
      exact amp_not_mem_take ((List.takeWhile_prefix isNameChar).trans (List.take_prefix 32 t))
        (amp_not_mem_takeWhile (by decide) _)

/-! ## Texts -/

/-- What has been read of a reference is passed over. -/
theorem unescapeFrom_skip (skip : Nat) (t : Text) :
    unescapeFrom skip t = unescapeFrom 0 (t.drop skip) := by
  induction t generalizing skip with
  | nil => rw [List.drop_nil, unescapeFrom, unescapeFrom]
  | cons c t ih =>
    cases skip with
    | zero => rfl
    | succ n => rw [unescapeFrom, ih, List.drop_succ_cons]

/-- A text without an ampersand has no references. -/
theorem unescape_eq_self (h : '&' ∉ t) : unescape t = .ok t := by
  rw [unescape]
  induction t with
  | nil => rfl
  | cons c t ih =>
    rw [List.mem_cons, not_or] at h
    rw [unescapeFrom, if_neg (Ne.symm h.1), ih h.2]
    rfl

/-- **The references of a text are replaced** unless one of them is a code of too many digits. -/
theorem exists_unescape_iff (t : Text) : (∃ u, unescape t = .ok u) ↔ ¬LongReference t := by
  -- a reference takes several characters at once, so the induction is on the length
  obtain ⟨n, hn⟩ : ∃ n, t.length ≤ n := ⟨_, Nat.le_refl _⟩
  rw [unescape]
  induction n generalizing t with
  | zero =>
    rw [List.length_eq_zero_iff.mp (Nat.le_zero.mp hn), unescapeFrom]
    exact iff_of_true ⟨[], rfl⟩ fun ⟨before, after, heq, _⟩ =>
      List.append_ne_nil_of_right_ne_nil before (List.cons_ne_nil _ _) heq.symm
  | succ n ih =>
    cases t with
    | nil => exact ih [] (Nat.zero_le n)
    | cons c t =>
      have hlen : t.length ≤ n := Nat.le_of_succ_le_succ hn
      rw [longReference_cons, unescapeFrom]
      by_cases hc : c = '&'
      · rw [if_pos hc]
        cases href : reference? t with
        | error f =>
          have hcode := reference?_eq_error_iff.mp ⟨f, href⟩
          exact iff_of_false nofun fun h => h (.inl ⟨hc, hcode⟩)
        | ok found =>
          have hcode : ¬LongCode t := fun hcode => by
            obtain ⟨f, hf⟩ := reference?_eq_error_iff.mpr hcode
            rw [href] at hf
            cases hf
          rw [or_iff_right fun h => hcode h.2]
          cases found with
          | none => exact Except.exists_map_eq_ok_iff.trans (ih t hlen)
          | some found =>
            obtain ⟨image, length⟩ := found
            have hdrop : (t.drop length).length ≤ n := by
              rw [List.length_drop]
              omega
            rw [← longReference_drop (amp_not_mem_of_reference? href)]
            refine Except.exists_map_eq_ok_iff.trans ?_
            rw [unescapeFrom_skip]
            exact ih (t.drop length) hdrop
      · rw [if_neg hc, or_iff_right fun h => hc h.1]
        exact Except.exists_map_eq_ok_iff.trans (ih t hlen)

end Clipbook.Markup
