import Clipbook.Text.Basic

/-!
# Clipbook — replaced occurrences

Replacing all occurrences of a text reads from the left.  Where the text starts, its image is
written and the reading goes on behind it; anywhere else one character is copied.

Main results:

* `after?_eq_some_iff`, `before?_eq_some_iff` — what stands behind a start, and before an end.
* `replaceAll_eq_iff` — the text written is the one that such a reading writes.
* `replaceAll_eq_self` — a text without an occurrence stays as it is.
-/

namespace Clipbook.Text

variable {found image t u rest : Text}

/-! ## Starts and ends -/

theorem after?_append (s t : Text) : after? s (s ++ t) = some t := by
  induction s with
  | nil => rfl
  | cons c s ih => rw [List.cons_append, after?, if_pos rfl, ih]

/-- What stands behind a text stands behind it at the front. -/
theorem after?_eq_some_iff : after? found t = some rest ↔ t = found ++ rest := by
  refine ⟨fun h => ?_, fun h => h ▸ after?_append found rest⟩
  induction found generalizing t with
  | nil => exact Option.some.inj h
  | cons c found ih =>
    cases t with
    | nil => cases h
    | cons d t =>
      rw [after?] at h
      split at h
      · next hcd => rw [hcd, ih h, List.cons_append]
      · cases h

theorem before?_append (s t : Text) : before? t (s ++ t) = some s := by
  rw [before?, List.reverse_append, after?_append]
  simp

/-- What stands before a text stands before it at the end. -/
theorem before?_eq_some_iff : before? found t = some rest ↔ t = rest ++ found := by
  refine ⟨fun h => ?_, fun h => h ▸ before?_append rest found⟩
  obtain ⟨back, hback, rfl⟩ := Option.map_eq_some_iff.mp h
  have hreverse := congrArg List.reverse (after?_eq_some_iff.mp hback)
  rwa [List.reverse_append, List.reverse_reverse, List.reverse_reverse] at hreverse

/-- A text starts with another if that one is a prefix. -/
theorem startsWith_iff : startsWith found t = true ↔ found <+: t := by
  rw [startsWith, Option.isSome_iff_exists]
  constructor
  · rintro ⟨rest, h⟩
    exact ⟨rest, (after?_eq_some_iff.mp h).symm⟩
  · rintro ⟨rest, rfl⟩
    exact ⟨rest, after?_append found rest⟩

/-! ## Occurrences -/

/-- A text and what is written for it: the image for each occurrence that is found from the left,
and every other character as it stands. -/
inductive Replaced (found image : Text) : Text → Text → Prop
  | nil : Replaced found image [] []
  | hit {t u : Text} : Replaced found image t u → Replaced found image (found ++ t) (image ++ u)
  | skip {c : Char} {t u : Text} : ¬found <+: c :: t → Replaced found image t u →
      Replaced found image (c :: t) (c :: u)

/-- The characters of an occurrence already written are passed over. -/
theorem replaceFrom_skip (found image : Text) (skip : Nat) (t : Text) :
    replaceFrom found image skip t = replaceFrom found image 0 (t.drop skip) := by
  induction t generalizing skip with
  | nil => rw [List.drop_nil]; rfl
  | cons c t ih =>
    cases skip with
    | zero => rfl
    | succ n => rw [replaceFrom, ih, List.drop_succ_cons]

/-- An occurrence at the front is replaced, and what follows is searched behind it. -/
theorem replaceFrom_hit (hne : found ≠ []) (t : Text) :
    replaceFrom found image 0 (found ++ t) = image ++ replaceFrom found image 0 t := by
  obtain ⟨c, s, rfl⟩ := List.exists_cons_of_ne_nil hne
  have hstart : startsWith (c :: s) (c :: (s ++ t)) = true :=
    startsWith_iff.mpr (List.prefix_append (c :: s) t)
  rw [List.cons_append, replaceFrom, if_pos hstart, replaceFrom_skip, List.length_cons,
    Nat.add_sub_cancel, List.drop_left]

/-- Where nothing occurs, a character is copied. -/
theorem replaceFrom_copy {c : Char} (h : ¬found <+: c :: t) :
    replaceFrom found image 0 (c :: t) = c :: replaceFrom found image 0 t := by
  rw [replaceFrom, if_neg fun hstart => h (startsWith_iff.mp hstart)]

/-- There is one way to replace all occurrences from left to right. -/
theorem Replaced.eq_replaceFrom (hne : found ≠ []) (h : Replaced found image t u) :
    u = replaceFrom found image 0 t := by
  induction h with
  | nil => rfl
  | hit _ ih => rw [replaceFrom_hit hne, ih]
  | skip hno _ ih => rw [replaceFrom_copy hno, ih]

/-- All occurrences are replaced from left to right. -/
theorem replaced_replaceFrom (hne : found ≠ []) (t : Text) :
    Replaced found image t (replaceFrom found image 0 t) := by
  -- an occurrence takes several characters at once, so the induction is on the length
  obtain ⟨n, hn⟩ : ∃ n, t.length ≤ n := ⟨_, Nat.le_refl _⟩
  induction n generalizing t with
  | zero =>
    rw [List.length_eq_zero_iff.mp (Nat.le_zero.mp hn)]
    exact .nil
  | succ n ih =>
    have hpos : 0 < found.length := List.length_pos_iff.mpr hne
    cases t with
    | nil => exact .nil
    | cons c t =>
      -- an occurrence here is written at once, else a character is copied
      by_cases hstart : found <+: c :: t
      · obtain ⟨rest, hrest⟩ := hstart
        have hlen : rest.length ≤ n := by
          have := congrArg List.length hrest
          rw [List.length_append] at this
          omega
        rw [← hrest, replaceFrom_hit hne]
        exact .hit (ih rest hlen)
      · rw [replaceFrom_copy hstart]
        exact .skip hstart (ih t (Nat.le_of_succ_le_succ hn))

/-- **The text written is the one that a reading from the left writes.** -/
theorem replaceAll_eq_iff (hne : found ≠ []) :
    replaceAll found image t = u ↔ Replaced found image t u := by
  rw [replaceAll, if_neg hne]
  constructor
  · rintro rfl
    exact replaced_replaceFrom hne t
  · intro h
    exact (h.eq_replaceFrom hne).symm

/-- A text without an occurrence stays as it is. -/
theorem replaceAll_eq_self (h : ¬found <:+: t) : replaceAll found image t = t := by
  have hne : found ≠ [] := by
    rintro rfl
    exact h List.nil_infix
  rw [replaceAll_eq_iff hne]
  induction t with
  | nil => exact .nil
  | cons c t ih =>
    have hhere : ¬found <+: c :: t := fun hstart => h hstart.isInfix
    have hlater : ¬found <:+: t := fun hin => h (hin.trans (List.suffix_cons c t).isInfix)
    exact .skip hhere (ih hlater)

end Clipbook.Text
