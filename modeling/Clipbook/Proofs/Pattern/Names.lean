import Clipbook.Pattern.Template
import Clipbook.Scan

/-!
# Clipbook — names of groups

The name of a group is written `(?<name>…)` and read `(?P<name>…)`.  So a `P` is put in wherever
`(?<` stands without the `=` or `!` of a look behind.  What stands in front is not asked for: behind
a backslash the parenthesis is a character, and it is taken for the start of a name all the same.

Main results:

* `openingInductionOn` — a pattern is read from the left, opening by opening.
* `renameGroups_append_opening` — a `P` is put in, whatever stands before and behind.
* `renameGroups_eq_self_iff` — a pattern stays as it is just if every `(?<` in it looks behind.
-/

namespace Clipbook.Pattern

variable {p before after : Text}

/-! ## Openings -/

/-- What the name of a group and a look behind start with. -/
def opening : Text := "(?<".toList

/-- Whether an opening is a look behind, by what stands behind it. -/
def looksBehind (after : Text) : Bool :=
  after.head? = some '=' || after.head? = some '!'

/-- No name starts in a pattern: every opening in it is a look behind. -/
def Nameless (p : Text) : Prop :=
  ∀ before after, p = before ++ opening ++ after → looksBehind after = true

/-- The openings in a pattern by their places. -/
theorem forall_opening_iff (holds : Text → Text → Prop) :
    (∀ before after, p = before ++ opening ++ after → holds before after) ↔
      ∀ i < p.length, opening <+: p.drop i → holds (p.take i) (p.drop (i + 3)) := by
  constructor
  · rintro h i - ⟨after, hafter⟩
    -- an opening is three characters long
    have hrest : p.drop (i + 3) = after := by
      rw [← List.drop_drop, ← hafter]
      rfl
    apply h
    rw [hrest, List.append_assoc, hafter, List.take_append_drop]
  · rintro h before after rfl
    have hlength : before.length < (before ++ opening ++ after).length := by
      simp [opening]
    have hplace := h before.length hlength (by simp)
    have hrest : (before ++ opening ++ after).drop (before.length + 3) = after := by
      rw [List.append_assoc, ← List.drop_drop, List.drop_left]
      rfl
    rwa [hrest, List.append_assoc, List.take_left] at hplace

instance (p : Text) : Decidable (Nameless p) :=
  have hplaces : Nameless p ↔
      ∀ i < p.length, opening <+: p.drop i → looksBehind (p.drop (i + 3)) = true :=
    forall_opening_iff fun _ after => looksBehind after = true
  decidable_of_iff _ hplaces.symm

/-! ## Renaming -/

section

variable {c : Char} {t : Text}

/-- The sign of a look behind is an equals sign or an exclamation mark. -/
theorem eq_cons_of_looksBehind (h : looksBehind t = true) :
    ∃ tail, t = '=' :: tail ∨ t = '!' :: tail := by
  rw [looksBehind, Bool.or_eq_true, decide_eq_true_eq, decide_eq_true_eq] at h
  rcases h with h | h
  · obtain ⟨tail, heq⟩ := List.head?_eq_some_iff.mp h
    exact ⟨tail, .inl heq⟩
  · obtain ⟨tail, heq⟩ := List.head?_eq_some_iff.mp h
    exact ⟨tail, .inr heq⟩

/-- A group looks behind only where a sign for it follows. -/
theorem looksBehind_eq_false (hequal : ∀ tail, t = '=' :: tail → False)
    (hbang : ∀ tail, t = '!' :: tail → False) : looksBehind t = false := by
  rw [← Bool.not_eq_true]
  intro h
  obtain ⟨tail, heq | heq⟩ := eq_cons_of_looksBehind h
  · exact hequal tail heq
  · exact hbang tail heq

/-- What follows an opening does not decide whether the one before it looks behind. -/
theorem looksBehind_append_opening (t after : Text) :
    looksBehind (t ++ opening ++ after) = looksBehind t := by
  cases t <;> rfl

/-- What begins a text with an opening behind it begins the text alone, a parenthesis apart. -/
theorem eq_cons_of_append_opening {tail : Text} (hc : c ≠ '(')
    (h : before ++ opening ++ after = c :: tail) :
    ∃ rest, before = c :: rest ∧ rest ++ opening ++ after = tail := by
  cases before with
  | nil => exact absurd (List.cons.inj h).1.symm hc
  | cons d rest =>
    obtain ⟨rfl, htail⟩ := List.cons.inj h
    exact ⟨rest, rfl, htail⟩

/-- The opening of a name gets its `P`. -/
theorem renameGroups_opening (h : looksBehind after = false) :
    renameGroups (opening ++ after) = "(?P<".toList ++ renameGroups after := by
  refine renameGroups.eq_3 after ?_ ?_
  all_goals
    rintro tail rfl
    cases h

/-- A look behind is copied. -/
theorem renameGroups_behind (h : looksBehind after = true) :
    renameGroups (opening ++ after) = opening ++ renameGroups after := by
  obtain ⟨tail, rfl | rfl⟩ := eq_cons_of_looksBehind h
  · rfl
  · rfl

/-- Where no opening stands, a character is copied. -/
theorem renameGroups_cons (h : ∀ tail, c = '(' → t = '?' :: '<' :: tail → False) :
    renameGroups (c :: t) = c :: renameGroups t :=
  renameGroups.eq_4 c t h

/-- A pattern is read from the left: it starts with a look behind, with a name, or with a character
that opens neither. -/
theorem openingInductionOn {motive : Text → Prop}
    (behind : ∀ t, looksBehind t = true → motive t → motive (opening ++ t))
    (named : ∀ t, looksBehind t = false → motive t → motive (opening ++ t))
    (other : ∀ c t, (∀ tail, c = '(' → t = '?' :: '<' :: tail → False) → motive t → motive (c :: t))
    (nil : motive []) (p : Text) : motive p := by
  induction p using renameGroups.induct with
  | case1 t ih | case2 t ih => exact behind _ rfl ih
  | case3 t hequal hbang ih => exact named t (looksBehind_eq_false hequal hbang) ih
  | case4 c t hno ih => exact other c t hno ih
  | case5 => exact nil

/-- **The openings of names are found from the left**, and none of them begins inside of another. -/
theorem renameGroups_append_opening (before : Text) (h : looksBehind after = false) :
    renameGroups (before ++ opening ++ after) =
      renameGroups before ++ "(?P<".toList ++ renameGroups after := by
  -- the induction follows the reading: this opening begins with a parenthesis, so it neither
  -- completes one that stands before it nor makes it a look behind
  induction before using openingInductionOn with
  | behind t hbehind ih =>
    have hbehind' : looksBehind (t ++ opening ++ after) = true := by
      rw [looksBehind_append_opening, hbehind]
    show renameGroups (opening ++ (t ++ opening ++ after)) = renameGroups (opening ++ t) ++ _ ++ _
    rw [renameGroups_behind hbehind', renameGroups_behind hbehind, ih]
    simp only [List.append_assoc]
  | named t hnames ih =>
    have hnames' : looksBehind (t ++ opening ++ after) = false := by
      rw [looksBehind_append_opening, hnames]
    show renameGroups (opening ++ (t ++ opening ++ after)) = renameGroups (opening ++ t) ++ _ ++ _
    rw [renameGroups_opening hnames', renameGroups_opening hnames, ih]
    simp only [List.append_assoc]
  | other c t hno ih =>
    have hno' : ∀ tail, c = '(' → t ++ opening ++ after = '?' :: '<' :: tail → False := by
      intro tail hc heq
      obtain ⟨u, hu, hrest⟩ := eq_cons_of_append_opening (by decide) heq
      obtain ⟨u', hu', -⟩ := eq_cons_of_append_opening (by decide) hrest
      exact hno u' hc (hu.trans (congrArg _ hu'))
    show renameGroups (c :: (t ++ opening ++ after)) = _
    rw [renameGroups_cons hno', renameGroups_cons hno, ih]
    rfl
  | nil => exact renameGroups_opening h

/-- Renaming only puts in. -/
theorem length_le_renameGroups (p : Text) : p.length ≤ (renameGroups p).length := by
  induction p using openingInductionOn with
  | behind t hbehind ih =>
    rw [renameGroups_behind hbehind, List.length_append, List.length_append]
    exact Nat.add_le_add_left ih _
  | named t hnames ih =>
    rw [renameGroups_opening hnames, List.length_append, List.length_append]
    exact Nat.add_le_add (by decide) ih
  | other c t hno ih =>
    rw [renameGroups_cons hno]
    exact Nat.succ_le_succ ih
  | nil => exact Nat.le_refl _

/-- The rest of a pattern without names has none. -/
theorem Nameless.tail (h : Nameless (c :: t)) : Nameless t :=
  fun before after heq => h (c :: before) after (congrArg (c :: ·) heq)

/-- A pattern without names is left as it is. -/
theorem Nameless.renameGroups_eq (h : Nameless p) : renameGroups p = p := by
  induction p using openingInductionOn with
  | behind t hbehind ih =>
    have hrest : Nameless t := h.tail.tail.tail
    rw [renameGroups_behind hbehind, ih hrest]
  | named t hnames ih =>
    have hbehind : looksBehind t = true := h [] t rfl
    rw [hnames] at hbehind
    cases hbehind
  | other c t hno ih => rw [renameGroups_cons hno, ih h.tail]
  | nil => rfl

end

/-- **A pattern stays as it is just if every opening in it looks behind**, since renaming makes it
longer else. -/
theorem renameGroups_eq_self_iff : renameGroups p = p ↔ Nameless p := by
  refine ⟨fun h before after heq => ?_, Nameless.renameGroups_eq⟩
  cases hnames : looksBehind after with
  | true => rfl
  | false =>
    have hrenamed := congrArg List.length (renameGroups_append_opening before hnames)
    rw [← heq, h, heq] at hrenamed
    have hbefore := length_le_renameGroups before
    have hafter := length_le_renameGroups after
    simp [opening] at hrenamed
    omega

end Clipbook.Pattern
