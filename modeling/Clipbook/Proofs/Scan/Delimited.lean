import Clipbook.Proofs.Scan.Neutral
import Mathlib.Data.List.Induction

/-!
# Clipbook — texts between marks

A quote and a pattern are closed by the mark that opened them.  Until then a scan waits for that
mark, unescaped, and for nothing else.  So it passes over any text in which each such mark is
escaped, and the mark behind the text leaves everything open or closed as it was before.

Main results:

* `Text.Enclosed.append` — what fits between marks is made of texts that do.
* `Inside.run` — between marks nothing counts but the mark.
* `passes_delimited` — a scan passes over a text between marks.
* `solid_delimited` — and no other separator splits in it.
-/

namespace Clipbook

variable {mark c : Char} {t u : Text}

/-! ## Texts that fit between marks -/

namespace Text

/-- Backslashes are counted from the end, up to the first other character. -/
theorem oddBackslashes_append (hu : oddBackslashes u = false) (t : Text) :
    oddBackslashes (t ++ u) = oddBackslashes t := by
  induction t with
  | nil => exact hu
  | cons c t ih => rw [List.cons_append, oddBackslashes, oddBackslashes, ih]

/-- Where nothing is left escaped, what follows is read as if it stood alone. -/
theorem endsEscaped_append (ht : endsEscaped t = false) (u : Text) :
    endsEscaped (t ++ u) = endsEscaped u := by
  rw [endsEscaped, List.reverse_append, oddBackslashes_append ht]
  rfl

/-- Only a backslash escapes what follows it. -/
theorem endsEscaped_singleton (hc : c ≠ '\\') : endsEscaped [c] = false :=
  if_neg hc

/-- Every mark in the text is escaped, and a mark behind it is not. -/
structure Enclosed (mark : Char) (t : Text) : Prop where
  marks : ∀ p q, t = p ++ mark :: q → endsEscaped p = true
  ends : endsEscaped t = false

/-- Which marks a text has can be told by their places. -/
theorem enclosed_iff :
    Enclosed mark t ↔
      (∀ i < t.length, t[i]? = some mark → endsEscaped (t.take i) = true) ∧
        endsEscaped t = false := by
  constructor
  · intro h
    refine ⟨fun i hi hmark => h.marks (t.take i) (t.drop (i + 1)) ?_, h.ends⟩
    -- the mark at a place is the first character of what is dropped there
    rw [List.getElem?_eq_getElem hi] at hmark
    rw [← Option.some.inj hmark, ← List.drop_eq_getElem_cons hi, List.take_append_drop]
  · rintro ⟨h, hends⟩
    refine ⟨fun p q heq => ?_, hends⟩
    subst heq
    have hplace := h p.length (by simp) (by simp)
    rwa [List.take_left] at hplace

instance : Decidable (Enclosed mark t) :=
  decidable_of_iff _ enclosed_iff.symm

theorem enclosed_nil (mark : Char) : Enclosed mark [] :=
  ⟨fun p q h => absurd h (by simp), rfl⟩

/-- What may stand between marks one by one may stand there together. -/
theorem Enclosed.append (ht : Enclosed mark t) (hu : Enclosed mark u) : Enclosed mark (t ++ u) where
  marks p q heq := by
    rcases List.append_eq_append_iff.mp heq with ⟨v, rfl, hv⟩ | ⟨v, rfl, hv⟩
    · -- the mark stands in the second text
      rw [endsEscaped_append ht.ends]
      exact hu.marks v q hv
    · cases v with
      | nil =>
        rw [← List.append_nil p]
        rw [List.append_nil] at ht
        rw [endsEscaped_append ht.ends]
        exact hu.marks [] q hv.symm
      | cons d v =>
        rw [(List.cons.inj hv).1] at ht
        exact ht.marks p v rfl
  ends := by
    rw [endsEscaped_append ht.ends]
    exact hu.ends

/-- A character other than the mark and the backslash may stand between marks. -/
theorem enclosed_singleton (hmark : c ≠ mark) (hc : c ≠ '\\') : Enclosed mark [c] where
  marks p q heq := by
    refine absurd ?_ hmark
    cases p with
    | nil => exact (List.cons.inj heq).1
    | cons d p => exact absurd (List.cons.inj heq).2 (by simp)
  ends := endsEscaped_singleton hc

/-- An escaped character may stand between marks. -/
theorem enclosed_escaped (hmark : mark ≠ '\\') (c : Char) : Enclosed mark ['\\', c] where
  marks p q heq := by
    match p, heq with
    | [], heq => exact absurd (List.cons.inj heq).1.symm hmark
    | [d], heq =>
      rw [← (List.cons.inj heq).1]
      rfl
    | d :: e :: p, heq => exact absurd (List.cons.inj (List.cons.inj heq).2).2 (by simp)
  ends := by
    by_cases hc : c = '\\'
    · rw [hc]
      rfl
    · rw [show ['\\', c] = ['\\'] ++ [c] from rfl, endsEscaped, List.reverse_append]
      exact if_neg hc

/-- A text without the mark and without backslashes may stand between marks. -/
theorem enclosed_of_not_mem (hmark : mark ∉ t) (hc : '\\' ∉ t) : Enclosed mark t := by
  induction t with
  | nil => exact enclosed_nil mark
  | cons d t ih =>
    rw [List.mem_cons, not_or] at hmark hc
    exact (enclosed_singleton (Ne.symm hmark.1) (Ne.symm hc.1)).append (ih hmark.2 hc.2)

end Text

namespace Scan

variable {s : Scan}

/-! ## Between marks -/

/-- The scan waits for a mark: a quote for the same quote, a pattern for a slash. -/
def Inside (s : Scan) (mark : Char) : Prop :=
  s.quote = some mark ∨ mark = '/' ∧ s.quote = none ∧ s.inRegex = true

theorem Inside.atTop (h : s.Inside mark) : s.atTop = false := by
  rcases h with h | ⟨-, -, h⟩
  · simp [Scan.atTop, h]
  · simp [Scan.atTop, h]

/-- Another character changes nothing, nor does an escaped one. -/
theorem Inside.step (h : s.Inside mark) (hc : c ≠ mark ∨ s.escaped = true) :
    s.step c = s.push [c] := by
  cases he : s.escaped with
  | true => exact step_of_escaped he c
  | false =>
    have hne : c ≠ mark := hc.resolve_right (by simp [he])
    -- inside a quote or a pattern only its mark changes the state
    have hshift : s.shift c = s := by
      rcases h with hquote | ⟨rfl, hquote, hregex⟩
      · rw [shift_of_quote hquote, if_neg hne]
      · unfold shift
        rw [hquote]
        dsimp only
        rw [if_pos hregex, if_neg hne]
    rw [step_of_not_escaped he, hshift]
    rfl

/-- Whether the next character is escaped is decided by what was read. -/
theorem escaped_push (hs : s.escaped = false) (t : Text) :
    (s.push t).escaped = Text.endsEscaped t :=
  Text.oddBackslashes_append hs t.reverse

/-- **Between marks nothing counts but the mark.**  The text is taken from its end, so that what is
read before a character tells whether it is escaped. -/
theorem Inside.run (h : s.Inside mark) (hs : s.escaped = false)
    (ht : ∀ p q, t = p ++ mark :: q → Text.endsEscaped p = true) :
    s.run t = s.push t ∧ busy s t = true := by
  induction t using List.reverseRecOn with
  | nil => exact ⟨rfl, rfl⟩
  | append_singleton t c ih =>
    -- the last character closes nothing: it is no mark, or it is escaped
    obtain ⟨hrun, hbusy⟩ := ih fun p q heq => ht p (q ++ [c]) (by rw [heq]; simp)
    have hc : c ≠ mark ∨ (s.push t).escaped = true := by
      rw [escaped_push hs]
      refine or_iff_not_imp_left.mpr fun hmark => ht t [] ?_
      rw [not_not.mp hmark]
    have hinside : (s.push t).Inside mark := h
    have hstep := hinside.step hc
    have hlast : ((s.push t).push [c]).Inside mark := h
    refine ⟨?_, ?_⟩
    · rw [run_append, hrun, run_cons, run_nil, hstep, push_append]
    · rw [busy_append, hbusy, hrun, busy, hstep, hlast.atTop]
      rfl

/-! ## Opening and closing -/

/-- The mark opens a quote or, where a pattern can begin, a pattern. -/
def Opens (s : Scan) (mark : Char) : Prop :=
  mark = '"' ∨ mark = '/' ∧ s.regexes = true ∧ s.regexCanOpen = true

theorem Opens.ne_backslash (h : s.Opens mark) : mark ≠ '\\' := by
  rcases h with rfl | ⟨rfl, -⟩ <;> decide

/-- The scan behind an opening mark. -/
def enter (s : Scan) (mark : Char) : Scan :=
  if mark = '/' then { s.push [mark] with inRegex := true }
  else { s.push [mark] with quote := some mark }

theorem Opens.step (h : s.Opens mark) (hs : s.Plain) : s.step mark = s.enter mark := by
  rw [step_of_not_escaped hs.escaped]
  rcases h with rfl | ⟨rfl, hregexes, hopen⟩
  · rw [shift_quote hs.quote hs.inRegex (.inr rfl)]
    rfl
  · unfold shift
    simp [hs.quote, hs.inRegex, hregexes, hopen, enter, push]

/-- Behind a mark that opens one is between marks. -/
theorem inside_enter (hs : s.Plain) (mark : Char) : (s.enter mark).Inside mark := by
  unfold enter
  split
  · next h => exact .inr ⟨h, hs.quote, rfl⟩
  · exact .inl rfl

/-- The character behind a mark that opens is not escaped. -/
theorem Opens.escaped_enter (h : s.Opens mark) (hs : s.Plain) : (s.enter mark).escaped = false := by
  rw [← h.step hs, escaped_step, decide_eq_false h.ne_backslash, Bool.false_and]

/-- An unescaped mark closes what the first one has opened. -/
theorem step_enter (hs : s.Plain) (ht : ((s.enter mark).push t).escaped = false) :
    ((s.enter mark).push t).step mark = s.push (mark :: t ++ [mark]) := by
  have hquote := hs.quote
  have hregex := hs.inRegex
  rw [step_of_not_escaped ht]
  unfold shift
  by_cases hmark : mark = '/'
  · simp [enter, hmark, push, hquote, ← hregex]
  · simp [enter, hmark, push, ← hquote]

/-- **A scan passes over a text between marks.** -/
theorem passes_delimited (hs : s.Plain) (hmark : s.Opens mark) (ht : Text.Enclosed mark t) :
    s.Passes (mark :: t ++ [mark]) := by
  have hopen := hmark.step hs
  have hinside := inside_enter hs mark
  have hentered := hmark.escaped_enter hs
  obtain ⟨hrun, hbusy⟩ := hinside.run hentered ht.marks
  have hend : ((s.enter mark).push t).escaped = false := by
    rw [escaped_push hentered]
    exact ht.ends
  -- the mark behind the text is not escaped, so it leads back to where the scan was
  have hclose := step_enter hs hend
  have hescaped : (s.push (mark :: t ++ [mark])).escaped = false := by
    rw [← hclose, escaped_step, decide_eq_false hmark.ne_backslash, Bool.false_and]
  refine ⟨?_, ⟨hs.quote, hs.inRegex, hescaped⟩, fun htop => ?_⟩
  · rw [List.cons_append, run_cons, hopen, run_append, hrun, run_cons, hclose]
    rfl
  · have hlast : (s.push (mark :: t ++ [mark])).atTop = false := htop
    rw [List.cons_append, busy, hopen, hinside.atTop, busy_append, hbusy, hrun, busy, hclose, hlast]
    rfl

/-- No separator splits between marks, nor at them. -/
theorem solid_delimited {sep : Char} (hs : s.Plain) (hmark : s.Opens mark)
    (ht : Text.Enclosed mark t) (hsep : sep ≠ mark) :
    solid sep s (mark :: t ++ [mark]) = true := by
  have hinside := inside_enter hs mark
  obtain ⟨hrun, hbusy⟩ := hinside.run (hmark.escaped_enter hs) ht.marks
  rw [List.cons_append, solid_cons_iff, hmark.step hs, solid_append,
    solid_of_busy hinside.atTop hbusy, Bool.true_and]
  exact ⟨fun h => hsep h.1.symm, solid_of_not_mem (by simpa using hsep)⟩

end Scan

end Clipbook
