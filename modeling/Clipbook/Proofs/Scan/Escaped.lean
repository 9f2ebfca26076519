import Clipbook.Proofs.Scan.Delimited

/-!
# Clipbook — escaped characters

An escaped character opens and closes nothing, whatever it is.  A scan looks back, though: a slash
opens a pattern behind a colon, a comma or an opening parenthesis, and there it does not ask
whether that character was escaped.  So one escaped character can be put in the place of another
without a change in what is open, up to exactly one case: an escaped mark of those three, outside
of quotes and patterns, with a slash behind it and only blanks between.

Main results:

* `Alike.opened_trace` — scans that are alike have the same open all along.
* `opened_trace_reread_iff` — scans that only differ in whether a slash may open a pattern have the
  same open all along unless a slash comes first.
* `opened_trace_escaped_iff` — when an escaped character matters.
-/

namespace Clipbook.Scan

variable {r s : Scan} {c : Char} {t u : Text}

/-! ## What is open -/

/-- The quote that is open, whether a pattern is, and the depths of braces and parentheses. -/
def opened (s : Scan) : Option Char × Bool × Nat × Nat :=
  (s.quote, s.inRegex, s.curly, s.paren)

theorem Alike.opened (h : Alike r s) : r.opened = s.opened := by
  rw [Scan.opened, Scan.opened, h.quote, h.inRegex, h.curly, h.paren]

/-- The states of a run are those of its two halves. -/
theorem trace_append (s : Scan) (t u : Text) :
    s.trace (t ++ u) = s.trace t ++ (s.run t).trace u := by
  induction t generalizing s with
  | nil => rfl
  | cons c t ih => simp only [List.cons_append, trace, ih, run_cons]

/-- There is one state for each character. -/
@[simp] theorem length_trace (s : Scan) (t : Text) : (s.trace t).length = t.length := by
  induction t generalizing s with
  | nil => rfl
  | cons c t ih => simp [trace, ih]

/-- **Scans that are alike have the same open all along.** -/
theorem Alike.opened_trace (h : Alike r s) (t : Text) :
    (r.trace t).map Scan.opened = (s.trace t).map Scan.opened := by
  induction t generalizing r s with
  | nil => rfl
  | cons c t ih =>
    have hstep : Alike (r.step c) (s.step c) := h.step c
    simp only [trace, List.map_cons, hstep.opened, ih hstep]

/-! ## Blanks -/

theorem isInert_of_isBlank (h : Text.isBlank c = true) : isInert c = true := by
  rw [isInert, decide_eq_true_eq]
  intro hmem
  simp only [List.mem_cons, List.not_mem_nil, or_false] at hmem
  rcases hmem with rfl | rfl | rfl | rfl | rfl | rfl | rfl | rfl <;> exact absurd h (by decide)

/-- A blank is only read, be it inside or outside of marks. -/
theorem step_of_isBlank (hq : s.QuotesOnly) (hs : s.escaped = false)
    (hc : Text.isBlank c = true) : s.step c = s.push [c] := by
  cases hquote : s.quote with
  | some q =>
    have hne : c ≠ q := by
      rintro rfl
      rcases hq c hquote with rfl | rfl <;> exact absurd hc (by decide)
    have hinside : s.Inside q := .inl hquote
    exact hinside.step (.inl hne)
  | none =>
    cases hregex : s.inRegex with
    | true =>
      have hne : c ≠ '/' := by
        rintro rfl
        exact absurd hc (by decide)
      have hinside : s.Inside '/' := .inr ⟨rfl, hquote, hregex⟩
      exact hinside.step (.inl hne)
    | false => exact step_of_isInert (isInert_of_isBlank hc) ⟨hquote, hregex, hs⟩

theorem escaped_step_of_isBlank (hc : Text.isBlank c = true) : (s.step c).escaped = false := by
  have hne : c ≠ '\\' := by
    rintro rfl
    exact absurd hc (by decide)
  rw [escaped_step, decide_eq_false hne, Bool.false_and]

/-! ## Looking back -/

/-- The scan as it were if it had read something else. -/
def reread (s : Scan) (t : Text) : Scan :=
  { s with read := t }

/-- A slash opens a pattern if an argument can start there. -/
structure Watches (s : Scan) : Prop where
  quote : s.quote = none
  inRegex : s.inRegex = false
  regexes : s.regexes = true

instance : Decidable s.Watches :=
  decidable_of_iff (s.quote = none ∧ s.inRegex = false ∧ s.regexes = true)
    ⟨fun h => ⟨h.1, h.2.1, h.2.2⟩, fun h => ⟨h.1, h.2, h.3⟩⟩

/-- Whether slashes are watched depends on quotes and patterns, and not on what was read. -/
theorem watches_congr (hquote : r.quote = s.quote) (hregex : r.inRegex = s.inRegex)
    (hregexes : r.regexes = s.regexes) : r.Watches ↔ s.Watches := by
  constructor
  · exact fun h => ⟨hquote ▸ h.quote, hregex ▸ h.inRegex, hregexes ▸ h.regexes⟩
  · exact fun h => ⟨hquote ▸ h.quote, hregex ▸ h.inRegex, hregexes ▸ h.regexes⟩

/-- Only a slash, and only where the scan watches for it, makes the scan look back. -/
theorem shift_reread (h : ¬(c = '/' ∧ s.Watches)) (t : Text) :
    (s.reread t).shift c = (s.shift c).reread t := by
  obtain ⟨read, quote, inRegex, regexes, curly, paren⟩ := s
  unfold shift reread
  cases quote with
  | some q =>
    dsimp only
    split <;> rfl
  | none =>
    cases inRegex with
    | true =>
      simp only [if_true]
      split <;> rfl
    | false =>
      -- what was read would only be asked for at a slash
      have hslash : ∀ b, ¬(c = '/' ∧ regexes = true ∧ b = true) := fun b hc =>
        h ⟨hc.1, rfl, rfl, hc.2.1⟩
      simp only [if_neg (hslash _), Bool.false_eq_true, if_false]
      repeat' split
      all_goals rfl

/-- What was read matters only to the two questions about it. -/
theorem alike_of_eq_reread (h : r = s.reread t) (hescaped : r.escaped = s.escaped)
    (hopen : r.regexCanOpen = s.regexCanOpen) : Alike r s := by
  refine ⟨?_, ?_, ?_, ?_, ?_, hescaped, hopen⟩
  all_goals
    rw [h]
    rfl

/-- Scans that are alike, up to what they have read, become alike at the first character that is no
blank, unless it is a slash that the scan watches for. -/
theorem alike_step_reread (h : ¬(c = '/' ∧ s.Watches)) (hs : s.escaped = false)
    (hread : (s.reread t).escaped = false) (hc : Text.isBlank c = false) :
    Alike ((s.reread t).step c) (s.step c) := by
  have hshift : (s.reread t).step c = (s.step c).reread (c :: t) := by
    rw [step_of_not_escaped hread, step_of_not_escaped hs, shift_reread h]
    rfl
  refine alike_of_eq_reread hshift ?_ ?_
  · rw [escaped_step, escaped_step, hs, hread]
  · rw [regexCanOpen_step, regexCanOpen_step, hc]
    rfl

/-- A slash opens a pattern where one can open. -/
theorem inRegex_step_slash (h : s.Watches) (hs : s.escaped = false) :
    (s.step '/').inRegex = s.regexCanOpen := by
  have hquote := h.quote
  have hregex := h.inRegex
  rw [step_of_not_escaped hs]
  unfold shift
  cases s.regexCanOpen <;> simp [hquote, hregex, h.regexes]

/-- **Scans that differ in whether a slash may open a pattern** have the same open all along,
unless they watch for a slash and it is the first character that is no blank. -/
theorem opened_trace_reread_iff (hq : s.QuotesOnly) (hs : s.escaped = false)
    (hread : (s.reread u).escaped = false)
    (hopen : (s.reread u).regexCanOpen ≠ s.regexCanOpen) (t : Text) :
    ((s.reread u).trace t).map opened = (s.trace t).map opened ↔
      ¬(s.Watches ∧ (t.dropWhile Text.isBlank).head? = some '/') := by
  -- blanks leave both scans as they are; the first character behind them decides
  induction t generalizing s u with
  | nil => simp [trace]
  | cons c t ih =>
    simp only [trace, List.map_cons, List.cons.injEq]
    cases hc : Text.isBlank c with
    | true =>
      have hstep : s.step c = s.push [c] := step_of_isBlank hq hs hc
      have hstep' : (s.reread u).step c = (s.push [c]).reread (c :: u) :=
        step_of_isBlank hq hread hc
      have hopen' : ((s.reread u).step c).regexCanOpen ≠ (s.step c).regexCanOpen := by
        rw [regexCanOpen_step, regexCanOpen_step, if_pos hc, if_pos hc]
        exact hopen
      have hescaped : (s.step c).escaped = false := escaped_step_of_isBlank hc
      have hescaped' : ((s.reread u).step c).escaped = false := escaped_step_of_isBlank hc
      rw [hstep'] at hopen' hescaped'
      rw [hstep] at hopen' hescaped
      have hquotes : (s.push [c]).QuotesOnly := hq
      rw [hstep, hstep', List.dropWhile_cons_of_pos hc, ih hquotes hescaped hescaped' hopen']
      have hwatches : (s.push [c]).Watches ↔ s.Watches := watches_congr rfl rfl rfl
      rw [hwatches]
      exact and_iff_right rfl
    | false =>
      rw [List.dropWhile_cons_of_neg (by simp [hc]), List.head?_cons, Option.some.injEq]
      by_cases hslash : c = '/' ∧ s.Watches
      · obtain ⟨rfl, hwatches⟩ := hslash
        -- one of them opens a pattern and the other does not
        have hiff : (s.reread u).Watches ↔ s.Watches := watches_congr rfl rfl rfl
        have hwatches' : (s.reread u).Watches := hiff.mpr hwatches
        refine iff_of_false (fun h => hopen ?_) (not_not_intro ⟨hwatches, rfl⟩)
        rw [← inRegex_step_slash hwatches' hread, ← inRegex_step_slash hwatches hs]
        exact congrArg (fun o => o.2.1) h.1
      · have halike := alike_step_reread hslash hs hread hc
        exact iff_of_true ⟨halike.opened, halike.opened_trace t⟩ fun h => hslash ⟨h.2, h.1⟩

/-! ## One escaped character for another -/

/-- Behind a backslash that escapes, no slash opens a pattern. -/
theorem regexCanOpen_of_escaped (h : s.escaped = true) : s.regexCanOpen = false := by
  cases hread : s.read with
  | nil => simp [escaped, hread, Text.oddBackslashes] at h
  | cons c read =>
    have hc : c = '\\' := by
      by_contra hc
      simp [escaped, hread, Text.oddBackslashes, hc] at h
    subst hc
    rw [regexCanOpen, hread, List.dropWhile_cons_of_neg (by decide)]
    rfl

/-- The marks behind which an argument can start. -/
def startsArgument (c : Char) : Bool :=
  c = ':' || c = ',' || c = '('

/-- One escaped character in the place of another: what is open behind them, and all along the
rest, is the same unless the rest shows which of them was a mark. -/
theorem opened_trace_cons_iff (hq : s.QuotesOnly) (hs : s.escaped = true) (c d : Char) (t : Text) :
    (s.trace (d :: t)).map opened = (s.trace (c :: t)).map opened ↔
      ¬(startsArgument d ≠ startsArgument c ∧ s.Watches ∧
        (t.dropWhile Text.isBlank).head? = some '/') := by
  have hstep (e : Char) : s.step e = { s with read := e :: s.read } := step_of_escaped hs e
  have hescaped (e : Char) : (s.step e).escaped = false := by
    rw [escaped_step, hs, Bool.not_true, Bool.and_false]
  -- a blank is looked through as far as the backslash, which is no mark
  have hopen (e : Char) : (s.step e).regexCanOpen = startsArgument e := by
    rw [regexCanOpen_step, regexCanOpen_of_escaped hs, startsArgument]
    split
    · next hblank =>
      refine (Bool.eq_false_iff.mpr fun hmark => ?_).symm
      simp only [Bool.or_eq_true, decide_eq_true_eq] at hmark
      rcases hmark with (rfl | rfl) | rfl <;> exact absurd hblank (by decide)
    · simp [Bool.decide_or, Bool.or_assoc]
  have hreread : s.step d = (s.step c).reread (d :: s.read) := by
    rw [hstep, hstep]
    rfl
  have hopened : (s.step d).opened = (s.step c).opened := by
    rw [hstep, hstep]
    rfl
  have hwatches : (s.step c).Watches ↔ s.Watches := by
    rw [hstep]
    exact watches_congr rfl rfl rfl
  simp only [trace, List.map_cons, List.cons.injEq, hopened, true_and]
  by_cases hmarks : startsArgument d = startsArgument c
  · -- both are marks or neither is one
    have halike : Alike (s.step d) (s.step c) := by
      refine alike_of_eq_reread hreread ?_ ?_
      · rw [hescaped, hescaped]
      · rw [hopen, hopen, hmarks]
    exact iff_of_true (halike.opened_trace t) fun h => h.1 hmarks
  · have hquotes : (s.step c).QuotesOnly := hq.step c
    have hread := hescaped d
    have hdiffer : (s.step d).regexCanOpen ≠ (s.step c).regexCanOpen := by
      rw [hopen, hopen]
      exact hmarks
    rw [hreread] at hread hdiffer
    rw [hreread, opened_trace_reread_iff hquotes (hescaped c) hread hdiffer, hwatches]
    exact not_congr (and_iff_right hmarks).symm

/-- A mark at a place of a text lets a slash open a pattern: it stands outside of quotes and
patterns, and only blanks are between it and the slash. -/
structure MarksPattern (regexes : Bool) (t : Text) (i : Nat) : Prop where
  mark : t[i]?.any startsArgument = true
  watches : ((start regexes).run (t.take i)).Watches
  slash : ((t.drop (i + 1)).dropWhile Text.isBlank).head? = some '/'

/-- **When an escaped character matters.**  With the letter `x` in its place a text has the same
open after every character from there on, unless the character lets a slash open a pattern. -/
theorem opened_trace_escaped_iff (regexes : Bool) (t : Text) (i : Nat) (hi : i < t.length)
    (h : Text.endsEscaped (t.take i) = true) :
    (((start regexes).trace (t.set i 'x')).drop i).map opened =
        (((start regexes).trace t).drop i).map opened ↔
      ¬MarksPattern regexes t i := by
  -- up to the character the two texts are the same, and there it is escaped
  have hdrop (d : Char) : ((start regexes).trace (t.take i ++ d :: t.drop (i + 1))).drop i =
      ((start regexes).run (t.take i)).trace (d :: t.drop (i + 1)) := by
    rw [trace_append]
    exact List.drop_left' (by simp; omega)
  have ht : t.take i ++ t[i] :: t.drop (i + 1) = t := by simp
  have hx : t.set i 'x' = t.take i ++ 'x' :: t.drop (i + 1) := by
    rw [List.set_eq_take_append_cons_drop, if_pos hi]
  have hescaped : ((start regexes).run (t.take i)).escaped = true := by
    rw [escaped, read_run]
    exact (congrArg Text.oddBackslashes (List.append_nil _)).trans h
  have htrace := hdrop t[i]
  rw [ht] at htrace
  rw [hx, hdrop, htrace,
    opened_trace_cons_iff ((quotesOnly_start regexes).run _) hescaped t[i] 'x' (t.drop (i + 1))]
  -- the letter is no mark, so that the two differ where the character is one
  have hmark : startsArgument 'x' ≠ startsArgument t[i] ↔
      t[i]?.any startsArgument = true := by
    rw [List.getElem?_eq_getElem hi, Option.any_some, show startsArgument 'x' = false from rfl]
    cases startsArgument t[i] <;> decide
  rw [hmark]
  exact not_congr ⟨fun hrest => ⟨hrest.1, hrest.2.1, hrest.2.2⟩,
    fun hrest => ⟨hrest.mark, hrest.watches, hrest.slash⟩⟩

instance (regexes : Bool) (t : Text) (i : Nat) : Decidable (MarksPattern regexes t i) :=
  decidable_of_iff
    (t[i]?.any startsArgument = true ∧ ((start regexes).run (t.take i)).Watches ∧
      ((t.drop (i + 1)).dropWhile Text.isBlank).head? = some '/')
    ⟨fun h => ⟨h.1, h.2.1, h.2.2⟩, fun h => ⟨h.mark, h.watches, h.slash⟩⟩

/-- An escaped parenthesis counts for nothing in front of a quote, though a slash comes later. -/
theorem opened_trace_escaped_iff_paren :
    let t := "a\\( 'b'/c:/d/".toList
    2 < t.length ∧ Text.endsEscaped (t.take 2) = true ∧
      (((start true).trace (t.set 2 'x')).drop 2).map opened =
        (((start true).trace t).drop 2).map opened := by
  intro t
  have hi : 2 < t.length := by decide
  have h : Text.endsEscaped (t.take 2) = true := by decide
  exact ⟨hi, h, (opened_trace_escaped_iff true t 2 hi h).mpr (by decide)⟩

/-- **An escaped comma can let a slash open a pattern**, which the letter does not. -/
theorem opened_trace_escaped_comma :
    ¬∀ (t : Text) (i : Nat), i < t.length → Text.endsEscaped (t.take i) = true →
      (((start true).trace (t.set i 'x')).drop i).map opened =
        (((start true).trace t).drop i).map opened := by
  intro h
  have hcomma := h "\\,/".toList 1 (by decide) (by decide)
  exact absurd hcomma (by decide)

end Clipbook.Scan
