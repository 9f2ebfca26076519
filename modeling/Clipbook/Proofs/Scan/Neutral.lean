import Clipbook.Proofs.Scan.Run

/-!
# Clipbook — neutral texts

A scan is plain where neither a quote nor a pattern is open and the next character is not escaped.
A neutral text leaves every plain scan as it is, but for what it has read, and does not come to the
top level on the way unless the scan is there already.

Main results:

* `Neutral.append`, `neutral_of_isInert` — neutral texts are made of neutral texts, and characters
  that open and close nothing are neutral.
* `Neutral.passes` — a plain scan passes over a neutral text; it may pass over others as well.
* `alike_step_paren` — behind an opening parenthesis it does not matter what was read before it.
* `Passes.closes_parens` — a text in parentheses comes back to the top level at its end where the
  scan passes over it.
-/

namespace Clipbook.Scan

variable {r s : Scan} {t u : Text}

/-! ## Neutral texts -/

/-- A scan that has read a text and is otherwise unchanged. -/
def push (s : Scan) (t : Text) : Scan :=
  { s with read := t.reverse ++ s.read }

/-- Neither a quote nor a pattern is open, and the next character is not escaped. -/
structure Plain (s : Scan) : Prop where
  quote : s.quote = none
  inRegex : s.inRegex = false
  escaped : s.escaped = false

/-- A text that a plain scan passes over without a change. -/
structure Neutral (t : Text) : Prop where
  run : ∀ s : Scan, s.Plain → s.run t = s.push t
  plain : ∀ s : Scan, s.Plain → (s.push t).Plain
  busy : ∀ s : Scan, s.Plain → s.atTop = false → busy s t = true

theorem push_append (s : Scan) (t u : Text) : (s.push t).push u = s.push (t ++ u) := by
  simp [push]

theorem plain_start (regexes : Bool) : (start regexes).Plain :=
  ⟨rfl, rfl, rfl⟩

theorem neutral_nil : Neutral [] :=
  ⟨fun _ _ => rfl, fun _ h => h, fun _ _ _ => rfl⟩

theorem Neutral.append (ht : Neutral t) (hu : Neutral u) : Neutral (t ++ u) where
  run s hs := by
    rw [run_append, ht.run s hs, hu.run _ (ht.plain s hs), push_append]
  plain s hs := by
    rw [← push_append]
    exact hu.plain _ (ht.plain s hs)
  busy s hs htop := by
    rw [busy_append, ht.busy s hs htop, ht.run s hs]
    exact hu.busy _ (ht.plain s hs) htop

/-- A text that a scan passes over, and is plain behind it. -/
structure Passes (s : Scan) (t : Text) : Prop where
  run : s.run t = s.push t
  plain : (s.push t).Plain
  busy : s.atTop = false → busy s t = true

/-- A neutral text is passed from any plain state. -/
theorem Neutral.passes (h : Neutral t) (hs : s.Plain) : s.Passes t :=
  ⟨h.run s hs, h.plain s hs, h.busy s hs⟩

/-- A text that is passed from every plain state is neutral. -/
theorem neutral_of_passes (h : ∀ s : Scan, s.Plain → s.Passes t) : Neutral t :=
  ⟨fun s hs => (h s hs).run, fun s hs => (h s hs).plain, fun s hs => (h s hs).busy⟩

/-- Texts that are passed one after the other are passed together. -/
theorem Passes.append (ht : s.Passes t) (hu : (s.push t).Passes u) : s.Passes (t ++ u) where
  run := by
    rw [run_append, ht.run, hu.run, push_append]
  plain := by
    rw [← push_append]
    exact hu.plain
  busy htop := by
    rw [busy_append, ht.busy htop, ht.run]
    exact hu.busy htop

/-- A text that is passed over at the top level ends there. -/
theorem Passes.splits {regexes : Bool} (h : (start regexes).Passes t) :
    ((start regexes).run t).splits = true := by
  rw [h.run]
  exact splits_iff.mpr ⟨rfl, h.plain.escaped⟩

/-- Behind a neutral text the scanner splits. -/
theorem Neutral.splits (h : Neutral t) (regexes : Bool) :
    ((start regexes).run t).splits = true :=
  (h.passes (plain_start regexes)).splits

/-- Characters that open and close nothing. -/
def isInert (c : Char) : Bool :=
  c ∉ ['\'', '"', '/', '\\', '\x7b', '\x7d', '(', ')']

/-- A character without a meaning is read, and nothing else happens. -/
theorem step_of_isInert {c : Char} (hc : isInert c = true) (hs : s.Plain) :
    s.step c = s.push [c] := by
  simp only [isInert, List.mem_cons, List.not_mem_nil, or_false, not_or,
    decide_eq_true_eq] at hc
  obtain ⟨hapos, hquot, hslash, -, hopen, hclose, hparen, hparen'⟩ := hc
  rw [step_of_not_escaped hs.escaped]
  have hshift : s.shift c = s := by
    unfold shift
    simp [hs.quote, hs.inRegex, hapos, hquot, hslash, hopen, hclose, hparen, hparen']
  rw [hshift]
  rfl

/-- A character that is only read, and escapes nothing. -/
theorem passes_singleton {c : Char} (hs : s.Plain) (hstep : s.step c = s.push [c]) (hc : c ≠ '\\') :
    s.Passes [c] where
  run := by rw [run_cons, run_nil, hstep]
  plain := by
    refine ⟨hs.quote, hs.inRegex, ?_⟩
    rw [← hstep, escaped_step, decide_eq_false hc, Bool.false_and]
  busy htop := by
    have hlast : (s.push [c]).atTop = false := htop
    rw [busy, hstep, hlast]
    rfl

theorem neutral_singleton {c : Char} (hc : isInert c = true) : Neutral [c] := by
  refine neutral_of_passes fun s hs => passes_singleton hs (step_of_isInert hc hs) ?_
  rintro rfl
  exact absurd hc (by decide)

/-- A text of characters without a meaning is neutral. -/
theorem neutral_of_isInert (h : ∀ c ∈ t, isInert c = true) : Neutral t := by
  induction t with
  | nil => exact neutral_nil
  | cons c t ih =>
    have hone := neutral_singleton (h c (List.mem_cons_self ..))
    exact hone.append (ih fun d hd => h d (List.mem_cons_of_mem _ hd))

/-! ## Parentheses -/

theorem step_open (hs : s.Plain) :
    s.step '(' = { s with read := '(' :: s.read, paren := s.paren + 1 } := by
  rw [step_of_not_escaped hs.escaped]
  unfold shift
  simp [hs.quote, hs.inRegex]

theorem step_close (hs : s.Plain) :
    s.step ')' = { s with read := ')' :: s.read, paren := s.paren - 1 } := by
  rw [step_of_not_escaped hs.escaped]
  unfold shift
  simp [hs.quote, hs.inRegex]

theorem atTop_step_open (hs : s.Plain) : (s.step '(').atTop = false := by
  rw [step_open hs]
  simp [atTop]

theorem plain_step_open (hs : s.Plain) : (s.step '(').Plain := by
  refine ⟨?_, ?_, ?_⟩
  · rw [step_open hs]
    exact hs.quote
  · rw [step_open hs]
    exact hs.inRegex
  · rw [escaped_step, decide_eq_false (by decide), Bool.false_and]

/-- Behind an opening parenthesis plain scans with equal depths are alike. -/
theorem alike_step_paren (hr : r.Plain) (hs : s.Plain) (hregexes : r.regexes = s.regexes)
    (hcurly : r.curly = s.curly) (hparen : r.paren = s.paren) :
    Alike (r.step '(') (s.step '(') := by
  refine ⟨?_, ?_, ?_, ?_, ?_, ?_, ?_⟩
  · rw [(plain_step_open hr).quote, (plain_step_open hs).quote]
  · rw [(plain_step_open hr).inRegex, (plain_step_open hs).inRegex]
  · rw [regexes_step, regexes_step, hregexes]
  · rw [step_open hr, step_open hs]
    exact hcurly
  · rw [step_open hr, step_open hs, hparen]
  · rw [(plain_step_open hr).escaped, (plain_step_open hs).escaped]
  · rw [regexCanOpen_step, regexCanOpen_step]
    rfl

/-- A text in parentheses comes back to the top level at its end, if it is passed over. -/
theorem Passes.closes_parens (h : (s.step '(').Passes t) (hs : s.Plain) (htop : s.atTop = true) :
    closes s ('(' :: t ++ [')']) = true := by
  have hend : (((s.step '(').run t).step ')').atTop = true := by
    rw [h.run, step_close h.plain]
    show ({ s.step '(' with paren := (s.step '(').paren - 1 } : Scan).atTop = true
    rw [step_open hs]
    exact htop
  rw [List.cons_append, closes, if_neg (by simp [atTop_step_open hs])]
  exact closes_concat (h.busy (atTop_step_open hs)) hend

/-- Brackets around a neutral text close at its end. -/
theorem closes_parens (h : Neutral t) (hs : s.Plain) (htop : s.atTop = true) :
    closes s ('(' :: t ++ [')']) = true :=
  (h.passes (plain_step_open hs)).closes_parens hs htop

end Clipbook.Scan
