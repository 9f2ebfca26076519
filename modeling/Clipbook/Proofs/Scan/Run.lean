import Clipbook.Proofs.Text.Trimmed
import Clipbook.Scan

/-!
# Clipbook — runs of a scan

What a scan does with a text depends on what is open and on two facts about what it has read:
whether the next character is escaped, and whether a slash may open a pattern.  Two scans that
agree on these are alike, and stay alike on every text.

A separator counts only where the scan splits.  Three properties of a text that is still to be
scanned say when it does not:

* `solid` — no separator of the text splits.
* `busy` — the scan of the text stays below the top level.
* `closes` — the scan of the text comes to the top level for the first time at its end.

Main results:

* `Alike.run` — scans that are alike stay alike.
* `solid_of_busy`, `of_closes` — a text below the top level, or up to the first return there, has
  no separator that splits; after the return the scan splits.
-/

namespace Clipbook.Scan

variable {r s : Scan} {sep c : Char} {t u : Text}

/-! ## Runs -/

@[simp] theorem run_nil (s : Scan) : s.run [] = s := rfl

@[simp] theorem run_cons (s : Scan) (c : Char) (t : Text) :
    s.run (c :: t) = (s.step c).run t := rfl

/-- A run goes on where the one before it stopped. -/
theorem run_append (s : Scan) (t u : Text) : s.run (t ++ u) = (s.run t).run u :=
  List.foldl_append

/-- What a character means does not change what was read. -/
@[simp] theorem read_shift (s : Scan) (c : Char) : (s.shift c).read = s.read := by
  unfold shift
  repeat' split
  all_goals rfl

/-- What a character means does not change whether patterns are read. -/
@[simp] theorem regexes_shift (s : Scan) (c : Char) : (s.shift c).regexes = s.regexes := by
  unfold shift
  repeat' split
  all_goals rfl

/-- A step reads its character. -/
@[simp] theorem read_step (s : Scan) (c : Char) : (s.step c).read = c :: s.read := by
  unfold step
  split <;> simp

/-- A step does not change whether patterns are read. -/
@[simp] theorem regexes_step (s : Scan) (c : Char) : (s.step c).regexes = s.regexes := by
  unfold step
  split <;> simp

theorem read_run (s : Scan) (t : Text) : (s.run t).read = t.reverse ++ s.read := by
  induction t generalizing s with
  | nil => rfl
  | cons c t ih => rw [run_cons, ih, read_step, List.reverse_cons, List.append_assoc]; rfl

/-- A run does not change whether patterns are read. -/
@[simp] theorem regexes_run (s : Scan) (t : Text) : (s.run t).regexes = s.regexes := by
  induction t generalizing s with
  | nil => rfl
  | cons c t ih => rw [run_cons, ih, regexes_step]

/-- In quotes only the quote that opened them has a meaning. -/
theorem shift_of_quote {q : Char} (h : s.quote = some q) (c : Char) :
    s.shift c = if c = q then { s with quote := none } else s := by
  rw [shift, h]

/-- A quote outside of quotes and patterns opens. -/
theorem shift_quote (hq : s.quote = none) (hr : s.inRegex = false) (hc : c = '\'' ∨ c = '"') :
    s.shift c = { s with quote := some c } := by
  rw [shift, hq]
  dsimp only
  rw [if_neg (by simp [hr]), if_pos hc]

/-- An escaped character is read and has no meaning. -/
theorem step_of_escaped (h : s.escaped = true) (c : Char) :
    s.step c = { s with read := c :: s.read } := by
  rw [step, if_pos h]

/-- A character that is not escaped is read with its meaning. -/
theorem step_of_not_escaped (h : s.escaped = false) (c : Char) :
    s.step c = { s.shift c with read := c :: s.read } := by
  rw [step, if_neg (by simp [h])]
  dsimp only
  rw [read_shift]

/-- A character is escaped by a backslash that is not escaped itself. -/
theorem escaped_step (s : Scan) (c : Char) :
    (s.step c).escaped = (decide (c = '\\') && !s.escaped) := by
  rw [escaped, read_step, Text.oddBackslashes]
  by_cases hc : c = '\\' <;> simp [hc, escaped]

/-- A pattern can open behind a colon, a comma or a bracket, and blanks behind these. -/
theorem regexCanOpen_step (s : Scan) (c : Char) :
    (s.step c).regexCanOpen =
      if Text.isBlank c then s.regexCanOpen else decide (c = ':' ∨ c = ',' ∨ c = '(') := by
  rw [regexCanOpen, read_step]
  -- blanks are looked through: the slash is judged by the last character before them
  cases hc : Text.isBlank c with
  | true => rw [List.dropWhile_cons_of_pos hc]; rfl
  | false =>
    rw [List.dropWhile_cons_of_neg (by simp [hc])]
    simp [Bool.decide_or, Bool.or_assoc]

/-- Texts are split at the top where the separator is not escaped. -/
theorem splits_iff : s.splits = true ↔ s.atTop = true ∧ s.escaped = false := by
  simp [splits]

/-! ## Scans that are alike -/

/-- Two scans have the same open and look back on what they have read in the same way. -/
structure Alike (r s : Scan) : Prop where
  quote : r.quote = s.quote
  inRegex : r.inRegex = s.inRegex
  regexes : r.regexes = s.regexes
  curly : r.curly = s.curly
  paren : r.paren = s.paren
  escaped : r.escaped = s.escaped
  regexCanOpen : r.regexCanOpen = s.regexCanOpen

/-- States that differ in what they have read are at the top together. -/
theorem Alike.atTop (h : Alike r s) : r.atTop = s.atTop := by
  simp only [Scan.atTop, h.quote, h.inRegex, h.curly, h.paren]

theorem Alike.splits (h : Alike r s) : r.splits = s.splits := by
  rw [Scan.splits, Scan.splits, h.atTop, h.escaped]

/-- What a character opens or closes depends on what is open and on whether a slash may open a
pattern. -/
theorem Alike.shift (h : Alike r s) (c : Char) :
    (r.shift c).quote = (s.shift c).quote ∧ (r.shift c).inRegex = (s.shift c).inRegex ∧
      (r.shift c).curly = (s.shift c).curly ∧ (r.shift c).paren = (s.shift c).paren := by
  unfold Scan.shift
  -- the step looks at these six fields only
  rw [h.quote, h.inRegex, h.regexes, h.curly, h.paren, h.regexCanOpen]
  cases hq : s.quote with
  | some q =>
    dsimp only
    split
    · exact ⟨rfl, rfl, rfl, rfl⟩
    · exact ⟨h.quote, h.inRegex, h.curly, h.paren⟩
  | none =>
    dsimp only
    repeat' split
    all_goals simp only [h.quote, h.inRegex, h.curly, h.paren, hq, and_self]

theorem Alike.step (h : Alike r s) (c : Char) : Alike (r.step c) (s.step c) := by
  -- what is open; the two facts about what was read follow from their own step equations
  have hopen : (r.step c).quote = (s.step c).quote ∧ (r.step c).inRegex = (s.step c).inRegex ∧
      (r.step c).curly = (s.step c).curly ∧ (r.step c).paren = (s.step c).paren := by
    unfold Scan.step
    rw [h.escaped]
    cases s.escaped with
    | true => exact ⟨h.quote, h.inRegex, h.curly, h.paren⟩
    | false => exact h.shift c
  refine ⟨hopen.1, hopen.2.1, ?_, hopen.2.2.1, hopen.2.2.2, ?_, ?_⟩
  · rw [regexes_step, regexes_step, h.regexes]
  · rw [escaped_step, escaped_step, h.escaped]
  · rw [regexCanOpen_step, regexCanOpen_step, h.regexCanOpen]

/-- **Scans that are alike stay alike.** -/
theorem Alike.run (h : Alike r s) (t : Text) : Alike (r.run t) (s.run t) := by
  induction t generalizing r s with
  | nil => exact h
  | cons c t ih => exact ih (h.step c)

/-! ## Separators that do not count -/

/-- Whether no separator of a text is at a place where the scan splits. -/
def solid (sep : Char) (s : Scan) : Text → Bool
  | [] => true
  | c :: t => !(c = sep && s.splits) && solid sep (s.step c) t

/-- Whether the scan of a text stays below the top level. -/
def busy (s : Scan) : Text → Bool
  | [] => true
  | c :: t => !(s.step c).atTop && busy (s.step c) t

/-- Whether the scan of a text comes to the top level for the first time at its end. -/
def closes (s : Scan) : Text → Bool
  | [] => false
  | c :: t => if (s.step c).atTop then t = [] else closes (s.step c) t

/-- A text is solid if its first character does not split it, and the rest is solid behind it. -/
theorem solid_cons_iff :
    solid sep s (c :: t) = true ↔
      ¬(c = sep ∧ s.splits = true) ∧ solid sep (s.step c) t = true := by
  rw [solid, Bool.and_eq_true, Bool.not_eq_true', ← Bool.not_eq_true, Bool.and_eq_true,
    decide_eq_true_eq]

/-- A text of two halves is solid if both are, the second one behind the first. -/
theorem solid_append : solid sep s (t ++ u) = (solid sep s t && solid sep (s.run t) u) := by
  induction t generalizing s with
  | nil => rfl
  | cons c t ih => rw [List.cons_append, solid, ih, solid, run_cons, Bool.and_assoc]

/-- A text of two halves is busy if both are, the second one behind the first. -/
theorem busy_append : busy s (t ++ u) = (busy s t && busy (s.run t) u) := by
  induction t generalizing s with
  | nil => rfl
  | cons c t ih => rw [List.cons_append, busy, ih, busy, run_cons, Bool.and_assoc]

/-- A text without the separator is solid. -/
theorem solid_of_not_mem (h : sep ∉ t) : solid sep s t = true := by
  induction t generalizing s with
  | nil => rfl
  | cons c t ih =>
    rw [List.mem_cons, not_or] at h
    rw [solid, ih h.2]
    simp [Ne.symm h.1]

/-- Below the top level no separator splits. -/
theorem solid_of_busy (hs : s.atTop = false) (h : busy s t = true) : solid sep s t = true := by
  induction t generalizing s with
  | nil => rfl
  | cons c t ih =>
    rw [busy, Bool.and_eq_true, Bool.not_eq_true'] at h
    rw [solid, ih h.1 h.2, splits, hs]
    simp

/-- A busy text closes with the character that leads back to the top. -/
theorem closes_concat (h : busy s t = true) (hc : ((s.run t).step c).atTop = true) :
    closes s (t ++ [c]) = true := by
  induction t generalizing s with
  | nil => exact if_pos hc
  | cons d t ih =>
    rw [busy, Bool.and_eq_true, Bool.not_eq_true'] at h
    rw [List.cons_append, closes, if_neg (by simp [h.1])]
    exact ih h.2 hc

/-- States that are alike find a text closed together. -/
theorem Alike.closes (h : Alike r s) (t : Text) : Scan.closes r t = Scan.closes s t := by
  induction t generalizing r s with
  | nil => rfl
  | cons c t ih => rw [Scan.closes, Scan.closes, (h.step c).atTop, ih (h.step c)]

/-- The first return to the top level, told by the prefixes of a text. -/
theorem closes_iff :
    closes s t = true ↔ t ≠ [] ∧ ∀ p, p <+: t → p ≠ [] → ((s.run p).atTop = true ↔ p = t) := by
  induction t generalizing s with
  | nil => simp [closes]
  | cons c t ih =>
    have hone : [c] <+: c :: t := List.prefix_append [c] t
    rw [closes]
    constructor
    · intro h
      refine ⟨List.cons_ne_nil c t, fun p hp hne => ?_⟩
      obtain ⟨p, rfl⟩ : ∃ p', p = c :: p' := by
        cases p with
        | nil => exact absurd rfl hne
        | cons d p => exact ⟨p, by rw [(List.cons_prefix_cons.mp hp).1]⟩
      have hp' : p <+: t := (List.cons_prefix_cons.mp hp).2
      rw [run_cons, List.cons.injEq, and_iff_right rfl]
      -- the return is here, and then the text ends, or it is a matter of the rest
      split at h
      · next htop =>
        obtain rfl : t = [] := of_decide_eq_true h
        rw [List.prefix_nil.mp hp']
        exact iff_of_true htop rfl
      · next htop =>
        obtain ⟨hne', hall⟩ := ih.mp h
        by_cases hempty : p = []
        · rw [hempty]
          exact iff_of_false htop (Ne.symm hne')
        · exact hall p hp' hempty
    · rintro ⟨-, hall⟩
      split
      · next htop =>
        -- the one character is a prefix at the top level, so it is the whole text
        have := (hall [c] hone (List.cons_ne_nil c [])).mp htop
        exact decide_eq_true (List.cons.inj this).2.symm
      · next htop =>
        refine ih.mpr ⟨fun hempty => ?_, fun p hp hne => ?_⟩
        · rw [hempty] at hall hone
          exact htop ((hall [c] hone (List.cons_ne_nil c [])).mpr rfl)
        · have := hall (c :: p) (List.cons_prefix_cons.mpr ⟨rfl, hp⟩) (List.cons_ne_nil c p)
          rwa [run_cons, List.cons.injEq, and_iff_right rfl] at this

/-! ## The return to the top level -/

/-- Only the two quotes are ever open as quotes. -/
def QuotesOnly (s : Scan) : Prop :=
  ∀ q, s.quote = some q → q = '\'' ∨ q = '"'

theorem quotesOnly_start (regexes : Bool) : (start regexes).QuotesOnly := by
  intro q hq
  cases hq

/-- Where only quotes are followed, no character opens anything else. -/
theorem QuotesOnly.shift (h : s.QuotesOnly) (c : Char) : (s.shift c).QuotesOnly := by
  intro q hq
  unfold Scan.shift at hq
  split at hq
  · split at hq
    · cases hq
    · exact h q hq
  · repeat' split at hq
    all_goals try exact h q hq
    -- the one character that opens a quote is the quote
    next hc =>
    rwa [← Option.some.inj hq]

/-- Where only quotes are followed, a step leads into nothing else. -/
theorem QuotesOnly.step (h : s.QuotesOnly) (c : Char) : (s.step c).QuotesOnly := by
  unfold Scan.step
  cases s.escaped with
  | true => exact h
  | false => exact h.shift c

/-- Where only quotes are followed, a run leads into nothing else. -/
theorem QuotesOnly.run (h : s.QuotesOnly) (t : Text) : (s.run t).QuotesOnly := by
  induction t generalizing s with
  | nil => exact h
  | cons c t ih => exact ih (h.step c)

/-- What brings a scan back to the top level is an unescaped closing character. -/
theorem closing_of_atTop_step (hq : s.QuotesOnly) (hs : s.atTop = false)
    (h : (s.step c).atTop = true) :
    c ∈ ['\'', '"', '/', '\x7d', ')'] := by
  refine Classical.byContradiction fun hc => ?_
  simp only [List.mem_cons, List.not_mem_nil, or_false, not_or] at hc
  obtain ⟨hapos, hquot, hslash, hcurly, hparen⟩ := hc
  -- no other character closes anything
  suffices hstep : (s.step c).atTop = false by
    rw [hstep] at h
    cases h
  cases he : s.escaped with
  | true =>
    rw [step_of_escaped he]
    exact hs
  | false =>
    rw [step_of_not_escaped he]
    show (s.shift c).atTop = false
    cases hquote : s.quote with
    | some q =>
      -- within quotes only the quote itself would do it
      have hne : c ≠ q := by
        rcases hq q hquote with rfl | rfl
        · exact hapos
        · exact hquot
      rw [shift_of_quote hquote, if_neg hne]
      exact hs
    | none =>
      -- what is left opens a brace or a parenthesis, or changes nothing
      unfold shift
      simp only [hquote, hslash, hapos, hquot, hcurly, hparen, false_and, or_self, if_false]
      repeat' split
      · exact hs
      · simp [atTop]
      · simp [atTop]
      · exact hs

/-- The character that closes a text is no blank and no backslash. -/
theorem of_mem_closing (h : c ∈ ['\'', '"', '/', '\x7d', ')']) :
    Text.isBlank c = false ∧ c ≠ '\\' := by
  simp only [List.mem_cons, List.not_mem_nil, or_false] at h
  rcases h with rfl | rfl | rfl | rfl | rfl <;> decide

/-- **Up to the first return to the top level no separator splits, and after it the scan
does.** -/
theorem of_closes (hq : s.QuotesOnly) (hs : s.atTop = false) (h : closes s t = true) :
    solid sep s t = true ∧ (s.run t).splits = true ∧
      ∃ c, t.getLast? = some c ∧ Text.isBlank c = false := by
  induction t generalizing s with
  | nil => cases h
  | cons c t ih =>
    have hsplits : s.splits = false := by rw [splits, hs, Bool.false_and]
    rw [closes] at h
    rw [solid, hsplits, Bool.and_false, Bool.not_false, Bool.true_and, run_cons]
    split at h
    · next htop =>
      -- the return: a closing character, so neither blank nor escaping the next one
      obtain rfl : t = [] := of_decide_eq_true h
      obtain ⟨hblank, hbackslash⟩ := of_mem_closing (closing_of_atTop_step hq hs htop)
      refine ⟨rfl, splits_iff.mpr ⟨htop, ?_⟩, c, rfl, hblank⟩
      rw [run_nil, escaped_step, decide_eq_false hbackslash, Bool.false_and]
    · next htop =>
      obtain ⟨hsolid, hend, d, hlast, hblank⟩ := ih (hq.step c) (Bool.eq_false_iff.mpr htop) h
      refine ⟨hsolid, hend, d, ?_, hblank⟩
      rw [List.getLast?_cons, hlast]
      rfl

end Clipbook.Scan
