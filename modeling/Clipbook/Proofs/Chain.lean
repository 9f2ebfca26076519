import Clipbook.Proofs.Scan.Neutral
import Clipbook.Proofs.Scan.Split
import Clipbook.Template.Render

/-!
# Clipbook — written filter chains

A chain of calls is written with colons between the calls.  Reading what was written gives the
calls back, whatever their arguments hold, as long as these stand in parentheses that a scan sees
closing at their end.  Applying a chain is then a fold over its calls.

Main results:

* `part_printed` — a written call is ended by the colon behind it, and by none inside of it.
* `chain_printAll` — a written chain is read back.
* `applyAll_result` — calls are applied one after the other, and those that are no filter or fault
  leave the value as it was.
* `chain_printAll_and_foldl` — both together, for the written chain.
-/

namespace Clipbook

namespace Call

variable {c : Call} {args : Text}

/-! ## Writing -/

/-- A call as it is written in a chain. -/
def printed (c : Call) : Text :=
  c.name ++ c.args

/-- A chain as it is written. -/
def printAll (calls : List Call) : Text :=
  Text.join [':'] (calls.map printed)

/-- Arguments in parentheses: a scan of them from the start comes to the top level for the first
time at their end. -/
structure Bracketed (args : Text) : Prop where
  opens : args.head? = some '('
  closes : ∀ p, p <+: args → p ≠ [] → (((Scan.start true).run p).atTop = true ↔ p = args)

/-- A call that can be written: its name is made of the characters of a name, and its arguments
are missing or in parentheses. -/
structure Printable (c : Call) : Prop where
  name_ne : c.name ≠ []
  name : ∀ x ∈ c.name, isNameChar x = true
  args : c.args = [] ∨ Bracketed c.args

/-! ## Names -/

/-- The characters of names mean nothing to the scanner. -/
theorem isInert_of_isNameChar {x : Char} (h : isNameChar x = true) : Scan.isInert x = true := by
  rw [Scan.isInert, decide_eq_true_eq]
  intro hx
  simp only [List.mem_cons, List.not_mem_nil, or_false] at hx
  rcases hx with rfl | rfl | rfl | rfl | rfl | rfl | rfl | rfl <;> exact absurd h (by decide)

theorem isBlank_eq_false_of_isNameChar {x : Char} (h : isNameChar x = true) :
    Text.isBlank x = false := by
  rw [isNameChar, Bool.or_eq_true] at h
  rcases h with h | h
  · exact Text.isBlank_eq_false_of_isWord h
  · rw [of_decide_eq_true h]
    decide

theorem neutral_name {name : Text} (h : ∀ x ∈ name, isNameChar x = true) : Scan.Neutral name :=
  Scan.neutral_of_isInert fun x hx => isInert_of_isNameChar (h x hx)

/-- What is no character of names stands in no name. -/
theorem not_mem_name {name : Text} (h : ∀ x ∈ name, isNameChar x = true) {sep : Char}
    (hsep : isNameChar sep = false) : sep ∉ name := by
  intro hmem
  rw [h sep hmem] at hsep
  cases hsep

/-! ## Arguments -/

/-- A text is in brackets if the scanner finds the first one closed at its end, and not before. -/
theorem Bracketed.of_closes {rest : Text}
    (h : Scan.closes (Scan.start true) ('(' :: rest) = true) : Bracketed ('(' :: rest) :=
  ⟨rfl, (Scan.closes_iff.mp h).2⟩

theorem Bracketed.eq_cons (h : Bracketed args) : ∃ rest, args = '(' :: rest := by
  cases args with
  | nil => exact absurd h.opens (by simp)
  | cons d rest => exact ⟨rest, by rw [Option.some.inj h.opens]⟩

/-- Behind a name, where the scan is plain and at the top level, no separator of the arguments
splits, and after them the scan does. -/
theorem Bracketed.scan (h : Bracketed args) {s : Scan} (hs : s.Plain) (htop : s.atTop = true)
    (hquotes : s.QuotesOnly) (hregexes : s.regexes = true) {sep : Char} (hsep : sep ≠ '(') :
    Scan.solid sep s args = true ∧ (s.run args).splits = true ∧
      ∃ d, args.getLast? = some d ∧ Text.isBlank d = false := by
  have hclosed : Scan.closes (Scan.start true) args = true := by
    refine Scan.closes_iff.mpr ⟨fun hnil => ?_, h.closes⟩
    have := h.opens
    rw [hnil] at this
    cases this
  obtain ⟨rest, rfl⟩ := h.eq_cons
  have hstart := Scan.plain_start true
  simp only [Scan.atTop, Bool.and_eq_true, decide_eq_true_eq] at htop
  have halike : Scan.Alike (s.step '(') ((Scan.start true).step '(') :=
    Scan.alike_step_paren hs hstart hregexes htop.1.2 htop.2
  -- the opening parenthesis is below the top level, so the rest comes back to it
  rw [Scan.closes, if_neg (by simp [Scan.atTop_step_open hstart]), ← halike.closes] at hclosed
  obtain ⟨hsolid, hend, d, hlast, hblank⟩ :=
    Scan.of_closes (hquotes.step '(') (Scan.atTop_step_open hs) hclosed
  refine ⟨Scan.solid_cons_iff.mpr ⟨fun hx => hsep hx.1.symm, hsolid⟩, hend, d, ?_, hblank⟩
  rw [List.getLast?_cons, hlast]
  rfl

/-! ## Reading back -/

/-- Brackets at both ends: no blanks at either. -/
theorem Bracketed.trimmed (h : Bracketed args) : Text.Trimmed args := by
  obtain ⟨-, -, d, hlast, hblank⟩ :=
    h.scan (Scan.plain_start true) rfl (Scan.quotesOnly_start true) rfl
      (show ')' ≠ '(' by decide)
  obtain ⟨rest, rfl⟩ := h.eq_cons
  refine ⟨fun x hx => ?_, fun x hx => ?_⟩
  · rw [← Option.some.inj hx]
    decide
  · rw [hlast] at hx
    rwa [← Option.some.inj hx]

theorem Printable.trimmed_args (h : c.Printable) : Text.Trimmed c.args := by
  rcases h.args with hnil | hargs
  · rw [hnil]
    exact Text.trimmed_nil
  · exact hargs.trimmed

/-- A written call is trimmed. -/
theorem Printable.trimmed (h : c.Printable) : Text.Trimmed c.printed :=
  Text.trimmed_append (fun x hx => isBlank_eq_false_of_isNameChar (h.name x hx)) h.name_ne
    h.trimmed_args

/-- **A written call is ended by the colon behind it**, or by another character that stands in no
name, and by none inside of it. -/
theorem part_printed (h : c.Printable) {sep : Char} (hname : isNameChar sep = false)
    (hsep : sep ≠ '(') : Scan.Part sep true c.printed := by
  have hneutral := neutral_name h.name
  have hstart := Scan.plain_start true
  have hsolid : Scan.solid sep (Scan.start true) c.name = true :=
    Scan.solid_of_not_mem (not_mem_name h.name hname)
  rcases h.args with hargs | hargs
  · rw [printed, hargs, List.append_nil]
    exact ⟨hsolid, hneutral.splits true⟩
  · -- the scan of the name leaves nothing open, so that of the arguments is one from the start
    have hplain : ((Scan.start true).run c.name).Plain := by
      rw [hneutral.run _ hstart]
      exact hneutral.plain _ hstart
    have htop := (Scan.splits_iff.mp (hneutral.splits true)).1
    have hquotes := (Scan.quotesOnly_start true).run c.name
    obtain ⟨hargs', hend, -⟩ := hargs.scan hplain htop hquotes (Scan.regexes_run _ _) hsep
    refine ⟨?_, ?_⟩
    · rw [printed, Scan.solid_append, hsolid, hargs', Bool.and_self]
    · rw [printed, Scan.run_append]
      exact hend

/-- A name is ended by arguments that start with a character of no name. -/
theorem ofPart?_append {name : Text} (hne : name ≠ []) (hname : ∀ x ∈ name, isNameChar x = true)
    (htake : args.takeWhile isNameChar = []) (htrim : Text.Trimmed args) :
    ofPart? (name ++ args) = some ⟨name, args⟩ := by
  have hdrop : args.dropWhile isNameChar = args := by
    have := List.takeWhile_append_dropWhile (p := isNameChar) (l := args)
    rwa [htake, List.nil_append] at this
  rw [ofPart?, List.takeWhile_append_of_pos hname, List.dropWhile_append_of_pos hname,
    htake, hdrop, List.append_nil, Text.strip_eq_self htrim]
  split
  · exact absurd rfl hne
  · rfl

theorem ofPart?_printed (h : c.Printable) : ofPart? c.printed = some c := by
  have htake : c.args.takeWhile isNameChar = [] := by
    rcases h.args with hargs | hargs
    · rw [hargs]
      rfl
    · obtain ⟨rest, hrest⟩ := hargs.eq_cons
      rw [hrest, List.takeWhile_cons_of_neg (by decide)]
  exact ofPart?_append h.name_ne h.name htake h.trimmed_args

/-- A call is no longer than the part that spells it. -/
theorem length_of_ofPart? {part : Text} (h : ofPart? part = some c) :
    c.printed.length ≤ part.length := by
  have hparts := congrArg List.length
    (List.takeWhile_append_dropWhile (p := isNameChar) (l := part))
  rw [List.length_append] at hparts
  have hstrip := Text.length_strip_le (part.dropWhile isNameChar)
  rw [ofPart?] at h
  split at h
  · cases h
  · rw [← Option.some.inj h, printed, List.length_append]
    dsimp only
    omega

/-- Calls are read back from the list of their texts. -/
theorem filterMap_ofPart?_printed {calls : List Call} (h : ∀ c ∈ calls, c.Printable) :
    (calls.map printed).filterMap ofPart? = calls := by
  induction calls with
  | nil => rfl
  | cons c calls ih =>
    rw [List.map_cons, List.filterMap_cons, ofPart?_printed (h c (List.mem_cons_self ..)),
      ih fun d hd => h d (List.mem_cons_of_mem _ hd)]

/-- **A written chain is read back.** -/
theorem chain_printAll {calls : List Call} (h : ∀ c ∈ calls, c.Printable) :
    chain (printAll calls) = calls := by
  -- the parts are the printed calls, each of which is read back by itself
  have hsplit : Scan.splitTop ':' true (printAll calls) = calls.map printed := by
    apply Scan.splitTop_join
    · intro p hp
      obtain ⟨c, hc, rfl⟩ := List.mem_map.mp hp
      exact part_printed (h c hc) (by decide) (by decide)
    · intro p hp
      obtain ⟨c, hc, rfl⟩ := List.mem_map.mp hp
      exact List.append_ne_nil_of_left_ne_nil (h c hc).name_ne _
    · intro p hp
      obtain ⟨c, hc, rfl⟩ := List.mem_map.mp hp
      exact (h c hc).trimmed
  rw [chain, hsplit, filterMap_ofPart?_printed h]

/-- One call written alone is a chain without a colon. -/
theorem chain_printed (h : c.Printable) : chain c.printed = [c] :=
  chain_printAll (List.forall_mem_singleton.mpr h)

/-! ## Applying -/

/-- What a call makes of a value: a name that is no filter and a filter that faults leave it as it
was, and any other filter gets the value and the arguments. -/
def effect (render : Renderer) (v : Value) (c : Call) : Value :=
  match Filter.ofName? c.name with
  | none => v
  | some f =>
    match (f.apply render c.args v).result with
    | .ok w => w
    | .error _ => v

/-- A call always has a result: where the filter refuses, the value stays as it is. -/
theorem apply_result (render : Renderer) (c : Call) (v : Value) :
    (c.apply render v).result = .ok (effect render v c) := by
  rw [apply, effect]
  -- a name that is no filter warns, and so does a fault; neither changes the value
  cases Filter.ofName? c.name with
  | none => rfl
  | some f =>
    dsimp only
    cases hf : (f.apply render c.args v).result with
    | ok w => rw [Outcome.recover_of_ok hf, hf]
    | error e => exact Outcome.result_recover_of_error hf _

/-- **Calls are applied one after the other**, and none of them ends the chain. -/
theorem applyAll_result (render : Renderer) (calls : List Call) (v : Value) :
    (applyAll render calls v).result = .ok (calls.foldl (effect render) v) := by
  induction calls generalizing v with
  | nil => rfl
  | cons c calls ih =>
    -- a call always has a result, so the rest is reached
    rw [applyAll, Outcome.result_bind_of_ok (apply_result render c v), ih, List.foldl_cons]

/-- **Reading a written chain gives its calls back, and applying it is the fold over them.** -/
theorem chain_printAll_and_foldl (calls : List Call) (h : ∀ c ∈ calls, c.Printable) :
    chain (printAll calls) = calls ∧
      ∀ v, (applyFilters (printAll calls) v).result =
        .ok (calls.foldl (effect Template.render) v) := by
  refine ⟨chain_printAll h, fun v => ?_⟩
  rw [applyFilters, applyChain, chain_printAll h]
  exact applyAll_result Template.render calls v

/-- Colons, parentheses and braces within quotes, patterns and braces do not divide a call. -/
theorem chain_printAll_and_foldl_colons :
    let calls : List Call :=
      [⟨"replace".toList, "(\"a:b)\":\"c\")".toList⟩, ⟨"no-filter".toList, []⟩,
        ⟨"wrap".toList, "(/a:[)]/:\x7b)\x7d".toList⟩]
    (∀ c ∈ calls, c.Printable) ∧ chain (printAll calls) = calls ∧
      ∀ v, (applyFilters (printAll calls) v).result =
        .ok (calls.foldl (effect Template.render) v) := by
  intro calls
  have h : ∀ c ∈ calls, c.Printable := by
    intro c hc
    simp only [calls, List.mem_cons, List.not_mem_nil, or_false] at hc
    rcases hc with rfl | rfl | rfl
    · exact ⟨by decide, List.all_eq_true.mp (by decide), .inr (.of_closes (by decide))⟩
    · exact ⟨by decide, List.all_eq_true.mp (by decide), .inl rfl⟩
    · exact ⟨by decide, List.all_eq_true.mp (by decide), .inr (.of_closes (by decide))⟩
  exact ⟨h, chain_printAll_and_foldl calls h⟩

end Call

end Clipbook
