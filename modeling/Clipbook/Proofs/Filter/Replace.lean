import Clipbook.Proofs.Chain
import Clipbook.Proofs.Scan.Pairs
import Clipbook.Proofs.Template.Expression

/-!
# Clipbook — quoted replacements

Pairs of texts are written as the arguments of `replace`, each text in quotes.  What is read back
is each text as it was, whatever it holds: the brace that ends the expression, the colon between
calls, the comma between arguments and the colon in a pair are all searched by scans that pass over
quotes.

Main results:

* `arguments_replaceCall`, `pairOf_quotedPair` — the pairs are read back.
* `replaced_replaceCall` — the filter applies them in turn.
* `applyFilters_replaceCall_and_substitute` — as a chain, and in a template.
-/

namespace Clipbook

namespace Filter

/-! ## Writing -/

/-- A pair as it is written, both texts in quotes. -/
def quotedPair (p : Text × Text) : Text :=
  Text.inQuotes p.1 ++ ':' :: Text.inQuotes p.2

/-- The call that replaces as its arguments say. -/
def callOf (arguments : Text) : Call :=
  ⟨"replace".toList, '(' :: arguments ++ [')']⟩

/-- The call that replaces the first text of each pair by the second one. -/
def replaceCall (pairs : List (Text × Text)) : Call :=
  ⟨"replace".toList, '(' :: Text.join [','] (pairs.map quotedPair) ++ [')']⟩

/-- A text with all occurrences replaced, for one pair after the other. -/
def replaceEach (pairs : List (Text × Text)) (t : Text) : Text :=
  pairs.foldl (fun t p => Text.replaceAll p.1 p.2 t) t

/-! ## The call -/

theorem name_callOf : ∀ c ∈ "replace".toList, Call.isNameChar c = true :=
  List.all_eq_true.mp (by decide)

/-- The call can be written if a scan passes over what stands between the parentheses. -/
theorem printable_callOf {t : Text} (h : ((Scan.start true).step '(').Passes t) :
    (callOf t).Printable :=
  ⟨List.cons_ne_nil _ _, name_callOf,
    .inr (.of_closes (h.closes_parens (Scan.plain_start true) rfl))⟩

theorem args_callOf (t : Text) : (callOf t).args = '(' :: t ++ [')'] := rfl

/-- The arguments of a call are the parts of what stands in its brackets. -/
theorem arguments_callOf (t : Text) : arguments (callOf t).args = Scan.splitTop ',' true t := by
  rw [arguments, args_callOf, Text.stripParens_parens]

/-- A pair in quotes leaves the scanner where it was. -/
theorem neutral_quotedPair (p : Text × Text) : Scan.Neutral (quotedPair p) :=
  (Scan.neutral_inQuotes p.1).append
    ((Scan.neutral_singleton (c := ':') (by decide)).append (Scan.neutral_inQuotes p.2))

/-- Pairs between commas leave the scanner where it was. -/
theorem neutral_join {ps : List Text} (h : ∀ p ∈ ps, Scan.Neutral p) :
    Scan.Neutral (Text.join [','] ps) := by
  induction ps with
  | nil => exact Scan.neutral_nil
  | cons p ps ih =>
    have hp := h p (List.mem_cons_self ..)
    cases ps with
    | nil => exact hp
    | cons q ps =>
      have hrest := ih fun r hr => h r (List.mem_cons_of_mem _ hr)
      exact (hp.append (Scan.neutral_singleton (by decide))).append hrest

/-- A call to replace is read back from its text. -/
theorem printable_replaceCall (pairs : List (Text × Text)) : (replaceCall pairs).Printable := by
  -- between the parentheses nothing is opened that stays open
  have hneutral : Scan.Neutral (Text.join [','] (pairs.map quotedPair)) := by
    apply neutral_join
    intro p hp
    obtain ⟨q, -, rfl⟩ := List.mem_map.mp hp
    exact neutral_quotedPair q
  exact printable_callOf (hneutral.passes (Scan.plain_step_open (Scan.plain_start true)))

/-! ## Arguments -/

/-- A pair as what is looked for and what it is replaced by, with the escapes. -/
def quotedSearch (p : Text × Text) : Search × Text :=
  (.quoted (Text.escapeQuotes p.1), Text.escapeQuotes p.2)

theorem pair_quotedSearch (p : Text × Text) : Search.pair (quotedSearch p) = quotedPair p := rfl

/-- The arguments of the call are the pairs as they were written. -/
theorem arguments_replaceCall (pairs : List (Text × Text)) :
    arguments (replaceCall pairs).args = pairs.map quotedPair := by
  have hcall : replaceCall pairs = callOf (Text.join [','] (pairs.map quotedPair)) := rfl
  have hpairs : pairs.map quotedPair = (pairs.map quotedSearch).map Search.pair := by
    rw [List.map_map]
    rfl
  rw [hcall, arguments_callOf, hpairs]
  apply Search.splitTop_pairs
  intro p hp
  obtain ⟨q, -, rfl⟩ := List.mem_map.mp hp
  exact ⟨Text.enclosed_escapeQuotes q.1, Text.enclosed_escapeQuotes q.2⟩

/-- A pair is read back up to the backslashes. -/
theorem pairOf_quotedPair (p : Text × Text) :
    pairOf (quotedPair p) = (Text.escapeQuotes p.1, Text.escapeQuotes p.2) := by
  have hsearch : (quotedSearch p).1.Writable := Text.enclosed_escapeQuotes p.1
  rw [pairOf, ← pair_quotedSearch, Search.splitPair_pair hsearch]
  dsimp only [quotedSearch, Search.written, Option.getD_some]
  rw [Text.stripQuotes_quotes, Text.stripQuotes_quotes]

/-! ## Replacing -/

/-- A text that is no pattern between slashes is looked for as it was before it was written. -/
theorem replaceOne_escapeQuotes {search : Text}
    (h : Text.regexLiteral? (Text.escapeQuotes search) = none) (t replacement : Text) :
    replaceOne t (Text.escapeQuotes search) (Text.escapeQuotes replacement) =
      pure (Text.replaceAll search replacement t) := by
  rw [replaceOne, h]
  dsimp only
  rw [Text.unescape_escapeQuotes, Text.unescape_escapeQuotes]

/-- Pairs of quoted texts replace one text after the other. -/
theorem replacePairs_quotedPair {pairs : List (Text × Text)}
    (h : ∀ p ∈ pairs, Text.regexLiteral? (Text.escapeQuotes p.1) = none) (t : Text) :
    replacePairs t (pairs.map quotedPair) = pure (replaceEach pairs t) := by
  induction pairs generalizing t with
  | nil => rfl
  | cons p pairs ih =>
    have hrest := ih (fun q hq => h q (List.mem_cons_of_mem _ hq)) (Text.replaceAll p.1 p.2 t)
    -- the first pair is replaced, and the rest goes on with what came of it
    rw [List.map_cons, replacePairs, pairOf_quotedPair]
    dsimp only
    rw [replaceOne_escapeQuotes (h p (List.mem_cons_self ..)), pure_bind, hrest]
    rfl

/-- **The filter applies the pairs in turn.** -/
theorem replaced_replaceCall {pairs : List (Text × Text)}
    (h : ∀ p ∈ pairs, Text.regexLiteral? (Text.escapeQuotes p.1) = none) (t : Text) :
    replaced (replaceCall pairs).args (.str t) = pure (.str (replaceEach pairs t)) := by
  have hargs : (replaceCall pairs).args ≠ [] := List.cons_ne_nil _ _
  have htext : (Value.str t).text = .ok t := rfl
  rw [replaced, if_neg hargs, htext, arguments_replaceCall]
  show (replacePairs t (pairs.map quotedPair) >>= _) = _
  rw [replacePairs_quotedPair h]
  rfl

/-! ## Chains and templates -/

/-- The chain of one call to replace does what its pairs say. -/
theorem applyChain_replaceCall {pairs : List (Text × Text)}
    (h : ∀ p ∈ pairs, Text.regexLiteral? (Text.escapeQuotes p.1) = none) (render : Renderer)
    (t : Text) :
    Call.applyChain render (replaceCall pairs).printed (.str t) =
      pure (.str (replaceEach pairs t)) := by
  have hchain := Call.chain_printed (printable_replaceCall pairs)
  have hname : ofName? (replaceCall pairs).name = some replace := rfl
  have happly : (replaceCall pairs).apply render (.str t) = pure (.str (replaceEach pairs t)) := by
    rw [Call.apply, hname]
    show (replaced (replaceCall pairs).args (.str t)).recover _ = _
    rw [replaced_replaceCall h]
    rfl
  rw [Call.applyChain, hchain, Call.applyAll, happly, pure_bind]
  rfl

/-- **Quoted texts are replaced as they are**, by a chain of filters and in a template, where the
word for what is missing shows as nothing. -/
theorem applyFilters_replaceCall_and_substitute (pairs : List (Text × Text)) (t : Text)
    (h : ∀ p ∈ pairs, Text.regexLiteral? (Text.escapeQuotes p.1) = none) :
    applyFilters (replaceCall pairs).printed (.str t) = pure (.str (replaceEach pairs t)) ∧
      Template.substitute (Expression.printed ['x'] (some (replaceCall pairs).printed))
          (.obj [(['x'], .str t)]) =
        pure (Expression.shown (replaceEach pairs t)) := by
  refine ⟨applyChain_replaceCall h Template.render t, ?_⟩
  -- the brace that ends the expression is found behind the call, as the colon of a chain would be
  have hprintable : Expression.Printable ['x'] (some (replaceCall pairs).printed) := by
    refine ⟨List.cons_ne_nil _ _, List.all_eq_true.mp (by decide), fun f hf => ?_⟩
    rw [← Option.some.inj hf]
    exact Call.part_printed (printable_replaceCall pairs) (by decide) (by decide)
  have hfield : (Value.obj [(['x'], .str t)]).at_ ['x'] = .ok (.str t) := rfl
  rw [Template.substitute, Expression.substitute_printed hprintable, Expression.evaluate, hfield]
  show (Call.applyChain Template.render _ _ >>= _) = _
  rw [Option.getD_some, applyChain_replaceCall h]
  rfl

/-- Marks of every kind are replaced, and so are the marks that were put in. -/
theorem applyFilters_replaceCall_and_substitute_marks :
    let pairs : List (Text × Text) :=
      [("\"a\",(b:\\c)\x7d".toList, "/d/|".toList), ([], "e".toList), ("d/".toList, "f".toList)]
    let t : Text := "\"a\",(b:\\c)\x7dg".toList
    (∀ p ∈ pairs, Text.regexLiteral? (Text.escapeQuotes p.1) = none) ∧
      applyFilters (replaceCall pairs).printed (.str t) = pure (.str "/f|g".toList) ∧
      Template.substitute (Expression.printed ['x'] (some (replaceCall pairs).printed))
          (.obj [(['x'], .str t)]) = pure "/f|g".toList := by
  intro pairs t
  have h : ∀ p ∈ pairs, Text.regexLiteral? (Text.escapeQuotes p.1) = none := by decide
  exact ⟨h, applyFilters_replaceCall_and_substitute pairs t h⟩

end Filter

end Clipbook
