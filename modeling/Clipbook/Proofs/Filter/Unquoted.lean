import Clipbook.Proofs.Filter.Replace
import Clipbook.Proofs.Outcome
import Clipbook.Proofs.Scan.Factors

/-!
# Clipbook — replacements without quotes

What a pattern is replaced by can be written without quotes if it holds none of the marks that count
in arguments.  A slash in it is text, unless it stands first: there a pattern may begin.  A second
slash closes that pattern again, and nothing is lost.  A first slash that is the only one leaves it
open, and then the chain and its arguments are split again without patterns.  Now the pattern that
was looked for is scanned like other text, so that a comma or an unmatched parenthesis in it divides
the argument.  The argument is read as it was written where this second scan splits nothing, and
only there.

Main results:

* `passes_bare` — a scan passes over the replacement, if it opens no pattern that stays open.
* `readBack_iff` — when a call is read as it was written.
* `applyFilters_barePair` — then it gives what the call with quotes gives.
* `applyFilters_barePair_comma` — a comma is not replaced by a slash without quotes.
-/

namespace Clipbook.Filter

open Scan

variable {s : Scan} {c sep : Char} {a body flags argument replacement t : Text}

/-! ## Writing -/

/-- Characters that may stand in a replacement without quotes. -/
def isBare (c : Char) : Bool :=
  c ∉ ['\'', '"', ',', ':', '(', ')', '\x7b', '\x7d', '\\'] && !Text.isBlank c

/-- A pattern and what replaces it, without quotes. -/
def barePair (body flags replacement : Text) : Text :=
  (Search.pattern body flags).written ++ ':' :: replacement

/-- A pattern and what replaces it, in quotes. -/
def patternPair (body flags replacement : Text) : Text :=
  Search.pair (.pattern body flags, replacement)

/-! ## Scanning a replacement -/

/-- The characters that a bare replacement may have, said without the program. -/
theorem isBare_iff :
    isBare c = true ↔
      c ∉ ['\'', '"', ',', ':', '(', ')', '\x7b', '\x7d', '\\'] ∧ Text.isBlank c = false := by
  simp [isBare]

theorem ne_of_isBare {d : Char} (hc : isBare c = true) (hd : isBare d = false) : c ≠ d := by
  rintro rfl
  rw [hc] at hd
  cases hd

/-- What may not be bare stands in no bare text. -/
theorem not_mem_of_isBare (h : ∀ c ∈ t, isBare c = true) (hc : isBare c = false) : c ∉ t :=
  fun hmem => ne_of_isBare (h c hmem) hc rfl

/-- A slash where no pattern begins is a character like any other. -/
theorem step_of_isBare (hs : s.Plain) (hc : isBare c = true)
    (hslash : c = '/' → s.regexCanOpen = false) : s.step c = s.push [c] := by
  by_cases hc' : c = '/'
  · have hopen := hslash hc'
    subst hc'
    rw [step_of_not_escaped hs.escaped]
    -- a slash is pushed like any other character where it opens nothing
    have hshift : s.shift '/' = s := by
      unfold shift
      simp [hs.quote, hs.inRegex, hopen]
    rw [hshift]
    rfl
  · refine step_of_isInert ?_ hs
    have hmarks := (isBare_iff.mp hc).1
    simp only [List.mem_cons, List.not_mem_nil, or_false, not_or] at hmarks
    simp [isInert, hc', hmarks]

/-- Behind what may stand without quotes no pattern begins. -/
theorem regexCanOpen_push (hc : isBare c = true) (t : Text) :
    (s.push (t ++ [c])).regexCanOpen = false := by
  have hread : (s.push (t ++ [c])).read = c :: (t.reverse ++ s.read) := by
    simp [push]
  have hblank := (isBare_iff.mp hc).2
  rw [regexCanOpen, hread, List.dropWhile_cons_of_neg (by simp [hblank])]
  have hcolon : c ≠ ':' := ne_of_isBare hc (by decide)
  have hcomma : c ≠ ',' := ne_of_isBare hc (by decide)
  have hparen : c ≠ '(' := ne_of_isBare hc (by decide)
  simp [hcolon, hcomma, hparen]

/-- Where no pattern begins at the first character, none begins at a later one. -/
theorem passes_of_isBare (hs : s.Plain) (h : ∀ c ∈ t, isBare c = true)
    (hslash : t.head? = some '/' → s.regexCanOpen = false) : s.Passes t := by
  induction t generalizing s with
  | nil => exact neutral_nil.passes hs
  | cons c t ih =>
    obtain ⟨hc, ht⟩ := List.forall_mem_cons.mp h
    have hstep := step_of_isBare hs hc fun hc' => hslash (congrArg some hc')
    have hone := passes_singleton hs hstep (ne_of_isBare hc (by decide))
    exact hone.append (ih hone.plain ht fun _ => regexCanOpen_push hc [])

/-- The replacement opens a pattern that it does not close. -/
def LeavesOpen (replacement : Text) : Prop :=
  ∃ a, replacement = '/' :: a ∧ '/' ∉ a

/-- **A scan passes over a replacement** that does not leave a pattern open. -/
theorem passes_bare (hs : s.Plain) (hregexes : s.regexes = true) (hopen : s.regexCanOpen = true)
    (h : ∀ c ∈ t, isBare c = true) (hclosed : ¬LeavesOpen t) : s.Passes t := by
  by_cases hslash : t.head? = some '/'
  · obtain ⟨u, rfl⟩ := List.head?_eq_some_iff.mp hslash
    obtain ⟨hc, hu⟩ := List.forall_mem_cons.mp h
    -- the pattern is closed by the next slash, behind which slashes are text
    have hmem : '/' ∈ u := Classical.byContradiction fun hmem => hclosed ⟨u, rfl, hmem⟩
    obtain ⟨a, b, rfl, ha⟩ := List.eq_append_cons_of_mem hmem
    obtain ⟨hbare, hrest⟩ := List.forall_mem_append.mp hu
    have henclosed : Text.Enclosed '/' a :=
      Text.enclosed_of_not_mem ha (not_mem_of_isBare hbare (by decide))
    have hfirst := passes_delimited hs (.inr ⟨rfl, hregexes, hopen⟩) henclosed
    have hsplit : '/' :: (a ++ '/' :: b) = ('/' :: a ++ ['/']) ++ b := by simp
    rw [hsplit]
    exact hfirst.append (passes_of_isBare hfirst.plain (List.forall_mem_cons.mp hrest).2
      fun _ => regexCanOpen_push hc ('/' :: a))
  · exact passes_of_isBare hs h fun h' => absurd h' hslash

/-- A pattern without a slash behind it stays open. -/
theorem run_open (hs : s.Plain) (hregexes : s.regexes = true) (hopen : s.regexCanOpen = true)
    (ha : '/' ∉ a) (hsep : sep ≠ '/') :
    (s.run ('/' :: a)).inRegex = true ∧ solid sep s ('/' :: a) = true := by
  have hslash : s.Opens '/' := .inr ⟨rfl, hregexes, hopen⟩
  have hinside := inside_enter hs '/'
  obtain ⟨hrun, hbusy⟩ := hinside.run (hslash.escaped_enter hs) (t := a) fun p q heq =>
    absurd (heq ▸ List.mem_append_right p (List.mem_cons_self ..)) ha
  refine ⟨?_, ?_⟩
  · rw [run_cons, hslash.step hs, hrun]
    rfl
  · rw [solid_cons_iff, hslash.step hs]
    exact ⟨fun h => hsep h.1.symm, solid_of_busy hinside.atTop hbusy⟩

/-! ## Reading a call -/

/-- A call that is read as it was written: it is the whole chain, and its argument the only one. -/
structure ReadBack (argument : Text) : Prop where
  chain : Call.chain (callOf argument).printed = [callOf argument]
  arguments : arguments (callOf argument).args = [argument]

/-- Without patterns no colon divides the chain, and no comma the argument. -/
structure Intact (argument : Text) : Prop where
  chain : Unsplit ':' false (callOf argument).printed
  arguments : Unsplit ',' false argument

theorem printed_callOf (argument : Text) :
    (callOf argument).printed = "replace".toList ++ ('(' :: argument ++ [')']) := rfl

theorem trimmed_parens (argument : Text) : Text.Trimmed ('(' :: argument ++ [')']) :=
  Text.trimmed_cons_append_singleton (by decide) _ (by decide)

/-- The text of a call has no blanks at its ends. -/
theorem trimmed_printed_callOf (argument : Text) : Text.Trimmed (callOf argument).printed :=
  Text.trimmed_append (fun c hc => Call.isBlank_eq_false_of_isNameChar (name_callOf c hc))
    (List.cons_ne_nil _ _) (trimmed_parens argument)

/-- A call is read back from its text whatever stands in its brackets. -/
theorem ofPart?_printed_callOf (argument : Text) :
    Call.ofPart? (callOf argument).printed = some (callOf argument) :=
  Call.ofPart?_append (List.cons_ne_nil _ _) name_callOf
    (List.takeWhile_cons_of_neg (by decide)) (trimmed_parens argument)

/-- The only call is as long as the chain, so it is the chain. -/
theorem chain_callOf_iff (argument : Text) :
    Call.chain (callOf argument).printed = [callOf argument] ↔
      Unsplit ':' (patterned ':' true (callOf argument).printed) (callOf argument).printed := by
  constructor
  · intro h
    have hmem : callOf argument ∈ Call.chain (callOf argument).printed := by
      rw [h]
      exact List.mem_singleton_self _
    obtain ⟨part, hpart, hcall⟩ := List.mem_filterMap.mp hmem
    exact unsplit_of_mem_splitTop hpart (Call.length_of_ofPart? hcall)
  · intro h
    rw [Call.chain, splitTop_of_unsplit h (List.cons_ne_nil _ _) (trimmed_printed_callOf argument),
      List.filterMap_cons_some (ofPart?_printed_callOf argument), List.filterMap_nil]

/-- A call has one argument if no comma splits what stands in its brackets. -/
theorem arguments_callOf_iff (hne : argument ≠ []) (htrim : Text.Trimmed argument) :
    arguments (callOf argument).args = [argument] ↔
      Unsplit ',' (patterned ',' true argument) argument := by
  rw [arguments_callOf]
  constructor
  · intro h
    exact unsplit_of_mem_splitTop (h ▸ List.mem_singleton_self argument) (Nat.le_refl _)
  · intro h
    exact splitTop_of_unsplit h hne htrim

/-! ## Reading a call without quotes -/

theorem barePair_eq (body flags replacement : Text) :
    barePair body flags replacement =
      (Search.pattern body flags).written ++ [':'] ++ replacement :=
  List.append_cons ..

theorem barePair_ne_nil : barePair body flags replacement ≠ [] :=
  List.cons_ne_nil _ _

/-- A pair with a bare replacement has no blanks at its ends. -/
theorem trimmed_barePair (hbare : ∀ c ∈ replacement, isBare c = true) :
    Text.Trimmed (barePair body flags replacement) := by
  have hpair : barePair body flags replacement =
      '/' :: (body ++ '/' :: flags) ++ (':' :: replacement) := rfl
  rw [hpair]
  refine Text.trimmed_cons_append (by decide) _ (List.cons_ne_nil _ _) ?_
  exact List.forall_mem_cons.mpr ⟨by decide, fun c hc => (isBare_iff.mp (hbare c hc)).2⟩

/-- The scanner passes a pair with a bare replacement and finds nothing to split in it. -/
theorem passes_barePair (hsearch : (Search.pattern body flags).Writable)
    (hbare : ∀ c ∈ replacement, isBare c = true) (hclosed : ¬LeavesOpen replacement)
    (hs : s.Plain) (hregexes : s.regexes = true) (hopen : s.regexCanOpen = true) :
    s.Passes (barePair body flags replacement) ∧
      solid ',' s (barePair body flags replacement) = true := by
  obtain ⟨hleft, hsolid, hcolon⟩ := Search.passes_written_colon hsearch hs hregexes hopen
  rw [barePair_eq]
  refine ⟨hleft.append (passes_bare hleft.plain hregexes hcolon hbare hclosed), ?_⟩
  rw [solid_append, hsolid, solid_of_not_mem (not_mem_of_isBare hbare (by decide))]
  rfl

/-- Where nothing stays open the call is read as any written call. -/
theorem readBack_of_closed (hsearch : (Search.pattern body flags).Writable)
    (hbare : ∀ c ∈ replacement, isBare c = true) (hclosed : ¬LeavesOpen replacement) :
    ReadBack (barePair body flags replacement) := by
  have hstart := plain_start true
  have hinside : ((start true).step '(').Passes (barePair body flags replacement) :=
    (passes_barePair hsearch hbare hclosed (plain_step_open hstart) rfl rfl).1
  obtain ⟨hpasses, hsolid⟩ := passes_barePair hsearch hbare hclosed hstart rfl rfl
  refine ⟨Call.chain_printed (printable_callOf hinside), ?_⟩
  rw [arguments_callOf]
  -- the argument is one part, joined with no other
  show splitTop ',' true (Text.join [','] [barePair body flags replacement]) = _
  exact splitTop_join (List.forall_mem_singleton.mpr ⟨hsolid, hpasses.splits⟩)
    (List.forall_mem_singleton.mpr barePair_ne_nil)
    (List.forall_mem_singleton.mpr (trimmed_barePair hbare))

/-- A pattern is left open behind the colon, and up to there nothing splits. -/
theorem run_leavesOpen (hsearch : (Search.pattern body flags).Writable) (ha : '/' ∉ a)
    (hs : s.Plain) (hregexes : s.regexes = true) (hopen : s.regexCanOpen = true) :
    (s.run (barePair body flags ('/' :: a))).inRegex = true ∧
      solid ',' s (barePair body flags ('/' :: a)) = true ∧
      (s.atTop = false → solid ':' s (barePair body flags ('/' :: a)) = true) := by
  obtain ⟨hleft, hsolid, hcolon⟩ := Search.passes_written_colon hsearch hs hregexes hopen
  obtain ⟨hregex, hcomma⟩ := run_open hleft.plain hregexes hcolon ha (show ',' ≠ '/' by decide)
  rw [barePair_eq, run_append, hleft.run]
  refine ⟨hregex, ?_, fun htop => ?_⟩
  · rw [solid_append, hsolid, hleft.run, hcomma]
    rfl
  · -- below the top level the colon between the two sides does not split either
    rw [solid_append, solid_of_busy htop (hleft.busy htop), hleft.run,
      (run_open hleft.plain hregexes hcolon ha (by decide)).2]
    rfl

/-- So the arguments are split again without patterns. -/
theorem patterned_barePair (hsearch : (Search.pattern body flags).Writable) (ha : '/' ∉ a) :
    patterned ',' true (barePair body flags ('/' :: a)) = false := by
  obtain ⟨hregex, hsolid, -⟩ := run_leavesOpen hsearch ha (plain_start true) rfl rfl
  exact patterned_of_inRegex (unsplit_iff.mpr hsolid) hregex

/-- The scan of a call where its arguments begin. -/
theorem run_name_paren :
    ((start true).run ("replace".toList ++ ['('])).Plain ∧
      ((start true).run ("replace".toList ++ ['('])).atTop = false ∧
      ((start true).run ("replace".toList ++ ['('])).regexCanOpen = true :=
  ⟨⟨by decide, by decide, by decide⟩, by decide, by decide⟩

/-- And so is the chain, where the pattern goes on over the parenthesis. -/
theorem patterned_printed_callOf (hsearch : (Search.pattern body flags).Writable) (ha : '/' ∉ a) :
    patterned ':' true (callOf (barePair body flags ('/' :: a))).printed = false := by
  have ha' : '/' ∉ a ++ [')'] := by simpa using ha
  -- the name of the filter and its bracket stand before the pair, and a bracket behind it
  have hprinted : (callOf (barePair body flags ('/' :: a))).printed =
      ("replace".toList ++ ['(']) ++ barePair body flags ('/' :: (a ++ [')'])) := by
    simp [printed_callOf, barePair]
  obtain ⟨hplain, htop, hopen⟩ := run_name_paren
  obtain ⟨hregex, -, hsolid⟩ := run_leavesOpen hsearch ha' hplain (regexes_run _ _) hopen
  rw [hprinted]
  refine patterned_of_inRegex (unsplit_iff.mpr ?_) ?_
  · rw [solid_append, hsolid htop, solid_of_not_mem (by decide)]
    rfl
  · rw [run_append]
    exact hregex

/-- **When a call is read as it was written**: where its replacement leaves a pattern open, if the
second scan divides nothing. -/
theorem readBack_iff (hsearch : (Search.pattern body flags).Writable)
    (hbare : ∀ c ∈ replacement, isBare c = true) :
    ReadBack (barePair body flags replacement) ↔
      (LeavesOpen replacement → Intact (barePair body flags replacement)) := by
  by_cases hleaves : LeavesOpen replacement
  · obtain ⟨a, rfl, ha⟩ := id hleaves
    have hchain := chain_callOf_iff (barePair body flags ('/' :: a))
    have htrim : Text.Trimmed (barePair body flags ('/' :: a)) := trimmed_barePair hbare
    have harguments := arguments_callOf_iff barePair_ne_nil htrim
    rw [patterned_printed_callOf hsearch ha] at hchain
    rw [patterned_barePair hsearch ha] at harguments
    rw [imp_iff_right hleaves]
    exact ⟨fun h => ⟨hchain.mp h.chain, harguments.mp h.arguments⟩,
      fun h => ⟨hchain.mpr h.chain, harguments.mpr h.arguments⟩⟩
  · exact iff_of_true (readBack_of_closed hsearch hbare hleaves) fun h => absurd h hleaves

/-! ## With quotes -/

/-- A bare replacement could stand in quotes as it is. -/
theorem enclosed_of_isBare (hbare : ∀ c ∈ replacement, isBare c = true) :
    Text.Enclosed '"' replacement :=
  Text.enclosed_of_not_mem (not_mem_of_isBare hbare (by decide))
    (not_mem_of_isBare hbare (by decide))

theorem readBack_patternPair (hsearch : (Search.pattern body flags).Writable)
    (hreplacement : Text.Enclosed '"' replacement) :
    ReadBack (patternPair body flags replacement) := by
  have hinside := Search.passes_pair (p := (.pattern body flags, replacement)) hsearch hreplacement
    (plain_step_open (plain_start true)) rfl rfl
  refine ⟨Call.chain_printed (printable_callOf hinside.1), ?_⟩
  rw [arguments_callOf]
  exact Search.splitTop_pairs (List.forall_mem_singleton.mpr ⟨hsearch, hreplacement⟩)

theorem pairOf_patternPair (hsearch : (Search.pattern body flags).Writable) :
    pairOf (patternPair body flags replacement) =
      ((Search.pattern body flags).written, replacement) := by
  rw [pairOf, patternPair, Search.splitPair_pair hsearch]
  dsimp only [Option.getD_some]
  rw [Text.stripQuotes_quotes]
  rfl

theorem pairOf_barePair (hsearch : (Search.pattern body flags).Writable)
    (hbare : ∀ c ∈ replacement, isBare c = true) :
    pairOf (barePair body flags replacement) =
      ((Search.pattern body flags).written, replacement) := by
  have htrim : Text.Trimmed replacement :=
    Text.trimmed_of_not_blank fun c hc => (isBare_iff.mp (hbare c hc)).2
  rw [pairOf, barePair, splitPair_part (Search.part_written hsearch),
    Text.strip_eq_self (Search.trimmed_written hsearch), Text.strip_eq_self htrim]
  dsimp only [Option.getD_some]
  rw [Text.stripQuotes_eq_self (not_mem_of_isBare hbare (by decide))
    (not_mem_of_isBare hbare (by decide))]
  rfl

/-- Two calls that are read as they were written do the same if their pairs are the same. -/
theorem applyFilters_callOf_congr {b : Text} (ha : ReadBack a) (hb : ReadBack b)
    (hpair : pairOf a = pairOf b) (v : Value) :
    applyFilters (callOf a).printed v = applyFilters (callOf b).printed v := by
  have hreplaced : replaced (callOf a).args v = replaced (callOf b).args v := by
    -- the arguments are read only through the pair they are taken for
    have hpairs : ∀ t, replacePairs t [a] = replacePairs t [b] := fun t => by
      rw [replacePairs, replacePairs, hpair]
    have hargs : (callOf a).args ≠ [] ∧ (callOf b).args ≠ [] :=
      ⟨List.cons_ne_nil _ _, List.cons_ne_nil _ _⟩
    rw [replaced, replaced, if_neg hargs.1, if_neg hargs.2, ha.arguments, hb.arguments]
    simp only [hpairs]
  have happly : (callOf a).apply Template.render v = (callOf b).apply Template.render v := by
    show (replaced (callOf a).args v).recover _ = (replaced (callOf b).args v).recover _
    rw [hreplaced]
    rfl
  rw [applyFilters, applyFilters, Call.applyChain, Call.applyChain, ha.chain, hb.chain,
    Call.applyAll, Call.applyAll, happly]

/-! ## Main result -/

/-- **Quotes around a replacement make no difference where the call without them is read as it was
written.**  It is, unless the replacement leaves a pattern open and the second scan divides the
call. -/
theorem applyFilters_barePair (hsearch : (Search.pattern body flags).Writable)
    (hbare : ∀ c ∈ replacement, isBare c = true) :
    (ReadBack (barePair body flags replacement) ↔
        (LeavesOpen replacement → Intact (barePair body flags replacement))) ∧
      ((LeavesOpen replacement → Intact (barePair body flags replacement)) → ∀ v,
        applyFilters (callOf (barePair body flags replacement)).printed v =
          applyFilters (callOf (patternPair body flags replacement)).printed v) := by
  have hiff := readBack_iff hsearch hbare
  refine ⟨hiff, fun hintact v => ?_⟩
  apply applyFilters_callOf_congr (hiff.mpr hintact)
    (readBack_patternPair hsearch (enclosed_of_isBare hbare))
  rw [pairOf_barePair hsearch hbare, pairOf_patternPair hsearch]

/-- A slash in the place of a colon, which only counts in the chain. -/
theorem applyFilters_barePair_slash :
    let body := "(\\d+):".toList
    let pair := barePair body "g".toList "/".toList
    (Search.pattern body "g".toList).Writable ∧ (∀ c ∈ "/".toList, isBare c = true) ∧
      Intact pair ∧
      (callOf pair).printed = "replace(/(\\d+):/g:/)".toList ∧
      ∀ v, applyFilters (callOf pair).printed v =
        applyFilters "replace(/(\\d+):/g:\"/\")".toList v := by
  intro body pair
  have hsearch : (Search.pattern body "g".toList).Writable := by decide
  have hbare : ∀ c ∈ "/".toList, isBare c = true := List.all_eq_true.mp (by decide)
  have hintact : Intact pair := ⟨unsplit_iff.mpr (by decide), unsplit_iff.mpr (by decide)⟩
  exact ⟨hsearch, hbare, hintact, by decide,
    (applyFilters_barePair hsearch hbare).2 fun _ => hintact⟩

/-- A comma is not replaced by a slash without quotes, and it is with quotes. -/
theorem applyFilters_barePair_comma :
    ¬∀ body flags replacement, (Search.pattern body flags).Writable →
      (∀ c ∈ replacement, isBare c = true) → ∀ t : Text,
        applyFilters (callOf (barePair body flags replacement)).printed (.str t) =
          applyFilters (callOf (patternPair body flags replacement)).printed (.str t) := by
  intro h
  have heq := h ",".toList "g".toList "/".toList (by decide) (List.all_eq_true.mp (by decide))
    "a,b".toList
  have hbare : (applyFilters (callOf (barePair ",".toList "g".toList "/".toList)).printed
      (.str "a,b".toList)).result.map Value.shown = .ok "a,b".toList :=
    Except.toOption_eq_some_iff.mp (by decide +kernel)
  have hquoted : (applyFilters (callOf (patternPair ",".toList "g".toList "/".toList)).printed
      (.str "a,b".toList)).result.map Value.shown = .ok "a/b".toList :=
    Except.toOption_eq_some_iff.mp (by decide +kernel)
  rw [heq, hquoted] at hbare
  exact absurd (Except.ok.inj hbare) (by decide)

end Clipbook.Filter
