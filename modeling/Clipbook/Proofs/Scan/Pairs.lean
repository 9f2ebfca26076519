import Clipbook.Proofs.Scan.Quoted
import Clipbook.Proofs.Scan.Split
import Clipbook.Proofs.Text.Pieces

/-!
# Clipbook — pairs of arguments

Pairs are written with commas between them, and with a colon between what is looked for and what
it is replaced by.  What is looked for is a pattern between slashes, with its flags behind it, or a
text in quotes; what it is replaced by is a text in quotes.  Commas, colons, brackets and the other
marks may stand anywhere in a pattern or a text: the scan passes over all of it, as long as the
marks around it are the only ones of their kind that are not escaped.

Main results:

* `regexLiteral?_pattern` — a pattern and its flags are read back.
* `passes_pair` — a scan passes over a pair where an argument may begin.
* `splitTop_splitPair_pairs` — the pairs are read back, in order.
-/

namespace Clipbook

namespace Text

variable {flags : Text}

/-! ## Patterns -/

/-- Flags are letters, which open nothing. -/
theorem of_isFlag {c : Char} (h : isFlag c = true) :
    Scan.isInert c = true ∧ isBlank c = false := by
  have hall : ['d', 'g', 'i', 'm', 's', 'u', 'y'].all
      (fun d => Scan.isInert d && !isBlank d) = true := by decide
  have hc := List.all_eq_true.mp hall c (of_decide_eq_true h)
  rwa [Bool.and_eq_true, Bool.not_eq_true'] at hc

theorem not_mem_flags (h : ∀ c ∈ flags, isFlag c = true) {c : Char} (hc : isFlag c = false) :
    c ∉ flags := by
  intro hmem
  rw [h c hmem] at hc
  cases hc

theorem dropLineEnd_of_not_mem {t : Text} (h : '\n' ∉ t) : dropLineEnd t = t := by
  have hnone : before? ['\n'] t = none := by
    rw [before?, Option.map_eq_none_iff]
    cases hrev : t.reverse with
    | nil => rfl
    | cons c u =>
      refine if_neg fun hc => h ?_
      rw [← List.mem_reverse, hrev, hc]
      exact List.mem_cons_self ..
  rw [dropLineEnd, hnone]
  rfl

/-- **A pattern and its flags are read back**, since no flag is a slash. -/
theorem regexLiteral?_pattern (body : Text) (h : ∀ c ∈ flags, isFlag c = true) :
    regexLiteral? ('/' :: body ++ '/' :: flags) = some (body, flags) := by
  have hcut : cutLast? '/' (body ++ '/' :: flags) = some (body, flags) := by
    have hslash : '/' ∉ flags.reverse := by
      rw [List.mem_reverse]
      exact not_mem_flags h (by decide)
    have hreverse : (body ++ '/' :: flags).reverse = flags.reverse ++ '/' :: body.reverse := by
      simp
    rw [cutLast?, hreverse, cut?_append hslash]
    simp
  rw [List.cons_append, regexLiteral?, hcut]
  dsimp only
  rw [dropLineEnd_of_not_mem (not_mem_flags h (by decide)), if_pos (List.all_eq_true.mpr h)]

end Text

/-! ## Searches -/

/-- What is looked for: a pattern with its flags, or the text in quotes, both as they are
written. -/
inductive Search where
  | pattern (body flags : Text)
  | quoted (body : Text)

namespace Search

open Scan

variable {s : Scan} {search : Search} {sep : Char}

def written : Search → Text
  | pattern body flags => '/' :: body ++ '/' :: flags
  | quoted body => '"' :: body ++ ['"']

/-- The first mark behind the opening one that is not escaped is the closing one. -/
def Writable : Search → Prop
  | pattern body flags => Text.Enclosed '/' body ∧ ∀ c ∈ flags, Text.isFlag c = true
  | quoted body => Text.Enclosed '"' body

instance (search : Search) : Decidable search.Writable :=
  match search with
  | pattern body flags =>
    decidable_of_iff (Text.Enclosed '/' body ∧ flags.all Text.isFlag = true)
      (and_congr_right' List.all_eq_true)
  | quoted _ => inferInstanceAs (Decidable (Text.Enclosed _ _))

theorem written_pattern (body flags : Text) :
    (pattern body flags).written = ('/' :: body ++ ['/']) ++ flags := by
  simp [written]

theorem neutral_flags {flags : Text} (h : ∀ c ∈ flags, Text.isFlag c = true) : Neutral flags :=
  neutral_of_isInert fun c hc => (Text.of_isFlag (h c hc)).1

/-- **A scan passes over what is looked for** where an argument may begin, and no other separator
splits in it. -/
theorem passes_written (h : search.Writable) (hs : s.Plain) (hregexes : s.regexes = true)
    (hopen : s.regexCanOpen = true) :
    s.Passes search.written ∧
      ∀ sep, sep = ',' ∨ sep = ':' → solid sep s search.written = true := by
  cases search with
  | pattern body flags =>
    obtain ⟨hbody, hflags⟩ := h
    -- the pattern is passed between its slashes, and the flags behind it one by one
    have hslash : s.Opens '/' := .inr ⟨rfl, hregexes, hopen⟩
    have hpasses := passes_delimited hs hslash hbody
    rw [written_pattern]
    refine ⟨hpasses.append ((neutral_flags hflags).passes hpasses.plain), fun sep hsep => ?_⟩
    have hne : sep ≠ '/' ∧ Text.isFlag sep = false := by
      rcases hsep with rfl | rfl <;> decide
    rw [solid_append, solid_delimited hs hslash hbody hne.1,
      solid_of_not_mem (Text.not_mem_flags hflags hne.2)]
    rfl
  | quoted body =>
    -- quotes open wherever the scan stands
    have hquote : s.Opens '"' := .inl rfl
    refine ⟨passes_delimited hs hquote h, fun sep hsep => solid_delimited hs hquote h ?_⟩
    rcases hsep with rfl | rfl <;> decide

theorem part_written (h : search.Writable) : Part ':' true search.written := by
  obtain ⟨hpasses, hsolid⟩ := passes_written h (plain_start true) rfl rfl
  exact ⟨hsolid ':' (.inr rfl), hpasses.splits⟩

theorem exists_written_eq_cons (search : Search) :
    ∃ c t, search.written = c :: t ∧ Text.isBlank c = false := by
  cases search with
  | pattern body flags => exact ⟨'/', body ++ '/' :: flags, rfl, by decide⟩
  | quoted body => exact ⟨'"', body ++ ['"'], rfl, by decide⟩

theorem trimmed_written (h : search.Writable) : Text.Trimmed search.written := by
  cases search with
  | pattern body flags =>
    refine Text.trimmed_cons_append (by decide) body (List.cons_ne_nil _ _) ?_
    exact List.forall_mem_cons.mpr ⟨by decide, fun c hc => (Text.of_isFlag (h.2 c hc)).2⟩
  | quoted body => exact Text.trimmed_cons_append_singleton (by decide) body (by decide)

/-! ## Pairs -/

/-- A pair as it is written, what is looked for first. -/
def pair (p : Search × Text) : Text :=
  p.1.written ++ ':' :: ('"' :: p.2 ++ ['"'])

variable {p : Search × Text}

/-- Behind what is looked for and the colon a scan goes on, and a pattern may begin. -/
theorem passes_written_colon (h : search.Writable) (hs : s.Plain) (hregexes : s.regexes = true)
    (hopen : s.regexCanOpen = true) :
    s.Passes (search.written ++ [':']) ∧ solid ',' s (search.written ++ [':']) = true ∧
      (s.push (search.written ++ [':'])).regexCanOpen = true := by
  obtain ⟨hsearch, hsolid⟩ := passes_written h hs hregexes hopen
  have hcolon : Neutral [':'] := neutral_singleton (by decide)
  refine ⟨hsearch.append (hcolon.passes hsearch.plain), ?_, ?_⟩
  · rw [solid_append, hsolid ',' (.inl rfl), solid_of_not_mem (by decide)]
    rfl
  · rw [← push_append, ← step_of_isInert (by decide) hsearch.plain, regexCanOpen_step]
    rfl

/-- **A scan passes over a pair** where an argument may begin, and no comma splits in it. -/
theorem passes_pair (h : p.1.Writable) (hbody : Text.Enclosed '"' p.2) (hs : s.Plain)
    (hregexes : s.regexes = true) (hopen : s.regexCanOpen = true) :
    s.Passes (pair p) ∧ solid ',' s (pair p) = true := by
  obtain ⟨hsearch, hsolid, -⟩ := passes_written_colon h hs hregexes hopen
  have hquoted := passes_delimited hsearch.plain (.inl rfl) hbody
  rw [pair, List.append_cons]
  refine ⟨hsearch.append hquoted, ?_⟩
  rw [solid_append, hsolid, hsearch.run,
    solid_delimited hsearch.plain (.inl rfl) hbody (by decide)]
  rfl

theorem part_pair (h : p.1.Writable) (hbody : Text.Enclosed '"' p.2) : Part ',' true (pair p) := by
  obtain ⟨hpasses, hsolid⟩ := passes_pair h hbody (plain_start true) rfl rfl
  exact ⟨hsolid, hpasses.splits⟩

theorem trimmed_pair (p : Search × Text) : Text.Trimmed (pair p) := by
  obtain ⟨c, t, hwritten, hc⟩ := exists_written_eq_cons p.1
  have hpair : pair p = c :: (t ++ ':' :: '"' :: p.2) ++ ['"'] := by
    simp [pair, hwritten]
  rw [hpair]
  exact Text.trimmed_cons_append_singleton hc _ (by decide)

/-- A pair is split into its search and its replacement. -/
theorem splitPair_pair (h : p.1.Writable) :
    splitPair ':' true (pair p) = (p.1.written, some ('"' :: p.2 ++ ['"'])) := by
  rw [pair, splitPair_part (part_written h), Text.strip_eq_self (trimmed_written h),
    Text.strip_eq_self (Text.trimmed_cons_append_singleton (by decide) _ (by decide))]

/-- Pairs between commas are split into the pairs. -/
theorem splitTop_pairs {pairs : List (Search × Text)}
    (h : ∀ p ∈ pairs, p.1.Writable ∧ Text.Enclosed '"' p.2) :
    splitTop ',' true (Text.join [','] (pairs.map pair)) = pairs.map pair := by
  apply splitTop_join
  · intro t ht
    obtain ⟨p, hp, rfl⟩ := List.mem_map.mp ht
    exact part_pair (h p hp).1 (h p hp).2
  · intro t ht
    obtain ⟨p, -, rfl⟩ := List.mem_map.mp ht
    exact List.append_ne_nil_of_right_ne_nil _ (List.cons_ne_nil _ _)
  · intro t ht
    obtain ⟨p, -, rfl⟩ := List.mem_map.mp ht
    exact trimmed_pair p

/-- **Pairs are read back, in order**: each one is a part, it is split between its two sides, and of
a pattern the body and the flags are told. -/
theorem splitTop_splitPair_pairs (pairs : List (Search × Text))
    (h : ∀ p ∈ pairs, p.1.Writable ∧ Text.Enclosed '"' p.2) :
    (splitTop ',' true (Text.join [','] (pairs.map pair))).map (splitPair ':' true) =
        pairs.map (fun p => (p.1.written, some ('"' :: p.2 ++ ['"']))) ∧
      ∀ body flags replacement, (pattern body flags, replacement) ∈ pairs →
        Text.regexLiteral? (pattern body flags).written = some (body, flags) := by
  refine ⟨?_, fun body flags replacement hmem => ?_⟩
  · rw [splitTop_pairs h, List.map_map]
    exact List.map_congr_left fun p hp => splitPair_pair (h p hp).1
  · exact Text.regexLiteral?_pattern body (h _ hmem).1.2

/-- Commas, colons, quotes, brackets and escaped slashes in a pattern and in the texts. -/
theorem splitTop_splitPair_pairs_marks :
    let pairs : List (Search × Text) :=
      [(pattern "a,\\/:[\"(]\x7b2,3\x7d".toList "gi".toList, "$1:\\\",/".toList),
        (quoted "/,\\\\".toList, []), (pattern [] [], "/x/".toList)]
    (∀ p ∈ pairs, p.1.Writable ∧ Text.Enclosed '"' p.2) ∧
      (splitTop ',' true (Text.join [','] (pairs.map pair))).map (splitPair ':' true) =
          pairs.map (fun p => (p.1.written, some ('"' :: p.2 ++ ['"']))) ∧
        Text.regexLiteral? "/a,\\/:[\"(]\x7b2,3\x7d/gi".toList =
          some ("a,\\/:[\"(]\x7b2,3\x7d".toList, "gi".toList) := by
  intro pairs
  have h : ∀ p ∈ pairs, p.1.Writable ∧ Text.Enclosed '"' p.2 := by decide +kernel
  obtain ⟨hpairs, hpattern⟩ := splitTop_splitPair_pairs pairs h
  exact ⟨h, hpairs, hpattern _ _ _ (List.mem_cons_self ..)⟩

end Search

end Clipbook
