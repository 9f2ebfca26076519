import Clipbook.Proofs.Filter.Unquoted
import Clipbook.Proofs.Pattern.Names
import Clipbook.Proofs.Pattern.Reference

/-!
# Clipbook — replacing the matches of a pattern

A call that replaces what a pattern matches by a text in quotes is read as it was written, whatever
stands in the pattern and in the text.  So what it does is told by the matches alone: the gaps
between them stay, and each match gives way to the replacement filled in for it.  A pattern that
cannot be read, and one whose reading faults, leave the text as it is.

What is matched is what was written only as long as no name of a group seems to start in the
pattern.

Main results:

* `applyFilters_patternPair` — what the call does with a text.
* `applyFilters_whole` — the match put in its own place changes nothing.
* `applyFilters_doubleDollars` — a text with doubled dollars is put in as it was before.
* `replaceOne_nameless` — when a pattern is matched as it was written.
* `not_forall_ofLiteral_eq_read` — an escaped parenthesis can be taken for the start of a name.
-/

namespace Clipbook.Filter

variable {p : Pattern} {body flags replacement r : Text}

/-! ## The call -/

/-- The one pair of the call is applied to the text. -/
theorem replaced_patternPair (hsearch : (Search.pattern body flags).Writable)
    (hreplacement : Text.Enclosed '"' replacement) (t : Text) :
    replaced (callOf (patternPair body flags replacement)).args (.str t) =
      Value.str <$> replaceOne t (Search.pattern body flags).written replacement := by
  have hargs : (callOf (patternPair body flags replacement)).args ≠ [] := List.cons_ne_nil _ _
  have htext : (Value.str t).text = .ok t := rfl
  rw [replaced, if_neg hargs, htext, (readBack_patternPair hsearch hreplacement).arguments]
  show (replacePairs t [patternPair body flags replacement] >>= fun u => pure (Value.str u)) = _
  rw [replacePairs, pairOf_patternPair hsearch]
  show (replaceOne t _ replacement >>= fun u => pure u) >>= _ = _
  rw [bind_pure, bind_pure_comp]

/-- **What a call that replaces the matches of a pattern does with a text.** -/
theorem applyFilters_patternPair (hsearch : (Search.pattern body flags).Writable)
    (hreplacement : Text.Enclosed '"' replacement) (t : Text) :
    applyFilters (callOf (patternPair body flags replacement)).printed (.str t) =
      (Value.str <$> replaceOne t (Search.pattern body flags).written replacement).recover
        fun _ => do
          Outcome.warn (.filterFailed "replace".toList)
          return .str t := by
  have happly : (callOf (patternPair body flags replacement)).apply Template.render (.str t) =
      (replaced (callOf (patternPair body flags replacement)).args (.str t)).recover
        fun _ => do
          Outcome.warn (.filterFailed "replace".toList)
          return .str t := rfl
  rw [applyFilters, Call.applyChain, (readBack_patternPair hsearch hreplacement).chain,
    Call.applyAll, happly, replaced_patternPair hsearch hreplacement]
  exact bind_pure _

/-- A pattern in slashes is read with its flags. -/
theorem replaceOne_pattern (hflags : ∀ c ∈ flags, Text.isFlag c = true) (t : Text) :
    replaceOne t (Search.pattern body flags).written replacement =
      Pattern.orWarn (.invalidPattern (Search.pattern body flags).written)
          (Pattern.ofLiteral body flags) >>= fun q =>
        pure (q.elim t fun p => p.replace ('g' ∈ flags) replacement t) := by
  rw [replaceOne, Search.written, Text.regexLiteral?_pattern body hflags]
  dsimp only
  congr 1
  funext q
  cases q with
  | none => rfl
  | some p => rfl

/-- The matches are replaced, without a warning. -/
theorem applyFilters_of_ok (hsearch : (Search.pattern body flags).Writable)
    (hreplacement : Text.Enclosed '"' replacement) (hp : Pattern.ofLiteral body flags = .ok p)
    (t : Text) :
    applyFilters (callOf (patternPair body flags replacement)).printed (.str t) =
      pure (.str (p.replace ('g' ∈ flags) replacement t)) := by
  rw [applyFilters_patternPair hsearch hreplacement, replaceOne_pattern hsearch.2, hp]
  rfl

/-- A pattern that cannot be read leaves the text as it is, with a warning that it is none or that
the filter has faulted. -/
theorem applyFilters_of_error (hsearch : (Search.pattern body flags).Writable)
    (hreplacement : Text.Enclosed '"' replacement) {e : Pattern.Problem}
    (he : Pattern.ofLiteral body flags = .error e) (t : Text) :
    (applyFilters (callOf (patternPair body flags replacement)).printed (.str t)).result =
      .ok (.str t) := by
  rw [applyFilters_patternPair hsearch hreplacement, replaceOne_pattern hsearch.2, he]
  cases e with
  | invalid => rfl
  | hugeCount => rfl

/-! ## Main results -/

/-- **The match put in its own place changes nothing**, whether the pattern can be read or not,
for the first match or for all. -/
theorem applyFilters_whole (hsearch : (Search.pattern body flags).Writable) (t : Text) :
    (applyFilters (callOf (patternPair body flags "$&".toList)).printed (.str t)).result =
      .ok (.str t) := by
  have hwhole : Text.Enclosed '"' "$&".toList :=
    Text.enclosed_of_not_mem (by decide) (by decide)
  cases hp : Pattern.ofLiteral body flags with
  | ok p =>
    rw [applyFilters_of_ok hsearch hwhole hp, Pattern.replace_whole]
    rfl
  | error e => exact applyFilters_of_error hsearch hwhole hp t

/-- Empty matches beside others, an escaped slash and a comma, for the first match or for all; and
a parenthesis that is never closed. -/
theorem applyFilters_whole_empty :
    (Search.pattern "(?:a|,\\/)*".toList "gi".toList).Writable ∧
      (Search.pattern "a(,".toList []).Writable ∧
      ∀ t, (applyFilters "replace(/(?:a|,\\/)*/gi:\"$&\")".toList (.str t)).result = .ok (.str t) ∧
        (applyFilters "replace(/a(,/:\"$&\")".toList (.str t)).result = .ok (.str t) := by
  have hread : (Search.pattern "(?:a|,\\/)*".toList "gi".toList).Writable := by decide
  have hopen : (Search.pattern "a(,".toList []).Writable := by decide
  exact ⟨hread, hopen, fun t => ⟨applyFilters_whole hread t, applyFilters_whole hopen t⟩⟩

/-- **When a pattern is matched as it was written.**  Every opening in it has to look behind; any
other one gets a `P`, be its parenthesis escaped or not, and the rest is renamed apart from it. -/
theorem replaceOne_nameless (p : Text) :
    (Pattern.renameGroups p = p ↔ Pattern.Nameless p) ∧
      (∀ before after, p = before ++ Pattern.opening ++ after →
        Pattern.looksBehind after = false →
          Pattern.renameGroups p =
            Pattern.renameGroups before ++ "(?P<".toList ++ Pattern.renameGroups after) ∧
      (Pattern.Nameless p → ∀ flags,
        Pattern.ofLiteral p flags = Pattern.read (Pattern.optionsOf flags) p ∧
          ((∀ c ∈ flags, Text.isFlag c = true) → ∀ t replacement,
            replaceOne t (Search.pattern p flags).written replacement =
              Pattern.orWarn (.invalidPattern (Search.pattern p flags).written)
                  (Pattern.read (Pattern.optionsOf flags) p) >>= fun q =>
                pure (q.elim t fun p => p.replace ('g' ∈ flags) replacement t))) := by
  refine ⟨Pattern.renameGroups_eq_self_iff, ?_, fun hnameless flags => ?_⟩
  · rintro before after rfl hnames
    exact Pattern.renameGroups_append_opening before hnames
  · have hread : Pattern.ofLiteral p flags = Pattern.read (Pattern.optionsOf flags) p := by
      rw [Pattern.ofLiteral, hnameless.renameGroups_eq]
    refine ⟨hread, fun hflags t replacement => ?_⟩
    rw [replaceOne_pattern hflags, hread]

/-- Two looks behind, one of them escaped, and a group without a name. -/
theorem replaceOne_nameless_behind :
    let p := "(?<!a)(?:b|\\(?<=c)".toList
    Pattern.Nameless p ∧ (∀ c ∈ "gi".toList, Text.isFlag c = true) ∧ ∀ t replacement,
      replaceOne t ('/' :: p ++ "/gi".toList) replacement =
        Pattern.orWarn (.invalidPattern ('/' :: p ++ "/gi".toList))
            (Pattern.read (Pattern.optionsOf "gi".toList) p) >>= fun q =>
          pure (q.elim t fun p => p.replace true replacement t) := by
  intro p
  have hnameless : Pattern.Nameless p := by decide +kernel
  have hflags : ∀ c ∈ "gi".toList, Text.isFlag c = true := List.all_eq_true.mp (by decide)
  exact ⟨hnameless, hflags, fun t replacement =>
    ((replaceOne_nameless p).2.2 hnameless "gi".toList).2 hflags t replacement⟩

/-- **An escaped parenthesis can be taken for the start of a name**: written is a parenthesis that
may be there, and `<b` behind it; matched is `P<b` behind it. -/
theorem not_forall_ofLiteral_eq_read :
    ¬∀ p flags, (∀ before after, p = before ++ Pattern.opening ++ after →
        Pattern.looksBehind after = true ∨ Text.endsEscaped before = true) →
      Pattern.ofLiteral p flags = Pattern.read (Pattern.optionsOf flags) p := by
  intro h
  -- the one opening of the pattern stands behind a backslash
  have hescaped : ∀ before after, "\\(?<b".toList = before ++ Pattern.opening ++ after →
      Pattern.looksBehind after = true ∨ Text.endsEscaped before = true :=
    (Pattern.forall_opening_iff fun before after =>
      Pattern.looksBehind after = true ∨ Text.endsEscaped before = true).mpr (by decide +kernel)
  have heq := h "\\(?<b".toList [] hescaped
  -- the group is renamed all the same, and the text is not found any more
  have hmatched : (Pattern.ofLiteral "\\(?<b".toList []).map
      (fun q => q.replace false ['x'] "(<b".toList) = .ok "(<b".toList :=
    Except.toOption_eq_some_iff.mp (by decide +kernel)
  have hwritten : (Pattern.read (Pattern.optionsOf []) "\\(?<b".toList).map
      (fun q => q.replace false ['x'] "(<b".toList) = .ok ['x'] :=
    Except.toOption_eq_some_iff.mp (by decide +kernel)
  rw [heq, hwritten] at hmatched
  exact absurd (Except.ok.inj hmatched) (by decide)

end Clipbook.Filter
