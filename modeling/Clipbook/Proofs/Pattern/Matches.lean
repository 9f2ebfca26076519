import Clipbook.Pattern.Search
import Clipbook.Proofs.Pattern.Matcher

/-!
# Clipbook — matches in a text

One search follows the other until nothing is found.  The matches lie in the text one behind the
other; an empty match may stand at the end of the one before, but never two of them at one place,
so there are at most two matches for each character and the searches come to an end.  The matches
cut the text into gaps and matches, of which nothing is lost, and replacing the matches keeps the
gaps.

Main results:

* `exhausts_findAll` — behind the last match there is none.
* `inOrder_findAll` — the matches lie one behind the other.
* `InOrder.exists_gaps` — the text as gaps and matches, and as gaps and images where each match is
  replaced.
-/

namespace Clipbook

variable {t : Text} {place : Nat} {ms : List Match}

/-! ## Gaps -/

/-- Texts with another text behind each of them, and one more text at the end. -/
def Text.weave (gaps fillings : List Text) (last : Text) : Text :=
  (List.zipWith (· ++ ·) gaps fillings).flatten ++ last

/-- The first filling stands behind the first gap. -/
theorem Text.weave_cons (gap filling : Text) (gaps fillings : List Text) (last : Text) :
    weave (gap :: gaps) (filling :: fillings) last = gap ++ filling ++ weave gaps fillings last := by
  simp [weave]

/-- A text from a place on, cut at another place. -/
theorem Text.slice_append_drop {start stop : Nat} (h : start ≤ stop) (t : Text) :
    slice start stop t ++ t.drop stop = t.drop start := by
  have hdrop : t.drop stop = (t.drop start).drop (stop - start) := by
    rw [List.drop_drop, Nat.add_sub_cancel' h]
  rw [slice, hdrop, List.take_append_drop]

namespace Match

/-- Matches that lie in a text from a place on, one behind the other. -/
inductive InOrder (t : Text) : Nat → List Match → Prop
  | nil (place : Nat) : InOrder t place []
  | cons {place : Nat} {m : Match} {ms : List Match} : place ≤ m.start → m.start ≤ m.stop →
      m.stop ≤ t.length → InOrder t m.stop ms → InOrder t place (m :: ms)

/-- The first few of matches in order are in order. -/
theorem InOrder.take (h : InOrder t place ms) (n : Nat) : InOrder t place (ms.take n) := by
  induction h generalizing n with
  | nil place =>
    rw [List.take_nil]
    exact .nil place
  | cons hplace hstart hstop _ ih =>
    cases n with
    | zero => exact .nil _
    | succ n => exact .cons hplace hstart hstop (ih n)

/-- **Matches in order cut a text into gaps and matches**, and what replaces each match stands
between the same gaps. -/
theorem InOrder.exists_gaps (h : InOrder t place ms) :
    ∃ gaps last, gaps.length = ms.length ∧
      t.drop place = Text.weave gaps (ms.map fun m => m.text t) last ∧
      ∀ image, replaceFrom image t place ms = Text.weave gaps (ms.map image) last := by
  induction h with
  | nil place => exact ⟨[], t.drop place, rfl, rfl, fun _ => rfl⟩
  | @cons place m ms hplace hstart _ _ ih =>
    obtain ⟨gaps, last, hlength, htext, himage⟩ := ih
    refine ⟨Text.slice place m.start t :: gaps, last, congrArg Nat.succ hlength, ?_, fun image => ?_⟩
    · rw [List.map_cons, Text.weave_cons, ← htext, List.append_assoc, text,
        Text.slice_append_drop hstart, Text.slice_append_drop hplace]
    · rw [replaceFrom, himage, List.map_cons, Text.weave_cons]

/-- Matches replaced by themselves leave the text as it is. -/
theorem InOrder.replaceAll_text (h : InOrder t 0 ms) :
    replaceAll (fun m => m.text t) t ms = t := by
  obtain ⟨gaps, last, -, htext, himage⟩ := h.exists_gaps
  rw [replaceAll, himage, ← htext, List.drop_zero]

end Match

namespace Pattern

variable {p : Pattern} {advance : Bool} {before after : Text} {index start : Nat} {s : Cursor}

/-! ## One search -/

/-- A match ends in the subject, and not before it starts. -/
theorem ahead_of_matchAt (h : p.matchAt advance before after index = some s) :
    index ≤ s.index ∧ s.index + s.after.length = index + after.length := by
  obtain ⟨s', hahead, hs'⟩ := advances_run p.node _ _ _ h
  split at hs'
  · cases hs'
  · rw [← Option.some.inj hs']
    exact ⟨hahead.index_le, hahead.length_eq⟩

/-- A match that is searched for starts where the search does or further on, and stops behind its
start. -/
theorem ahead_of_searchFrom (h : p.searchFrom advance before index after = some (start, s)) :
    index ≤ start ∧ start ≤ s.index ∧ s.index + s.after.length = index + after.length := by
  induction after generalizing advance before index with
  | nil =>
    obtain ⟨s', hs', heq⟩ := Option.map_eq_some_iff.mp h
    obtain ⟨rfl, rfl⟩ := Prod.mk.inj heq
    exact ⟨Nat.le_refl _, ahead_of_matchAt hs'⟩
  | cons c after ih =>
    rw [searchFrom] at h
    split at h
    · next hs' =>
      obtain ⟨rfl, rfl⟩ := Prod.mk.inj (Option.some.inj h)
      exact ⟨Nat.le_refl _, ahead_of_matchAt hs'⟩
    -- the search goes on one place further
    · obtain ⟨hstart, hstop, hlength⟩ := ih h
      rw [List.length_cons]
      omega

/-- Where an empty match does not count, the match stops behind the place. -/
theorem index_ne_of_matchAt (h : p.matchAt true before after index = some s) : s.index ≠ index := by
  obtain ⟨s', -, hs'⟩ := advances_run p.node _ _ _ h
  split at hs'
  · cases hs'
  · next hindex =>
    rw [← Option.some.inj hs']
    simpa using hindex

/-- A match that has to advance is not empty. -/
theorem index_lt_of_searchFrom (h : p.searchFrom true before index after = some (start, s)) :
    index < s.index := by
  cases after with
  | nil =>
    obtain ⟨s', hs', heq⟩ := Option.map_eq_some_iff.mp h
    obtain ⟨rfl, rfl⟩ := Prod.mk.inj heq
    exact Nat.lt_of_le_of_ne (ahead_of_matchAt hs').1 (index_ne_of_matchAt hs').symm
  | cons c after =>
    rw [searchFrom] at h
    split at h
    · next hs' =>
      obtain ⟨rfl, rfl⟩ := Prod.mk.inj (Option.some.inj h)
      exact Nat.lt_of_le_of_ne (ahead_of_matchAt hs').1 (index_ne_of_matchAt hs').symm
    · -- the search has gone on to the next place
      have hahead := ahead_of_searchFrom h
      omega

/-! ## All searches -/

/-- Searches from where the match before has stopped, until one finds nothing. -/
inductive Exhausts (p : Pattern) : Bool → Text → Text → Nat → List Match → Prop
  | done {advance : Bool} {before after : Text} {index : Nat} :
      p.searchFrom advance before index after = none → Exhausts p advance before after index []
  | found {advance : Bool} {before after : Text} {index start : Nat} {s : Cursor}
      {ms : List Match} : p.searchFrom advance before index after = some (start, s) →
      Exhausts p (s.index = start) s.before s.after s.index ms →
      Exhausts p advance before after index (⟨start, s.index, s.groups.drop 1⟩ :: ms)

/-- Fuel for two searches a character is enough: a match leaves less of the text, or it is empty and
no empty one counts at its place from then on. -/
theorem exhausts_matchesFrom {fuel : Nat}
    (h : 2 * after.length + (if advance then 1 else 2) ≤ fuel) :
    Exhausts p advance before after index (p.matchesFrom fuel advance before after index) := by
  induction fuel generalizing advance before after index with
  | zero =>
    split at h <;> omega
  | succ fuel ih =>
    rw [matchesFrom]
    split
    · next hnone => exact .done hnone
    · next start s hs =>
      obtain ⟨hstart, hstop, hlength⟩ := ahead_of_searchFrom hs
      refine .found hs (ih ?_)
      cases advance with
      | true =>
        have hlt := index_lt_of_searchFrom hs
        rw [if_pos rfl] at h
        split <;> omega
      | false =>
        rw [if_neg Bool.false_ne_true] at h
        split
        · omega
        · next hmore =>
          -- the match is not empty
          have hne : s.index ≠ start := by simpa using hmore
          omega

/-- **Behind the last match there is none.** -/
theorem exhausts_findAll (p : Pattern) (t : Text) : Exhausts p false [] t 0 (p.findAll t) :=
  exhausts_matchesFrom (Nat.le_refl _)

/-- Matches that exhaust a subject are in order. -/
theorem Exhausts.inOrder (h : Exhausts p advance before after index ms)
    (hlength : index + after.length = t.length) : Match.InOrder t index ms := by
  induction h with
  | done => exact .nil _
  | @found advance before after index start s ms hs _ ih =>
    obtain ⟨hstart, hstop, hrest⟩ := ahead_of_searchFrom hs
    have hbehind : s.index + s.after.length = t.length := hrest.trans hlength
    exact .cons hstart hstop (by dsimp only; omega) (ih hbehind)

/-- **The matches of a pattern lie in the text one behind the other.** -/
theorem inOrder_findAll (p : Pattern) (t : Text) : Match.InOrder t 0 (p.findAll t) :=
  (exhausts_findAll p t).inOrder (Nat.zero_add _)

end Pattern

end Clipbook
