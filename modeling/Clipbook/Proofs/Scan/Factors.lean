import Clipbook.Proofs.Scan.Split
import Clipbook.Proofs.Text.Trimmed
import Mathlib.Logic.ExistsUnique

/-!
# Clipbook — the parts of a text

A text is split into the parts that stand between its separators.  Which separators count is told by
a scan of each part for itself: behind every part but the last the scan is at the top level and not
escaped, and no separator inside of a part stands at such a place.  There is one way to write a text
like that.  The parts are then trimmed, and an empty last one is left out.

Whether slashes open patterns in the parts is settled by a first pass.  One that leaves a pattern
open was misled, and without patterns no pass is.

Main results:

* `exists_factors`, `Factors.unique` — every text is written as parts in one way.
* `Factors.splitTop_eq` — and splitting it gives these parts.
* `unsplit_of_mem_splitTop` — a part as long as the text is the text, in which nothing splits.
* `splitTop_factors` — all together.
-/

namespace Clipbook.Scan

variable {sep : Char} {regexes : Bool} {s : Scan} {t u last : Text} {init : List Text}

/-! ## Parts -/

/-- No separator of a text stands where the scan of what is before it splits. -/
def Unsplit (sep : Char) (regexes : Bool) (t : Text) : Prop :=
  ∀ p q, t = p ++ sep :: q → ((start regexes).run p).splits = false

/-- A text written as parts with separators between them, the last part for itself. -/
structure Factors (sep : Char) (regexes : Bool) (t : Text) (init : List Text) (last : Text) :
    Prop where
  joined : t = Text.join [sep] (init ++ [last])
  splits : ∀ p ∈ init, ((start regexes).run p).splits = true
  unsplit : ∀ p ∈ init ++ [last], Unsplit sep regexes p

/-- A text is solid if no separator in it stands where texts are split. -/
theorem solid_iff :
    solid sep s t = true ↔ ∀ p q, t = p ++ sep :: q → (s.run p).splits = false := by
  induction t generalizing s with
  | nil => exact iff_of_true rfl fun p q h => absurd h (by simp)
  | cons c t ih =>
    rw [solid_cons_iff, ih]
    constructor
    · rintro ⟨hhere, hlater⟩ p q heq
      cases p with
      | nil => exact Bool.eq_false_iff.mpr fun hs => hhere ⟨(List.cons.inj heq).1, hs⟩
      | cons d p =>
        obtain ⟨rfl, htail⟩ := List.cons.inj heq
        exact hlater p q htail
    · intro h
      refine ⟨fun hc => ?_, fun p q heq => h (c :: p) q (by rw [heq, List.cons_append])⟩
      -- the separator at the front is one of those the condition speaks of
      obtain ⟨rfl, hs⟩ := hc
      have := h [] t rfl
      rw [run_nil, hs] at this
      cases this

/-- A text is one piece if a run from the start splits it nowhere. -/
theorem unsplit_iff : Unsplit sep regexes t ↔ solid sep (start regexes) t = true :=
  solid_iff.symm

/-! ## One way to write a text -/

/-- What is read of a part so far does not split, so the part goes on or ends. -/
theorem exists_factors_append (hu : Unsplit sep regexes u) (t : Text) :
    ∃ init last, Factors sep regexes (u ++ t) init last := by
  induction t generalizing u with
  | nil =>
    refine ⟨[], u, (List.append_nil u).trans rfl, fun p hp => absurd hp List.not_mem_nil, ?_⟩
    rintro p hp
    rw [List.mem_singleton.mp hp]
    exact hu
  | cons c t ih =>
    by_cases hc : c = sep ∧ ((start regexes).run u).splits = true
    · -- the part ends here
      obtain ⟨rfl, hsplits⟩ := hc
      obtain ⟨init, last, hrest⟩ := ih (u := []) (unsplit_iff.mpr rfl)
      refine ⟨u :: init, last, ?_, ?_, ?_⟩
      · rw [List.cons_append, Text.join_cons_concat, ← hrest.joined, List.append_assoc]
        rfl
      · exact List.forall_mem_cons.mpr ⟨hsplits, hrest.splits⟩
      · exact List.forall_mem_cons.mpr ⟨hu, hrest.unsplit⟩
    -- nothing splits here, so the part grows by the character
    · have hlonger : Unsplit sep regexes (u ++ [c]) := by
        rw [unsplit_iff, solid_append, unsplit_iff.mp hu, Bool.true_and, solid_cons_iff]
        exact ⟨hc, rfl⟩
      rw [List.append_cons]
      exact ih hlonger

/-- **Every text is written as parts.** -/
theorem exists_factors (sep : Char) (regexes : Bool) (t : Text) :
    ∃ init last, Factors sep regexes t init last :=
  exists_factors_append (u := []) (unsplit_iff.mpr rfl) t

/-- The factors of a text are what one pass finds. -/
theorem Factors.pass_eq (h : Factors sep regexes t init last) :
    pass sep regexes t = (init, (start regexes).run last) := by
  rw [h.joined]
  apply pass_join
  · intro p hp
    exact ⟨unsplit_iff.mp (h.unsplit p (List.mem_append_left _ hp)), h.splits p hp⟩
  · exact unsplit_iff.mp (h.unsplit last (by simp))

/-- **There is one way to write a text as parts**: what a pass finds. -/
theorem Factors.unique {init' : List Text} {last' : Text} (h : Factors sep regexes t init last)
    (h' : Factors sep regexes t init' last') : init = init' ∧ last = last' := by
  have hpass := h.pass_eq
  rw [h'.pass_eq] at hpass
  obtain ⟨hinit, hlast⟩ := Prod.mk.inj hpass
  -- the scan of the last part remembers it
  have htext := congrArg text hlast
  rw [text_run_start, text_run_start] at htext
  exact ⟨hinit.symm, htext.symm⟩

/-- The factors of a text are its parts; of them only the last one may be left out, where it is
empty. -/
theorem Factors.parts_eq (h : Factors sep regexes t init last) :
    parts (pass sep regexes t) =
      (init ++ if last = [] then [] else [last]).map Text.strip := by
  have hread : ((start regexes).run last).read = [] ↔ last = [] := by
    rw [read_run]
    simp [start]
  rw [h.pass_eq, parts, text_run_start]
  simp only [hread]

/-! ## Patterns that stay open -/

/-- Whether slashes open patterns in the parts of a text: as it is asked for, unless a pattern would
stay open at the end. -/
def patterned (sep : Char) (regexes : Bool) (t : Text) : Bool :=
  if (pass sep regexes t).2.inRegex then false else regexes

theorem inRegex_step (hregexes : s.regexes = false) (hs : s.inRegex = false) (c : Char) :
    (s.step c).inRegex = false := by
  cases he : s.escaped with
  | true =>
    rw [step_of_escaped he]
    exact hs
  | false =>
    rw [step_of_not_escaped he]
    show (s.shift c).inRegex = false
    unfold shift
    split
    · split <;> exact hs
    · rw [if_neg (by simp [hs])]
      split
      · exact hs
      · -- a slash opens no pattern, and no other character does
        rw [if_neg (by simp [hregexes])]
        repeat' split
        all_goals exact hs

theorem inRegex_run (hregexes : s.regexes = false) (hs : s.inRegex = false) (t : Text) :
    (s.run t).inRegex = false := by
  induction t generalizing s with
  | nil => exact hs
  | cons c t ih =>
    exact ih (by rw [regexes_step, hregexes]) (inRegex_step hregexes hs c)

/-- A pass without patterns leaves none open. -/
theorem inRegex_pass_false (sep : Char) (t : Text) : (pass sep false t).2.inRegex = false := by
  obtain ⟨init, last, h⟩ := exists_factors sep false t
  rw [h.pass_eq]
  exact inRegex_run rfl rfl last

/-- The pass that counts ends outside of patterns. -/
theorem inRegex_pass_patterned (sep : Char) (regexes : Bool) (t : Text) :
    (pass sep (patterned sep regexes t) t).2.inRegex = false := by
  unfold patterned
  split
  · exact inRegex_pass_false sep t
  · next hclosed => exact Bool.eq_false_iff.mpr hclosed

/-- The parts of a text are those of the pass that counts. -/
theorem splitTop_eq_parts (sep : Char) (regexes : Bool) (t : Text) :
    splitTop sep regexes t = parts (pass sep (patterned sep regexes t) t) := by
  unfold splitTop patterned
  dsimp only
  split <;> rfl

/-- A pattern that stays open behind the only part opens none. -/
theorem patterned_of_inRegex (h : Unsplit sep regexes t)
    (hopen : ((start regexes).run t).inRegex = true) : patterned sep regexes t = false := by
  have hfactors : Factors sep regexes t [] t :=
    ⟨rfl, nofun, List.forall_mem_singleton.mpr h⟩
  rw [patterned, hfactors.pass_eq, if_pos hopen]

/-- **Splitting a text gives its parts**, trimmed and without an empty last one. -/
theorem Factors.splitTop_eq (h : Factors sep (patterned sep regexes t) t init last) :
    splitTop sep regexes t = (init ++ if last = [] then [] else [last]).map Text.strip := by
  rw [splitTop_eq_parts, h.parts_eq]

/-! ## Lengths -/

/-- A part is no longer than the text, and shorter where there are more of them. -/
theorem length_le_join (sep : Char) (init : List Text) (last : Text) :
    ∀ p ∈ init ++ [last], p.length + init.length ≤ (Text.join [sep] (init ++ [last])).length := by
  induction init with
  | nil => exact fun p hp => Nat.le_of_eq (congrArg List.length (List.mem_singleton.mp hp))
  | cons q init ih =>
    rw [List.cons_append, Text.join_cons_concat]
    simp only [List.length_append, List.length_cons, List.length_nil]
    refine List.forall_mem_cons.mpr ⟨?_, fun p hp => ?_⟩
    · have := ih last (by simp)
      omega
    · have := ih p hp
      omega

/-- A part and the separators around it are no longer than the text. -/
theorem Factors.length_add_le {p : Text}
    (h : Factors sep (patterned sep regexes t) t init last) (hp : p ∈ splitTop sep regexes t) :
    p.length + init.length ≤ t.length := by
  rw [h.splitTop_eq] at hp
  obtain ⟨q, hq, rfl⟩ := List.mem_map.mp hp
  -- the last part is left out if it is blank
  have hmem : q ∈ init ++ [last] := by
    rcases List.mem_append.mp hq with hq | hq
    · exact List.mem_append_left _ hq
    · split at hq
      · cases hq
      · exact List.mem_append_right _ hq
  have hlength := length_le_join sep init last q hmem
  rw [← h.joined] at hlength
  have := Text.length_strip_le q
  omega

theorem length_of_mem_splitTop {p : Text} (hp : p ∈ splitTop sep regexes t) :
    p.length ≤ t.length := by
  obtain ⟨init, last, h⟩ := exists_factors sep (patterned sep regexes t) t
  have := h.length_add_le hp
  omega

/-- **A part as long as the text is the text**, in which no separator splits. -/
theorem unsplit_of_mem_splitTop {p : Text} (hp : p ∈ splitTop sep regexes t)
    (hlength : t.length ≤ p.length) : Unsplit sep (patterned sep regexes t) t := by
  obtain ⟨init, last, h⟩ := exists_factors sep (patterned sep regexes t) t
  have hinit : init = [] := by
    have := h.length_add_le hp
    exact List.eq_nil_of_length_eq_zero (by omega)
  subst hinit
  have hlast : t = last := h.joined
  exact hlast ▸ h.unsplit last (by simp)

/-- A text in which no separator splits is its only part. -/
theorem splitTop_of_unsplit (h : Unsplit sep (patterned sep regexes t) t) (hne : t ≠ [])
    (htrim : Text.Trimmed t) : splitTop sep regexes t = [t] := by
  have hfactors : Factors sep (patterned sep regexes t) t [] t :=
    ⟨rfl, nofun, List.forall_mem_singleton.mpr h⟩
  rw [hfactors.splitTop_eq, if_neg hne, List.nil_append, List.map_singleton,
    Text.strip_eq_self htrim]

/-! ## Main result -/

/-- **Splitting computes the one way to write a text as parts**, each of which is scanned from the
start.  The parts are trimmed, and the last one is left out where it is empty.  With the setting the
first pass has settled no pattern stays open, so no further pass is made. -/
theorem splitTop_factors (sep : Char) (regexes : Bool) (t : Text) :
    (∃! f : List Text × Text, Factors sep (patterned sep regexes t) t f.1 f.2) ∧
      (∀ init last, Factors sep (patterned sep regexes t) t init last →
        splitTop sep regexes t =
          (init ++ if last = [] then [] else [last]).map Text.strip) ∧
      (pass sep (patterned sep regexes t) t).2.inRegex = false := by
  refine ⟨?_, fun init last h => h.splitTop_eq, inRegex_pass_patterned sep regexes t⟩
  obtain ⟨init, last, h⟩ := exists_factors sep (patterned sep regexes t) t
  refine ⟨(init, last), h, ?_⟩
  rintro ⟨init', last'⟩ h'
  obtain ⟨rfl, rfl⟩ := h.unique h'
  rfl

end Clipbook.Scan
