import Clipbook.FilePath
import Mathlib.Data.List.Induction
import Mathlib.Logic.Relation

/-!
# Clipbook — paths without dots

A path is normalized name by name.  Empty names and single dots are left out, two dots are left out
together with the name before them, and at the root they are left out alone.  In whatever order
this is done, there is one end to it, and it is the location that the path leads to.

Main results:

* `normalizes_iff` — the normal form of a row of names is the location they lead to from the root.
* `locate_eq_resolve` — a path seen from a folder leads where its names behind those of the folder
  lead from the root.
-/

namespace Clipbook

namespace FilePath

open Relation

variable {parts ps qs : List Text} {folder l : Location} {p name : Text}

/-! ## Normal forms -/

/-- A name that leads one folder further down. -/
def Proper (part : Text) : Prop :=
  part ≠ [] ∧ part ≠ ['.'] ∧ part ≠ parent

instance : DecidablePred Proper :=
  fun _ => inferInstanceAs (Decidable (_ ∧ _ ∧ _))

/-- One step in the normalization of a row of names. -/
inductive Shortens : List Text → List Text → Prop
  | empty (before after : List Text) : Shortens (before ++ [] :: after) (before ++ after)
  | here (before after : List Text) : Shortens (before ++ ['.'] :: after) (before ++ after)
  | back {name : Text} (h : Proper name) (before after : List Text) :
      Shortens (before ++ name :: parent :: after) (before ++ after)
  | top (after : List Text) : Shortens (parent :: after) after

/-- A location is the normal form of a row of names: steps lead to it, and none leads on. -/
structure Normalizes (parts : List Text) (l : Location) : Prop where
  steps : ReflTransGen Shortens parts l
  proper : ∀ p ∈ l, Proper p

theorem isName_of_proper (h : Proper p) : isName p = true := by
  rw [isName, Bool.and_eq_true, decide_eq_true_eq, decide_eq_true_eq]
  exact ⟨h.1, h.2.1⟩

/-- A part of a path is proper if it is a name other than that of the folder above. -/
theorem proper_iff : Proper p ↔ isName p = true ∧ p ≠ parent := by
  rw [Proper, isName, Bool.and_eq_true, decide_eq_true_eq, decide_eq_true_eq, and_assoc]

/-! ## Where names lead -/

/-- The location that names lead to from the root. -/
def resolve (parts : List Text) : Location :=
  (parts.filter isName).foldl step []

theorem step_of_proper (h : Proper p) (l : Location) : step l p = l ++ [p] :=
  if_neg h.2.2

/-- The name of the folder above leads out of a folder. -/
theorem step_parent (l : Location) : step l parent = l.dropLast :=
  if_pos rfl

/-- Proper parts lead down one after the other. -/
theorem foldl_step_of_proper (h : ∀ p ∈ ps, Proper p) (l : Location) :
    ps.foldl step l = l ++ ps := by
  induction ps generalizing l with
  | nil => rw [List.append_nil]; rfl
  | cons p ps ih =>
    rw [List.foldl_cons, step_of_proper (h p (List.mem_cons_self ..)),
      ih fun q hq => h q (List.mem_cons_of_mem _ hq), List.append_assoc]
    rfl

theorem filter_isName_of_proper (h : ∀ p ∈ ps, Proper p) : ps.filter isName = ps :=
  List.filter_eq_self.mpr fun p hp => isName_of_proper (h p hp)

/-- A path of two halves goes on from where the first one leads. -/
theorem resolve_append (ps qs : List Text) :
    resolve (ps ++ qs) = (qs.filter isName).foldl step (resolve ps) := by
  rw [resolve, List.filter_append, List.foldl_append]
  rfl

theorem resolve_of_proper (h : ∀ p ∈ ps, Proper p) : resolve ps = ps := by
  rw [resolve, filter_isName_of_proper h, foldl_step_of_proper h, List.nil_append]

/-- What a step of a path leaves is a place without dots, if it comes from one. -/
theorem proper_of_mem_foldl_step {parts : List Text} (hl : ∀ p ∈ l, Proper p)
    (hparts : ∀ p ∈ parts, isName p = true) : ∀ p ∈ parts.foldl step l, Proper p := by
  induction parts generalizing l with
  | nil => exact hl
  | cons part parts ih =>
    refine ih ?_ fun p hp => hparts p (List.mem_cons_of_mem _ hp)
    intro p hp
    -- a step drops the last name or adds one that is no way up
    rw [step] at hp
    split at hp
    · exact hl p (List.dropLast_subset _ hp)
    · next hparent =>
      rcases List.mem_append.mp hp with hp | hp
      · exact hl p hp
      · rw [List.mem_singleton.mp hp]
        exact proper_iff.mpr ⟨hparts part (List.mem_cons_self ..), hparent⟩

/-- A path that is resolved has proper parts only. -/
theorem proper_of_mem_resolve : ∀ p ∈ resolve parts, Proper p :=
  proper_of_mem_foldl_step nofun fun _ hp => (List.mem_filter.mp hp).2

/-! ## The one normal form -/

/-- A step leaves the location as it is. -/
theorem Shortens.resolve_eq (h : Shortens ps qs) : resolve ps = resolve qs := by
  cases h with
  | empty before after =>
    rw [resolve_append, resolve_append, List.filter_cons_of_neg (by decide)]
  | here before after =>
    rw [resolve_append, resolve_append, List.filter_cons_of_neg (by decide)]
  | back h before after =>
    -- down and up again
    rw [resolve_append, resolve_append, List.filter_cons_of_pos (isName_of_proper h),
      List.filter_cons_of_pos (by decide), List.foldl_cons, List.foldl_cons, step_of_proper h,
      step_parent, List.dropLast_concat]
  | top after =>
    rw [resolve, resolve, List.filter_cons_of_pos (by decide), List.foldl_cons, step_parent]
    rfl

/-- Shortening a path does not change where it leads. -/
theorem resolve_eq_of_steps (h : ReflTransGen Shortens ps qs) : resolve ps = resolve qs := by
  induction h with
  | refl => rfl
  | tail _ hstep ih => rw [ih, hstep.resolve_eq]

/-- A shorter path stays one when more parts follow. -/
theorem Shortens.append_right (h : Shortens ps qs) (rest : List Text) :
    Shortens (ps ++ rest) (qs ++ rest) := by
  cases h with
  | empty before after =>
    rw [List.append_assoc, List.append_assoc]
    exact .empty before (after ++ rest)
  | here before after =>
    rw [List.append_assoc, List.append_assoc]
    exact .here before (after ++ rest)
  | back h before after =>
    rw [List.append_assoc, List.append_assoc]
    exact .back h before (after ++ rest)
  | top => exact .top (qs ++ rest)

/-- Steps lead from names to their location. -/
theorem steps_resolve (parts : List Text) : ReflTransGen Shortens parts (resolve parts) := by
  -- the names are normalized from the first on, and one more comes behind what is normal already
  induction parts using List.reverseRecOn with
  | nil => exact .refl
  | append_singleton parts p ih =>
    have hbefore : ReflTransGen Shortens (parts ++ [p]) (resolve parts ++ [p]) :=
      ReflTransGen.lift (· ++ [p]) (fun _ _ h => Shortens.append_right h [p]) _ _ ih
    refine hbefore.trans ?_
    rw [resolve_append]
    by_cases hname : isName p = true
    · rw [List.filter_cons_of_pos hname, List.filter_nil, List.foldl_cons, List.foldl_nil, step]
      split
      · next hparent =>
        subst hparent
        rcases List.eq_nil_or_concat (resolve parts) with hnil | ⟨init, last, hlast⟩
        · rw [hnil]
          exact .single (.top [])
        · have hproper : Proper last :=
            @proper_of_mem_resolve parts last (by simp [hlast])
          rw [hlast, List.concat_eq_append, List.dropLast_concat, List.append_assoc]
          have hback := Shortens.back hproper init []
          rw [List.append_nil] at hback
          exact .single hback
      · exact .refl
    · rw [List.filter_cons_of_neg hname, List.filter_nil, List.foldl_nil]
      have hsteps : Shortens (resolve parts ++ [p]) (resolve parts ++ []) := by
        by_cases hnil : p = []
        · rw [hnil]
          exact .empty _ _
        · -- a name that is no name is empty or a dot
          have hdot : p = ['.'] := by
            rw [isName, Bool.and_eq_true, decide_eq_true_eq, decide_eq_true_eq, not_and,
              Decidable.not_not] at hname
            exact hname hnil
          rw [hdot]
          exact .here _ _
      rw [List.append_nil] at hsteps
      exact .single hsteps

/-- **There is one normal form, and it is where the names lead.** -/
theorem normalizes_iff : Normalizes parts l ↔ l = resolve parts := by
  constructor
  · rintro ⟨hsteps, hproper⟩
    rw [resolve_eq_of_steps hsteps, resolve_of_proper hproper]
  · rintro rfl
    exact ⟨steps_resolve parts, proper_of_mem_resolve⟩

/-! ## Paths from a folder -/

/-- A path is relative unless a slash comes first. -/
theorem rootOf_eq_nil_iff (t : Text) : rootOf t = [] ↔ t.head? ≠ some '/' := by
  cases t with
  | nil => decide
  | cons d t =>
    rw [rootOf, List.head?_cons]
    by_cases hd : d = '/'
    · subst hd
      rw [List.takeWhile_cons_of_pos (by decide), List.length_cons]
      refine iff_of_false ?_ (not_not_intro rfl)
      split
      · next heq => cases heq
      · exact List.cons_ne_nil _ _
      · exact List.cons_ne_nil _ _
    · rw [List.takeWhile_cons_of_neg (by simpa using hd)]
      exact iff_of_true rfl fun heq => hd (Option.some.inj heq)

/-- **A path leads where its names lead behind those of the folder**, or alone, if it is
absolute. -/
theorem locate_eq_resolve (hfolder : ∀ p ∈ folder, Proper p) (path : FilePath)
    (hparts : ∀ p ∈ path.parts, isName p = true) :
    locate folder path = resolve ((if path.root = [] then folder else []) ++ path.parts) := by
  rw [resolve_append, List.filter_eq_self.mpr hparts, locate]
  split
  · rw [resolve_of_proper hfolder]
  · rfl

end FilePath

end Clipbook
