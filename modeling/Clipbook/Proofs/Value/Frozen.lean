import Clipbook.Proofs.Value.Nested
import Clipbook.Value.Frozen

/-!
# Clipbook — what frozen values tell apart

Values with equal keys have the same kind.  Equal keys of texts are keys of one text, and equal
keys of lists and tables are equal part by part.  Two floats may have one key, as the two zeros
have, so it is a value without floats that can be read off its key.

Main results:

* `kind_eq_of_freeze` — the kind of a value can be read off its key.
* `freeze_str`, `freeze_arr`, `freeze_obj` — keys of equal kinds are compared by their contents.
* `freeze_eq_iff` — a value without floats has its key for itself.
-/

namespace Clipbook.Value

variable {v w : Value}

theorem kind_eq_of_freeze (h : (v.freeze == w.freeze) = true) : v.kind = w.kind := by
  -- every key begins with the kind of its value
  have hkind (v : Value) : ∃ rest, v.freeze = .row (.kind v.kind :: rest) := by
    cases v <;> exact ⟨_, rfl⟩
  obtain ⟨rest, hv⟩ := hkind v
  obtain ⟨rest', hw⟩ := hkind w
  have heqv : v.freeze.eqv w.freeze = true := h
  rw [hv, hw, Frozen.eqv, Frozen.eqvParts, Frozen.eqv, Bool.and_eq_true] at heqv
  exact of_decide_eq_true heqv.1

/-- Truth values have one key if they are equal. -/
theorem freeze_bool (a b : Bool) : ((bool a).freeze == (bool b).freeze) = decide (a = b) := by
  cases a <;> cases b <;> rfl

theorem freeze_int (m n : Int) : ((int m).freeze == (int n).freeze) = decide (m = n) := by
  show (decide (Kind.int = .int) && (decide (m * 1 = n * 1) && true)) = _
  rw [decide_eq_true rfl, Bool.true_and, Bool.and_true, Int.mul_one, Int.mul_one]

theorem freeze_str (s t : Text) : ((str s).freeze == (str t).freeze) = decide (s = t) := by
  show (decide (Kind.str = .str) && (decide (s = t) && true)) = _
  rw [decide_eq_true rfl, Bool.true_and, Bool.and_true]

/-- Lists have one key if their items do, in order. -/
theorem freeze_arr (vs ws : List Value) :
    ((arr vs).freeze == (arr ws).freeze) =
      Frozen.eqvParts (freezeItems vs) (freezeItems ws) := by
  show (decide (Kind.arr = .arr) && (Frozen.eqvParts _ _ && true)) = _
  rw [decide_eq_true rfl, Bool.true_and, Bool.and_true]

/-- Objects have one key if their members do, in order. -/
theorem freeze_obj (ms ns : List (Text × Value)) :
    ((obj ms).freeze == (obj ns).freeze) =
      Frozen.eqvParts (freezeMembers ms) (freezeMembers ns) := by
  show (decide (Kind.obj = .obj) && (Frozen.eqvParts _ _ && true)) = _
  rw [decide_eq_true rfl, Bool.true_and, Bool.and_true]

theorem freezeItems_cons {vs ws : List Value} :
    Frozen.eqvParts (freezeItems (v :: vs)) (freezeItems (w :: ws)) = true ↔
      (v.freeze == w.freeze) = true ∧
        Frozen.eqvParts (freezeItems vs) (freezeItems ws) = true := by
  rw [← Bool.and_eq_true]
  rfl

/-- Objects that are not empty, member by member. -/
theorem freezeMembers_cons {k l : Text} {ms ns : List (Text × Value)} :
    Frozen.eqvParts (freezeMembers ((k, v) :: ms)) (freezeMembers ((l, w) :: ns)) = true ↔
      k = l ∧ (v.freeze == w.freeze) = true ∧
        Frozen.eqvParts (freezeMembers ms) (freezeMembers ns) = true := by
  have hmember : Frozen.eqv (.row [.scalar (.str k), v.freeze]) (.row [.scalar (.str l), w.freeze])
      = (decide (k = l) && (v.freeze.eqv w.freeze && true)) := rfl
  rw [freezeMembers, freezeMembers, Frozen.eqvParts, hmember, Bool.and_true, Bool.and_eq_true,
    Bool.and_eq_true, decide_eq_true_eq, and_assoc]
  exact Iff.rfl

/-! ## Values without floats -/

def isFloatless (v : Value) : Bool :=
  v.everywhere fun
    | float _ => false
    | _ => true

/-- A list is without binary numbers if each item is. -/
theorem isFloatless_arr_iff {vs : List Value} :
    (arr vs).isFloatless = true ↔ ∀ v ∈ vs, v.isFloatless = true :=
  everywhere_arr_iff.trans (and_iff_right rfl)

/-- An object is without binary numbers if each member is. -/
theorem isFloatless_obj_iff {ms : List (Text × Value)} :
    (obj ms).isFloatless = true ↔ ∀ k v, (k, v) ∈ ms → v.isFloatless = true :=
  everywhere_obj_iff.trans (and_iff_right rfl)

/-- Keys tell lists apart where they tell their items apart. -/
theorem freezeItems_eq_iff {vs ws : List Value}
    (h : ∀ v ∈ vs, ∀ w : Value, (v.freeze == w.freeze) = true ↔ v = w) :
    Frozen.eqvParts (freezeItems vs) (freezeItems ws) = true ↔ vs = ws := by
  induction vs generalizing ws with
  | nil =>
    cases ws with
    | nil => exact iff_of_true rfl rfl
    | cons w ws => exact iff_of_false nofun nofun
  | cons v vs ih =>
    obtain ⟨hv, hvs⟩ := List.forall_mem_cons.mp h
    cases ws with
    | nil => exact iff_of_false nofun nofun
    | cons w ws => rw [freezeItems_cons, hv w, ih hvs, List.cons.injEq]

/-- Keys tell objects apart where they tell their members apart. -/
theorem freezeMembers_eq_iff {ms ns : List (Text × Value)}
    (h : ∀ k v, (k, v) ∈ ms → ∀ w : Value, (v.freeze == w.freeze) = true ↔ v = w) :
    Frozen.eqvParts (freezeMembers ms) (freezeMembers ns) = true ↔ ms = ns := by
  induction ms generalizing ns with
  | nil =>
    cases ns with
    | nil => exact iff_of_true rfl rfl
    | cons n ns => exact iff_of_false nofun nofun
  | cons m ms ih =>
    obtain ⟨k, v⟩ := m
    obtain ⟨hv, hms⟩ := Table.forall_mem_cons_iff.mp h
    cases ns with
    | nil => exact iff_of_false nofun nofun
    | cons n ns =>
      obtain ⟨l, w⟩ := n
      rw [freezeMembers_cons, hv w, ih hms, List.cons.injEq, Prod.mk.injEq, and_assoc]

/-- Values of different kinds are different, and so are their keys. -/
theorem freeze_eq_iff_of_kind
    (h : v.kind = w.kind → ((v.freeze == w.freeze) = true ↔ v = w)) :
    (v.freeze == w.freeze) = true ↔ v = w := by
  by_cases hkind : v.kind = w.kind
  · exact h hkind
  · exact iff_of_false (fun heq => hkind (kind_eq_of_freeze heq))
      fun heq => hkind (congrArg kind heq)

/-- **A value without floats has its key for itself**: a value with an equal key is the same in all
its parts, and in their order. -/
theorem freeze_eq_iff (hv : v.isFloatless = true) : (v.freeze == w.freeze) = true ↔ v = w := by
  induction v using inductionOn generalizing w with
  | null =>
    refine freeze_eq_iff_of_kind fun hkind => ?_
    cases w <;> cases hkind
    exact iff_of_true rfl rfl
  | bool b =>
    refine freeze_eq_iff_of_kind fun hkind => ?_
    cases w <;> cases hkind
    rw [freeze_bool, decide_eq_true_eq, bool.injEq]
  | int n =>
    refine freeze_eq_iff_of_kind fun hkind => ?_
    cases w <;> cases hkind
    rw [freeze_int, decide_eq_true_eq, int.injEq]
  -- binary numbers are left out: the two zeros have one key
  | float x => cases hv
  | str t =>
    refine freeze_eq_iff_of_kind fun hkind => ?_
    cases w <;> cases hkind
    rw [freeze_str, decide_eq_true_eq, str.injEq]
  | arr vs ih =>
    have hitems := isFloatless_arr_iff.mp hv
    refine freeze_eq_iff_of_kind fun hkind => ?_
    cases w <;> cases hkind
    rw [freeze_arr, freezeItems_eq_iff fun v hmem w => ih v hmem (hitems v hmem), arr.injEq]
  | obj ms ih =>
    have hmembers := isFloatless_obj_iff.mp hv
    refine freeze_eq_iff_of_kind fun hkind => ?_
    cases w <;> cases hkind
    rw [freeze_obj, freezeMembers_eq_iff fun k v hmem w => ih k v hmem (hmembers k v hmem),
      obj.injEq]

end Clipbook.Value
