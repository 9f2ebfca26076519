import Clipbook.Value

/-!
# Clipbook — nested values

A value is reasoned about by what it holds: what is true of a list or a table once it is true of
all items or members is true of every value.

Main results:

* `Value.inductionOn` — induction with a hypothesis for each item and each member.
* `Value.hasKey_arr_iff`, `Value.hasKey_obj_iff` — a value has the keys of its tables
  and those inside of them.
* `Value.everywhere_arr_iff`, `Value.everywhere_obj_iff` — a test passes everywhere in a value if
  it passes at the value and everywhere in what it holds.
* `Value.depth_arr_le_iff`, `Value.depth_obj_le_iff` — a value is nested once more than what it
  holds.
-/

namespace Clipbook.Value

variable {key : Text} {items : List Value} {members : List (Text × Value)}

/-! ## Induction -/

theorem sizeOf_lt_of_mem_items {v : Value} (h : v ∈ items) : sizeOf v < sizeOf (arr items) := by
  have := List.sizeOf_lt_of_mem h
  rw [arr.sizeOf_spec]
  omega

theorem sizeOf_lt_of_mem_members {k : Text} {v : Value} (h : (k, v) ∈ members) :
    sizeOf v < sizeOf (obj members) := by
  have := List.sizeOf_lt_of_mem h
  rw [Prod.mk.sizeOf_spec] at this
  rw [obj.sizeOf_spec]
  omega

/-- Induction on values, with the hypothesis for all items of a list and all members of an object.
-/
@[elab_as_elim]
theorem inductionOn {motive : Value → Prop} (v : Value) (null : motive null)
    (bool : ∀ b, motive (bool b)) (int : ∀ n, motive (int n)) (float : ∀ x, motive (float x))
    (str : ∀ t, motive (str t)) (arr : ∀ items, (∀ v ∈ items, motive v) → motive (arr items))
    (obj : ∀ members, (∀ k v, (k, v) ∈ members → motive v) → motive (obj members)) :
    motive v :=
  match v with
  | .null => null
  | .bool b => bool b
  | .int n => int n
  | .float x => float x
  | .str t => str t
  | .arr items => arr items fun v _ => inductionOn v null bool int float str arr obj
  | .obj members => obj members fun _ v _ => inductionOn v null bool int float str arr obj
termination_by sizeOf v
decreasing_by
  · exact sizeOf_lt_of_mem_items ‹_›
  · exact sizeOf_lt_of_mem_members ‹_›

/-! ## Containers -/

/-- Whether a value holds others. -/
def isNested (v : Value) : Bool :=
  v.kind = .arr || v.kind = .obj

theorem exists_of_isNested {v : Value} (h : v.isNested = true) :
    (∃ items, v = arr items) ∨ ∃ members, v = obj members := by
  cases v with
  | arr items => exact .inl ⟨items, rfl⟩
  | obj members => exact .inr ⟨members, rfl⟩
  | _ => cases h

/-! ## Keys -/

mutual

/-- Whether a table anywhere in a value has a key. -/
def hasKey (key : Text) : Value → Bool
  | arr items => itemsHaveKey key items
  | obj members => membersHaveKey key members
  | _ => false

def itemsHaveKey (key : Text) : List Value → Bool
  | [] => false
  | v :: vs => v.hasKey key || itemsHaveKey key vs

def membersHaveKey (key : Text) : List (Text × Value) → Bool
  | [] => false
  | (k, v) :: ms => k = key || v.hasKey key || membersHaveKey key ms

end

/-- A list has a key if one of its items does. -/
theorem hasKey_arr_iff : (arr items).hasKey key = true ↔ ∃ v ∈ items, v.hasKey key = true := by
  rw [hasKey]
  induction items with
  | nil => simp [itemsHaveKey]
  | cons v vs ih =>
    rw [itemsHaveKey, Bool.or_eq_true, ih]
    simp only [List.mem_cons, exists_eq_or_imp]

/-- An object has a key of its own or in one of its members. -/
theorem hasKey_obj_iff :
    (obj members).hasKey key = true ↔
      ∃ k v, (k, v) ∈ members ∧ (k = key ∨ v.hasKey key = true) := by
  rw [hasKey]
  induction members with
  | nil => simp [membersHaveKey]
  | cons m ms ih =>
    obtain ⟨k, v⟩ := m
    rw [membersHaveKey, Bool.or_eq_true, Bool.or_eq_true, decide_eq_true_eq, ih,
      Table.exists_mem_cons_iff]

/-- A key that a value does not have is missing in what it holds. -/
theorem hasKey_of_mem_items {v : Value} (h : (arr items).hasKey key = false) (hmem : v ∈ items) :
    v.hasKey key = false := by
  cases hv : v.hasKey key with
  | false => rfl
  | true => rw [← h, hasKey_arr_iff.mpr ⟨v, hmem, hv⟩]

/-- A key that an object does not have is in none of its members. -/
theorem hasKey_of_mem_members {k : Text} {v : Value} (h : (obj members).hasKey key = false)
    (hmem : (k, v) ∈ members) : v.hasKey key = false := by
  cases hv : v.hasKey key with
  | false => rfl
  | true => rw [← h, hasKey_obj_iff.mpr ⟨k, v, hmem, .inr hv⟩]

/-- Nothing is found under a key that is not there. -/
theorem get?_eq_none_of_hasKey (h : (obj members).hasKey key = false) :
    Table.get? key members = none := by
  cases hget : Table.get? key members with
  | none => rfl
  | some v =>
    rw [hasKey_obj_iff.mpr ⟨key, v, Table.mem_of_get?_eq_some hget, .inl rfl⟩] at h
    cases h

/-! ## Tests -/

section

variable {test : Value → Bool}

mutual

/-- Whether a test passes at a value and at every value inside of it. -/
def everywhere (test : Value → Bool) : Value → Bool
  | arr items => test (arr items) && itemsEverywhere test items
  | obj members => test (obj members) && membersEverywhere test members
  | v => test v

def itemsEverywhere (test : Value → Bool) : List Value → Bool
  | [] => true
  | v :: vs => v.everywhere test && itemsEverywhere test vs

def membersEverywhere (test : Value → Bool) : List (Text × Value) → Bool
  | [] => true
  | (_, v) :: ms => v.everywhere test && membersEverywhere test ms

end

/-- A test holds everywhere in a list of items if it does in each. -/
theorem itemsEverywhere_iff :
    itemsEverywhere test items = true ↔ ∀ v ∈ items, v.everywhere test = true := by
  induction items with
  | nil => simp [itemsEverywhere]
  | cons v vs ih => rw [itemsEverywhere, Bool.and_eq_true, ih, List.forall_mem_cons]

/-- A test holds everywhere in members if it does in each. -/
theorem membersEverywhere_iff :
    membersEverywhere test members = true ↔
      ∀ k v, (k, v) ∈ members → v.everywhere test = true := by
  induction members with
  | nil => simp [membersEverywhere]
  | cons m ms ih =>
    obtain ⟨k, v⟩ := m
    rw [membersEverywhere, Bool.and_eq_true, ih, Table.forall_mem_cons_iff]

/-- A test holds everywhere in a list if it holds of it and everywhere in its items. -/
theorem everywhere_arr_iff :
    (arr items).everywhere test = true ↔
      test (arr items) = true ∧ ∀ v ∈ items, v.everywhere test = true := by
  rw [everywhere, Bool.and_eq_true, itemsEverywhere_iff]

/-- A test holds everywhere in an object if it holds of it and everywhere in its members. -/
theorem everywhere_obj_iff :
    (obj members).everywhere test = true ↔
      test (obj members) = true ∧ ∀ k v, (k, v) ∈ members → v.everywhere test = true := by
  rw [everywhere, Bool.and_eq_true, membersEverywhere_iff]

end

/-! ## Nesting -/

section

variable {n : Nat}

/-- A list is one level deeper than its items. -/
theorem depth_arr_le_iff : (arr items).depth ≤ n + 1 ↔ ∀ v ∈ items, v.depth ≤ n := by
  rw [depth, Nat.add_le_add_iff_right]
  induction items with
  | nil => simp [itemsDepth]
  | cons v vs ih => rw [itemsDepth, Nat.max_le, ih, List.forall_mem_cons]

/-- An object is one level deeper than its members. -/
theorem depth_obj_le_iff :
    (obj members).depth ≤ n + 1 ↔ ∀ k v, (k, v) ∈ members → v.depth ≤ n := by
  rw [depth, Nat.add_le_add_iff_right]
  induction members with
  | nil => simp [membersDepth]
  | cons m ms ih =>
    obtain ⟨k, v⟩ := m
    rw [membersDepth, Nat.max_le, ih, Table.forall_mem_cons_iff]

theorem tooDeep_eq_false_iff {v : Value} : v.tooDeep = false ↔ v.depth ≤ maxNesting := by
  rw [tooDeep, decide_eq_false_iff_not, Nat.not_lt]

end

end Clipbook.Value
