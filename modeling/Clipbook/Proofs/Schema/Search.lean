import Clipbook.Proofs.Value.Nested
import Clipbook.Schema.Search

/-!
# Clipbook — what a look-up finds

A look-up goes through a graph along the keys of its property.  It is described here by what it
finds, one rule for each way it can go, without the order in which it goes there.

Main results:

* `search_arr_ne_nil_iff`, `searchInside_ne_nil_iff` — a list gives something where an item does,
  and a table without the key where something inside of it does.
* `search_ne_nil_iff` — a search gives a text where it finds one by the rules.
-/

namespace Clipbook.Schema

variable {v : Value} {key path : Text} {keys : List Text} {items : List Value}
  {members : List (Text × Value)}

/-- What a search finds on its way along the keys, in a value it reached by a path. -/
inductive Finds : Value → List Text → Text → Prop
  | text {t : Text} {keys : List Text} {path : Text} : t ≠ [] → Finds (.str t) keys path
  | item {items : List Value} {v : Value} {keys : List Text} {path : Text} : v ∈ items →
      Finds v (elementSearch keys path).1 (elementSearch keys path).2 → Finds (.arr items) keys path
  | name {members : List (Text × Value)} {path : Text} : nameOf members ≠ [] →
      Finds (.obj members) [] path
  | key {members : List (Text × Value)} {v : Value} {key : Text} {keys : List Text} {path : Text} :
      Table.get? key members = some v → Finds v keys (joinKey path key) →
      Finds (.obj members) (key :: keys) path
  | inside {members : List (Text × Value)} {k : Text} {v : Value} {key : Text} {keys : List Text}
      {path : Text} : Table.get? key members = none → (k, v) ∈ members → v.isNested = true →
      Finds v (key :: keys) (joinKey path k) → Finds (.obj members) (key :: keys) path

/-! ## Lists -/

theorem searchItems_eq_map (items : List Value) (keys : List Text) (path : Text) :
    searchItems items keys path = items.map fun v => search v keys path := by
  induction items with
  | nil => rfl
  | cons v vs ih => rw [searchItems, ih, List.map_cons]

/-- What is found in the items of a list is put together with commas. -/
theorem search_arr (items : List Value) (keys : List Text) (path : Text) :
    search (.arr items) keys path =
      Text.join [',', ' '] ((items.map fun v =>
        search v (elementSearch keys path).1 (elementSearch keys path).2).filter (· ≠ [])) := by
  rw [search, ← searchItems_eq_map]

/-- A list gives something where one of its items does. -/
theorem search_arr_ne_nil_iff :
    search (.arr items) keys path ≠ [] ↔
      ∃ v ∈ items, search v (elementSearch keys path).1 (elementSearch keys path).2 ≠ [] := by
  rw [search_arr, Ne, Text.join_eq_nil_iff _ fun p hp => of_decide_eq_true (List.mem_filter.mp hp).2,
    List.filter_eq_nil_iff]
  simp

/-! ## Tables -/

/-- A key is searched in the member that has it. -/
theorem searchKey_eq_map (members : List (Text × Value)) (key : Text) (keys : List Text)
    (path : Text) :
    searchKey members key keys path =
      (Table.get? key members).map fun v => search v keys path := by
  induction members with
  | nil => rfl
  | cons m ms ih =>
    obtain ⟨k, v⟩ := m
    rw [searchKey, Table.get?, Text.same_eq]
    by_cases hk : k = key
    · rw [if_pos hk, if_pos (decide_eq_true hk), Option.map_some]
    · rw [if_neg hk, if_neg (by simp [hk]), ih]

/-- A member that holds others gives what it gives, and after it the next one does. -/
theorem searchInside_cons_of_isNested {k : Text} (h : v.isNested = true) :
    searchInside ((k, v) :: members) keys path =
      if search v keys (joinKey path k) = [] then searchInside members keys path
      else search v keys (joinKey path k) := by
  rcases Value.exists_of_isNested h with ⟨items, rfl⟩ | ⟨ms, rfl⟩ <;>
    · rw [searchInside]
      dsimp only [Value.kind]
      split
      · next hnil => rw [if_pos hnil]
      · next hne => rw [if_neg hne]

theorem searchInside_cons_of_not_isNested {k : Text} (h : v.isNested = false) :
    searchInside ((k, v) :: members) keys path = searchInside members keys path := by
  cases v with
  | arr items => cases h
  | obj ms => cases h
  | _ => rfl

/-- A table gives something from inside where one of its members that hold others does. -/
theorem searchInside_ne_nil_iff :
    searchInside members keys path ≠ [] ↔
      ∃ k v, (k, v) ∈ members ∧ v.isNested = true ∧ search v keys (joinKey path k) ≠ [] := by
  induction members with
  | nil => simp [searchInside]
  | cons m ms ih =>
    obtain ⟨k, v⟩ := m
    rw [Table.exists_mem_cons_iff, ← ih]
    cases hv : v.isNested with
    | false => simp [searchInside_cons_of_not_isNested hv]
    | true =>
      rw [searchInside_cons_of_isNested hv]
      by_cases hnil : search v keys (joinKey path k) = []
      · simp [hnil]
      · simp [hnil]

/-- A key that an object has leads into its member; where it has none, its members are searched. -/
theorem search_obj_cons :
    search (.obj members) (key :: keys) path =
      match Table.get? key members with
      | some v => search v keys (joinKey path key)
      | none => searchInside members (key :: keys) path := by
  rw [search, searchKey_eq_map]
  cases Table.get? key members <;> rfl

/-! ## Values -/

/-- **A search gives a text where it finds one by the rules.** -/
theorem search_ne_nil_iff (v : Value) (keys : List Text) (path : Text) :
    search v keys path ≠ [] ↔ Finds v keys path := by
  induction v using Value.inductionOn generalizing keys path with
  | null | bool | int | float =>
    -- no rule is about these
    exact iff_of_false (fun h => h (by unfold search; rfl)) (fun h => by cases h)
  | str t =>
    rw [search]
    exact ⟨.text, fun h => by cases h; assumption⟩
  | arr items ih =>
    rw [search_arr_ne_nil_iff]
    constructor
    · rintro ⟨v, hmem, h⟩
      exact .item hmem ((ih v hmem _ _).mp h)
    · rintro (_ | ⟨hmem, h⟩)
      exact ⟨_, hmem, (ih _ hmem _ _).mpr h⟩
  | obj members ih =>
    cases keys with
    | nil =>
      rw [search]
      exact ⟨.name, fun h => by cases h; assumption⟩
    | cons key keys =>
      rw [search_obj_cons]
      -- a member with the key decides alone, even where it gives nothing
      cases hget : Table.get? key members with
      | some v =>
        have hmem := Table.mem_of_get?_eq_some hget
        constructor
        · intro h
          exact .key hget ((ih key v hmem _ _).mp h)
        · rintro (_ | _ | _ | ⟨hget', h⟩ | ⟨hget', -, -, -⟩)
          · obtain rfl := Option.some.inj (hget.symm.trans hget')
            exact (ih key v hmem _ _).mpr h
          · cases hget.symm.trans hget'
      | none =>
        rw [searchInside_ne_nil_iff]
        constructor
        · rintro ⟨k, v, hmem, hv, h⟩
          exact .inside hget hmem hv ((ih k v hmem _ _).mp h)
        · rintro (_ | _ | _ | ⟨hget', -⟩ | ⟨-, hmem, hv, h⟩)
          · cases hget.symm.trans hget'
          · exact ⟨_, _, hmem, hv, (ih _ _ hmem _ _).mpr h⟩

end Clipbook.Schema
