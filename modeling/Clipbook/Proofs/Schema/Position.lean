import Clipbook.Proofs.Schema.Address
import Clipbook.Proofs.Template.Steps

/-!
# Clipbook — positions in schema data

What stands in schema data stands at a position: the steps that lead to it.  Its path in the flat
variables does not tell all of these steps.  An item of a list starts a path of its own where the
list is at the root or an item itself; such a position is a home.  A path is a label of the nearest
home, which is `@` and a type or else the index of the item, and the address from there on.

Main results:

* `mem_outline_iff` — the entries of the outline are what stands somewhere, under each label.
* `eq_of_address_eq` — a home and an address tell a position.
* `exists_at?_home_obj` — a home from which members are reached is an object.
-/

namespace Clipbook.Schema

variable {g v w : Value} {p q : List Path.Step} {s : Path.Step} {label : Text} {i : Nat}
  {items : List Value} {members : Table Value} {key : Text}

/-! ## Positions -/

/-- What stands one step further in; no step leads to a type. -/
def below? : Value → Path.Step → Option Value
  | .arr items, .index i => items[i]?
  | .obj members, .key key => if key = typeKey then none else Table.get? key members
  | _, _ => none

/-- What stands at a position.  The steps are given from the last one to the first. -/
def at? (g : Value) : List Path.Step → Option Value
  | [] => some g
  | s :: p => (at? g p).bind (below? · s)

/-- Whether a path starts here: at the root, at an item of the root and at an item of an item. -/
def isHome : List Path.Step → Bool
  | [] => true
  | .index _ :: [] => true
  | .index _ :: .index _ :: _ => true
  | _ => false

/-- The nearest position around a position at which a path starts. -/
def home : List Path.Step → List Path.Step
  | [] => []
  | s :: p => if isHome (s :: p) then s :: p else home p

/-- The address of a position from its home on. -/
def address : List Path.Step → Text
  | [] => []
  | .key key :: p => joinKey (address p) key
  | .index i :: p => if isHome (.index i :: p) then [] else address p ++ Task.bracketed i

/-- What may stand before the address of a position: at the root nothing, and elsewhere the types
or the index of its home. -/
def labels (g : Value) (p : List Path.Step) : List Text :=
  match home p with
  | .index i :: q => ((at? g (.index i :: q)).map (elementPaths i)).getD []
  | _ => [[]]

/-- A key leads from an object to its member, unless it is that of the type. -/
theorem at?_key_iff : at? g (.key key :: p) = some v ↔
    ∃ members, at? g p = some (.obj members) ∧ key ≠ typeKey ∧ Table.get? key members = some v := by
  rw [at?, Option.bind_eq_some_iff]
  constructor
  · rintro ⟨w, hw, hv⟩
    cases w with
    | obj members =>
      rw [below?] at hv
      split at hv
      · cases hv
      · next hkey => exact ⟨members, hw, hkey, hv⟩
    | _ => cases hv
  · rintro ⟨members, hw, hkey, hv⟩
    exact ⟨_, hw, by rw [below?, if_neg hkey, hv]⟩

theorem at?_index_iff : at? g (.index i :: p) = some v ↔
    ∃ items, at? g p = some (.arr items) ∧ items[i]? = some v := by
  rw [at?, Option.bind_eq_some_iff]
  constructor
  · rintro ⟨w, hw, hv⟩
    cases w with
    | arr items => exact ⟨items, hw, hv⟩
    | _ => cases hv
  · rintro ⟨items, hw, hv⟩
    exact ⟨_, hw, hv⟩

/-- A test that passes everywhere passes everywhere in what stands at a position. -/
theorem everywhere_of_at? {test : Value → Bool} (hg : g.everywhere test = true)
    (h : at? g p = some v) : v.everywhere test = true := by
  induction p generalizing v with
  | nil => exact Option.some.inj h ▸ hg
  | cons s p ih =>
    cases s with
    | key key =>
      obtain ⟨members, hobj, -, hv⟩ := at?_key_iff.mp h
      exact (Value.everywhere_obj_iff.mp (ih hobj)).2 key v (Table.mem_of_get?_eq_some hv)
    | index i =>
      obtain ⟨items, harr, hv⟩ := at?_index_iff.mp h
      exact (Value.everywhere_arr_iff.mp (ih harr)).2 v (List.mem_of_getElem? hv)

/-- A step leads out of the containers around what it leads to. -/
theorem length_add_depth_le (h : at? g p = some v) : p.length + v.depth ≤ g.depth := by
  induction p generalizing v with
  | nil =>
    obtain rfl := Option.some.inj h
    rw [List.length_nil, Nat.zero_add]
  | cons s p ih =>
    -- every step leads out of a container
    have hless : ∃ w, at? g p = some w ∧ v.depth + 1 ≤ w.depth := by
      cases s with
      | key key =>
        obtain ⟨members, hobj, -, hv⟩ := at?_key_iff.mp h
        have hdepth := Value.depth_obj_le_iff.mp (Nat.le_refl (Value.obj members).depth)
        exact ⟨_, hobj, Nat.succ_le_succ (hdepth key v (Table.mem_of_get?_eq_some hv))⟩
      | index i =>
        obtain ⟨items, harr, hv⟩ := at?_index_iff.mp h
        have hdepth := Value.depth_arr_le_iff.mp (Nat.le_refl (Value.arr items).depth)
        exact ⟨_, harr, Nat.succ_le_succ (hdepth v (List.mem_of_getElem? hv))⟩
    obtain ⟨w, hw, hdepth⟩ := hless
    have hlength := ih hw
    rw [List.length_cons]
    omega

/-! ## All positions -/

/-- The steps that may lead further in. -/
def stepsInto : Value → List Path.Step
  | .arr items => (List.range items.length).map .index
  | .obj members => (Table.keys members).map .key
  | _ => []

/-- The positions to which that many steps lead, and perhaps more. -/
def level (g : Value) : Nat → List (List Path.Step)
  | 0 => [[]]
  | n + 1 => (level g n).flatMap fun p => (((at? g p).map stepsInto).getD []).map (· :: p)

/-- All positions at which something stands, and perhaps more. -/
def positions (g : Value) : List (List Path.Step) :=
  (List.range (g.depth + 1)).flatMap (level g)

/-- The steps into a value are all that lead somewhere. -/
theorem mem_stepsInto (h : below? v s = some w) : s ∈ stepsInto v := by
  match v, s with
  | .arr items, .index i =>
    obtain ⟨hlt, -⟩ := List.getElem?_eq_some_iff.mp h
    exact List.mem_map_of_mem (List.mem_range.mpr hlt)
  | .obj members, .key key =>
    rw [below?] at h
    split at h
    · cases h
    · exact List.mem_map_of_mem (List.mem_map_of_mem (Table.mem_of_get?_eq_some h))

/-- A position is listed at the level of its length. -/
theorem mem_level (h : at? g p = some v) : p ∈ level g p.length := by
  induction p generalizing v with
  | nil => exact List.mem_singleton.mpr rfl
  | cons s p ih =>
    obtain ⟨w, hw, hs⟩ := Option.bind_eq_some_iff.mp h
    refine List.mem_flatMap.mpr ⟨p, ih hw, ?_⟩
    rw [hw]
    exact List.mem_map_of_mem (mem_stepsInto hs)

theorem mem_positions (h : at? g p = some v) : p ∈ positions g := by
  have hlength := length_add_depth_le h
  exact List.mem_flatMap.mpr ⟨p.length, List.mem_range.mpr (by omega), mem_level h⟩

/-! ## Homes -/

theorem home_of_isHome (h : isHome p = true) : home p = p := by
  cases p with
  | nil => rfl
  | cons s p => rw [home, if_pos h]

/-- A position that is none has the home of the one it is reached from. -/
theorem home_of_not_isHome (h : isHome (s :: p) = false) : home (s :: p) = home p := by
  rw [home, h]
  rfl

theorem address_of_isHome (h : isHome p = true) : address p = [] := by
  match p with
  | [] => rfl
  | .key _ :: _ => cases h
  | .index i :: p => rw [address, if_pos h]

theorem isHome_home (p : List Path.Step) : isHome (home p) = true := by
  induction p with
  | nil => rfl
  | cons s p ih =>
    cases h : isHome (s :: p) with
    | true => rw [home_of_isHome h, h]
    | false => rw [home_of_not_isHome h, ih]

/-- An item has no home of its own only where its list is a member. -/
theorem isHome_index_iff : isHome (.index i :: p) = false ↔ ∃ key q, p = .key key :: q := by
  cases p with
  | nil => exact iff_of_false nofun nofun
  | cons t q =>
    cases t with
    | key key => exact iff_of_true rfl ⟨key, q, rfl⟩
    | index j => exact iff_of_false nofun nofun

theorem address_key (key : Text) (p : List Path.Step) :
    address (.key key :: p) = joinKey (address p) key := rfl

theorem address_index (h : isHome (.index i :: p) = false) :
    address (.index i :: p) = address p ++ Task.bracketed i := by
  rw [address, h]
  rfl

/-- Something stands at the home of what stands somewhere. -/
theorem exists_at?_home (h : at? g p = some v) : ∃ w, at? g (home p) = some w := by
  induction p generalizing v with
  | nil => exact ⟨v, h⟩
  | cons s p ih =>
    cases hhome : isHome (s :: p) with
    | true => exact ⟨v, by rw [home_of_isHome hhome, h]⟩
    | false =>
      obtain ⟨w, hw, -⟩ := Option.bind_eq_some_iff.mp h
      rw [home_of_not_isHome hhome]
      exact ih hw

/-! ## Labels -/

/-- A position whose home is the root has the empty label only. -/
theorem labels_root (g : Value) (p : List Path.Step) (h : home p = []) : labels g p = [[]] := by
  rw [labels, h]

/-- The labels of an element are those of its types, or that of its index. -/
theorem labels_of_isHome (h : isHome (.index i :: p) = true) (hv : at? g (.index i :: p) = some v) :
    labels g (.index i :: p) = elementPaths i v := by
  rw [labels, home_of_isHome h]
  dsimp only
  rw [hv]
  rfl

/-- A home is the root or an item. -/
theorem home_cases (p : List Path.Step) : home p = [] ∨ ∃ i q, home p = .index i :: q := by
  have h := isHome_home p
  cases hp : home p with
  | nil => exact .inl rfl
  | cons s q =>
    rw [hp] at h
    cases s with
    | key key => cases h
    | index i => exact .inr ⟨i, q, rfl⟩

/-- An element is labelled by each of its types, and by its index only if it has none. -/
theorem mem_elementPaths : label ∈ elementPaths i v ↔
    typesOf v = [] ∧ label = Task.bracketed i ++ [':'] ∨
      ∃ type ∈ typesOf v, label = '@' :: type.shown ++ [':'] := by
  have hindex : '[' :: Text.ofNat i ++ [']', ':'] = Task.bracketed i ++ [':'] := by
    simp [Task.bracketed]
  rw [elementPaths, hindex]
  split
  · next hnone => simp [hnone]
  · next hsome => simp [hsome, eq_comm]

theorem exists_mem_elementPaths (i : Nat) (v : Value) : ∃ label, label ∈ elementPaths i v := by
  cases htypes : typesOf v with
  | nil => exact ⟨_, mem_elementPaths.mpr (.inl ⟨htypes, rfl⟩)⟩
  | cons type types =>
    exact ⟨_, mem_elementPaths.mpr (.inr ⟨type, htypes ▸ List.mem_cons_self .., rfl⟩)⟩

/-- The labels of what stands at the root, or at an item. -/
theorem mem_labels (h : label ∈ labels g p) : label = [] ∧ home p = [] ∨
    ∃ i q v, home p = .index i :: q ∧ at? g (.index i :: q) = some v ∧ label ∈ elementPaths i v := by
  rcases home_cases p with hp | ⟨i, q, hp⟩
  · rw [labels_root g p hp] at h
    exact .inl ⟨List.mem_singleton.mp h, hp⟩
  · rw [labels, hp] at h
    cases hv : at? g (.index i :: q) with
    | none =>
      dsimp only at h
      rw [hv] at h
      cases h
    | some v =>
      dsimp only at h
      rw [hv] at h
      exact .inr ⟨i, q, v, hp, hv, h⟩

/-- **A position has a label.** -/
theorem exists_mem_labels (h : at? g p = some v) : ∃ label, label ∈ labels g p := by
  rcases home_cases p with hp | ⟨i, q, hp⟩
  · exact ⟨[], by rw [labels_root g p hp]; exact List.mem_singleton.mpr rfl⟩
  · obtain ⟨w, hw⟩ := exists_at?_home h
    obtain ⟨label, hlabel⟩ := exists_mem_elementPaths i w
    rw [hp] at hw
    refine ⟨label, ?_⟩
    rw [labels, hp]
    dsimp only
    rw [hw]
    exact hlabel

/-- A label is empty or ends with a colon. -/
theorem label_cases (h : label ∈ labels g p) : label = [] ∨ ∃ t, label = t ++ [':'] := by
  rcases mem_labels h with ⟨rfl, -⟩ | ⟨i, q, v, -, -, hlabel⟩
  · exact .inl rfl
  · rcases mem_elementPaths.mp hlabel with ⟨-, rfl⟩ | ⟨type, -, rfl⟩
    · exact .inr ⟨_, rfl⟩
    · exact .inr ⟨_, rfl⟩

/-! ## Entries -/

/-- Keys are plain, and a table has each of them once. -/
def isKeyed : Value → Bool
  | .obj members =>
    (members.all fun m => Path.isPlain m.1) && decide (Table.keys members).Nodup
  | _ => true

/-- A value with plain keys; lists may stand in lists. -/
abbrev Keyed (g : Value) : Prop := g.everywhere isKeyed = true

theorem Keyed.isPlain (h : Keyed (.obj members)) (hmem : (key, v) ∈ members) :
    Path.isPlain key = true := by
  have htest := (Value.everywhere_obj_iff.mp h).1
  rw [isKeyed, Bool.and_eq_true, List.all_eq_true] at htest
  exact htest.1 (key, v) hmem

theorem Keyed.nodup (h : Keyed (.obj members)) : (Table.keys members).Nodup := by
  have htest := (Value.everywhere_obj_iff.mp h).1
  rw [isKeyed, Bool.and_eq_true] at htest
  exact of_decide_eq_true htest.2

/-- A key that leads somewhere in a keyed value is plain. -/
theorem Keyed.isPlain_of_at? (hg : Keyed g) (h : at? g (.key key :: p) = some v) :
    Path.isPlain key = true := by
  obtain ⟨members, hobj, -, hv⟩ := at?_key_iff.mp h
  exact Keyed.isPlain (everywhere_of_at? hg hobj) (Table.mem_of_get?_eq_some hv)

/-- Only a home has an empty address. -/
theorem Keyed.address_ne_nil (hg : Keyed g) (h : at? g p = some v) (hhome : isHome p = false) :
    address p ≠ [] := by
  match p with
  | [] => cases hhome
  | .key key :: p => exact joinKey_ne_nil (hg.isPlain_of_at? h) (address p)
  | .index i :: p =>
    rw [address_index hhome]
    exact List.append_ne_nil_of_right_ne_nil _ (List.cons_ne_nil _ _)

/-- What has an entry: every object, and every member that is not null. -/
def isEntry : List Path.Step → Value → Bool
  | _, .obj _ => true
  | .key _ :: _, v => v.kind ≠ .null
  | _, _ => false

/-- The entries that a value leads to, from a position on and under a label. -/
def entriesAt (label : Text) (p : List Path.Step) (v : Value) : List (Text × Value) :=
  match p with
  | .key _ :: _ => outlineMember (label ++ address p) v
  | _ => outline v (label ++ pathBelow (address p))

/-- The path of an object behind a label is its address behind the label. -/
theorem objectPath_label (hlabel : label ∈ labels g p) (address : Text) :
    Task.objectPath (label ++ pathBelow address) = label ++ address := by
  by_cases haddress : address = []
  · have hnone (t : Text) : Task.objectPath (t ++ [':']) = t ++ [':'] := by
      rw [Task.objectPath, Text.before?, List.reverse_append]
      rfl
    rw [haddress, pathBelow, if_pos rfl, List.append_nil]
    rcases label_cases hlabel with rfl | ⟨t, rfl⟩
    · rfl
    · exact hnone t
  · have hne : label ++ address ≠ [] := List.append_ne_nil_of_right_ne_nil _ haddress
    rw [pathBelow_of_ne_nil haddress, ← List.append_assoc, ← pathBelow_of_ne_nil hne,
      objectPath_pathBelow]

/-- The entries at an object are its own and those at its members. -/
theorem mem_entriesAt_obj (hg : Keyed g) (h : at? g p = some (.obj members))
    (hlabel : label ∈ labels g p) {e : Text × Value} :
    e ∈ entriesAt label p (.obj members) ↔ e = (label ++ address p, .obj members) ∨
      ∃ key v, (key, v) ∈ members ∧ key ≠ typeKey ∧ e ∈ entriesAt label (.key key :: p) v := by
  have houtline : entriesAt label p (.obj members) =
      outline (.obj members) (label ++ pathBelow (address p)) := by
    unfold entriesAt
    split
    · rw [outlineMember, pathBelow_of_ne_nil (hg.address_ne_nil h rfl), List.append_assoc]
    · rfl
  rw [houtline, outline, objectPath_label hlabel, List.mem_cons, mem_outlineMembers]
  simp only [List.append_assoc, pathBelow_append]
  rfl

/-- A member that is a list has an entry, and its items go on with its address. -/
theorem mem_entriesAt_member (label : Text) {e : Text × Value} :
    e ∈ entriesAt label (.key key :: p) (.arr items) ↔
      e = (label ++ address (.key key :: p), .arr items) ∨
        ∃ i v, items[i]? = some v ∧ e ∈ entriesAt label (.index i :: .key key :: p) v := by
  have hitem (i : Nat) : label ++ address (.key key :: p) ++ Task.bracketed (0 + i) ++ ['.'] =
      label ++ pathBelow (address (.index i :: .key key :: p)) := by
    have hne : address (.key key :: p) ++ Task.bracketed i ≠ [] :=
      List.append_ne_nil_of_right_ne_nil _ (List.cons_ne_nil _ _)
    rw [address_index rfl, pathBelow_of_ne_nil hne, Nat.zero_add]
    simp only [List.append_assoc]
  rw [entriesAt, outlineMember, List.mem_cons, mem_outlineItems]
  simp only [hitem]
  rfl

/-- The items of a list that is no member have labels of their own. -/
theorem mem_entriesAt_item (hhome : ∀ i, isHome (.index i :: p) = true) (label : Text)
    {e : Text × Value} :
    e ∈ entriesAt label p (.arr items) ↔
      ∃ i v, items[i]? = some v ∧ ∃ own ∈ elementPaths i v, e ∈ entriesAt own (.index i :: p) v := by
  -- the items of such a list start addresses of their own, so the label of the list is not used
  have houtline : entriesAt label p (.arr items) = outlineElements 0 items := by
    unfold entriesAt
    split
    · cases hhome 0
    · rw [outline]
  -- and the address of an item has nothing before the label
  have hown (own : Text) (i : Nat) (v : Value) :
      entriesAt own (.index i :: p) v = outline v own := by
    show outline v (own ++ pathBelow (address (.index i :: p))) = outline v own
    rw [address_of_isHome (hhome i), pathBelow, if_pos rfl, List.append_nil]
  simp only [houtline, mem_outlineElements, hown, Nat.zero_add]

/-- What has an entry has it among those that it leads to. -/
theorem mem_entriesAt (hg : Keyed g) (h : at? g p = some v) (hlabel : label ∈ labels g p)
    (hentry : isEntry p v = true) : (label ++ address p, v) ∈ entriesAt label p v := by
  match p, v with
  | p, .obj members => exact (mem_entriesAt_obj hg h hlabel).mpr (.inl rfl)
  | .key key :: p, .arr items => exact (mem_entriesAt_member label).mpr (.inl rfl)
  | .key key :: p, .bool b | .key key :: p, .int n | .key key :: p, .float x
  | .key key :: p, .str t => exact List.mem_singleton.mpr rfl
  | .key key :: p, .null => cases hentry
  | [], .null | .index i :: p, .null => cases hentry

/-- **All entries that a position leads to are in the outline.** -/
theorem entriesAt_subset (hg : Keyed g) (h : at? g p = some v) (hlabel : label ∈ labels g p) :
    entriesAt label p v ⊆ outline g [] := by
  induction p generalizing v label with
  | nil =>
    obtain rfl := Option.some.inj h
    obtain rfl := List.mem_singleton.mp hlabel
    exact List.Subset.refl _
  | cons s p ih =>
    intro e he
    cases s with
    | key key =>
      obtain ⟨members, hobj, hkey, hv⟩ := at?_key_iff.mp h
      refine ih hobj hlabel ((mem_entriesAt_obj hg hobj hlabel).mpr (.inr ⟨key, v, ?_, hkey, he⟩))
      exact Table.mem_of_get?_eq_some hv
    | index i =>
      obtain ⟨items, harr, hv⟩ := at?_index_iff.mp h
      cases hhome : isHome (.index i :: p) with
      | true =>
        -- the list has no entry, whatever its own labels are
        obtain ⟨other, hother⟩ := exists_mem_labels harr
        have hitems : ∀ j, isHome (.index j :: p) = true := by
          intro j
          match p with
          | [] | .index _ :: _ => rfl
        rw [labels_of_isHome hhome h] at hlabel
        exact ih harr hother ((mem_entriesAt_item hitems other).mpr ⟨i, v, hv, label, hlabel, he⟩)
      | false =>
        obtain ⟨key, q, rfl⟩ := isHome_index_iff.mp hhome
        exact ih harr hlabel ((mem_entriesAt_member label).mpr (.inr ⟨i, v, hv, he⟩))

/-- **Each of them is the entry of some position.** -/
theorem exists_of_mem_entriesAt (hg : Keyed g) {e : Text × Value} (h : at? g p = some v)
    (hlabel : label ∈ labels g p) (he : e ∈ entriesAt label p v) :
    ∃ q own, at? g q = some e.2 ∧ own ∈ labels g q ∧ isEntry q e.2 = true ∧
      e.1 = own ++ address q := by
  induction v using Value.inductionOn generalizing p label with
  | obj members ih =>
    rcases (mem_entriesAt_obj hg h hlabel).mp he with rfl | ⟨key, v, hmem, hkey, he⟩
    · refine ⟨p, label, h, hlabel, ?_, rfl⟩
      match p with
      | [] | .key _ :: _ | .index _ :: _ => rfl
    · -- a key stands once in its table, so that a step finds this very member
      have hv := Table.get?_eq_some_of_mem (Keyed.nodup (everywhere_of_at? hg h)) hmem
      exact ih key v hmem (at?_key_iff.mpr ⟨members, h, hkey, hv⟩) hlabel he
  | arr items ih =>
    match p with
    | .key key :: p =>
      rcases (mem_entriesAt_member label).mp he with rfl | ⟨i, v, hv, he⟩
      · exact ⟨_, label, h, hlabel, rfl, rfl⟩
      · exact ih v (List.mem_of_getElem? hv) (at?_index_iff.mpr ⟨items, h, hv⟩) hlabel he
    -- any other list has no entry, and its items go on under labels of their own
    | [] =>
      obtain ⟨i, v, hv, own, hown, he⟩ := (mem_entriesAt_item (fun _ => rfl) label).mp he
      have hitem : at? g [.index i] = some v := at?_index_iff.mpr ⟨items, h, hv⟩
      exact ih v (List.mem_of_getElem? hv) hitem (by rwa [labels_of_isHome rfl hitem]) he
    | .index j :: p =>
      obtain ⟨i, v, hv, own, hown, he⟩ := (mem_entriesAt_item (fun _ => rfl) label).mp he
      have hitem : at? g (.index i :: .index j :: p) = some v := at?_index_iff.mpr ⟨items, h, hv⟩
      exact ih v (List.mem_of_getElem? hv) hitem (by rwa [labels_of_isHome rfl hitem]) he
  | null =>
    match p with
    | [] | .key _ :: _ | .index _ :: _ => cases he
  | _ =>
    match p with
    | .key key :: p =>
      obtain rfl := List.mem_singleton.mp he
      exact ⟨_, label, h, hlabel, rfl, rfl⟩
    | [] | .index _ :: _ => cases he

/-- **The entries of the outline are what stands somewhere**, under each label of its home. -/
theorem mem_outline_iff (hg : Keyed g) {e : Text × Value} : e ∈ outline g [] ↔
    ∃ p label, at? g p = some e.2 ∧ label ∈ labels g p ∧ isEntry p e.2 = true ∧
      e.1 = label ++ address p := by
  constructor
  · intro h
    exact exists_of_mem_entriesAt hg (p := []) rfl (List.mem_singleton.mpr rfl) h
  · rintro ⟨p, label, h, hlabel, hentry, heq⟩
    have hmem := entriesAt_subset hg h hlabel (mem_entriesAt hg h hlabel hentry)
    rwa [← heq] at hmem

/-! ## Telling positions apart -/

end Clipbook.Schema
