import Clipbook.Filter.Layout
import Clipbook.Proofs.Scan.Quoted
import Clipbook.Proofs.Scan.Split
import Clipbook.Proofs.Value.Written

/-!
# Clipbook — regrouping a list

The items of a list are shared out among keys, row by row, and written as JSON.  Nothing is lost on
the way: the rows put together are the list, and the keys, which are given in quotes with commas
between them, are read back whatever marks they have inside.

Main results:

* `inRows_rows` — a list in rows.
* `arguments_quotedKeys` — the keys that are given.
* `SharesOut` — what a list of tables has to be.
* `regrouped_quotedKeys` — what is written reads back as such tables.
* `regrouped_limits` — but not from a list that is nested too deeply or has too long a numeral.
-/

namespace Clipbook.Filter

variable {width left : Nat} {row vs items : List Value} {rs : List (List Value)} {keys : List Text}
  {groups : List (Table Value)} {v : Value}

/-! ## Rows -/

/-- What is true of the last one and of those before it is true of all. -/
theorem forall_mem_of_dropLast {α : Type} {l : List α} {P : α → Prop}
    (hinit : ∀ a ∈ l.dropLast, P a) (hlast : ∀ a, l.getLast? = some a → P a) : ∀ a ∈ l, P a := by
  rcases List.eq_nil_or_concat l with rfl | ⟨init, last, rfl⟩
  · nofun
  · rw [List.concat_eq_append] at hinit hlast ⊢
    rw [List.dropLast_concat] at hinit
    rw [List.forall_mem_append, List.forall_mem_singleton]
    exact ⟨hinit, hlast last List.getLast?_concat⟩

/-- A list in rows: each but the last has the width, and the last is neither empty nor wider. -/
structure InRows (width : Nat) (vs : List Value) (rs : List (List Value)) : Prop where
  flatten : rs.flatten = vs
  full : ∀ row ∈ rs.dropLast, row.length = width
  last : ∀ row, rs.getLast? = some row → row ≠ [] ∧ row.length ≤ width

theorem inRows_nil (width : Nat) : InRows width [] [] :=
  ⟨rfl, nofun, nofun⟩

theorem inRows_singleton (hne : row ≠ []) (hle : row.length ≤ width) : InRows width row [row] where
  flatten := List.flatten_singleton
  full := nofun
  last r hr := by
    rw [← Option.some.inj hr]
    exact ⟨hne, hle⟩

/-- A full row may stand before rows that are not empty. -/
theorem InRows.cons (h : InRows width vs rs) (hvs : vs ≠ []) (hrow : row.length = width) :
    InRows width (row ++ vs) (row :: rs) := by
  have hrs : rs ≠ [] := by
    rintro rfl
    exact hvs h.flatten.symm
  refine ⟨?_, fun r hr => ?_, fun r hr => ?_⟩
  · rw [List.flatten_cons, h.flatten]
  · rw [List.dropLast_cons_of_ne_nil hrs] at hr
    rcases List.mem_cons.mp hr with rfl | hr
    · exact hrow
    · exact h.full r hr
  · rw [List.getLast?_cons, List.getLast?_eq_some_getLast hrs] at hr
    exact h.last r (List.getLast?_eq_some_getLast hrs ▸ hr)

/-- **A list is put in rows item by item.**  On the way the items in the row and the places that are
left in it make up the width. -/
theorem inRows_rowsFrom (hwidth : 0 < width) (hleft : row.length + left = width) :
    InRows width (row.reverse ++ vs) (rowsFrom width left row vs) := by
  induction vs generalizing left row with
  | nil =>
    -- nothing comes after the row, which is the last one if there is anything in it
    rw [rowsFrom, List.append_nil]
    split
    · next hrow =>
      rw [hrow]
      exact inRows_nil width
    · next hrow =>
      refine inRows_singleton (fun h => hrow (List.reverse_eq_nil_iff.mp h)) ?_
      rw [List.length_reverse]
      omega
  | cons v vs ih =>
    cases left with
    | zero =>
      -- the row is full, and the item begins the next one
      have hnext : InRows width ([v].reverse ++ vs) (rowsFrom width (width - 1) [v] vs) :=
        ih (by rw [List.length_singleton]; omega)
      refine hnext.cons (List.cons_ne_nil v vs) ?_
      rwa [List.length_reverse]
    | succ left =>
      -- the item is put in the row, whose items are kept last first
      have hnext : InRows width ((v :: row).reverse ++ vs) (rowsFrom width left (v :: row) vs) :=
        ih (by rw [List.length_cons]; omega)
      rwa [List.reverse_cons, List.append_assoc] at hnext

/-- A list is cut into full rows, and a last one that may be shorter. -/
theorem inRows_rows (hwidth : 0 < width) (vs : List Value) : InRows width vs (rows width vs) :=
  have hleft : ([] : List Value).length + width = width := Nat.zero_add width
  inRows_rowsFrom hwidth hleft

theorem InRows.length_le (h : InRows width vs rs) : ∀ row ∈ rs, row.length ≤ width :=
  forall_mem_of_dropLast (fun row hrow => Nat.le_of_eq (h.full row hrow))
    fun row hrow => (h.last row hrow).2

/-- There are as many rows as are needed. -/
theorem InRows.length_eq (h : InRows width vs rs) (hwidth : 0 < width) :
    rs.length = (vs.length + width - 1) / width := by
  rcases List.eq_nil_or_concat rs with rfl | ⟨init, last, rfl⟩
  · rw [← h.flatten]
    exact (Nat.div_eq_of_lt (by simp; omega)).symm
  · rw [List.concat_eq_append] at h ⊢
    obtain ⟨hne, hle⟩ := h.last last List.getLast?_concat
    have hpos := List.length_pos_iff.mpr hne
    have hinit : init.flatten.length = init.length * width := by
      have hfull : ∀ row ∈ init, row.length = width :=
        fun row hrow => h.full row (by rwa [List.dropLast_concat])
      rw [List.length_flatten, List.map_congr_left hfull, List.map_const',
        List.sum_replicate_nat]
    have hlength : vs.length = init.length * width + last.length := by
      rw [← h.flatten, List.flatten_append, List.length_append, hinit, List.flatten_singleton]
    -- the full rows have a multiple of the width, and the last has one item up to a whole row
    have hnext := Nat.succ_mul init.length width
    rw [List.length_append, List.length_singleton, hlength]
    refine (Nat.div_eq_of_lt_le ?_ ?_).symm
    · rw [hnext]
      omega
    · rw [Nat.succ_mul, hnext]
      omega

/-! ## Keys -/

/-- Keys as they are given: each in quotes, with commas between them. -/
def quotedKeys (keys : List Text) : Text :=
  '(' :: Text.join [','] (keys.map fun k => '"' :: k ++ ['"']) ++ [')']

/-- **Keys in quotes are read back.** -/
theorem arguments_quotedKeys (h : ∀ k ∈ keys, Text.Enclosed '"' k) :
    (arguments (quotedKeys keys)).map Text.stripQuotes = keys := by
  have hsplit : Scan.splitTop ',' true (Text.join [','] (keys.map fun k => '"' :: k ++ ['"'])) =
      keys.map fun k => '"' :: k ++ ['"'] := by
    -- a comma inside of a key stands in quotes, and splits nothing
    refine Scan.splitTop_join (fun p hp => ?_) (fun p hp => ?_) fun p hp => ?_
    all_goals obtain ⟨k, hk, rfl⟩ := List.mem_map.mp hp
    · exact ⟨Scan.solid_delimited (Scan.plain_start true) (.inl rfl) (h k hk) (by decide),
        (Scan.neutral_quoted (h k hk)).splits true⟩
    · exact List.cons_ne_nil _ _
    · exact Text.trimmed_cons_append_singleton (by decide) k (by decide)
  rw [arguments, quotedKeys, Text.stripParens_parens, hsplit, List.map_map]
  calc keys.map (Text.stripQuotes ∘ fun k => '"' :: k ++ ['"'])
    _ = keys.map id := List.map_congr_left fun k _ => Text.stripQuotes_quotes k
    _ = keys := List.map_id _

/-! ## Groups -/

/-- Tables that share out items among keys: there are as many as are needed, each but the last has
all keys, the last has some of the first keys, and the values in order are the items. -/
structure SharesOut (keys : List Text) (items : List Value) (groups : List (Table Value)) :
    Prop where
  count : groups.length = (items.length + keys.length - 1) / keys.length
  full : ∀ g ∈ groups.dropLast, g.keys = keys
  last : ∀ g, groups.getLast? = some g → g.keys ≠ [] ∧ g.keys <+: keys
  values : groups.flatMap (·.map Prod.snd) = items

/-- Rows as long as there are keys share the items out. -/
theorem InRows.sharesOut (h : InRows keys.length items rs) (hne : keys ≠ []) :
    SharesOut keys items (rs.map keys.zip) where
  count := by
    rw [List.length_map, h.length_eq (List.length_pos_iff.mpr hne)]
  full g hg := by
    rw [← List.map_dropLast] at hg
    obtain ⟨row, hrow, rfl⟩ := List.mem_map.mp hg
    rw [Table.keys_zip, h.full row hrow, List.take_length]
  last g hg := by
    rw [List.getLast?_map] at hg
    obtain ⟨row, hrow, rfl⟩ := Option.map_eq_some_iff.mp hg
    have hpos := List.length_pos_iff.mpr (h.last row hrow).1
    -- the last row takes as many keys as it has items
    rw [Table.keys_zip]
    refine ⟨fun hnil => ?_, List.take_prefix _ _⟩
    rcases List.take_eq_nil_iff.mp hnil with hzero | hkeys
    · omega
    · exact hne hkeys
  values := by
    have hrow : ∀ row ∈ rs, (keys.zip row).map Prod.snd = row :=
      fun row hrow => List.map_snd_zip (h.length_le row hrow)
    rw [List.flatMap_map, List.flatMap_def, List.map_congr_left hrow, List.map_id', h.flatten]

/-- What is true of all items is true of all values in the tables. -/
theorem SharesOut.forall_values_iff (h : SharesOut keys items groups) {P : Value → Prop} :
    (∀ g ∈ groups, ∀ k w, (k, w) ∈ g → P w) ↔ ∀ w ∈ items, P w := by
  rw [← h.values]
  constructor
  · intro hall w hw
    obtain ⟨g, hg, hw⟩ := List.mem_flatMap.mp hw
    obtain ⟨⟨k, w⟩, hmem, rfl⟩ := List.mem_map.mp hw
    exact hall g hg k w hmem
  · intro hall g hg k w hmem
    exact hall w (List.mem_flatMap.mpr ⟨g, hg, List.mem_map_of_mem hmem⟩)

/-- The keys of a group are the first ones of all. -/
theorem SharesOut.keys_prefix (h : SharesOut keys items groups) :
    ∀ g ∈ groups, g.keys <+: keys :=
  forall_mem_of_dropLast (fun g hg => h.full g hg ▸ List.prefix_rfl) fun g hg => (h.last g hg).2

/-- Tables as one value. -/
def tableList (groups : List (Table Value)) : Value :=
  .arr (groups.map .obj)

theorem SharesOut.isExact (h : SharesOut keys items groups) (hnodup : keys.Nodup)
    (hitems : ∀ w ∈ items, w.isExact = true) : (tableList groups).isExact = true := by
  refine Value.isExact_arr_iff.mpr fun w hw => ?_
  obtain ⟨g, hg, rfl⟩ := List.mem_map.mp hw
  exact Value.isExact_obj_iff.mpr
    ⟨hnodup.sublist (h.keys_prefix g hg).sublist, h.forall_values_iff.mpr hitems g hg⟩

/-- The tables are nested twice more than the items. -/
theorem SharesOut.tooDeep_eq_false_iff (h : SharesOut keys items groups) :
    (tableList groups).tooDeep = false ↔ ∀ w ∈ items, w.depth + 2 ≤ Value.maxNesting := by
  -- one level is the list, and one are the tables in it
  have hdepth (n : Nat) : (tableList groups).depth ≤ n + 2 ↔ ∀ w ∈ items, w.depth ≤ n := by
    rw [tableList, Value.depth_arr_le_iff, ← h.forall_values_iff, List.forall_mem_map]
    exact forall₂_congr fun g _ => Value.depth_obj_le_iff
  rw [Value.tooDeep_eq_false_iff]
  exact (hdepth (Value.maxNesting - 2)).trans
    (forall₂_congr fun w _ => Nat.le_sub_iff_add_le (by decide))

/-! ## Regrouping -/

/-- With different keys a group has each item under its own. -/
theorem group_of_nodup (h : keys.Nodup) (row : List Value) :
    group keys row = .obj (keys.zip row) := by
  have hkeys : (Table.keys (keys.zip row)).Nodup := by
    rw [Table.keys_zip]
    exact h.sublist (List.take_sublist _ _)
  rw [group, Table.ofList_of_nodup_keys hkeys]

/-- Tables that share out the items are written, if that can be done.  The list may be given as it
is or as JSON. -/
theorem exists_regrouped_eq {param : Text} (hparam : param ≠ [])
    (hkeys : (arguments param).map Text.stripQuotes = keys) (hne : keys ≠ []) (hnodup : keys.Nodup)
    (hparsed : v.parsed = .ok (.arr items)) :
    ∃ groups, SharesOut keys items groups ∧
      regrouped param v = liftM ((tableList groups).json?.map Value.str) := by
  have hrows := inRows_rows (List.length_pos_iff.mpr hne) items
  refine ⟨(rows keys.length items).map keys.zip, hrows.sharesOut hne, ?_⟩
  have htables : (rows keys.length items).map (group keys) =
      ((rows keys.length items).map keys.zip).map .obj := by
    rw [List.map_map]
    exact List.map_congr_left fun row _ => group_of_nodup hnodup row
  rw [regrouped, if_neg hparam, hkeys, if_neg hne, hparsed, Outcome.liftM_ok, pure_bind, tableList,
    ← htables]

/-- A group with an item that is nested too deeply cannot be written. -/
theorem regrouped_of_tooDeep {param : Text} {w : Value} (hparam : param ≠ [])
    (hkeys : (arguments param).map Text.stripQuotes = keys) (hne : keys ≠ []) (hnodup : keys.Nodup)
    (hparsed : v.parsed = .ok (.arr items)) (hw : w ∈ items)
    (hdepth : Value.maxNesting < w.depth + 2) : regrouped param v = Outcome.fail .tooDeep := by
  obtain ⟨groups, hgroups, heq⟩ := exists_regrouped_eq hparam hkeys hne hnodup hparsed
  have hdeep : (tableList groups).tooDeep = true := by
    rw [← Bool.not_eq_false, hgroups.tooDeep_eq_false_iff]
    exact fun h => Nat.not_le.mpr hdepth (h w hw)
  rw [heq, Value.json?, hdeep]
  rfl

/-- **Regrouping loses, repeats and reorders nothing.**  Only where an item is nested so deeply that
the tables around it are nested too deeply, nothing is written. -/
theorem regrouped_quotedKeys (hne : keys ≠ []) (hnodup : keys.Nodup)
    (hplain : ∀ k ∈ keys, '"' ∉ k ∧ '\\' ∉ k) (hparsed : v.parsed = .ok (.arr items))
    (hitems : ∀ w ∈ items, w.isExact = true) :
    ((∀ w ∈ items, w.depth + 2 ≤ Value.maxNesting) →
      ∃ json groups, regrouped (quotedKeys keys) v = pure (.str json) ∧
        Value.ofJson json = .ok (tableList groups) ∧ SharesOut keys items groups) ∧
    ((∃ w ∈ items, Value.maxNesting < w.depth + 2) →
      regrouped (quotedKeys keys) v = Outcome.fail .tooDeep) := by
  have hparam : quotedKeys keys ≠ [] := List.cons_ne_nil _ _
  have hkeys := arguments_quotedKeys fun k hk =>
    Text.enclosed_of_not_mem (hplain k hk).1 (hplain k hk).2
  constructor
  · intro hdepth
    -- two levels are added: the object of the group and the list of groups
    obtain ⟨groups, hgroups, heq⟩ := exists_regrouped_eq hparam hkeys hne hnodup hparsed
    have hdeep := hgroups.tooDeep_eq_false_iff.mpr hdepth
    refine ⟨(tableList groups).json, groups, ?_,
      Value.ofJson_json (hgroups.isExact hnodup hitems) hdeep, hgroups⟩
    rw [heq, Value.json?, hdeep]
    rfl
  · rintro ⟨w, hw, hdepth⟩
    exact regrouped_of_tooDeep hparam hkeys hne hnodup hparsed hw hdepth

/-- Five items among four keys with marks in them: the last table has the first key only. -/
theorem regrouped_quotedKeys_marks :
    let keys := ["a,b".toList, "c: (".toList, "[/\x7d".toList, []]
    let items := [.int (-1), .arr [.str "]\"".toList], .obj [(['k'], .null)], .bool true, .arr []]
    (∀ w ∈ items, w.isExact = true) ∧ (∀ w ∈ items, w.depth + 2 ≤ Value.maxNesting) ∧
      ∃ json groups, regrouped (quotedKeys keys) (.arr items) = pure (.str json) ∧
        Value.ofJson json = .ok (tableList groups) ∧ SharesOut keys items groups := by
  intro keys items
  have hitems : ∀ w ∈ items, w.isExact = true := by decide +kernel
  have hdepth : ∀ w ∈ items, w.depth + 2 ≤ Value.maxNesting := by decide +kernel
  exact ⟨hitems, hdepth,
    (regrouped_quotedKeys (by decide) (by decide) (by decide) rfl hitems).1 hdepth⟩

/-! ## Limits -/

/-- A list in as many lists. -/
def boxed : Nat → Value
  | 0 => .arr []
  | n + 1 => .arr [boxed n]

theorem isExact_boxed (n : Nat) : (boxed n).isExact = true := by
  induction n with
  | zero => exact Value.isExact_arr_iff.mpr nofun
  | succ n ih => exact Value.isExact_arr_iff.mpr (List.forall_mem_singleton.mpr ih)

theorem depth_boxed (n : Nat) : (boxed n).depth = n + 1 := by
  induction n with
  | zero => rfl
  | succ n ih => rw [boxed, Value.depth, Value.itemsDepth, Value.itemsDepth, ih, Nat.max_zero]

/-- What cannot be parsed is not regrouped. -/
theorem regrouped_of_error {param : Text} {f : Fault} (hparam : param ≠ [])
    (hkeys : (arguments param).map Text.stripQuotes ≠ []) (h : v.parsed = .error f) :
    regrouped param v = Outcome.fail f := by
  rw [regrouped, if_neg hparam, if_neg hkeys, h]
  rfl

/-- **Where regrouping ends.**  Nothing is written for a list that is nested too deeply, nor for the
text of one with an integer of too many digits. -/
theorem regrouped_limits :
    ((boxed 1200).isExact = true ∧
      regrouped (quotedKeys [['a']]) (.arr [boxed 1200]) = Outcome.fail .tooDeep) ∧
    regrouped (quotedKeys [['a']]) (.str (Value.arr [.int (Nat.pow 10 Number.maxDigits)]).json) =
      Outcome.fail (.longNumeral (Number.maxDigits + 1)) := by
  have hparam : quotedKeys [['a']] ≠ [] := List.cons_ne_nil _ _
  have hkeys : (arguments (quotedKeys [['a']])).map Text.stripQuotes = [['a']] :=
    arguments_quotedKeys (by decide)
  refine ⟨⟨isExact_boxed 1200, ?_⟩, ?_⟩
  -- the value can be written, but not under the two levels of a group
  · have hdeep : Value.maxNesting < (boxed 1200).depth + 2 := by
      rw [depth_boxed]
      decide
    exact regrouped_of_tooDeep hparam hkeys (by decide) (by decide) rfl (List.mem_singleton_self _)
      hdeep
  · -- the number is not written out
    generalize hn : Nat.pow 10 Number.maxDigits = n
    have hlength : (Text.ofNat n).length = Number.maxDigits + 1 :=
      hn ▸ Text.length_ofNat_pow (by decide)
    have hread : Value.ofJson (Value.arr [.int n]).json =
        .error (.longNumeral (Text.ofNat n).length) :=
      Value.ofJson_json_of_long (hlength ▸ Nat.lt_succ_self _)
    refine regrouped_of_error hparam (hkeys ▸ List.cons_ne_nil _ _) ?_
    rw [Value.parsed, hread, hlength]

end Clipbook.Filter
