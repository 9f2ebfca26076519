import Clipbook.Table
import Mathlib.Data.List.Infix

/-!
# Clipbook — what writing leaves in a table

One write is described first, and many writes by induction from it.

Main results:

* `keys_put`, `keys_extend` — keys keep their places, and new ones come after them.
* `getElem?_extend` — an entry whose key is not written stays where it is.
* `mem_extend` — an entry was there before or is one of the writes.
* `exists_get?_extend` — every key that is written is there in the end.
* `get?_extend` — the last write of a key counts, and without one what was there before.
* `mem_ofList_iff` — the entries of a table of writes are the last writes of their keys.
* `extend_map` — a table that is a function stays one.
-/

namespace Clipbook.Table

variable {α : Type _} {key k : Text} {value v : α} {t more : Table α} {i : Nat}

/-! ## Look-ups -/

theorem get?_cons (key k : Text) (v : α) (t : Table α) :
    get? key ((k, v) :: t) = if k = key then some v else get? key t := by
  rw [get?, Text.same_eq]
  simp only [decide_eq_true_eq]

theorem put_cons (key k : Text) (value v : α) (t : Table α) :
    put key value ((k, v) :: t) =
      if k = key then (k, value) :: t else (k, v) :: put key value t := by
  rw [put, Text.same_eq]
  simp only [decide_eq_true_eq]

/-- In a table that has each key once, an entry is what its key leads to. -/
theorem get?_eq_some_of_mem (h : t.keys.Nodup) (hmem : (k, v) ∈ t) : get? k t = some v := by
  induction t with
  | nil => exact absurd hmem List.not_mem_nil
  | cons e t ih =>
    obtain ⟨k', v'⟩ := e
    rw [keys, List.map_cons, List.nodup_cons] at h
    rw [get?_cons]
    rcases List.mem_cons.mp hmem with heq | hmem
    · obtain ⟨rfl, rfl⟩ := Prod.mk.inj heq
      rw [if_pos rfl]
    · have hkey : k ∈ t.map Prod.fst := List.mem_map_of_mem hmem
      have hne : k' ≠ k := fun heq => h.1 (heq ▸ hkey)
      rw [if_neg hne, ih h.2 hmem]

/-- With different keys, every entry is found under its key. -/
theorem mem_iff_get?_of_nodup (h : t.keys.Nodup) : (k, v) ∈ t ↔ get? k t = some v :=
  ⟨get?_eq_some_of_mem h, mem_of_get?_eq_some⟩

/-! ## One write -/

/-- The keys of a table stay where they are when one is put. -/
theorem keys_put (key : Text) (value : α) (t : Table α) : t.keys <+: (put key value t).keys := by
  induction t with
  | nil => exact List.nil_prefix
  | cons e t ih =>
    obtain ⟨k, v⟩ := e
    rw [put_cons]
    split
    · exact List.prefix_rfl
    · exact (List.prefix_cons_inj _).mpr ih

/-- An entry under another key stays where it is. -/
theorem getElem?_put (h : t[i]? = some (k, v)) (hne : k ≠ key) :
    (put key value t)[i]? = some (k, v) := by
  induction t generalizing i with
  | nil => cases h
  | cons e t ih =>
    obtain ⟨k', v'⟩ := e
    rw [put_cons]
    cases i with
    | zero =>
      obtain ⟨rfl, rfl⟩ := Prod.mk.inj (Option.some.inj h)
      rw [if_neg hne]
      rfl
    | succ i =>
      split
      · exact h
      · exact ih h

/-- An entry of a table in which one was put is that one or an old one. -/
theorem mem_put (h : (k, v) ∈ put key value t) : k = key ∧ v = value ∨ (k, v) ∈ t := by
  induction t with
  | nil => exact .inl (Prod.mk.inj (List.mem_singleton.mp h))
  | cons e t ih =>
    obtain ⟨k', v'⟩ := e
    rw [put_cons] at h
    split at h
    · next hkey =>
      rcases List.mem_cons.mp h with heq | hmem
      · obtain ⟨rfl, rfl⟩ := Prod.mk.inj heq
        exact .inl ⟨hkey, rfl⟩
      · exact .inr (List.mem_cons_of_mem _ hmem)
    · rcases List.mem_cons.mp h with heq | hmem
      · exact .inr (heq ▸ List.mem_cons_self ..)
      · exact (ih hmem).imp id (List.mem_cons_of_mem _)

/-- What was put is found under its key, and all else as before. -/
theorem get?_put (key k : Text) (value : α) (t : Table α) :
    get? k (put key value t) = if key = k then some value else get? k t := by
  induction t with
  | nil =>
    rw [put, get?_cons]
  | cons e t ih =>
    obtain ⟨k', v'⟩ := e
    rw [put_cons]
    by_cases hkey : k' = key
    · subst hkey
      rw [if_pos rfl, get?_cons, get?_cons]
      split <;> rfl
    · rw [if_neg hkey, get?_cons, get?_cons, ih]
      by_cases hk : k' = k
      · rw [if_pos hk, if_pos hk, if_neg fun h => hkey (hk.trans h.symm)]
      · rw [if_neg hk, if_neg hk]

theorem keys_cons (k : Text) (v : α) (t : Table α) : keys ((k, v) :: t) = k :: t.keys := rfl

theorem mem_keys_put : k ∈ (put key value t).keys ↔ k = key ∨ k ∈ t.keys := by
  induction t with
  | nil => exact List.mem_singleton.trans (or_iff_left List.not_mem_nil).symm
  | cons e t ih =>
    obtain ⟨k', v'⟩ := e
    rw [put_cons, keys_cons, List.mem_cons]
    split
    · next hkey => rw [keys_cons, List.mem_cons, hkey, ← or_assoc, or_self]
    · rw [keys_cons, List.mem_cons, ih, or_left_comm]

theorem nodup_keys_put (key : Text) (value : α) (h : t.keys.Nodup) :
    (put key value t).keys.Nodup := by
  induction t with
  | nil => exact List.nodup_cons.mpr ⟨List.not_mem_nil, List.nodup_nil⟩
  | cons e t ih =>
    obtain ⟨k', v'⟩ := e
    obtain ⟨hfirst, hrest⟩ := List.nodup_cons.mp h
    rw [put_cons]
    split
    · exact h
    · next hne =>
      refine List.nodup_cons.mpr ⟨fun hmem => ?_, ih hrest⟩
      rcases mem_keys_put.mp hmem with heq | hmem
      · exact hne heq
      · exact hfirst hmem

/-- The first of two tables hides what the second one has under the same key. -/
theorem get?_append (k : Text) (s t : Table α) : get? k (s ++ t) = (get? k s).or (get? k t) := by
  induction s with
  | nil => rfl
  | cons e s ih =>
    obtain ⟨k', v⟩ := e
    rw [List.cons_append, get?_cons, get?_cons, ih]
    split <;> rfl

/-- A look-up finds the first entry of its key. -/
theorem get?_eq_find? (k : Text) (t : Table α) :
    get? k t = (t.find? fun e => e.1 = k).map Prod.snd := by
  induction t with
  | nil => rfl
  | cons e t ih =>
    obtain ⟨k', v⟩ := e
    rw [get?_cons, List.find?_cons, ih]
    by_cases hk : k' = k
    · rw [if_pos hk, decide_eq_true hk]
      rfl
    · rw [if_neg hk, decide_eq_false hk]

theorem get?_eq_some_iff :
    get? k t = some v ↔ ∃ before after, t = before ++ (k, v) :: after ∧ ∀ e ∈ before, e.1 ≠ k := by
  rw [get?_eq_find?, Option.map_eq_some_iff]
  constructor
  · rintro ⟨⟨k', v'⟩, hfind, rfl⟩
    obtain ⟨hk, before, after, rfl, hbefore⟩ := List.find?_eq_some_iff_append.mp hfind
    obtain rfl : k' = k := of_decide_eq_true hk
    exact ⟨before, after, rfl, fun e he => by simpa using hbefore e he⟩
  · rintro ⟨before, after, rfl, hbefore⟩
    refine ⟨(k, v), List.find?_eq_some_iff_append.mpr ⟨by simp, before, after, rfl, ?_⟩, rfl⟩
    intro e he
    simpa using hbefore e he

/-- A table that is a function on a row of keys is looked up by the function. -/
theorem get?_map (f : Text → α) (k : Text) (ks : List Text) :
    get? k (ks.map fun k => (k, f k)) = if k ∈ ks then some (f k) else none := by
  induction ks with
  | nil => rfl
  | cons k' ks ih =>
    rw [List.map_cons, get?_cons, ih]
    by_cases hk : k' = k
    · subst hk
      simp
    · simp [hk, Ne.symm hk]

/-- Nothing is found under a key that is not there. -/
theorem get?_eq_none_of_not_mem_keys (h : k ∉ t.keys) : get? k t = none := by
  cases hget : get? k t with
  | none => rfl
  | some v => exact absurd (List.mem_map_of_mem (mem_of_get?_eq_some hget)) h

/-- A key that a table does not have is added behind the others. -/
theorem put_of_not_mem_keys (h : key ∉ t.keys) : put key value t = t ++ [(key, value)] := by
  induction t with
  | nil => rfl
  | cons e t ih =>
    obtain ⟨k', v'⟩ := e
    rw [keys_cons, List.mem_cons, not_or] at h
    rw [put_cons, if_neg (Ne.symm h.1), ih h.2, List.cons_append]

theorem put_of_nodup_keys (h : (keys (t ++ (key, value) :: more)).Nodup) :
    put key value t = t ++ [(key, value)] := by
  rw [keys, List.map_append, List.nodup_append] at h
  exact put_of_not_mem_keys fun hmem => h.2.2 key hmem key (List.mem_cons_self ..) rfl

/-- Writing a key of a table that is a function on a row of keys changes the function there. -/
theorem put_map {ks : List Text} (f : Text → α) (hnodup : ks.Nodup) (hmem : key ∈ ks) :
    put key value (ks.map fun k => (k, f k)) =
      ks.map fun k => (k, if key = k then value else f k) := by
  induction ks with
  | nil => cases hmem
  | cons k ks ih =>
    obtain ⟨hfirst, hrest⟩ := List.nodup_cons.mp hnodup
    rw [List.map_cons, List.map_cons, put_cons]
    by_cases hkey : k = key
    · subst hkey
      -- the key comes once, so behind it nothing is replaced
      have hothers : ∀ k' ∈ ks, (k', f k') = (k', if k = k' then value else f k') :=
        fun k' hmem' => by rw [if_neg fun heq : k = k' => hfirst (heq ▸ hmem')]
      rw [if_pos rfl, if_pos rfl, List.map_congr_left hothers]
    · rw [if_neg hkey, if_neg fun heq => hkey heq.symm,
        ih hrest ((List.mem_cons.mp hmem).resolve_left fun heq => hkey heq.symm)]

/-- Values that are put beside keys take the first ones. -/
theorem keys_zip (ks : List Text) (vs : List α) : keys (ks.zip vs) = ks.take vs.length := by
  induction ks generalizing vs with
  | nil => exact List.take_nil.symm
  | cons k ks ih =>
    cases vs with
    | nil => rfl
    | cons v vs =>
      rw [List.zip_cons_cons, keys_cons, ih vs]
      rfl

/-! ## Many writes -/

theorem extend_cons (t : Table α) (e : Text × α) (more : Table α) :
    extend t (e :: more) = extend (put e.1 e.2 t) more := by
  rw [extend_eq, extend_eq, List.foldl_cons]

/-- A table is extended by one table after the other. -/
theorem extend_append (t more last : Table α) :
    extend t (more ++ last) = extend (extend t more) last := by
  rw [extend_eq, extend_eq, extend_eq, List.foldl_append]

/-- The keys of a table stay where they are when it is extended. -/
theorem keys_extend (t more : Table α) : t.keys <+: (extend t more).keys := by
  induction more generalizing t with
  | nil => rw [extend_eq]; exact List.prefix_rfl
  | cons e more ih =>
    rw [extend_cons]
    exact (keys_put e.1 e.2 t).trans (ih _)

/-- Keys stay different when a table is extended. -/
theorem nodup_keys_extend (more : Table α) (h : t.keys.Nodup) : (extend t more).keys.Nodup := by
  induction more generalizing t with
  | nil => rw [extend_eq]; exact h
  | cons e more ih =>
    rw [extend_cons]
    exact ih (nodup_keys_put e.1 e.2 h)

/-- An entry stays where it is when a table is extended under other keys. -/
theorem getElem?_extend (h : t[i]? = some (k, v)) (hne : ∀ e ∈ more, k ≠ e.1) :
    (extend t more)[i]? = some (k, v) := by
  induction more generalizing t with
  | nil => rw [extend_eq]; exact h
  | cons e more ih =>
    rw [extend_cons]
    have hput : (put e.1 e.2 t)[i]? = some (k, v) := getElem?_put h (hne e (List.mem_cons_self ..))
    exact ih hput fun e' hmem => hne e' (List.mem_cons_of_mem _ hmem)

/-- Keys that are all new and different are added in their order. -/
theorem extend_of_nodup_keys (h : (keys (t ++ more)).Nodup) : extend t more = t ++ more := by
  induction more generalizing t with
  | nil => rw [extend_eq, List.append_nil]; rfl
  | cons e more ih =>
    have hput : put e.1 e.2 t = t ++ [e] := put_of_nodup_keys h
    rw [List.append_cons] at h
    rw [extend_cons, hput, ih h, List.append_assoc, List.singleton_append]

/-- A table is what is written of it. -/
theorem ofList_of_nodup_keys (h : t.keys.Nodup) : ofList t = t := by
  have hempty : keys ([] ++ t) = t.keys := rfl
  rw [ofList, ← extend_eq, extend_of_nodup_keys (hempty ▸ h), List.nil_append]

/-- An entry of a table that was extended is an old one or one it was extended by. -/
theorem mem_extend (h : (k, v) ∈ extend t more) : (k, v) ∈ t ∨ (k, v) ∈ more := by
  induction more generalizing t with
  | nil => rw [extend_eq] at h; exact .inl h
  | cons e more ih =>
    rw [extend_cons] at h
    rcases ih h with hput | hmem
    · rcases mem_put hput with ⟨rfl, rfl⟩ | hmem
      · exact .inr (List.mem_cons_self ..)
      · exact .inl hmem
    · exact .inr (List.mem_cons_of_mem _ hmem)

/-- Something is found under a key that is there. -/
theorem isSome_get?_of_mem_keys (h : k ∈ t.keys) : (get? k t).isSome = true := by
  induction t with
  | nil => cases h
  | cons e t ih =>
    obtain ⟨k', v⟩ := e
    rw [keys_cons, List.mem_cons] at h
    rw [get?_cons]
    split
    · rfl
    · next hne => exact ih (h.resolve_left fun heq => hne heq.symm)

/-- A key is still found when a table is extended. -/
theorem isSome_get?_extend (h : (get? k t).isSome = true) :
    (get? k (extend t more)).isSome = true := by
  induction more generalizing t with
  | nil => rw [extend_eq]; exact h
  | cons e more ih =>
    rw [extend_cons]
    refine ih ?_
    rw [get?_put]
    split
    · rfl
    · exact h

/-- A key that is not written keeps its value. -/
theorem get?_extend_of_ne (h : ∀ e ∈ more, e.1 ≠ k) : get? k (extend t more) = get? k t := by
  induction more generalizing t with
  | nil => rw [extend_eq, List.foldl_nil]
  | cons e more ih =>
    obtain ⟨hfirst, hlater⟩ := List.forall_mem_cons.mp h
    rw [extend_cons, ih hlater, get?_put, if_neg hfirst]

/-- The last write of a key counts. -/
theorem get?_extend (k : Text) (t more : Table α) :
    get? k (extend t more) = (get? k more.reverse).or (get? k t) := by
  induction more generalizing t with
  | nil => rw [extend_eq]; rfl
  | cons e more ih =>
    obtain ⟨k', v⟩ := e
    rw [extend_cons, ih, List.reverse_cons, get?_append, Option.or_assoc, get?_put, get?_cons]
    split <;> rfl

/-- **The entries of a table are the last writes of their keys.** -/
theorem mem_ofList_iff :
    (k, v) ∈ ofList more ↔
      ∃ before after, more = before ++ (k, v) :: after ∧ ∀ e ∈ after, e.1 ≠ k := by
  have hnodup : (extend [] more).keys.Nodup := nodup_keys_extend more List.nodup_nil
  have hnil : get? k ([] : Table α) = none := rfl
  rw [ofList, ← extend_eq, mem_iff_get?_of_nodup hnodup, get?_extend, hnil, Option.or_none,
    get?_eq_some_iff]
  -- the first entry of the writes from the last on
  constructor
  · rintro ⟨after, before, hreverse, hafter⟩
    refine ⟨before.reverse, after.reverse, ?_, fun e he => hafter e (List.mem_reverse.mp he)⟩
    rw [← List.reverse_reverse more, hreverse]
    simp
  · rintro ⟨before, after, rfl, hafter⟩
    refine ⟨after.reverse, before.reverse, by simp, fun e he => hafter e (List.mem_reverse.mp he)⟩

/-- A key by which a table is extended is found. -/
theorem exists_get?_extend (h : (k, v) ∈ more) : ∃ w, get? k (extend t more) = some w := by
  rw [← Option.isSome_iff_exists]
  induction more generalizing t with
  | nil => exact absurd h List.not_mem_nil
  | cons e more ih =>
    rw [extend_cons]
    rcases List.mem_cons.mp h with rfl | hmem
    · refine isSome_get?_extend ?_
      rw [get?_put, if_pos rfl]
      rfl
    · exact ih hmem

/-- Writes to keys of a table that is a function on a row of keys change the function. -/
theorem extend_map {ks : List Text} (f : Text → α) (hks : ks.Nodup) (hmore : more.keys.Nodup)
    (hsub : ∀ k ∈ more.keys, k ∈ ks) :
    extend (ks.map fun k => (k, f k)) more = ks.map fun k => (k, (get? k more).getD (f k)) := by
  induction more generalizing f with
  | nil => rw [extend_eq]; rfl
  | cons e more ih =>
    obtain ⟨key, value⟩ := e
    obtain ⟨hfirst, hrest⟩ := List.nodup_cons.mp hmore
    have hkey : key ∈ ks := hsub key (List.mem_cons_self ..)
    have hsub' : ∀ k ∈ keys more, k ∈ ks := fun k hmem => hsub k (List.mem_cons_of_mem _ hmem)
    rw [extend_cons, put_map f hks hkey, ih _ hrest hsub']
    -- the first entry is not written again, since no key comes twice
    refine List.map_congr_left fun k _ => ?_
    rw [get?_cons]
    by_cases heq : key = k
    · subst heq
      rw [if_pos rfl, if_pos rfl, get?_eq_none_of_not_mem_keys hfirst]
      rfl
    · rw [if_neg heq, if_neg heq]

end Clipbook.Table
