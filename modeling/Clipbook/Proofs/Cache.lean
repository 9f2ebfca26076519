import Clipbook.Cache
import Mathlib.Data.List.Basic

/-!
# Clipbook — what caches remember

A cache keeps an order of its entries and no history.  Here the history is kept instead: the uses of
a cache, the latest first.  From them alone it is said which keys were touched, how many others
have been touched since a key was, and what was put under it last.  The cache agrees with that: it
finds a key as long as fewer others were touched after it than there may be entries.

A look-up that finds nothing touches nothing, so that which keys were touched depends on what was
found before.  Keys that are equal may be written in two ways, as the two zeros are; so they are
compared here as they are in the cache.

Main results:

* `exists_of_find?` — what is found under a key was put under an equal one.
* `Recalls.use` — what one use preserves.
* `Recalls.find?_eq_some_iff` — what is found under a key.
* `useAll_recency` — all together, for every row of uses of an empty cache.
-/

namespace Clipbook.Cache

variable {κ α : Type} [BEq κ] {key k : κ} {ks : List κ}

/-! ## What is found -/

section

variable {c : Cache κ α} {value : α}

/-- What is found under a key is an entry of an equal key. -/
theorem exists_of_find? (h : c.find? key = some value) :
    ∃ k, (k, value) ∈ c.entries ∧ (key == k) = true := by
  rw [find?, List.lookup_eq_findSome?] at h
  obtain ⟨⟨k, v⟩, hmem, hentry⟩ := List.exists_of_findSome?_eq_some h
  rw [Option.ite_none_right_eq_some] at hentry
  obtain ⟨hkey, hvalue⟩ := hentry
  exact ⟨k, Option.some.inj hvalue ▸ hmem, hkey⟩

/-- A key is found if an equal one is there. -/
theorem isSome_find?_iff : (c.find? key).isSome = true ↔ ∃ k ∈ c.keys, (key == k) = true := by
  rw [find?, List.lookup_isSome_iff, keys]
  constructor
  · rintro ⟨e, he, hkey⟩
    exact ⟨e.1, List.mem_map_of_mem he, hkey⟩
  · rintro ⟨k, hk, hkey⟩
    obtain ⟨e, he, rfl⟩ := List.mem_map.mp hk
    exact ⟨e, he, hkey⟩

end

/-! ## Different keys -/

/-- Whether a key is another one. -/
def isOther (key k : κ) : Bool :=
  !(k == key)

/-- The keys that are not other ones are those that count as the same. -/
theorem isOther_eq_false_iff : isOther key k = false ↔ (k == key) = true := by
  rw [isOther, Bool.not_eq_false']

theorem isOther_eq_true_iff : isOther key k = true ↔ (k == key) = false := by
  rw [isOther, Bool.not_eq_true']

/-- Keys of which no two are equal. -/
abbrev Different (ks : List κ) : Prop := ks.Pairwise fun k l => isOther k l = true

section

variable [EquivBEq κ]

/-- Keys that count as the same are told apart from a third in the same way. -/
theorem isOther_congr {l : κ} (h : (k == l) = true) : isOther key k = isOther key l := by
  rw [isOther, isOther, BEq.congr_left h]

/-- It does not matter which one of two keys that count as the same others are compared with. -/
theorem isOther_congr_key {l : κ} (h : (key == l) = true) : isOther key k = isOther l k := by
  rw [isOther, isOther, BEq.congr_right h]

/-- Leaving a key out and leaving repetitions out can be done in either order. -/
theorem eraseDups_filter_isOther (key : κ) : (ks : List κ) →
    (ks.filter (isOther key)).eraseDups = ks.eraseDups.filter (isOther key)
  | [] => rfl
  | k :: ks => by
    -- the repetitions of the first key are left out before the rest is looked at
    have hrest := eraseDups_filter_isOther key (ks.filter (isOther k))
    have hfirst : (k :: ks).eraseDups = k :: (ks.filter (isOther k)).eraseDups :=
      List.eraseDups_cons
    rw [hfirst]
    by_cases hk : isOther key k = true
    · have hagain : (k :: ks.filter (isOther key)).eraseDups =
          k :: ((ks.filter (isOther key)).filter (isOther k)).eraseDups := List.eraseDups_cons
      rw [List.filter_cons_of_pos hk, List.filter_cons_of_pos hk, hagain, ← hrest,
        List.filter_comm]
    · rw [List.filter_cons_of_neg hk, List.filter_cons_of_neg hk, ← hrest, List.filter_filter]
      -- what differs from the key differs from the first one, which equals it
      have hequal := isOther_eq_false_iff.mp (Bool.not_eq_true _ ▸ hk)
      simp only [isOther_congr_key hequal, Bool.and_self]
  termination_by ks => ks.length
  decreasing_by exact Nat.lt_succ_of_le (List.length_filter_le _ _)

/-- A list without repetitions keeps its first key and drops all that count as the same behind it.
-/
theorem eraseDups_cons_eq (k : κ) (ks : List κ) :
    (k :: ks).eraseDups = k :: ks.eraseDups.filter (isOther k) := by
  rw [← eraseDups_filter_isOther]
  exact List.eraseDups_cons

/-- Up to a key it does not matter when repetitions are left out. -/
theorem takeWhile_eraseDups (key : κ) (ks : List κ) :
    ks.eraseDups.takeWhile (isOther key) = (ks.takeWhile (isOther key)).eraseDups := by
  induction ks with
  | nil => rfl
  | cons k ks ih =>
    rw [eraseDups_cons_eq, List.takeWhile_cons, List.takeWhile_cons]
    cases hk : isOther key k with
    | false => rfl
    | true =>
      rw [if_pos rfl, if_pos rfl, eraseDups_cons_eq, ← ih, List.takeWhile_filter]
      congr 3
      funext l
      -- what is left out is another key than the one looked for
      cases hl : isOther k l with
      | true => rfl
      | false => rw [isOther_congr (isOther_eq_false_iff.mp hl), hk]; rfl

theorem exists_mem_eraseDups_iff :
    (∃ k ∈ ks.eraseDups, (k == key) = true) ↔ ∃ k ∈ ks, (k == key) = true := by
  induction ks with
  | nil => rfl
  | cons k ks ih =>
    rw [eraseDups_cons_eq, List.exists_mem_cons_iff, List.exists_mem_cons_iff, ← ih]
    refine ⟨Or.imp_right fun ⟨l, hl, hkey⟩ => ⟨l, (List.mem_filter.mp hl).1, hkey⟩, ?_⟩
    rintro (hk | ⟨l, hl, hkey⟩)
    · exact .inl hk
    · cases hother : isOther k l with
      | true => exact .inr ⟨l, List.mem_filter.mpr ⟨hl, hother⟩, hkey⟩
      | false => exact .inl (BEq.trans (BEq.symm (isOther_eq_false_iff.mp hother)) hkey)

/-- What is left without repetitions is different in pairs. -/
theorem different_eraseDups (ks : List κ) : Different ks.eraseDups := by
  induction ks with
  | nil => exact List.Pairwise.nil
  | cons k ks ih =>
    rw [eraseDups_cons_eq]
    exact List.pairwise_cons.mpr ⟨fun l hl => (List.mem_filter.mp hl).2, ih.filter _⟩

/-- One key more does when one may be left out. -/
theorem take_filter_take_succ (h : Different ks) (key : κ) (n : Nat) :
    ((ks.take (n + 1)).filter (isOther key)).take n = (ks.filter (isOther key)).take n := by
  induction ks generalizing n with
  | nil => rfl
  | cons k ks ih =>
    obtain ⟨hfirst, hrest⟩ := List.pairwise_cons.mp h
    rw [List.take_succ_cons]
    by_cases hk : isOther key k = true
    · rw [List.filter_cons_of_pos hk, List.filter_cons_of_pos hk]
      cases n with
      | zero => rfl
      | succ n => rw [List.take_succ_cons, List.take_succ_cons, ih hrest]
    · -- then no other of the keys is left out
      have hequal := isOther_eq_false_iff.mp (Bool.not_eq_true _ ▸ hk)
      have hothers : ∀ l ∈ ks, isOther key l = true := fun l hl =>
        isOther_congr_key hequal ▸ hfirst l hl
      rw [List.filter_cons_of_neg hk, List.filter_cons_of_neg hk, List.filter_eq_self.mpr hothers,
        List.filter_eq_self.mpr fun l hl => hothers l (List.mem_of_mem_take hl), List.take_take,
        Nat.min_self]

end

/-- A key is among the first ones if few enough others come before it. -/
theorem exists_mem_take_iff {n : Nat} :
    (∃ k ∈ ks.take n, (k == key) = true) ↔
      (∃ k ∈ ks, (k == key) = true) ∧ (ks.takeWhile (isOther key)).length < n := by
  induction ks generalizing n with
  | nil => simp
  | cons k ks ih =>
    cases n with
    | zero => simp
    | succ n =>
      rw [List.take_succ_cons, List.exists_mem_cons_iff, List.exists_mem_cons_iff, ih,
        List.takeWhile_cons]
      cases hk : isOther key k with
      | false =>
        -- the key itself: it is found at once, and no other one was touched since
        have hequal := isOther_eq_false_iff.mp hk
        exact iff_of_true (.inl hequal) ⟨.inl hequal, Nat.succ_pos n⟩
      | true =>
        -- another key takes one place of those that are left
        rw [isOther_eq_true_iff.mp hk, if_pos rfl, List.length_cons, Nat.succ_lt_succ_iff]
        simp only [Bool.false_eq_true, false_or]

/-! ## Histories -/

/-- A use of a cache. -/
inductive Use (κ α : Type) where
  | put (key : κ) (value : α)
  | get (key : κ)
  | clear

namespace Use

/-- The value of the last put of a key since the last clearing; the latest use comes first. -/
def lastPut? (key : κ) : List (Use κ α) → Option α
  | [] => none
  | put k value :: past => if k == key then some value else lastPut? key past
  | get _ :: past => lastPut? key past
  | clear :: _ => none

/-- The different keys that were touched after the last touch of a key. -/
def touchedAfter (key : κ) (touched : List κ) : List κ :=
  (touched.takeWhile (isOther key)).eraseDups

/-- The keys that were touched since the last clearing, the latest first.  A put touches its key;
a get does if the key is found. -/
def touched (capacity : Nat) : List (Use κ α) → List κ
  | [] => []
  | put k _ :: past => k :: touched capacity past
  | get k :: past =>
    if (lastPut? k past).isSome ∧ (touchedAfter k (touched capacity past)).length < capacity then
      k :: touched capacity past
    else touched capacity past
  | clear :: _ => []

end Use

/-- A cache after a use of it. -/
def use (c : Cache κ α) : Use κ α → Cache κ α
  | .put key value => c.put key value
  | .get key => (c.get key).2
  | .clear => c.clear

/-- A cache after uses of it, one after the other. -/
def useAll (c : Cache κ α) (uses : List (Use κ α)) : Cache κ α :=
  uses.foldl use c

open Use

variable {c : Cache κ α} {value : α} {past past' : List (Use κ α)} {capacity : Nat}

/-- The last value put under a key is the same for keys that count as the same. -/
theorem lastPut?_congr [EquivBEq κ] {l : κ} (h : (k == l) = true) (past : List (Use κ α)) :
    lastPut? k past = lastPut? l past := by
  induction past with
  | nil => rfl
  | cons u past ih =>
    cases u with
    | put key value => rw [lastPut?, lastPut?, ih, BEq.congr_right h]
    | get key => exact ih
    | clear => rfl

/-- What was put was touched. -/
theorem exists_mem_touched (capacity : Nat) (h : lastPut? key past = some value) :
    ∃ k ∈ touched capacity past, (k == key) = true := by
  induction past with
  | nil => cases h
  | cons u past ih =>
    cases u with
    | put k v =>
      -- the last put of the key may be this one, or an earlier one
      rw [lastPut?] at h
      split at h
      · next hkey => exact ⟨k, List.mem_cons_self .., hkey⟩
      · obtain ⟨l, hl, hkey⟩ := ih h
        exact ⟨l, List.mem_cons_of_mem _ hl, hkey⟩
    | get k =>
      obtain ⟨l, hl, hkey⟩ := ih h
      refine ⟨l, ?_, hkey⟩
      rw [touched]
      split
      · exact List.mem_cons_of_mem _ hl
      · exact hl
    | clear => cases h

/-! ## Touches -/

/-- The key that is touched moves behind all others. -/
theorem keys_touch (c : Cache κ α) (key : κ) (value : α) :
    (c.touch key value).keys = c.keys.filter (isOther key) ++ [key] := by
  rw [keys, touch, List.map_append, keys, List.filter_map]
  rfl

/-- Where there is room anyway, nothing goes. -/
theorem touch_eq_put [EquivBEq κ] (hsize : c.size ≤ c.capacity) (hfind : c.find? key = some value)
    (v : α) : c.touch key v = c.put key v := by
  -- the entry of the key is replaced, and there are no more of them than before
  have hfewer : (without key c.entries).length < c.entries.length := by
    obtain ⟨k, hmem, hkey⟩ := exists_of_find? hfind
    refine List.length_filter_lt_length_iff_exists.mpr ⟨_, hmem, ?_⟩
    rw [BEq.symm hkey]
    exact Bool.false_ne_true
  have hroom : (c.touch key v).entries.length - (c.touch key v).capacity = 0 := by
    rw [touch, List.length_append, List.length_singleton]
    exact Nat.sub_eq_zero_of_le (Nat.le_trans hfewer hsize)
  rw [put, evict, hroom, List.drop_zero]

/-! ## Caches and histories -/

/-- A cache that holds what the keys touched last were put with. -/
structure Recalls (capacity : Nat) (past : List (Use κ α)) (c : Cache κ α) : Prop where
  capacity_eq : c.capacity = capacity
  keys_eq : c.keys = ((touched capacity past).eraseDups.take capacity).reverse
  lastPut : ∀ e ∈ c.entries, lastPut? e.1 past = some e.2

namespace Recalls

/-- A cache without entries recalls a past in which nothing has been touched since it was cleared.
-/
theorem cleared (hcapacity : c.capacity = capacity) (hentries : c.entries = [])
    (htouched : touched capacity past = []) : Recalls capacity past c where
  capacity_eq := hcapacity
  keys_eq := by
    rw [htouched, keys, hentries, List.eraseDups_nil, List.take_nil]
    rfl
  lastPut e he := by
    rw [hentries] at he
    cases he

/-- There are never more entries than there is room for. -/
theorem size_le (h : Recalls capacity past c) : c.size ≤ capacity := by
  have hkeys : c.keys.length = c.size := List.length_map _
  rw [← hkeys, h.keys_eq, List.length_reverse]
  exact List.length_take_le _ _

variable [EquivBEq κ]

/-- A key is found while fewer different keys have been touched since than there is room for. -/
theorem isSome_find?_iff (h : Recalls capacity past c) :
    (c.find? key).isSome = true ↔
      (∃ k ∈ touched capacity past, (k == key) = true) ∧
        (touchedAfter key (touched capacity past)).length < capacity := by
  rw [Cache.isSome_find?_iff, h.keys_eq, touchedAfter, ← takeWhile_eraseDups,
    ← exists_mem_eraseDups_iff, ← exists_mem_take_iff]
  simp only [List.mem_reverse, BEq.comm]

/-- **A key is found if it was put and few enough others were touched after it.** -/
theorem find?_eq_some_iff (h : Recalls capacity past c) :
    c.find? key = some value ↔
      lastPut? key past = some value ∧
        (touchedAfter key (touched capacity past)).length < capacity := by
  -- what is found is what was put last, so only whether something is found is left
  have hlast {v : α} (hfind : c.find? key = some v) : lastPut? key past = some v := by
    obtain ⟨k, hmem, hkey⟩ := exists_of_find? hfind
    rw [lastPut?_congr hkey]
    exact h.lastPut _ hmem
  constructor
  · intro hfind
    exact ⟨hlast hfind, (h.isSome_find?_iff.mp (Option.isSome_of_eq_some hfind)).2⟩
  · rintro ⟨hput, hfew⟩
    obtain ⟨v, hfind⟩ := Option.isSome_iff_exists.mp
      (h.isSome_find?_iff.mpr ⟨exists_mem_touched capacity hput, hfew⟩)
    rw [hfind, ← hlast hfind, hput]

/-- A put leaves the keys touched last. -/
theorem put (h : Recalls capacity past c) (htouched : touched capacity past' =
      key :: touched capacity past) (hkey : lastPut? key past' = some value)
    (hothers : ∀ k, isOther key k = true → lastPut? k past' = lastPut? k past) :
    Recalls capacity past' (c.put key value) where
  capacity_eq := h.capacity_eq
  keys_eq := by
    have hdrop : (c.put key value).keys =
        (c.touch key value).keys.drop ((c.touch key value).keys.length - capacity) := by
      rw [keys, Cache.put, evict, List.map_drop, keys, List.length_map, ← h.capacity_eq]
      rfl
    have htouch : (c.touch key value).keys =
        (key :: ((touched capacity past).eraseDups.take capacity).filter (isOther key)).reverse := by
      rw [keys_touch, h.keys_eq, List.filter_reverse, List.reverse_cons]
    rw [hdrop, htouch, List.length_reverse, ← List.reverse_take, htouched, eraseDups_cons_eq]
    -- the key goes to the end, and one of the others may have to go
    cases capacity with
    | zero => rfl
    | succ n =>
      rw [List.take_succ_cons, List.take_succ_cons,
        take_filter_take_succ (different_eraseDups _)]
  lastPut e he := by
    rcases List.mem_append.mp (List.mem_of_mem_drop he) with he | he
    · obtain ⟨he, hother⟩ := List.mem_filter.mp he
      rw [hothers e.1 hother]
      exact h.lastPut e he
    · obtain rfl := List.mem_singleton.mp he
      exact hkey

/-- **What one use preserves.** -/
theorem use (h : Recalls capacity past c) (u : Use κ α) : Recalls capacity (u :: past) (c.use u) := by
  cases u with
  | put key value =>
    refine h.put rfl ?_ fun k hk => ?_
    · rw [lastPut?, if_pos BEq.rfl]
    · have hne : (key == k) = false := BEq.comm.trans (isOther_eq_true_iff.mp hk)
      rw [lastPut?, hne, if_neg Bool.false_ne_true]
  | get key =>
    rw [Cache.use, get]
    cases hfind : c.find? key with
    | none =>
      -- nothing is found, and nothing was touched
      have hmissed : ¬((lastPut? key past).isSome ∧
          (touchedAfter key (touched capacity past)).length < capacity) := by
        rintro ⟨hsome, hfew⟩
        obtain ⟨v, hv⟩ := Option.isSome_iff_exists.mp hsome
        cases hfind.symm.trans (h.find?_eq_some_iff.mpr ⟨hv, hfew⟩)
      exact ⟨h.capacity_eq, by rw [touched, if_neg hmissed]; exact h.keys_eq, h.lastPut⟩
    | some value =>
      obtain ⟨hput, hfew⟩ := h.find?_eq_some_iff.mp hfind
      dsimp only
      rw [touch_eq_put (h.capacity_eq ▸ h.size_le) hfind]
      refine h.put ?_ hput fun k _ => rfl
      rw [touched, if_pos ⟨Option.isSome_of_eq_some hput, hfew⟩]
  | clear => exact cleared h.capacity_eq rfl rfl

/-- What a cache recalls of the past it recalls of a longer one after more uses. -/
theorem useAll (h : Recalls capacity past c) (uses : List (Use κ α)) :
    Recalls capacity (uses.reverse ++ past) (c.useAll uses) := by
  induction uses generalizing c past with
  | nil => exact h
  | cons u uses ih =>
    rw [List.reverse_cons, List.append_assoc]
    exact ih (h.use u)

end Recalls

/-- **A cache forgets the keys touched the longest time ago, and no others.**  After any uses of an
empty cache, a key is found if it was put since the last clearing and fewer different others were
touched after its last touch than there may be entries, and then the value is that of its last put.
There are never more entries than there may be, and their keys are those touched last, in the order
of their last touches. -/
theorem useAll_recency [EquivBEq κ] (capacity : Nat) (uses : List (Use κ α)) :
    let c := (empty capacity).useAll uses
    let past := uses.reverse
    (∀ key value, (c.get key).1 = some value ↔
      lastPut? key past = some value ∧
        (touchedAfter key (touched capacity past)).length < capacity) ∧
      c.size ≤ capacity ∧
      (c.keys == ((touched capacity past).eraseDups.take capacity).reverse) = true := by
  intro c past
  -- the empty cache recalls the empty past, and the run carries this on
  have h : Recalls capacity past c := by
    have hempty : Recalls capacity ([] : List (Use κ α)) (.empty capacity) :=
      .cleared rfl rfl rfl
    have hall := hempty.useAll uses
    rwa [List.append_nil] at hall
  refine ⟨fun key value => ?_, h.size_le, ?_⟩
  · rw [← h.find?_eq_some_iff, get]
    cases c.find? key with
    | none => rfl
    | some v => rfl
  · rw [h.keys_eq]
    exact BEq.rfl

/-- Of three keys, the one touched longest ago is not found any more; it is not the one put
first. -/
theorem useAll_recency_third :
    let c : Cache Char Nat := (empty 2).useAll [.put 'a' 1, .put 'b' 2, .get 'a', .put 'c' 3]
    EquivBEq Char ∧ (c.get 'a').1 = some 1 ∧ (c.get 'b').1 = none ∧ c.size ≤ 2 ∧
      (c.keys == ['a', 'c']) = true := by
  intro c
  obtain ⟨hget, hsize, hkeys⟩ :=
    useAll_recency 2 [Use.put 'a' 1, .put 'b' 2, .get 'a', .put 'c' 3]
  refine ⟨inferInstance, (hget 'a' 1).mpr ⟨by decide, by decide⟩, ?_, hsize, hkeys⟩
  rw [Option.eq_none_iff_forall_ne_some]
  intro v hv
  exact absurd ((hget 'b' v).mp hv).2 (by decide)

end Clipbook.Cache
