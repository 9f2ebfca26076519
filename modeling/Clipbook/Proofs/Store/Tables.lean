import Clipbook.Proofs.Table
import Clipbook.Store
import Mathlib.Data.List.Nodup

/-!
# Clipbook — the tables of the store

What a statement does to a table is described without numbers and rows: the clips are a list,
newest first, and the counts are a function.  Clips can be seen so because their numbers ascend,
and they ascend also after deletions, because no number is given twice.

Main results:

* `Clips.Ordered.entries_trim` — trimming keeps the first of the clips.
* `Clips.Ordered.map_newest` — the newest rows hold the first of the clips.
* `Counts.Tallied.bump` — counting an action changes the count of that action.
* `Counts.Tallied.ofAll` — the counts of all actions are read off the function.
-/

namespace Clipbook

/-! ## First elements -/

section

variable {α β : Type} {l p : List α}

theorem firsts_isPrefix (limit : Int) (l : List α) : firsts limit l <+: l := by
  rw [firsts]
  split
  · exact List.prefix_rfl
  · exact List.take_prefix _ _

/-- A number that is not negative asks for as many. -/
theorem firsts_natCast (n : Nat) (l : List α) : firsts n l = l.take n := by
  rw [firsts, if_neg (Int.not_lt.mpr (Int.natCast_nonneg n)), Int.toNat_natCast]

/-- It does not matter whether one asks for the first ones before or after all are mapped. -/
theorem map_firsts (f : α → β) (limit : Int) (l : List α) :
    (firsts limit l).map f = firsts limit (l.map f) := by
  rw [firsts, firsts]
  split
  · rfl
  · exact List.map_take

/-- The elements that have a mark from the beginning of a list are that beginning, where no two
have the same mark. -/
theorem filter_mem_map_of_isPrefix [DecidableEq β] {f : α → β} (h : p <+: l)
    (hnodup : (l.map f).Nodup) : (l.filter fun a => f a ∈ p.map f) = p := by
  obtain ⟨q, rfl⟩ := h
  rw [List.map_append, List.nodup_append] at hnodup
  have hkept : (p.filter fun a => f a ∈ p.map f) = p :=
    List.filter_eq_self.mpr fun a ha => decide_eq_true (List.mem_map_of_mem ha)
  have hdropped : (q.filter fun a => f a ∈ p.map f) = [] := by
    refine List.filter_eq_nil_iff.mpr fun a ha => ?_
    rw [decide_eq_true_eq]
    -- its mark would be there twice
    exact fun hmem => hnodup.2.2 (f a) hmem (f a) (List.mem_map_of_mem ha) rfl
  rw [List.filter_append, hkept, hdropped, List.append_nil]

end

/-! ## Clips -/

namespace Clips

variable {c : Clips}

/-- Every row has a greater number than those before it, and none has a greater one than the last
that was given. -/
structure Ordered (c : Clips) : Prop where
  ascending : c.rows.Pairwise fun a b => a.id < b.id
  bounded : ∀ r ∈ c.rows, r.id ≤ c.lastId

/-- The clips, newest first. -/
def entries (c : Clips) : List Entry :=
  c.rows.reverse.map Row.entry

theorem ordered_empty : Ordered {} :=
  ⟨List.Pairwise.nil, nofun⟩

/-- A table stays ordered when a row is inserted. -/
theorem Ordered.insert (h : c.Ordered) (e : Entry) : (c.insert e).Ordered where
  ascending := by
    refine List.pairwise_append.mpr ⟨h.ascending, List.pairwise_singleton _ _, ?_⟩
    intro a ha b hb
    rw [List.mem_singleton.mp hb]
    exact Nat.lt_succ_of_le (h.bounded a ha)
  bounded := by
    intro r hr
    rcases List.mem_append.mp hr with hr | hr
    · exact Nat.le_succ_of_le (h.bounded r hr)
    · rw [List.mem_singleton.mp hr]
      exact Nat.le_refl _

/-- The entry inserted last is the first one. -/
theorem entries_insert (e : Entry) (c : Clips) : (c.insert e).entries = e :: c.entries := by
  rw [entries, insert, List.reverse_append]
  rfl

/-- Deleting rows keeps the order, and the last number stays given. -/
theorem Ordered.trim (h : c.Ordered) (limit : Int) : (c.trim limit).Ordered where
  ascending := h.ascending.sublist List.filter_sublist
  bounded := fun r hr => h.bounded r (List.mem_filter.mp hr).1

theorem Ordered.nodup (h : c.Ordered) : (c.rows.reverse.map Row.id).Nodup := by
  rw [List.map_reverse, List.nodup_reverse, List.Nodup, List.pairwise_map]
  exact h.ascending.imp Nat.ne_of_lt

/-- Rows by descending number are the rows from the last to the first. -/
theorem Ordered.newest_eq (h : c.Ordered) (limit : Int) :
    c.newest limit = firsts limit c.rows.reverse := by
  -- both are the same rows, and in both the numbers descend
  have hsorted : (c.rows.mergeSort fun a b => decide (b.id ≤ a.id)).Pairwise
      fun a b => b.id ≤ a.id := by
    refine (List.pairwise_mergeSort ?_ ?_ c.rows).imp of_decide_eq_true
    · intro r s t hrs hst
      exact decide_eq_true (Nat.le_trans (of_decide_eq_true hst) (of_decide_eq_true hrs))
    · intro r s
      rw [Bool.or_eq_true, decide_eq_true_eq, decide_eq_true_eq]
      exact Nat.le_total s.id r.id
  have hreverse : c.rows.reverse.Pairwise fun a b => b.id ≤ a.id :=
    List.pairwise_reverse.mpr (h.ascending.imp Nat.le_of_lt)
  have hperm : (c.rows.mergeSort fun a b => decide (b.id ≤ a.id)).Perm c.rows.reverse :=
    (List.mergeSort_perm _ _).trans (List.reverse_perm _).symm
  have hrows := List.Perm.eq_of_pairwise ?_ hsorted hreverse hperm
  · rw [newest, hrows]
  · -- two rows of one number are one row
    intro r s hr hs hsr hrs
    exact List.inj_on_of_nodup_map h.nodup (hperm.mem_iff.mp hr) hs (Nat.le_antisymm hrs hsr)

/-- **The newest rows hold the first of the clips.** -/
theorem Ordered.map_newest (h : c.Ordered) (limit : Int) :
    (c.newest limit).map Row.entry = firsts limit c.entries := by
  rw [h.newest_eq, map_firsts, entries]

/-- **Trimming keeps the first of the clips.** -/
theorem Ordered.entries_trim (h : c.Ordered) (limit : Int) :
    (c.trim limit).entries = firsts limit c.entries := by
  have hrows : (c.trim limit).rows.reverse = firsts limit c.rows.reverse := by
    rw [Clips.trim, h.newest_eq, ← List.filter_reverse]
    exact filter_mem_map_of_isPrefix (firsts_isPrefix _ _) h.nodup
  rw [entries, hrows, map_firsts, entries]

end Clips

/-! ## Counts -/

namespace Counts

variable {counts : Table Nat} {n : Text → Nat} {action : Text}

/-- The table counts what the function does, for each action at most once. -/
structure Tallied (counts : Table Nat) (n : Text → Nat) : Prop where
  nodup : counts.keys.Nodup
  known : ∀ action ∈ counts.keys, action ∈ Action.names
  count : ∀ action, (Table.get? action counts).getD 0 = n action

theorem tallied_empty : Tallied [] fun _ => 0 :=
  ⟨List.nodup_nil, nofun, fun _ => rfl⟩

/-- Counting an action puts its tally and one in the table. -/
theorem Tallied.bump_eq (h : Tallied counts n) (action : Text) :
    bump action counts = counts.put action (n action + 1) := by
  rw [bump, ← h.count]
  cases Table.get? action counts <;> rfl

/-- The entry of an action that was counted is its tally and one. -/
theorem Tallied.get?_bump (h : Tallied counts n) (action : Text) :
    Table.get? action (bump action counts) = some (n action + 1) := by
  rw [h.bump_eq, Table.get?_put, if_pos rfl]

/-- **Counting an action changes the count of that action.** -/
theorem Tallied.bump (h : Tallied counts n) (hknown : action ∈ Action.names) :
    Tallied (bump action counts) fun a => n a + if action = a then 1 else 0 := by
  rw [h.bump_eq]
  constructor
  · exact Table.nodup_keys_put _ _ h.nodup
  · intro a ha
    -- a word is counted because it is known
    rcases Table.mem_keys_put.mp ha with rfl | ha
    · exact hknown
    · exact h.known a ha
  · intro a
    rw [Table.get?_put]
    split
    · next heq =>
      rw [heq]
      rfl
    · rw [h.count, Nat.add_zero]

/-- **The counts of all actions are read off the function.** -/
theorem Tallied.ofAll (h : Tallied counts n) :
    ofAll counts = Action.names.map fun action => (action, n action) := by
  have hnames : Action.names.Nodup := by decide
  -- every row is written over a zero, and over no other row
  have hextend := Table.extend_map (fun _ => 0) hnames h.nodup h.known
  rw [Counts.ofAll, hextend]
  simp only [h.count]

end Counts

end Clipbook
