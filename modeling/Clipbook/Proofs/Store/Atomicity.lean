import Clipbook.Proofs.Store.Log
import Mathlib.Algebra.Ring.Nat

/-!
# Clipbook — what is left of a clip that is not recorded

To record a clip is to count it and then to add an entry for it, and each of the two is written on
its own.  That an action is unknown is found out before the first of them.  That there is no address
is found out after it, by the table of clips.  So recording is all or nothing for a clip that has an
address, and one without an address is counted all the same.

Main results:

* `recorded_record` — all that recording can do.
* `Reachable.sound` — the counters of every store can be read off a function.
* `Sound.total_recordAll` — in a run that only records, the counters sum up to the clips that were
  recorded and those that were left halfway.
* `record_all_or_nothing` — the same for every store, and what one call leaves.
-/

namespace Clipbook

/-! ## The counts of all actions -/

namespace Counts

variable {counts : Table Nat} {n : Text → Nat} {action : Text}

/-- Nothing is tallied for an action that is not known. -/
theorem Tallied.eq_zero (h : Tallied counts n) (hunknown : action ∉ Action.names) :
    n action = 0 := by
  rw [← h.count action, Table.get?_eq_none_of_not_mem_keys fun hmem => hunknown (h.known _ hmem)]
  rfl

/-- One more count of an action adds to a sum as often as the action is in it. -/
theorem sum_map_add_ite (n : Text → Nat) (action : Text) (ks : List Text) :
    (ks.map fun a => n a + if action = a then 1 else 0).sum =
      (ks.map n).sum + ks.count action := by
  induction ks with
  | nil => rfl
  | cons k ks ih =>
    rw [List.map_cons, List.sum_cons, ih, List.map_cons, List.sum_cons, List.count_cons]
    by_cases hk : action = k
    · simp only [hk, if_true, beq_self_eq_true]
      omega
    · simp only [hk, if_false, beq_eq_false_iff_ne.mpr (Ne.symm hk), Bool.false_eq_true]
      omega

end Counts

namespace Store

variable {capacity : Int} {s : Store} {time action : Text} {d : Details}

/-! ## One call -/

/-- The store with one more count. -/
def counted (s : Store) (action : Text) : Store :=
  { s with counts := Counts.bump action s.counts }

/-- All that recording can do: nothing, or one count, or one count and one entry. -/
inductive Recorded (s : Store) (time action : Text) (d : Details) :
    Except Fault Entry × Store → Prop
  | unknown (h : action ∉ Action.names) :
      Recorded s time action d (.error (.unknownAction action), s)
  | halfway (h : action ∈ Action.names) (hurl : d.url = none) :
      Recorded s time action d (.error (.missingColumn "history.url".toList), s.counted action)
  | done {e : Entry} (h : action ∈ Action.names) (hurl : d.url = some e.url)
      (he : e = { time, url := e.url, action, title := d.title, vault := d.vault, path := d.path }) :
      Recorded s time action d
        (.ok e, { s.counted action with clips := (s.clips.insert e).trim s.capacity })

/-- A known action is counted, and its count is there to be read. -/
theorem increment_of_mem (s : Store) (h : action ∈ Action.names) :
    ∃ n, s.increment action = (.ok n, s.counted action) := by
  have hget : ∃ n, Table.get? action (Counts.bump action s.counts) = some n := by
    rw [Counts.bump]
    exact ⟨_, by rw [Table.get?_put, if_pos rfl]⟩
  obtain ⟨n, hn⟩ := hget
  refine ⟨n, ?_⟩
  rw [increment, checkAction_of_mem h]
  simp only [hn, counted]

/-- **All that recording can do.** -/
theorem recorded_record (hfits : fits s.capacity = true) (time action : Text) (d : Details) :
    Recorded s time action d (s.record time action d) := by
  by_cases h : action ∈ Action.names
  · obtain ⟨n, hn⟩ := increment_of_mem s h
    rw [record, hn]
    dsimp only
    rw [add, checkAction_of_mem h]
    cases hurl : d.url with
    | none => exact .halfway h hurl
    | some url =>
      -- counting does not change the capacity
      have hfits' : fits (s.counted action).capacity = true := hfits
      simp only [hfits', if_true]
      exact .done h hurl rfl
  · rw [record, increment, checkAction_of_not_mem h]
    exact .unknown h

/-! ## Counters -/

/-- How often an action was counted, as the statistics have it. -/
def counter (s : Store) (action : Text) : Nat :=
  (Table.get? action s.stats).getD 0

/-- The sum of the counters. -/
def total (s : Store) : Nat :=
  (s.stats.map Prod.snd).sum

/-- The capacity is the one given, the numbers of the clips ascend and the counts can be read off a
function. -/
structure Sound (capacity : Int) (s : Store) : Prop where
  capacity : s.capacity = capacity
  ordered : s.clips.Ordered
  tallied : ∃ n, Counts.Tallied s.counts n

theorem counter_eq {n : Text → Nat} (h : Counts.Tallied s.counts n) (a : Text) :
    s.counter a = n a := by
  rw [counter, stats, h.ofAll, Table.get?_map]
  by_cases ha : a ∈ Action.names
  · rw [if_pos ha]
    rfl
  · rw [if_neg ha, h.eq_zero ha]
    rfl

/-- The total is the sum of the tallies of all actions that are known. -/
theorem total_eq {n : Text → Nat} (h : Counts.Tallied s.counts n) :
    s.total = (Action.names.map n).sum := by
  rw [total, stats, h.ofAll, List.map_map]
  rfl

/-- Counting an action adds one to its counter and to no other. -/
theorem Sound.counter_counted (h : Sound capacity s) (hknown : action ∈ Action.names) (a : Text) :
    (s.counted action).counter a = s.counter a + if action = a then 1 else 0 := by
  obtain ⟨n, hn⟩ := h.tallied
  have hbump : Counts.Tallied (s.counted action).counts _ := hn.bump hknown
  rw [counter_eq hn, counter_eq hbump]

/-- Counting an action adds one to the total. -/
theorem Sound.total_counted (h : Sound capacity s) (hknown : action ∈ Action.names) :
    (s.counted action).total = s.total + 1 := by
  obtain ⟨n, hn⟩ := h.tallied
  have hbump : Counts.Tallied (s.counted action).counts _ := hn.bump hknown
  have hnodup : Action.names.Nodup := by decide
  rw [total_eq hn, total_eq hbump, Counts.sum_map_add_ite,
    List.count_eq_one_of_mem hnodup hknown]

/-- The history is the first entries, as many as were asked for. -/
theorem Sound.history_eq (h : Sound capacity s) (limit : Int) :
    s.history limit = firsts limit s.clips.entries :=
  h.ordered.map_newest limit

/-! ## Every store -/

/-- The stores that a fresh one becomes by calls, also by those that fail. -/
inductive Reachable (capacity : Int) : Store → Prop
  | fresh : Reachable capacity (fresh capacity)
  | init {s : Store} (h : Reachable capacity s) : Reachable capacity s.init
  | increment {s : Store} (h : Reachable capacity s) (action : Text) :
      Reachable capacity (s.increment action).2
  | add {s : Store} (h : Reachable capacity s) (time action : Text) (d : Details) :
      Reachable capacity (s.add time action d).2
  | record {s : Store} (h : Reachable capacity s) (time action : Text) (d : Details) :
      Reachable capacity (s.record time action d).2

/-- Counting a known action keeps the store sound. -/
theorem Sound.counted (h : Sound capacity s) (hknown : action ∈ Action.names) :
    Sound capacity (s.counted action) := by
  obtain ⟨n, hn⟩ := h.tallied
  exact ⟨h.capacity, h.ordered, _, hn.bump hknown⟩

/-- Counting an action keeps the store sound, known or not. -/
theorem Sound.increment (h : Sound capacity s) (action : Text) :
    Sound capacity (s.increment action).2 := by
  by_cases hknown : action ∈ Action.names
  · obtain ⟨n, hn⟩ := increment_of_mem s hknown
    rw [hn]
    exact h.counted hknown
  · rw [Store.increment, checkAction_of_not_mem hknown]
    exact h

theorem Sound.add (h : Sound capacity s) (time action : Text) (d : Details) :
    Sound capacity (s.add time action d).2 := by
  unfold Store.add
  split
  · exact h
  · exact h
  · -- an entry comes in, and it may be too late to trim
    dsimp only
    split
    · exact ⟨h.capacity, (h.ordered.insert _).trim _, h.tallied⟩
    · exact ⟨h.capacity, h.ordered.insert _, h.tallied⟩

theorem Sound.record (h : Sound capacity s) (time action : Text) (d : Details) :
    Sound capacity (s.record time action d).2 := by
  have hincrement := h.increment action
  rw [Store.record]
  generalize s.increment action = p at hincrement ⊢
  obtain ⟨reply, s'⟩ := p
  cases reply with
  | error f => exact hincrement
  | ok n => exact hincrement.add time action d

/-- **The counters of every store can be read off a function.** -/
theorem Reachable.sound (h : Reachable capacity s) : Sound capacity s := by
  induction h with
  | fresh => exact ⟨rfl, Clips.ordered_empty, _, Counts.tallied_empty⟩
  | init _ ih => exact ih
  | increment _ action ih => exact ih.increment action
  | add _ time action d ih => exact ih.add time action d
  | record _ time action d ih => exact ih.record time action d

/-! ## Runs -/

/-- A clip that is to be recorded, with an address or without one. -/
structure Request where
  time : Text
  action : Text
  details : Details

/-- A known action, and no address. -/
def Request.isHalf (r : Request) : Bool :=
  r.action ∈ Action.names && r.details.url.isNone

/-- The replies to clips that are recorded one after the other, and the store after them. -/
def recordAll (s : Store) : List Request → List (Except Fault Entry) × Store
  | [] => ([], s)
  | r :: rs =>
    let p := s.record r.time r.action r.details
    let q := recordAll p.2 rs
    (p.1 :: q.1, q.2)

/-- One call adds one to the counters, unless the action is unknown. -/
theorem Sound.total_record (h : Sound capacity s) (hfits : fits capacity = true) (r : Request) :
    (s.record r.time r.action r.details).2.total =
      s.total + (if (s.record r.time r.action r.details).1.isOk then 1 else 0) +
        if r.isHalf then 1 else 0 := by
  have hrecorded := recorded_record (h.capacity ▸ hfits) r.time r.action r.details
  generalize hp : s.record r.time r.action r.details = p at hrecorded ⊢
  cases hrecorded with
  | unknown hunknown => simp [Request.isHalf, hunknown, Except.isOk, Except.toBool]
  | halfway hknown hurl =>
    simp [Request.isHalf, hknown, hurl, Except.isOk, Except.toBool, h.total_counted hknown]
  | done hknown hurl he =>
    simp only [Request.isHalf, hknown, hurl, Except.isOk, Except.toBool, decide_true,
      Option.isNone_some, Bool.and_false, Bool.false_eq_true, if_true, if_false, Nat.add_zero]
    -- an entry is no count
    exact h.total_counted hknown

/-- **In a run that only records** the counters grow by the clips that were recorded and those that
were left halfway. -/
theorem Sound.total_recordAll (h : Sound capacity s) (hfits : fits capacity = true)
    (rs : List Request) :
    (s.recordAll rs).2.total =
      s.total + (s.recordAll rs).1.countP Except.isOk + rs.countP Request.isHalf := by
  induction rs generalizing s with
  | nil => rfl
  | cons r rs ih =>
    have hstep := h.total_record hfits r
    have hrest := ih (h.record r.time r.action r.details)
    rw [recordAll, hrest, hstep, List.countP_cons, List.countP_cons]
    omega

/-! ## All or nothing -/

/-- **Recording is all or nothing for a clip with an address.**  A call is turned down if and only
if its action is unknown or it has no address.  For an unknown action nothing changes.  For want of
an address the history stays, and the action is counted nevertheless.  A clip that is recorded is
counted, and comes first in the history.  So if clips are recorded and nothing else is done, the
counters sum up to the clips that were recorded and those that had a known action and no
address. -/
theorem record_all_or_nothing (capacity : Int) (hfits : fits capacity = true) :
    (∀ s, Reachable capacity s → ∀ time action d,
      let p := s.record time action d
      ((∃ f, p.1 = .error f) ↔ action ∉ Action.names ∨ d.url = none) ∧
      (action ∉ Action.names → p.2 = s) ∧
      (action ∈ Action.names → d.url = none →
        (∀ limit, p.2.history limit = s.history limit) ∧
          ∀ a, p.2.counter a = s.counter a + if action = a then 1 else 0) ∧
      ∀ e, p.1 = .ok e →
        (d.url = some e.url ∧ e = { time, url := e.url, action, title := d.title, vault := d.vault
                                    path := d.path }) ∧
        (∀ limit, p.2.history limit = firsts limit (firsts capacity (e :: s.history (-1)))) ∧
          ∀ a, p.2.counter a = s.counter a + if action = a then 1 else 0) ∧
    ∀ rs, ((fresh capacity).recordAll rs).2.total =
      ((fresh capacity).recordAll rs).1.countP Except.isOk + rs.countP Request.isHalf := by
  constructor
  · intro s hs time action d p
    have hsound : Sound capacity s := hs.sound
    have hnext : Sound capacity p.2 := hsound.record time action d
    -- three ways to end, and what is left of the store in each of them
    have hrecorded : Recorded s time action d p :=
      recorded_record (hsound.capacity ▸ hfits) time action d
    clear_value p
    cases hrecorded with
    | unknown hunknown =>
      refine ⟨iff_of_true ⟨_, rfl⟩ (.inl hunknown), fun _ => rfl, fun hknown => ?_, nofun⟩
      exact absurd hknown hunknown
    | halfway hknown hurl =>
      refine ⟨iff_of_true ⟨_, rfl⟩ (.inr hurl), fun hunknown => absurd hknown hunknown, ?_, nofun⟩
      exact fun _ _ => ⟨fun _ => rfl, hsound.counter_counted hknown⟩
    | @done e hknown hurl he =>
      refine ⟨iff_of_false nofun ?_, fun hunknown => absurd hknown hunknown, ?_, ?_⟩
      · rintro (hunknown | hnone)
        · exact hunknown hknown
        · rw [hurl] at hnone
          cases hnone
      · intro _ hnone
        rw [hurl] at hnone
        cases hnone
      · intro e' he'
        obtain rfl := Except.ok.inj he'
        refine ⟨⟨hurl, he⟩, fun limit => ?_, hsound.counter_counted hknown⟩
        -- the clip is put first, and the rest is cut off behind the capacity
        have hall : s.history (-1) = s.clips.entries := hsound.history_eq (-1)
        have htrim := (hsound.ordered.insert e).entries_trim s.capacity
        rw [Clips.entries_insert, hsound.capacity] at htrim
        rw [hnext.history_eq, hall, ← htrim, hsound.capacity]
  · intro rs
    have hfresh : Sound capacity (fresh capacity) := Reachable.fresh.sound
    have htotal := hfresh.total_recordAll hfits rs
    rwa [show (fresh capacity).total = 0 from rfl, Nat.zero_add] at htotal

/-- Of three clips one is recorded, one has no address and one has an unknown action. -/
theorem record_all_or_nothing_default :
    let shared (url : Option Text) : Request := ⟨[], "share".toList, { url }⟩
    let rs := [shared none, ⟨[], "print".toList, { url := some ['b'] }⟩, shared (some ['c'])]
    fits defaultCapacity = true ∧ Reachable defaultCapacity (fresh defaultCapacity) ∧
      ((fresh defaultCapacity).record [] "print".toList { url := some ['b'] }).2 =
        fresh defaultCapacity ∧
      rs.countP Request.isHalf = 1 ∧ ((fresh defaultCapacity).recordAll rs).2.total =
        ((fresh defaultCapacity).recordAll rs).1.countP Except.isOk + 1 := by
  intro shared rs
  have hfits : fits defaultCapacity = true := by decide
  obtain ⟨hone, hall⟩ := record_all_or_nothing defaultCapacity hfits
  obtain ⟨-, hunknown, -⟩ := hone _ .fresh [] "print".toList { url := some ['b'] }
  have hhalf : rs.countP Request.isHalf = 1 := by decide
  exact ⟨hfits, .fresh, hunknown (by decide), hhalf, hhalf ▸ hall rs⟩

/-- **A clip without an address is counted**, though it is not recorded. -/
theorem record_halfway :
    ¬∀ s, Reachable defaultCapacity s → ∀ time action d f,
      (s.record time action d).1 = .error f →
        (s.record time action d).2.history (-1) = s.history (-1) ∧
          (s.record time action d).2.stats = s.stats := by
  intro h
  obtain ⟨-, hstats⟩ := h _ .fresh [] "share".toList { url := none } _ rfl
  exact absurd (congrArg (fun t => (t.map Prod.snd).sum) hstats) (by decide)

end Store

end Clipbook
