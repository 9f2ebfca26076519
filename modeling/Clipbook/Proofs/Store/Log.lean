import Clipbook.Proofs.Store.Tables

/-!
# Clipbook — the store is a log with counters

Whatever is asked of a store, one after the other, the store is a view of two things that are read
off the calls alone: the log of all entries that were added, newest first, and how often each
action was counted.  Of the log the store keeps no more than its capacity.  A call for an unknown
action is turned down before anything is written.

Main results:

* `Represents.perform` — one call answers as the calls before it ask for, and keeps the view.
* `Represents.run` — so does a run of calls.
* `run_eq_log` — what a run answers, and what can be read from the store after it.
* `log_limits` — but not with numbers that a database cannot be given.
-/

namespace Clipbook

namespace Store

/-! ## Calls -/

/-- A clip that the store is told of; it has an address. -/
structure Report where
  time : Text
  action : Text
  url : Text
  title : Option Text := none
  vault : Option Text := none
  path : Option Text := none

def Report.details (r : Report) : Details :=
  { url := some r.url, title := r.title, vault := r.vault, path := r.path }

def Report.entry (r : Report) : Entry :=
  { time := r.time, url := r.url, action := r.action, title := r.title, vault := r.vault
    path := r.path }

/-- What can be asked of a store. -/
inductive Call where
  | add (r : Report)
  | record (r : Report)
  | increment (action : Text)
  | init

inductive Reply where
  | entry (e : Entry)
  | count (n : Nat)
  | done

/-- The reply to a call, and the store after it. -/
def perform (s : Store) : Call → Except Fault Reply × Store
  | .add r => let p := s.add r.time r.action r.details; (p.1.map .entry, p.2)
  | .record r => let p := s.record r.time r.action r.details; (p.1.map .entry, p.2)
  | .increment action => let p := s.increment action; (p.1.map .count, p.2)
  | .init => (.ok .done, s.init)

/-- The replies to calls made one after the other, and the store after them. -/
def run (s : Store) : List Call → List (Except Fault Reply) × Store
  | [] => ([], s)
  | c :: cs => let p := run (s.perform c).2 cs; ((s.perform c).1 :: p.1, p.2)

/-- The store in a database without tables. -/
def fresh (capacity : Int) : Store :=
  ofDatabase capacity {}

/-! ## Logs and counters -/

/-- The action that a call is for. -/
def Call.action? : Call → Option Text
  | .add r | .record r => some r.action
  | .increment action => some action
  | .init => none

/-- The entry that a call adds. -/
def Call.entry? : Call → Option Entry
  | .add r | .record r => if r.action ∈ Action.names then some r.entry else none
  | .increment _ | .init => none

/-- The action that a call counts. -/
def Call.counted? : Call → Option Text
  | .record r => if r.action ∈ Action.names then some r.action else none
  | .increment action => if action ∈ Action.names then some action else none
  | .add _ | .init => none

/-- All entries that calls add, newest first. -/
def log (calls : List Call) : List Entry :=
  (calls.filterMap Call.entry?).reverse

/-- How often calls count an action. -/
def count (calls : List Call) (action : Text) : Nat :=
  (calls.filterMap Call.counted?).count action

/-- What a call is to answer after others. -/
def Call.answer (before : List Call) : Call → Except Fault Reply
  | .add r | .record r =>
    if r.action ∈ Action.names then .ok (.entry r.entry) else .error (.unknownAction r.action)
  | .increment action =>
    if action ∈ Action.names then .ok (.count (count before action + 1))
    else .error (.unknownAction action)
  | .init => .ok .done

/-- One call more adds its entry, if it has one, to the log. -/
theorem log_concat (calls : List Call) (c : Call) :
    log (calls ++ [c]) = c.entry?.toList ++ log calls := by
  have hlast : [c].filterMap Call.entry? = c.entry?.toList := by
    rw [List.filterMap_cons]
    cases c.entry? <;> rfl
  rw [log, List.filterMap_append, hlast, List.reverse_append, ← log]
  cases c.entry? <;> rfl

/-- One call more counts for its action, if it has one. -/
theorem count_concat (calls : List Call) (c : Call) (action : Text) :
    count (calls ++ [c]) action =
      count calls action + if c.counted? = some action then 1 else 0 := by
  have hlast : ([c].filterMap Call.counted?).count action =
      if c.counted? = some action then 1 else 0 := by
    rw [List.filterMap_cons]
    cases c.counted? with
    | none => rfl
    | some a =>
      show List.count action [a] = _
      rw [List.count_singleton]
      simp only [beq_iff_eq, Option.some.injEq]
  rw [count, List.filterMap_append, List.count_append, hlast, ← count]

/-- Only calls for unknown actions are turned down. -/
theorem Call.exists_of_answer_eq_error {before : List Call} {c : Call} {f : Fault}
    (h : c.answer before = .error f) :
    ∃ action, c.action? = some action ∧ action ∉ Action.names := by
  cases c with
  | add r | record r =>
    rw [Call.answer] at h
    split at h
    · cases h
    · next hunknown => exact ⟨r.action, rfl, hunknown⟩
  | increment action =>
    rw [Call.answer] at h
    split at h
    · cases h
    · next hunknown => exact ⟨action, rfl, hunknown⟩
  | init => cases h

/-! ## The view -/

variable {m : Nat} {l : List Entry} {n : Text → Nat} {s : Store} {r : Report} {action : Text}

/-- The store keeps what it can of a log, and counts. -/
structure Represents (m : Nat) (l : List Entry) (n : Text → Nat) (s : Store) : Prop where
  capacity : s.capacity = m
  ordered : s.clips.Ordered
  entries : s.clips.entries = l.take m
  tallied : Counts.Tallied s.counts n

/-- A fresh store represents a log without calls. -/
theorem represents_fresh (m : Nat) : Represents m (log []) (count []) (fresh m) where
  capacity := rfl
  ordered := Clips.ordered_empty
  entries := List.take_nil.symm
  tallied := Counts.tallied_empty

/-- Trimmed after each entry, the clips are the newest of all that ever were. -/
theorem Represents.insert (h : Represents m l n s) (e : Entry) :
    Represents m (e :: l) n { s with clips := (s.clips.insert e).trim s.capacity } where
  capacity := h.capacity
  ordered := (h.ordered.insert e).trim _
  entries := by
    rw [(h.ordered.insert e).entries_trim, h.capacity, firsts_natCast, Clips.entries_insert,
      h.entries]
    -- what was cut off before would be cut off now
    cases m with
    | zero => rfl
    | succ m =>
      rw [List.take_succ_cons, List.take_succ_cons, List.take_take,
        Nat.min_eq_left (Nat.le_succ m)]
  tallied := h.tallied

/-- Counting an action is represented by one more for it. -/
theorem Represents.bump (h : Represents m l n s) (hknown : action ∈ Action.names) :
    Represents m l (fun a => n a + if action = a then 1 else 0)
      { s with counts := Counts.bump action s.counts } where
  capacity := h.capacity
  ordered := h.ordered
  entries := h.entries
  tallied := h.tallied.bump hknown

/-- The history is the first entries of the log that are kept. -/
theorem Represents.history?_eq (h : Represents m l n s) {limit : Int} (hlimit : fits limit = true) :
    s.history? limit = .ok (firsts limit (l.take m)) := by
  rw [history?, if_pos hlimit, history, h.ordered.map_newest, h.entries]

theorem Represents.stats_eq (h : Represents m l n s) :
    s.stats = Action.names.map fun action => (action, n action) :=
  h.tallied.ofAll

/-! ## One call -/

theorem checkAction_of_mem (h : action ∈ Action.names) : checkAction action = .ok () :=
  if_pos h

theorem checkAction_of_not_mem (h : action ∉ Action.names) :
    checkAction action = .error (.unknownAction action) :=
  if_neg h

/-- A call for an unknown action is turned down, and changes nothing. -/
theorem perform_of_not_mem {c : Call} (s : Store) (hc : c.action? = some action)
    (h : action ∉ Action.names) : s.perform c = (.error (.unknownAction action), s) := by
  have hcheck := checkAction_of_not_mem h
  cases c with
  | add r =>
    obtain rfl := Option.some.inj hc
    rw [perform, add, hcheck]
    rfl
  | record r =>
    obtain rfl := Option.some.inj hc
    rw [perform, record, increment, hcheck]
    rfl
  | increment a =>
    obtain rfl := Option.some.inj hc
    rw [perform, increment, hcheck]
    rfl
  | init => cases hc

/-- An entry of a known action is added to the table. -/
theorem Represents.add_eq (h : Represents m l n s) (hm : fits m = true)
    (hknown : r.action ∈ Action.names) :
    s.add r.time r.action r.details =
      (.ok r.entry, { s with clips := (s.clips.insert r.entry).trim s.capacity }) := by
  have hfits : fits s.capacity = true := h.capacity ▸ hm
  rw [add, checkAction_of_mem hknown]
  exact if_pos hfits

/-- The count that is read back is the one just written. -/
theorem Represents.increment_eq (h : Represents m l n s) (hknown : action ∈ Action.names) :
    s.increment action =
      (.ok (n action + 1), { s with counts := Counts.bump action s.counts }) := by
  rw [increment, checkAction_of_mem hknown]
  simp only [h.tallied.get?_bump]

/-- What is recorded is counted first, and known by then, so that its entry is not turned down. -/
theorem Represents.record (h : Represents m l n s) (hm : fits m = true)
    (hknown : r.action ∈ Action.names) :
    (s.record r.time r.action r.details).1 = .ok r.entry ∧
      Represents m (r.entry :: l) (fun a => n a + if r.action = a then 1 else 0)
        (s.record r.time r.action r.details).2 := by
  have hbump := h.bump hknown
  rw [Store.record, h.increment_eq hknown]
  simp only [hbump.add_eq hm hknown]
  exact ⟨trivial, hbump.insert r.entry⟩

/-- Making the tables that are missing makes none. -/
theorem init_eq (s : Store) : s.init = s := rfl

/-- **One call** answers as the calls before it ask for, and keeps the view. -/
theorem Represents.perform {calls : List Call} (h : Represents m (log calls) (count calls) s)
    (hm : fits m = true) (c : Call) :
    (s.perform c).1 = c.answer calls ∧
      Represents m (log (calls ++ [c])) (count (calls ++ [c])) (s.perform c).2 := by
  -- one more call adds to the log and to the counts what it says of itself
  have hcount : count (calls ++ [c]) =
      fun a => count calls a + if c.counted? = some a then 1 else 0 :=
    funext (count_concat calls c)
  rw [log_concat, hcount]
  cases c with
  | add r =>
    by_cases hknown : r.action ∈ Action.names
    · rw [Store.perform, h.add_eq hm hknown, Call.answer, Call.entry?, if_pos hknown,
        if_pos hknown]
      exact ⟨rfl, h.insert r.entry⟩
    · rw [perform_of_not_mem s rfl hknown, Call.answer, Call.entry?, if_neg hknown, if_neg hknown]
      exact ⟨rfl, h⟩
  | record r =>
    by_cases hknown : r.action ∈ Action.names
    · obtain ⟨hentry, hview⟩ := h.record hm hknown
      rw [Store.perform, hentry, Call.answer, Call.entry?, Call.counted?, if_pos hknown,
        if_pos hknown, if_pos hknown]
      simp only [Option.some.injEq]
      exact ⟨rfl, hview⟩
    · rw [perform_of_not_mem s rfl hknown, Call.answer, Call.entry?, Call.counted?,
        if_neg hknown, if_neg hknown, if_neg hknown]
      exact ⟨rfl, h⟩
  | increment action =>
    by_cases hknown : action ∈ Action.names
    · rw [Store.perform, h.increment_eq hknown, Call.answer, Call.counted?, if_pos hknown,
        if_pos hknown]
      simp only [Option.some.injEq]
      exact ⟨rfl, h.bump hknown⟩
    · rw [perform_of_not_mem s rfl hknown, Call.answer, Call.counted?, if_neg hknown,
        if_neg hknown]
      exact ⟨rfl, h⟩
  | init => exact ⟨rfl, h⟩

/-- What fails changes nothing: what is unknown is found out before anything is written. -/
theorem Represents.perform_eq_self {calls : List Call} {c : Call}
    (h : Represents m (log calls) (count calls) s) (hm : fits m = true)
    (hc : (∃ f, (s.perform c).1 = .error f) ∨ c = .init) : (s.perform c).2 = s := by
  rcases hc with ⟨f, hf⟩ | rfl
  · -- the reply tells that the action is unknown
    rw [(h.perform hm c).1] at hf
    obtain ⟨action, haction, hunknown⟩ := Call.exists_of_answer_eq_error hf
    rw [perform_of_not_mem s haction hunknown]
  · exact init_eq s

/-! ## Runs -/

/-- **A run of calls** answers as one call does after the other, and keeps the view. -/
theorem Represents.run {before : List Call} (h : Represents m (log before) (count before) s)
    (hm : fits m = true) (calls : List Call) :
    (s.run calls).1 = calls.mapIdx (fun i c => c.answer (before ++ calls.take i)) ∧
      Represents m (log (before ++ calls)) (count (before ++ calls)) (s.run calls).2 := by
  -- the calls made before grow by each call of the run
  induction calls generalizing before s with
  | nil =>
    rw [List.append_nil]
    exact ⟨rfl, h⟩
  | cons c calls ih =>
    obtain ⟨hreply, hnext⟩ := h.perform hm c
    obtain ⟨hreplies, hlast⟩ := ih hnext
    constructor
    · rw [Store.run, hreply, hreplies, List.mapIdx_cons]
      simp only [List.take_zero, List.append_nil, List.take_succ_cons, List.append_assoc,
        List.singleton_append]
    · rw [List.append_cons]
      exact hlast

/-- **A store is a log with counters.**  After any run of calls on a fresh store, where the
capacity and the limit are numbers that a database can be given, every reply is as the calls before
ask for; what is read from the store is the log, cut to the capacity and then to the limit, and the
count of every action; and a call that fails, or that makes the tables again, leaves the store as
it is. -/
theorem run_eq_log (hm : fits m = true) (calls : List Call) :
    let s := ((fresh m).run calls).2
    ((fresh m).run calls).1 = calls.mapIdx (fun i c => c.answer (calls.take i)) ∧
      (∀ limit, fits limit = true → s.history? limit = .ok (firsts limit ((log calls).take m))) ∧
      s.stats = Action.names.map (fun action => (action, count calls action)) ∧
      ∀ c, ((∃ f, (s.perform c).1 = .error f) ∨ c = .init) → (s.perform c).2 = s := by
  intro s
  obtain ⟨hreplies, hview⟩ := (represents_fresh m).run hm calls
  exact ⟨hreplies, fun _ hlimit => hview.history?_eq hlimit, hview.stats_eq,
    fun _ hc => hview.perform_eq_self hm hc⟩

/-- Of three clips one is for an unknown action; one is kept, and two were counted. -/
theorem run_eq_log_shared :
    let shared (url : Text) : Report := { time := [], action := "share".toList, url }
    let printed : Report := { time := [], action := "print".toList, url := ['c'] }
    let s := ((fresh 1).run [.record (shared ['a']), .record printed, .record (shared ['b'])]).2
    fits 1 = true ∧ fits 5 = true ∧ s.history? 5 = .ok [(shared ['b']).entry] ∧
      s.stats = [("addToObsidian".toList, 0), ("saveFile".toList, 0),
        ("copyToClipboard".toList, 0), ("share".toList, 2)] := by
  intro shared printed s
  have hcapacity : fits (1 : Nat) = true := by decide
  have hlimit : fits 5 = true := by decide
  obtain ⟨-, hhistory, hstats, -⟩ :=
    run_eq_log hcapacity [.record (shared ['a']), .record printed, .record (shared ['b'])]
  exact ⟨hcapacity, hlimit, hhistory 5 hlimit, hstats⟩

/-- **Numbers that a database cannot be given break the view**: a limit cannot be read with, and a
capacity turns every entry down. -/
theorem log_limits :
    (¬∀ (m : Nat) calls limit, ((fresh m).run calls).2.history? limit =
      .ok (firsts limit ((log calls).take m))) ∧
    ¬∀ (m : Nat) calls, ((fresh m).run calls).1 =
      calls.mapIdx fun i c => c.answer (calls.take i) := by
  constructor
  · intro h
    cases h 1000 [] (2 ^ 63)
  · intro h
    have hreplies := h (2 ^ 63) [.add { time := [], action := "share".toList, url := ['u'] }]
    cases List.cons.inj hreplies |>.1

end Store

end Clipbook
