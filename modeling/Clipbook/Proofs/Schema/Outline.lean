import Clipbook.Proofs.Table
import Clipbook.Schema.Flattening
import Mathlib.Logic.Function.Iterate

/-!
# Clipbook — the outline of schema data

The outline of a value is what a recursion through it comes to: each object before its members and
each list before its items, with the path of each.  The flat variables are made without recursion,
from a stack of tasks.  A task on the stack leads to the entries of its outline and leaves the tasks
below it alone, so that the entries come in the order of the outline, and of several texts for
one variable the last one wins either way.

Main results:

* `Task.run_visit` — a visit on top of the stack gives the entries of the outline.
* `Task.iterate_turn` — the stack is empty after as many turns as its tasks weigh.
* `flatten_result` — the variables are those of the outline, less what is nested too deeply.
* `flatten_eq_outline` — all of it together, with what becomes of the variables given before.
-/

namespace Clipbook.Schema

variable {v : Value} {path start : Text} {words : Table Text}

/-! ## Outlines -/

/-- The paths of an element of a list: one for each of its types, or else its index. -/
def elementPaths (index : Nat) (v : Value) : List Text :=
  if typesOf v = [] then ['[' :: Text.ofNat index ++ [']', ':']]
  else (typesOf v).map fun type => '@' :: type.shown ++ [':']

mutual

/-- The entries of a value that is reached by a path, as paths and values, in document order. -/
def outline : Value → (path : Text) → List (Text × Value)
  | .arr items, _ => outlineElements 0 items
  | .obj members, path => (Task.objectPath path, .obj members) :: outlineMembers path members
  | _, _ => []

def outlineElements (index : Nat) : List Value → List (Text × Value)
  | [] => []
  | v :: vs =>
    ((elementPaths index v).flatMap fun path => outline v path) ++ outlineElements (index + 1) vs

def outlineItems (path : Text) (index : Nat) : List Value → List (Text × Value)
  | [] => []
  | v :: vs =>
    outline v (path ++ '[' :: Text.ofNat index ++ [']', '.']) ++ outlineItems path (index + 1) vs

def outlineMembers (path : Text) : List (Text × Value) → List (Text × Value)
  | [] => []
  | (key, v) :: ms =>
    (if key = typeKey then []
     else
      match v with
      | .null => []
      | .arr items => (path ++ key, .arr items) :: outlineItems (path ++ key) 0 items
      | .obj members => outline (.obj members) (path ++ key ++ ['.'])
      | v => [(path ++ key, v)]) ++ outlineMembers path ms

end

/-- The entries of a member that is not null and has the given path. -/
def outlineMember (here : Text) (v : Value) : List (Text × Value) :=
  match v with
  | .null => []
  | .arr items => (here, .arr items) :: outlineItems here 0 items
  | .obj members => outline (.obj members) (here ++ ['.'])
  | v => [(here, v)]

theorem outlineMembers_cons (path key : Text) (v : Value) (ms : List (Text × Value)) :
    outlineMembers path ((key, v) :: ms) =
      (if key = typeKey then [] else outlineMember (path ++ key) v) ++ outlineMembers path ms := by
  -- what a member has in the outline depends on its kind
  cases v with
  | null | arr _ | obj _ => rw [outlineMembers]; rfl
  | _ =>
    rw [outlineMembers]
    · rfl
    -- it is none of the other three
    all_goals nofun

/-! ## Entries -/

/-- The outline of elements, by their indexes and labels. -/
theorem mem_outlineElements {e : Text × Value} {index : Nat} {vs : List Value} :
    e ∈ outlineElements index vs ↔
      ∃ i v, vs[i]? = some v ∧ ∃ path ∈ elementPaths (index + i) v, e ∈ outline v path := by
  induction vs generalizing index with
  | nil => simp [outlineElements]
  | cons v vs ih =>
    rw [outlineElements, List.mem_append, List.mem_flatMap, ih]
    constructor
    · rintro (h | ⟨i, w, hw, h⟩)
      · exact ⟨0, v, rfl, h⟩
      · exact ⟨i + 1, w, hw, by rwa [Nat.add_assoc, Nat.add_comm 1] at h⟩
    · rintro ⟨i | i, w, hw, h⟩
      · obtain rfl := Option.some.inj hw
        exact .inl h
      · exact .inr ⟨i, w, hw, by rwa [Nat.add_assoc, Nat.add_comm 1]⟩

theorem mem_outlineItems {e : Text × Value} {index : Nat} {vs : List Value} :
    e ∈ outlineItems path index vs ↔
      ∃ i v, vs[i]? = some v ∧ e ∈ outline v (path ++ Task.bracketed (index + i) ++ ['.']) := by
  induction vs generalizing index with
  | nil => simp [outlineItems]
  | cons v vs ih =>
    have hpath : path ++ '[' :: Text.ofNat index ++ [']', '.'] =
        path ++ Task.bracketed index ++ ['.'] := by
      simp [Task.bracketed]
    rw [outlineItems, List.mem_append, ih, hpath]
    constructor
    · rintro (h | ⟨i, w, hw, h⟩)
      · exact ⟨0, v, rfl, h⟩
      · exact ⟨i + 1, w, hw, by rwa [Nat.add_assoc, Nat.add_comm 1] at h⟩
    · rintro ⟨i | i, w, hw, h⟩
      · obtain rfl := Option.some.inj hw
        exact .inl h
      · exact .inr ⟨i, w, hw, by rwa [Nat.add_assoc, Nat.add_comm 1]⟩

/-- The outline of members, by their keys; that of the type is passed over. -/
theorem mem_outlineMembers {e : Text × Value} {ms : List (Text × Value)} :
    e ∈ outlineMembers path ms ↔
      ∃ key v, (key, v) ∈ ms ∧ key ≠ typeKey ∧ e ∈ outlineMember (path ++ key) v := by
  induction ms with
  | nil => simp [outlineMembers]
  | cons m ms ih =>
    obtain ⟨key, v⟩ := m
    rw [outlineMembers_cons, List.mem_append, ih, Table.exists_mem_cons_iff]
    refine or_congr_left ?_
    split
    · next hkey => exact iff_of_false List.not_mem_nil fun h => h.1 hkey
    · next hkey => exact (and_iff_right hkey).symm

/-! ## Depths -/

mutual

/-- Nothing in an outline is nested deeper than its value. -/
theorem depth_le_of_mem_outline : (v : Value) → ∀ path, ∀ e ∈ outline v path, e.2.depth ≤ v.depth
  | .arr items, path, e, h => by
    rw [outline] at h
    rw [Value.depth]
    exact Nat.le_succ_of_le (depth_le_of_mem_outlineElements items 0 e h)
  | .obj members, path, e, h => by
    rw [outline] at h
    -- the list itself is an entry, and its items are less deep
    rcases List.mem_cons.mp h with rfl | h
    · exact Nat.le_refl _
    · rw [Value.depth]
      exact Nat.le_succ_of_le (depth_le_of_mem_outlineMembers members path e h)
  | .null, _, _, h | .bool _, _, _, h | .int _, _, _, h | .float _, _, _, h | .str _, _, _, h => by
    simp [outline] at h

/-- Nothing in the outline of elements is nested deeper than they are. -/
theorem depth_le_of_mem_outlineElements : (vs : List Value) → ∀ index,
    ∀ e ∈ outlineElements index vs, e.2.depth ≤ Value.itemsDepth vs
  | [], _, _, h => by cases h
  | v :: vs, index, e, h => by
    rw [outlineElements, List.mem_append, List.mem_flatMap] at h
    rw [Value.itemsDepth]
    rcases h with ⟨path, -, h⟩ | h
    · exact Nat.le_trans (depth_le_of_mem_outline v path e h) (Nat.le_max_left ..)
    · exact Nat.le_trans (depth_le_of_mem_outlineElements vs _ e h) (Nat.le_max_right ..)

/-- Nothing in the outline of items is nested deeper than they are. -/
theorem depth_le_of_mem_outlineItems : (vs : List Value) → ∀ path index,
    ∀ e ∈ outlineItems path index vs, e.2.depth ≤ Value.itemsDepth vs
  | [], _, _, _, h => by cases h
  | v :: vs, path, index, e, h => by
    rw [outlineItems, List.mem_append] at h
    rw [Value.itemsDepth]
    rcases h with h | h
    · exact Nat.le_trans (depth_le_of_mem_outline v _ e h) (Nat.le_max_left ..)
    · exact Nat.le_trans (depth_le_of_mem_outlineItems vs path _ e h) (Nat.le_max_right ..)

/-- Nothing in the outline of members is nested deeper than they are. -/
theorem depth_le_of_mem_outlineMembers : (ms : List (Text × Value)) → ∀ path,
    ∀ e ∈ outlineMembers path ms, e.2.depth ≤ Value.membersDepth ms
  | [], _, _, h => by cases h
  | (key, v) :: ms, path, e, h => by
    rw [outlineMembers_cons, List.mem_append] at h
    rw [Value.membersDepth]
    rcases h with h | h
    · refine Nat.le_trans ?_ (Nat.le_max_left ..)
      split at h
      · cases h
      · cases v with
        | null => cases h
        | arr items =>
          rcases List.mem_cons.mp h with rfl | h
          · exact Nat.le_refl _
          · rw [Value.depth]
            exact Nat.le_succ_of_le (depth_le_of_mem_outlineItems items _ _ e h)
        | obj members => exact depth_le_of_mem_outline (.obj members) _ e h
        | _ =>
          obtain rfl := List.mem_singleton.mp h
          exact Nat.le_refl _
    · exact Nat.le_trans (depth_le_of_mem_outlineMembers ms path e h) (Nat.le_max_right ..)

end

/-- In a value that is not too deep nothing is. -/
theorem tooDeep_of_mem_outline (h : v.tooDeep = false) {e : Text × Value}
    (hmem : e ∈ outline v path) : e.2.tooDeep = false := by
  have hdepth := depth_le_of_mem_outline v path e hmem
  simp only [Value.tooDeep, decide_eq_false_iff_not, Nat.not_lt] at h ⊢
  exact Nat.le_trans hdepth h

namespace Task

/-! ## Entries of tasks -/

/-- The entry for a value; one that is nested too deeply has no text. -/
def entryAt (e : Text × Value) : Text × Option Text :=
  (e.1, e.2.text.toOption)

/-- An element is visited once under each of its labels. -/
theorem ofElement_eq_map (index : Nat) (v : Value) :
    ofElement index v = (elementPaths index v).map (visit v) := by
  unfold ofElement elementPaths
  split
  · next h => rw [if_pos h, bracketed, List.append_assoc]; rfl
  · next h => rw [if_neg h, List.map_map]; rfl

/-- Visits of one value come to its outline again and again. -/
theorem run_visits (h : ∀ path tasks,
      run (visit v path :: tasks) = (outline v path).map entryAt ++ run tasks)
    (paths : List Text) (tasks : List Task) :
    run (paths.map (visit v) ++ tasks) =
      (paths.flatMap fun path => outline v path).map entryAt ++ run tasks := by
  induction paths with
  | nil => rfl
  | cons path paths ih =>
    rw [List.map_cons, List.cons_append, h, ih, List.flatMap_cons, List.map_append,
      List.append_assoc]

mutual

/-- **A visit on top of the stack gives the entries of the outline** and leaves the other tasks
as they are. -/
theorem run_visit : (v : Value) → ∀ path tasks,
    run (visit v path :: tasks) = (outline v path).map entryAt ++ run tasks
  | .arr items, path, tasks => by
    rw [run, ofVisit, run_ofElements, outline]
  | .obj members, path, tasks => by
    rw [run, ofVisit, List.cons_append, entryOf, run, run_ofMembers, outline, List.map_cons]
    rfl
  | .null, _, _ | .bool _, _, _ | .int _, _, _ | .float _, _, _ | .str _, _, _ => by
    rw [run, ofVisit, outline]
    · rfl
    all_goals nofun

/-- The tasks of elements write their outline, and then what is left is done. -/
theorem run_ofElements : (vs : List Value) → ∀ index tasks,
    run (ofElements index vs ++ tasks) = (outlineElements index vs).map entryAt ++ run tasks
  | [], _, _ => rfl
  | v :: vs, index, tasks => by
    rw [ofElements, List.append_assoc, ofElement_eq_map, run_visits (run_visit v),
      run_ofElements vs, outlineElements, List.map_append, List.append_assoc]

/-- The tasks of items write their outline, and then what is left is done. -/
theorem run_ofItems : (vs : List Value) → ∀ path index tasks,
    run (ofItems path index vs ++ tasks) = (outlineItems path index vs).map entryAt ++ run tasks
  | [], _, _, _ => rfl
  | v :: vs, path, index, tasks => by
    rw [ofItems, List.cons_append, run_visit v, run_ofItems vs, outlineItems, List.map_append,
      List.append_assoc, bracketed]
    simp only [List.append_assoc, List.cons_append, List.nil_append]

/-- The tasks of members write their outline, and then what is left is done. -/
theorem run_ofMembers : (ms : List (Text × Value)) → ∀ path tasks,
    run (ofMembers path ms ++ tasks) = (outlineMembers path ms).map entryAt ++ run tasks
  | [], _, _ => rfl
  | (key, v) :: ms, path, tasks => by
    rw [ofMembers, List.append_assoc, outlineMembers_cons, List.map_append, List.append_assoc,
      ← run_ofMembers ms, ofMember]
    by_cases hkey : key = typeKey
    · rw [if_pos hkey, if_pos hkey]
      rfl
    · rw [if_neg hkey, if_neg hkey]
      cases v with
      | null => rfl
      | arr items =>
        show run (entryOf _ _ :: (ofItems _ 0 items ++ _)) = _
        rw [entryOf, run, run_ofItems items]
        rfl
      | obj members => exact run_visit (.obj members) _ _
      | _ =>
        show run (entry _ _ :: _) = _
        rw [run]
        rfl

end

/-! ## Turns -/

/-- One turn of the work on a stack: the task on top is done.  Its entry comes to those done before,
or what its visit leads to comes on top of the other tasks. -/
def turn : List Task × List (Text × Option Text) → List Task × List (Text × Option Text)
  | ([], done) => ([], done)
  | (entry path t :: tasks, done) => (tasks, done ++ [(path, t)])
  | (visit v path :: tasks, done) => (ofVisit v path ++ tasks, done)

/-- **The stack is empty after as many turns as its tasks weigh**, for every turn takes weight
away. -/
theorem iterate_turn {turns : Nat} {tasks : List Task} (h : weights tasks ≤ turns)
    (done : List (Text × Option Text)) : turn^[turns] (tasks, done) = ([], done ++ run tasks) := by
  induction turns generalizing tasks done with
  | zero =>
    cases tasks with
    | nil => rw [run, List.append_nil]; rfl
    | cons task tasks =>
      -- a task has a weight
      have hweight : 1 ≤ task.weight := by
        cases task with
        | visit v path => exact Nat.lt_of_le_of_lt (Nat.zero_le _) (weights_ofVisit v path)
        | entry path t => exact Nat.le_refl _
      rw [weights_cons] at h
      omega
  | succ turns ih =>
    rw [Function.iterate_succ_apply]
    match tasks with
    | [] => exact ih (Nat.zero_le _) done
    | entry path t :: tasks =>
      rw [weights_cons, weight] at h
      rw [turn, ih (by omega), run, List.append_assoc]
      rfl
    | visit v path :: tasks =>
      have hless := weights_ofVisit v path
      rw [weights_cons, weight] at h
      rw [turn, ih (by rw [weights_append]; omega), run]

end Task

/-! ## Variables -/

/-- The variables of entries; one that is nested too deeply has none. -/
def writes (entries : List (Text × Value)) : Table Text :=
  (entries.filter fun e => !e.2.tooDeep).map fun e => (variableName e.1, e.2.shown)

theorem filterMap_written? (entries : List (Text × Value)) :
    (entries.map Task.entryAt).filterMap written? = writes entries := by
  induction entries with
  | nil => rfl
  | cons e entries ih =>
    rw [List.map_cons, List.filterMap_cons, ih, Task.entryAt, written?, Value.text, writes, writes,
      List.filter_cons]
    cases e.2.tooDeep <;> rfl

/-- An entry warns if its value is nested too deeply. -/
theorem countP_entryAt (entries : List (Text × Value)) :
    (entries.map Task.entryAt).countP (·.2.isNone) = entries.countP (·.2.tooDeep) := by
  rw [List.countP_map]
  congr 1
  funext e
  show e.2.text.toOption.isNone = _
  rw [Value.text]
  cases e.2.tooDeep <;> rfl

/-- The variables are those of the outline, and what is nested too deeply is counted. -/
theorem flatten_eq (words : Table Text) (start : Text) (v : Value) :
    flatten words start v =
      ⟨.ok (words.extend (writes (outline v start))),
        if 0 < (outline v start).countP (·.2.tooDeep) then
          [.skippedDeepValues ((outline v start).countP (·.2.tooDeep))] else []⟩ := by
  have hrun : Task.run [.visit v start] = (outline v start).map Task.entryAt := by
    rw [Task.run_visit, Task.run, List.append_nil]
  rw [flatten, hrun, filterMap_written?, countP_entryAt]
  split <;> rfl

/-- What is written stands under the variable of a path. -/
theorem exists_eq_variableName {e : Text × Text} {entries : List (Text × Value)}
    (h : e ∈ writes entries) : ∃ path, e.1 = variableName path := by
  obtain ⟨e, -, rfl⟩ := List.mem_map.mp h
  exact ⟨e.1, rfl⟩

/-- In a value that is not too deep every entry is written. -/
theorem writes_outline (h : v.tooDeep = false) :
    writes (outline v start) = (outline v start).map fun e => (variableName e.1, e.2.shown) := by
  rw [writes, List.filter_eq_self.mpr]
  intro e hmem
  rw [tooDeep_of_mem_outline h hmem]
  rfl

/-- **Flattening writes the outline, entry by entry.**  The stack runs empty, for every value;
the variables given before keep their places, and those that are not variables of schema data keep
their texts. -/
theorem flatten_eq_outline (words : Table Text) (start : Text) (v : Value) :
    (v.tooDeep = false → flatten words start v = pure ((outline v start).foldl
      (fun table e => table.put (variableName e.1) e.2.shown) words)) ∧
    Task.turn^[weight v] ([.visit v start], []) = ([], Task.run [.visit v start]) ∧
    ∃ table, (flatten words start v).result = .ok table ∧ words.keys <+: table.keys ∧
      (∀ (i : Nat) key t, words[i]? = some (key, t) → (∀ path, key ≠ variableName path) →
        table[i]? = some (key, t)) ∧
      ∀ key t, (key, t) ∈ table → (key, t) ∈ words ∨ ∃ path, key = variableName path := by
  refine ⟨fun h => ?_, ?_, words.extend (writes (outline v start)), ?_, ?_, ?_, ?_⟩
  -- nothing in the outline is too deep, so nothing is warned of
  · have hnone : (outline v start).countP (·.2.tooDeep) = 0 :=
      List.countP_eq_zero.mpr fun e hmem => by simp [tooDeep_of_mem_outline h hmem]
    rw [flatten_eq, hnone, writes_outline h, Table.extend_eq, List.foldl_map]
    rfl
  -- the weight is a bound on the turns of the loop
  · have hweight : Task.weights [.visit v start] ≤ weight v := Nat.le_refl _
    exact Task.iterate_turn hweight []
  · rw [flatten_eq]
  · exact Table.keys_extend _ _
  · intro i key t hentry hother
    -- all that is written stands under the variable of a path
    refine Table.getElem?_extend hentry fun e hmem => ?_
    obtain ⟨path, hpath⟩ := exists_eq_variableName hmem
    exact hpath ▸ hother path
  · intro key t hmem
    exact (Table.mem_extend hmem).imp id exists_eq_variableName

/-- A key that looks like an index takes the variable of an item that came before it. -/
theorem flatten_eq_outline_collision :
    let item := Value.obj [("b".toList, .int 1)]
    let v := Value.obj [("a".toList, .arr [item]), ("a[0].b".toList, .int 2)]
    v.tooDeep = false ∧ flatten [] [] v = pure
      [(variableName [], v.json), (variableName "a".toList, (Value.arr [item]).json),
       (variableName "a[0]".toList, item.json), (variableName "a[0].b".toList, ['2'])] := by
  intro item v
  have hshallow : v.tooDeep = false := by decide
  refine ⟨hshallow, ?_⟩
  rw [(flatten_eq_outline [] [] v).1 hshallow]
  refine congrArg pure ?_
  decide +kernel

end Clipbook.Schema
