import Clipbook.Outcome
import Clipbook.Value.Printer

/-!
# Clipbook — flat schema data

Every value of schema data gets a variable `{{schema:path}}` of its own, in document order: a
scalar its text, a list and an object their JSON.  An element of a list that stands at the root or
in another list starts its path anew, with its type, once for each type it has, or else with its
index.
-/

namespace Clipbook.Schema

def variableName (path : Text) : Text :=
  "\x7b\x7bschema:".toList ++ path ++ ['\x7d', '\x7d']

def typeKey : Text := "@type".toList

/-- The types of an element of a list. -/
def typesOf : Value → List Value
  | .obj members =>
    match (Table.get? typeKey members).getD .null with
    | .arr types => types
    | type => if type.isNothing then [] else [type]
  | _ => []

/-! ## Weights -/

mutual

/-- A bound on the number of tasks that a visit leads to. -/
def weight : Value → Nat
  | .arr items => itemsWeight items + 1
  | .obj members => membersWeight members + 2
  | _ => 1

def itemsWeight : List Value → Nat
  | [] => 0
  | v :: vs => max 1 (typesOf v).length * weight v + itemsWeight vs

def membersWeight : List (Text × Value) → Nat
  | [] => 0
  | (_, v) :: ms => weight v + membersWeight ms

end

/-! ## Tasks -/

/-- What is left to do: to visit a value, or to write the text of a variable, which is missing
where the value is nested too deeply to be written. -/
inductive Task where
  | visit (v : Value) (path : Text)
  | entry (path : Text) (text : Option Text)

namespace Task

def weight : Task → Nat
  | visit v _ => Schema.weight v
  | entry .. => 1

def weights (tasks : List Task) : Nat :=
  tasks.foldr (fun task n => task.weight + n) 0

def entryOf (path : Text) (v : Value) : Task :=
  entry path v.json?.toOption

def bracketed (index : Nat) : Text :=
  '[' :: Text.ofNat index ++ [']']

/-- The visits of an element of a list without a path of its own. -/
def ofElement (index : Nat) (v : Value) : List Task :=
  match typesOf v with
  | [] => [visit v (bracketed index ++ [':'])]
  | types => types.map fun type => visit v ('@' :: type.shown ++ [':'])

def ofElements (index : Nat) : List Value → List Task
  | [] => []
  | v :: vs => ofElement index v ++ ofElements (index + 1) vs

/-- The visits of the elements of a list with a path. -/
def ofItems (path : Text) (index : Nat) : List Value → List Task
  | [] => []
  | v :: vs => visit v (path ++ bracketed index ++ ['.']) :: ofItems path (index + 1) vs

def ofMember (path key : Text) (v : Value) : List Task :=
  -- types are labels, not variables
  if key = typeKey then []
  else
    let here := path ++ key
    match v with
    | .null => []
    -- the list itself is one variable, and its items have theirs
    | .arr items => entryOf here (.arr items) :: ofItems here 0 items
    | .obj members => [visit (.obj members) (here ++ ['.'])]
    | v => [entry here (some v.shown)]

def ofMembers (path : Text) : List (Text × Value) → List Task
  | [] => []
  | (key, v) :: ms => ofMember path key v ++ ofMembers path ms

/-- The path of an object without the point that leads to its members. -/
def objectPath (path : Text) : Text :=
  (Text.before? ['.'] path).getD path

/-- What a visit leads to, in order. -/
def ofVisit (v : Value) (path : Text) : List Task :=
  match v with
  | .arr items => ofElements 0 items
  | .obj members => entryOf (objectPath path) (.obj members) :: ofMembers path members
  | _ => []

/-! ## Weights of tasks -/

theorem weights_cons (a : Task) (t : List Task) : weights (a :: t) = a.weight + weights t := rfl

/-- The weight of tasks is the sum of their weights. -/
theorem weights_append (s t : List Task) : weights (s ++ t) = weights s + weights t := by
  induction s with
  | nil => exact (Nat.zero_add _).symm
  | cons a s ih => rw [List.cons_append, weights_cons, weights_cons, ih, Nat.add_assoc]

/-- A value that is visited once for each type weighs as many times as much. -/
theorem weights_visits (v : Value) (types : List Value) (path : Value → Text) :
    weights (types.map fun type => visit v (path type)) = types.length * Schema.weight v := by
  induction types with
  | nil => simp [weights]
  | cons a as ih => simp [weights_cons, ih, weight, Nat.add_mul, Nat.add_comm]

theorem weights_ofElement (index : Nat) (v : Value) :
    weights (ofElement index v) = max 1 (typesOf v).length * Schema.weight v := by
  unfold ofElement
  split
  · next h => simp [h, weights, weight]
  · next h =>
    rw [weights_visits]
    have : 1 ≤ (typesOf v).length := List.length_pos_iff.2 h
    rw [Nat.max_eq_right this]

theorem weights_ofElements (index : Nat) (vs : List Value) :
    weights (ofElements index vs) = itemsWeight vs := by
  induction vs generalizing index with
  | nil => simp [ofElements, weights, itemsWeight]
  | cons v vs ih => simp [ofElements, weights_append, weights_ofElement, ih, itemsWeight]

/-- Items weigh no more than the list they are of. -/
theorem weights_ofItems (path : Text) (index : Nat) (vs : List Value) :
    weights (ofItems path index vs) ≤ itemsWeight vs := by
  induction vs generalizing index with
  | nil => simp [ofItems, weights, itemsWeight]
  | cons v vs ih =>
    have h := ih (index + 1)
    have : Schema.weight v ≤ max 1 (typesOf v).length * Schema.weight v :=
      Nat.le_mul_of_pos_left _ (by omega)
    simp only [ofItems, weights_cons, weight, itemsWeight]
    omega

theorem weights_ofMember (path key : Text) (v : Value) :
    weights (ofMember path key v) ≤ Schema.weight v := by
  unfold ofMember
  split
  · simp [weights]
  · split
    · simp [weights]
    · next items =>
      have := weights_ofItems (path ++ key) 0 items
      simp only [weights_cons, entryOf, weight, Schema.weight]
      omega
    · simp [weights, weight]
    · next v h₁ h₂ h₃ =>
      cases v <;> simp_all [weights, weight, Schema.weight]

/-- Members weigh no more than the object they are of. -/
theorem weights_ofMembers (path : Text) (ms : List (Text × Value)) :
    weights (ofMembers path ms) ≤ membersWeight ms := by
  induction ms with
  | nil => simp [ofMembers, weights]
  | cons m ms ih =>
    have := weights_ofMember path m.1 m.2
    simp only [ofMembers, weights_append, membersWeight]
    omega

/-- A visit leads to less than it weighs. -/
theorem weights_ofVisit (v : Value) (path : Text) :
    weights (ofVisit v path) < Schema.weight v := by
  cases v with
  | arr items => simp [ofVisit, weights_ofElements, Schema.weight]
  | obj members =>
    have := weights_ofMembers path members
    simp only [ofVisit, weights_cons, entryOf, weight, Schema.weight]
    omega
  | _ => simp [ofVisit, weights, Schema.weight]

/-! ## Running -/

/-- The entries that tasks lead to, in order. -/
def run : List Task → List (Text × Option Text)
  | [] => []
  | entry path t :: tasks => (path, t) :: run tasks
  | visit v path :: tasks => run (ofVisit v path ++ tasks)
  termination_by tasks => weights tasks
  decreasing_by
    · simp only [weights_cons, weight]; omega
    · have := weights_ofVisit v path
      simp only [weights_append, weights_cons, weight]
      omega

end Task

/-- The variable of an entry that has a text. -/
def written? (e : Text × Option Text) : Option (Text × Text) :=
  e.2.map fun t => (variableName e.1, t)

/-- The given variables with those of schema data, whose paths start with `start`. -/
def flatten (words : Table Text) (start : Text) (v : Value) : Outcome (Table Text) := do
  let entries := Task.run [.visit v start]
  let skipped := entries.countP (·.2.isNone)
  if 0 < skipped then Outcome.warn (.skippedDeepValues skipped)
  return words.extend (entries.filterMap written?)

end Clipbook.Schema
