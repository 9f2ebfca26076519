import Clipbook.Text.Basic

/-!
# Clipbook — ordered tables

A table maps texts to values and remembers in which order its keys came.  Writing a key again
changes its value and leaves its place.
-/

namespace Clipbook

abbrev Table (α : Type _) := List (Text × α)

namespace Table

variable {α : Type _}

def get? (key : Text) : Table α → Option α
  | [] => none
  | (k, v) :: t => if Text.same k key then some v else get? key t

def holds (key : Text) (t : Table α) : Bool :=
  (get? key t).isSome

def put (key : Text) (value : α) : Table α → Table α
  | [] => [(key, value)]
  | (k, v) :: t => if Text.same k key then (k, value) :: t else (k, v) :: put key value t

def keys (t : Table α) : List Text :=
  t.map Prod.fst

/-- The table of a list of writes. -/
def ofList (entries : List (Text × α)) : Table α :=
  entries.foldl (fun t e => put e.1 e.2 t) []

/-! ## Entries -/

theorem mem_of_get?_eq_some {key : Text} {t : Table α} {value : α}
    (h : get? key t = some value) : (key, value) ∈ t := by
  induction t with
  | nil => cases h
  | cons e t ih =>
    obtain ⟨k, v⟩ := e
    rw [get?, Text.same_eq] at h
    split at h
    · next hk =>
      rw [of_decide_eq_true hk, Option.some.inj h]
      exact List.mem_cons_self ..
    · exact List.mem_cons_of_mem _ (ih h)

/-- An entry with a property is the first one or one behind it. -/
theorem exists_mem_cons_iff {P : Text → α → Prop} {k : Text} {v : α} {t : Table α} :
    (∃ k' v', (k', v') ∈ (k, v) :: t ∧ P k' v') ↔ P k v ∨ ∃ k' v', (k', v') ∈ t ∧ P k' v' := by
  constructor
  · rintro ⟨k', v', hmem, h⟩
    rcases List.mem_cons.mp hmem with heq | hmem
    · obtain ⟨rfl, rfl⟩ := Prod.mk.inj heq
      exact .inl h
    · exact .inr ⟨k', v', hmem, h⟩
  · rintro (h | ⟨k', v', hmem, h⟩)
    · exact ⟨k, v, List.mem_cons_self .., h⟩
    · exact ⟨k', v', List.mem_cons_of_mem _ hmem, h⟩

/-- All entries have a property if the first one does and those behind it do. -/
theorem forall_mem_cons_iff {P : Text → α → Prop} {k : Text} {v : α} {t : Table α} :
    (∀ k' v', (k', v') ∈ (k, v) :: t → P k' v') ↔ P k v ∧ ∀ k' v', (k', v') ∈ t → P k' v' := by
  constructor
  · intro h
    exact ⟨h k v (List.mem_cons_self ..), fun k' v' hmem => h k' v' (List.mem_cons_of_mem _ hmem)⟩
  · rintro ⟨hfirst, hrest⟩ k' v' hmem
    rcases List.mem_cons.mp hmem with heq | hmem
    · obtain ⟨rfl, rfl⟩ := Prod.mk.inj heq
      exact hfirst
    · exact hrest k' v' hmem

/-! ## Many writes -/

/-- `put` on packed keys, which are compared at once. -/
def putPacked (key : String) (value : α) : List (String × α) → List (String × α)
  | [] => [(key, value)]
  | (k, v) :: t => if k = key then (k, value) :: t else (k, v) :: putPacked key value t

def unpack (t : List (String × α)) : Table α :=
  t.map fun e => (e.1.toList, e.2)

/-- All entries of `more` written after those of `t`. -/
def extend (t more : Table α) : Table α :=
  unpack (more.foldl (fun t e => putPacked (String.ofList e.1) e.2 t)
    (t.map fun e => (String.ofList e.1, e.2)))

theorem unpack_putPacked (key : Text) (value : α) (t : List (String × α)) :
    unpack (putPacked (String.ofList key) value t) = put key value (unpack t) := by
  induction t with
  | nil => simp [putPacked, unpack, put]
  | cons e t ih =>
    have same : e.1 = String.ofList key ↔ e.1.toList = key := by
      constructor
      · intro h; simp [h]
      · intro h; simp [← h]
    by_cases h : e.1.toList = key
    · simp [putPacked, unpack, put, same.2 h]
    · have := mt same.1 h
      simp only [unpack] at ih
      simp [putPacked, unpack, put, this, h, ih]

/-- Writing many entries is writing them one by one. -/
theorem extend_eq (t more : Table α) :
    extend t more = more.foldl (fun t e => put e.1 e.2 t) t := by
  have go (more : Table α) (s : List (String × α)) :
      unpack (more.foldl (fun t e => putPacked (String.ofList e.1) e.2 t) s)
        = more.foldl (fun t e => put e.1 e.2 t) (unpack s) := by
    induction more generalizing s with
    | nil => rfl
    | cons e more ih => simp [ih, unpack_putPacked]
  have unpack_pack : unpack (t.map fun e => (String.ofList e.1, e.2)) = t := by
    induction t with
    | nil => rfl
    | cons e t ih => simp only [unpack] at ih; simp [unpack, ih]
  rw [extend, go, unpack_pack]

/-- The entries ordered by key. -/
def sorted (t : Table α) : Table α :=
  t.mergeSort fun a b => Text.le a.1 b.1

end Table

end Clipbook
