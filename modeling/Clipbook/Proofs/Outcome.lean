import Clipbook.Outcome
import Mathlib.Data.List.Forall2

/-!
# Clipbook — how computations end

A computation in steps ends well if each of its steps does, and otherwise with the fault of the
first one that does not.

Main results:

* `Except.bind_eq_ok_iff`, `Except.bind_eq_error_iff` — the ends of two steps.
* `Except.mapM_eq_ok_iff`, `Except.mapM_eq_error_iff` — the ends of a step for each element of a
  list.
* `Outcome.result_bind_eq_ok_iff`, `Outcome.exists_bind_iff` — two steps with warnings.
* `Outcome.exists_mapList_iff`, `Outcome.mapList_eq_pure` — a step for each element of a list, with
  warnings or without.
-/

namespace Except

variable {ε α β : Type} {x : Except ε α} {f : α → Except ε β} {a : α} {b : β} {e : ε}

theorem error_ne_ok (e : ε) (a : α) : (error e : Except ε α) ≠ ok a := nofun

theorem not_exists_error_eq_ok (e : ε) : ¬∃ a, (error e : Except ε α) = ok a :=
  not_exists_of_forall_not (error_ne_ok e)

/-- That something comes out can be found by evaluation. -/
theorem exists_eq_ok_of_isOk (h : x.isOk = true) : ∃ a, x = .ok a := by
  cases x with
  | ok a => exact ⟨a, rfl⟩
  | error e => cases h

theorem ok_bind (a : α) (f : α → Except ε β) : (ok a : Except ε α) >>= f = f a := rfl

theorem error_bind (e : ε) (f : α → Except ε β) : (error e : Except ε α) >>= f = error e := rfl

/-- Two steps succeed if the first does, and the second with what the first gave. -/
theorem bind_eq_ok_iff : x >>= f = .ok b ↔ ∃ a, x = .ok a ∧ f a = .ok b := by
  cases x with
  | ok a => simp only [ok_bind, Except.ok.injEq, exists_eq_left']
  | error e => simp only [error_bind, reduceCtorEq, false_and, exists_false]

/-- Two steps fail if the first does, or the second with what the first gave. -/
theorem bind_eq_error_iff :
    x >>= f = .error e ↔ x = .error e ∨ ∃ a, x = .ok a ∧ f a = .error e := by
  cases x with
  | ok a => simp only [ok_bind, reduceCtorEq, Except.ok.injEq, exists_eq_left', false_or]
  | error e' => simp only [error_bind, Except.error.injEq, reduceCtorEq, false_and, exists_false,
      or_false]

theorem map_eq_ok_iff {g : α → β} : x.map g = .ok b ↔ ∃ a, x = .ok a ∧ g a = b := by
  cases x with
  | ok a => simp only [Except.map, Except.ok.injEq, exists_eq_left']
  | error e => simp only [Except.map, reduceCtorEq, false_and, exists_false]

/-- Whether something comes out does not depend on what is made of it. -/
theorem exists_map_eq_ok_iff {g : α → β} : (∃ b, x.map g = .ok b) ↔ ∃ a, x = .ok a := by
  cases x with
  | ok a => exact iff_of_true ⟨_, rfl⟩ ⟨a, rfl⟩
  | error e => exact iff_of_false nofun nofun

/-- Nothing but a fault is lost where faults are not told apart. -/
theorem toOption_eq_some_iff : x.toOption = some a ↔ x = .ok a := by
  cases x with
  | ok a => simp only [Except.toOption, Option.some.injEq, Except.ok.injEq]
  | error e => simp only [Except.toOption, reduceCtorEq]

theorem toOption_map_eq_some_iff {g : α → β} :
    x.toOption.map g = some b ↔ ∃ a, x = .ok a ∧ g a = b := by
  cases x with
  | ok a => simp only [Except.toOption, Option.map_some, Option.some.injEq, Except.ok.injEq,
      exists_eq_left']
  | error e => simp only [Except.toOption, Option.map_none, reduceCtorEq, false_and, exists_false]

/-- **A step for each element of a list** ends well if each of them does. -/
theorem mapM_eq_ok_iff {xs : List α} {ys : List β} :
    xs.mapM f = .ok ys ↔ List.Forall₂ (fun x y => f x = .ok y) xs ys := by
  induction xs generalizing ys with
  | nil =>
    rw [List.mapM_nil, List.forall₂_nil_left_iff]
    exact ⟨fun h => (Except.ok.inj h).symm, fun h => congrArg _ h.symm⟩
  | cons x xs ih =>
    rw [List.mapM_cons, bind_eq_ok_iff, List.forall₂_cons_left_iff]
    constructor
    · rintro ⟨y, hy, h⟩
      obtain ⟨ys', hys, h⟩ := bind_eq_ok_iff.mp h
      exact ⟨y, ys', hy, ih.mp hys, (Except.ok.inj h).symm⟩
    · rintro ⟨y, ys', hy, hys, rfl⟩
      exact ⟨y, hy, bind_eq_ok_iff.mpr ⟨ys', ih.mpr hys, rfl⟩⟩

/-- An element of what the steps give comes from one of the list. -/
theorem exists_of_mem_of_mapM_eq_ok {xs : List α} {ys : List β} (h : xs.mapM f = .ok ys) {y : β}
    (hy : y ∈ ys) : ∃ x ∈ xs, f x = .ok y := by
  have hall := mapM_eq_ok_iff.mp h
  induction hall with
  | nil => cases hy
  | cons hhead htail ih =>
    rcases List.mem_cons.mp hy with rfl | hy
    · exact ⟨_, List.mem_cons_self .., hhead⟩
    · obtain ⟨x, hx, heq⟩ := ih (mapM_eq_ok_iff.mpr htail) hy
      exact ⟨x, List.mem_cons_of_mem _ hx, heq⟩

/-- **The steps fail as the first one does** that fails. -/
theorem mapM_eq_error_iff {xs : List α} :
    xs.mapM f = .error e ↔ ∃ before x after, xs = before ++ x :: after ∧
      (∀ y ∈ before, ∃ b, f y = .ok b) ∧ f x = .error e := by
  induction xs with
  | nil =>
    refine iff_of_false nofun ?_
    rintro ⟨before, x, after, heq, -⟩
    exact List.append_ne_nil_of_right_ne_nil before (List.cons_ne_nil x after) heq.symm
  | cons x xs ih =>
    rw [List.mapM_cons, bind_eq_error_iff]
    constructor
    · rintro (hhead | ⟨b, hb, h⟩)
      · exact ⟨[], x, xs, rfl, List.forall_mem_nil _, hhead⟩
      · rcases bind_eq_error_iff.mp h with htail | ⟨bs, -, h⟩
        -- the head succeeded, so the first fault is one of the tail
        · obtain ⟨before, x', after, rfl, hbefore, hx'⟩ := ih.mp htail
          exact ⟨x :: before, x', after, rfl, List.forall_mem_cons.mpr ⟨⟨b, hb⟩, hbefore⟩, hx'⟩
        · cases h
    · rintro ⟨before, x', after, heq, hbefore, hx'⟩
      rcases List.cons_eq_append_iff.mp heq with ⟨rfl, hhead⟩ | ⟨before', rfl, rfl⟩
      · obtain ⟨rfl, rfl⟩ := List.cons.inj hhead
        exact .inl hx'
      · obtain ⟨⟨b, hb⟩, hbefore'⟩ := List.forall_mem_cons.mp hbefore
        have htail := ih.mpr ⟨before', x', after, rfl, hbefore', hx'⟩
        exact .inr ⟨b, hb, bind_eq_error_iff.mpr (.inl htail)⟩

/-- The steps fail as one of them does. -/
theorem exists_of_mapM_eq_error {xs : List α} (h : xs.mapM f = .error e) :
    ∃ x ∈ xs, f x = .error e := by
  obtain ⟨before, x, after, rfl, -, hx⟩ := mapM_eq_error_iff.mp h
  exact ⟨x, List.mem_append_right _ (List.mem_cons_self ..), hx⟩

/-- The steps end well if each of them does. -/
theorem exists_mapM_eq_ok_iff {xs : List α} :
    (∃ ys, xs.mapM f = .ok ys) ↔ ∀ x ∈ xs, ∃ y, f x = .ok y := by
  constructor
  · rintro ⟨ys, h⟩
    have hall := mapM_eq_ok_iff.mp h
    clear h
    induction hall with
    | nil => exact List.forall_mem_nil _
    | cons hhead _ ih => exact List.forall_mem_cons.mpr ⟨⟨_, hhead⟩, ih⟩
  · intro h
    cases hsteps : xs.mapM f with
    | ok ys => exact ⟨ys, rfl⟩
    | error e =>
      -- the fault of the loop is that of one of its steps
      obtain ⟨x, hx, herror⟩ := exists_of_mapM_eq_error hsteps
      obtain ⟨y, hy⟩ := h x hx
      rw [herror] at hy
      cases hy

end Except

namespace Clipbook.Outcome

variable {α β : Type} {x : Outcome α} {f : α → Outcome β} {a : α} {b : β} {e : Fault}

/-- A result without a fault is a computation without a warning. -/
theorem liftM_ok (a : α) : (liftM (Except.ok a : Except Fault α) : Outcome α) = pure a := rfl

/-- After a step that fails, the fault is the result. -/
theorem result_bind_of_error (h : x.result = .error e) (f : α → Outcome β) :
    (x >>= f).result = .error e := by
  show (bind x f).result = _
  rw [bind, h]

/-- The results of two steps are those of the one after the other. -/
theorem result_bind (x : Outcome α) (f : α → Outcome β) :
    (x >>= f).result = x.result >>= fun a => (f a).result := by
  cases h : x.result with
  | ok a => exact result_bind_of_ok h f
  | error e => exact result_bind_of_error h f

/-- Two steps give something if the first does, and the second with what the first gave. -/
theorem result_bind_eq_ok_iff :
    (x >>= f).result = .ok b ↔ ∃ a, x.result = .ok a ∧ (f a).result = .ok b := by
  rw [result_bind]
  exact Except.bind_eq_ok_iff

/-- Two steps succeed if the first does, and the second with what the first gave. -/
theorem exists_bind_iff : (∃ b, (x >>= f).result = .ok b) ↔
    ∃ a, x.result = .ok a ∧ ∃ b, (f a).result = .ok b := by
  constructor
  · rintro ⟨b, h⟩
    obtain ⟨a, ha, hb⟩ := result_bind_eq_ok_iff.mp h
    exact ⟨a, ha, b, hb⟩
  · rintro ⟨a, ha, b, hb⟩
    exact ⟨b, result_bind_eq_ok_iff.mpr ⟨a, ha, hb⟩⟩

/-- Whether something comes out does not depend on what is made of it. -/
theorem exists_map_iff {g : α → β} : (∃ b, (x >>= fun a => pure (g a)).result = .ok b) ↔
    ∃ a, x.result = .ok a := by
  rw [exists_bind_iff]
  exact exists_congr fun a => and_iff_left ⟨g a, rfl⟩

/-- Two computations, the second of which does not depend on the first. -/
theorem exists_map₂_iff {γ : Type} {y : Outcome γ} {g : α → γ → β} :
    (∃ b, (x >>= fun a => y >>= fun c => pure (g a c)).result = .ok b) ↔
      (∃ a, x.result = .ok a) ∧ ∃ c, y.result = .ok c := by
  rw [exists_bind_iff]
  constructor
  · rintro ⟨a, ha, hrest⟩
    exact ⟨⟨a, ha⟩, exists_map_iff.mp hrest⟩
  · rintro ⟨⟨a, ha⟩, hy⟩
    exact ⟨a, ha, exists_map_iff.mpr hy⟩

/-- A list ends well if each of its elements does. -/
theorem exists_mapList_iff {as : List α} :
    (∃ bs, (mapList f as).result = .ok bs) ↔ ∀ a ∈ as, ∃ b, (f a).result = .ok b := by
  induction as with
  | nil => exact iff_of_true ⟨[], rfl⟩ nofun
  | cons a as ih =>
    rw [List.forall_mem_cons, ← ih]
    exact exists_map₂_iff

/-- A list ends without a warning if each of its elements does. -/
theorem mapList_eq_pure_of_forall₂ {as : List α} {bs : List β}
    (h : List.Forall₂ (fun a b => f a = pure b) as bs) : mapList f as = pure bs := by
  induction h with
  | nil => rfl
  | cons hfirst _ ih =>
    rw [mapList, hfirst, ih]
    rfl

/-- A list goes through without warnings if each of its elements does. -/
theorem mapList_eq_pure {g : α → β} {as : List α} (h : ∀ a ∈ as, f a = pure (g a)) :
    mapList f as = pure (as.map g) :=
  mapList_eq_pure_of_forall₂ (List.forall₂_map_right_iff.mpr (List.forall₂_same.mpr h))

end Clipbook.Outcome
