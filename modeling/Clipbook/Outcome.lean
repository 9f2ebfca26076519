import Clipbook.Fault

/-!
# Clipbook — outcomes

A computation ends with a result or a fault, and either way leaves the warnings it gave, in order.
-/

namespace Clipbook

@[ext] structure Outcome (α : Type) where
  result : Except Fault α
  warnings : List Warning := []

namespace Outcome

variable {α β : Type}

def ok (a : α) : Outcome α := ⟨.ok a, []⟩

def fail (f : Fault) : Outcome α := ⟨.error f, []⟩

def ofExcept (r : Except Fault α) : Outcome α := ⟨r, []⟩

def warn (w : Warning) : Outcome Unit := ⟨.ok (), [w]⟩

def bind (x : Outcome α) (f : α → Outcome β) : Outcome β :=
  match x.result with
  | .ok a => let y := f a; ⟨y.result, x.warnings ++ y.warnings⟩
  | .error e => ⟨.error e, x.warnings⟩

/-- On a fault, go on with `f`; the warnings given before the fault stay. -/
def recover (x : Outcome α) (f : Fault → Outcome α) : Outcome α :=
  match x.result with
  | .ok _ => x
  | .error e => let y := f e; ⟨y.result, x.warnings ++ y.warnings⟩

instance : Monad Outcome where
  pure := ok
  bind := bind

instance : MonadLift (Except Fault) Outcome where
  monadLift := ofExcept

/-! ## Laws -/

@[simp] theorem ok_eq_pure (a : α) : ok a = pure a := rfl

@[simp] theorem result_pure (a : α) : (pure a : Outcome α).result = .ok a := rfl

/-- After a step that succeeds, the result is that of what follows. -/
theorem result_bind_of_ok {x : Outcome α} {a : α} (h : x.result = .ok a)
    (f : α → Outcome β) : (x >>= f).result = (f a).result := by
  show (bind x f).result = _
  rw [bind, h]

/-- There is nothing to recover from where nothing failed. -/
theorem recover_of_ok {x : Outcome α} {a : α} (h : x.result = .ok a) (f : Fault → Outcome α) :
    x.recover f = x := by
  rw [recover, h]

/-- Where a step failed, the result is that of the recovery from its fault. -/
theorem result_recover_of_error {x : Outcome α} {e : Fault} (h : x.result = .error e)
    (f : Fault → Outcome α) : (x.recover f).result = (f e).result := by
  rw [recover, h]

instance : LawfulMonad Outcome :=
  LawfulMonad.mk' Outcome
    (fun x => by
      show bind x (fun a => ok a) = x
      cases h : x.result <;> ext <;> simp [bind, ok, h])
    (fun a f => by
      show bind (ok a) f = f a
      simp only [bind, ok, List.nil_append])
    (fun x f g => by
      show bind (bind x f) g = bind x fun a => bind (f a) g
      cases h : x.result with
      | error e => simp [bind, h]
      | ok a => cases h' : (f a).result <;> simp [bind, h, h', List.append_assoc])

/-! ## Lists -/

/-- The results for a list, in order, up to the first fault. -/
def mapList (f : α → Outcome β) : List α → Outcome (List β)
  | [] => ok []
  | a :: as => bind (f a) fun b => bind (mapList f as) fun bs => ok (b :: bs)

end Outcome

end Clipbook
