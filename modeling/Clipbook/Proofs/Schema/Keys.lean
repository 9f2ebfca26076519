import Clipbook.Proofs.Schema.Address
import Clipbook.Proofs.Value.Frozen

/-!
# Clipbook — keys of data

A memo remembers what it finds under the key of the data.  Data without floats share a key only
with themselves: truth values, integers and texts that look alike have keys of their own, and so
have lists and tables, in any depth.  What is nested too deeply has no key, though it is equal to
itself.

Main results:

* `sharesKey_iff` — when two values have one key, when each has its own, and when one has none.
* `not_forall_sharesKey_iff_eq` — equal data need not share a key.
-/

namespace Clipbook

namespace Value

variable {v w : Value}

/-- What is nested too deeply has no key. -/
theorem frozen_of_tooDeep (h : v.tooDeep = true) : v.frozen = .error .tooDeep :=
  if_pos h

/-- All else has one. -/
theorem frozen_of_shallow (h : v.tooDeep = false) : v.frozen = .ok v.freeze :=
  if_neg (Bool.eq_false_iff.mp h)

/-- The keys are compared if both values have one. -/
theorem sharesKey_eq (v w : Value) :
    v.sharesKey w =
      if v.tooDeep || w.tooDeep then .error .tooDeep else .ok (v.freeze == w.freeze) := by
  rw [sharesKey]
  cases hv : v.tooDeep with
  | true =>
    rw [frozen_of_tooDeep hv]
    rfl
  | false =>
    rw [frozen_of_shallow hv]
    cases hw : w.tooDeep with
    | true =>
      rw [frozen_of_tooDeep hw]
      rfl
    | false =>
      rw [frozen_of_shallow hw]
      rfl

/-- **When two values share a key.**  A value without floats shares its key with no other one, and
neither value may be nested too deeply. -/
theorem sharesKey_iff (hv : v.isFloatless = true) :
    (∀ same, v.sharesKey w = .ok same ↔
        v.tooDeep = false ∧ w.tooDeep = false ∧ (same = true ↔ v = w)) ∧
      ∀ f, v.sharesKey w = .error f ↔
        f = .tooDeep ∧ (v.tooDeep = true ∨ w.tooDeep = true) := by
  rw [sharesKey_eq, ← freeze_eq_iff hv]
  cases hdeep : v.tooDeep || w.tooDeep with
  | true =>
    -- one of the two has no key, so they cannot be compared
    have hor := Bool.or_eq_true_iff.mp hdeep
    refine ⟨fun same => iff_of_false nofun fun hkeys => ?_, fun f => ?_⟩
    · rw [hkeys.1, hkeys.2.1] at hdeep
      cases hdeep
    · rw [if_pos rfl, Except.error.injEq, eq_comm, and_iff_left hor]
  | false =>
    -- both have keys, and keys tell values apart
    obtain ⟨hshallow, hshallow'⟩ := Bool.or_eq_false_iff.mp hdeep
    rw [hshallow, hshallow']
    refine ⟨fun same => ?_, fun f => iff_of_false nofun ?_⟩
    · rw [if_neg Bool.false_ne_true, Except.ok.injEq, and_iff_right rfl, and_iff_right rfl,
        ← Bool.eq_iff_iff, eq_comm]
    · rintro ⟨-, h | h⟩ <;> cases h

/-- A truth value deep inside, in the place of a one. -/
theorem sharesKey_iff_inside :
    let v : Value := .obj [(['a'], .arr [.str ['1'], .obj [(['b'], .int 1), (['c'], .null)]])]
    let w : Value := .obj [(['a'], .arr [.str ['1'], .obj [(['b'], .bool true), (['c'], .null)]])]
    v.isFloatless = true ∧ v.sharesKey w = .ok false ∧ v.sharesKey v = .ok true := by
  intro v w
  have hv : v.isFloatless = true := by decide +kernel
  have hshallow : v.tooDeep = false := by decide +kernel
  have hshallow' : w.tooDeep = false := by decide +kernel
  have hne : v ≠ w := by simp [v, w]
  exact ⟨hv, ((sharesKey_iff hv).1 false).mpr ⟨hshallow, hshallow', iff_of_false nofun hne⟩,
    ((sharesKey_iff hv).1 true).mpr ⟨hshallow, hshallow, iff_of_true rfl rfl⟩⟩

/-- **Equal data need not share a key**: a table that is nested too deeply has none. -/
theorem not_forall_sharesKey_iff_eq :
    ¬∀ v w : Value, v.isFloatless = true → w.isFloatless = true →
      (v.sharesKey w = .ok true ↔ v = w) := by
  intro h
  have hfloatless : (Schema.nested 5000).isFloatless = true :=
    Schema.everywhere_nested rfl (fun _ => rfl) 5000
  have hdeep : (Schema.nested 5000).tooDeep = true := Schema.tooDeep_nested (by decide)
  have hshares := (h _ _ hfloatless hfloatless).mpr rfl
  rw [sharesKey_eq, hdeep] at hshares
  cases hshares

end Value

end Clipbook
