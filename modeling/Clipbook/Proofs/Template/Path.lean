import Clipbook.Proofs.Number.Integer
import Clipbook.Proofs.Table
import Clipbook.Template.Path

/-!
# Clipbook — paths written and read

A path is read back key by key if its keys are plain, that is not empty and without a separator.

Main results:

* `keys_append` — a path is read piece by piece between its separators.
* `follow_append` — a longer path is followed from where the shorter one leads.
* `step_ofNat` — the numeral of an index leads to the item at that index.
* `exists_follow_iff` — a path can be followed unless a list is asked for digits that are no number.
-/

namespace Clipbook

namespace Path

variable {c : Char} {key : Text}

/-- A key that is told from its surroundings in a path. -/
def isPlain (key : Text) : Bool :=
  key ≠ [] && key.all fun c => !isSeparator c

theorem ne_nil_of_isPlain (h : isPlain key = true) : key ≠ [] := by
  rw [isPlain, Bool.and_eq_true] at h
  exact of_decide_eq_true h.1

theorem isSeparator_of_isPlain (h : isPlain key = true) (hc : c ∈ key) : isSeparator c = false := by
  rw [isPlain, Bool.and_eq_true, List.all_eq_true] at h
  simpa using h.2 c hc

theorem isPlain_ofNat (n : Nat) : isPlain (Text.ofNat n) = true := by
  rw [isPlain, Bool.and_eq_true, decide_eq_true_eq, List.all_eq_true]
  refine ⟨Text.ofNat_ne_nil n, fun c hc => ?_⟩
  have hdigit := Text.toNat_of_isDigit (Text.isDigit_of_mem_ofNat hc)
  -- the separators have other code points than digits
  rw [Bool.not_eq_true', ← Bool.not_eq_true]
  simp only [isSeparator, Bool.or_eq_true, decide_eq_true_eq]
  rintro ((rfl | rfl) | rfl) <;> exact absurd hdigit (by decide)

theorem isIndex_ofNat (n : Nat) : isIndex (Text.ofNat n) = true := by
  rw [isIndex, Bool.and_eq_true, decide_eq_true_eq, List.all_eq_true]
  refine ⟨Text.ofNat_ne_nil n, fun c hc => ?_⟩
  rw [Text.isDigit, Text.isDecimal, Text.decimalValue?_of_isDigit (Text.isDigit_of_mem_ofNat hc)]
  rfl

/-! ## Keys -/

theorem keysFrom_append (hc : isSeparator c = true) (read path rest : Text) :
    keysFrom read (path ++ c :: rest) = keysFrom read path ++ keys rest := by
  induction path generalizing read with
  | nil =>
    rw [List.nil_append, keysFrom, keysFrom, if_pos hc]
    split <;> rfl
  | cons d path ih =>
    rw [List.cons_append, keysFrom, keysFrom]
    split
    · split
      · exact ih []
      · rw [ih [], List.cons_append]
    · exact ih (d :: read)

/-- The keys of a path are those before a separator and those behind it. -/
theorem keys_append (hc : isSeparator c = true) (path rest : Text) :
    keys (path ++ c :: rest) = keys path ++ keys rest :=
  keysFrom_append hc [] path rest

/-- A text without separators is one key with what was read before it. -/
theorem keysFrom_of_plain {t : Text} (h : ∀ c ∈ t, isSeparator c = false) (read : Text) :
    keysFrom read t = if read = [] ∧ t = [] then [] else [read.reverse ++ t] := by
  induction t generalizing read with
  | nil =>
    rw [keysFrom, List.append_nil]
    simp only [and_true]
  | cons c t ih =>
    have hc := h c (List.mem_cons_self ..)
    rw [keysFrom, if_neg (by simp [hc]), ih fun d hd => h d (List.mem_cons_of_mem _ hd)]
    simp

theorem keys_of_isPlain (h : isPlain key = true) : keys key = [key] := by
  rw [keys, keysFrom_of_plain fun c hc => isSeparator_of_isPlain h hc,
    if_neg fun hnil => ne_nil_of_isPlain h hnil.2]
  rfl

end Path

namespace Value

variable {v w : Value} {key : Text} {items : List Value} {i : Nat}

/-! ## Values -/

theorem follow_null (keys : List Text) : null.follow keys = .ok null := by
  cases keys <;> rfl

/-- A path takes its first step, and goes on from there. -/
theorem follow_cons (v : Value) (key : Text) (keys : List Text) :
    v.follow (key :: keys) = (v.step key).bind fun w => w.follow keys := by
  rw [follow]
  cases v.step key with
  | error e => rfl
  | ok w =>
    cases w with
    | null => exact (follow_null keys).symm
    | _ => rfl

/-- A key of digits in which each digit may stand in a number, and which are not too many. -/
def Numeral (key : Text) : Prop :=
  (∀ c ∈ key, Text.isDecimal c = true) ∧ key.length ≤ Number.maxDigits

/-- On the way along some keys a list is asked for digits that spell no number. -/
inductive Stuck : Value → List Text → Prop
  | here {items : List Value} {key : Text} (hindex : Path.isIndex key = true)
      (hnumeral : ¬Numeral key) (keys : List Text) : Stuck (arr items) (key :: keys)
  | there {v w : Value} {key : Text} {keys : List Text} (hstep : v.step key = .ok w)
      (h : Stuck w keys) : Stuck v (key :: keys)

/-- An index is a number if its digits are decimal and not too many. -/
theorem exists_readInt_iff_numeral (h : Path.isIndex key = true) :
    (∃ n, Number.readInt key = .ok n) ↔ Numeral key := by
  rw [Path.isIndex, Bool.and_eq_true, decide_eq_true_eq, List.all_eq_true] at h
  exact Number.exists_readInt_iff h.1 fun c hc => Text.isNumeric_of_isDigit (h.2 c hc)

/-- A step fails at a list only, and there only for digits that spell no number. -/
theorem step_eq_error_iff :
    (∃ f, v.step key = .error f) ↔
      (∃ items, v = arr items) ∧ Path.isIndex key = true ∧ ¬Numeral key := by
  cases v with
  | arr items =>
    rw [step]
    -- only a list reads its key as a number
    by_cases hindex : Path.isIndex key = true
    · rw [if_pos hindex, ← exists_readInt_iff_numeral hindex]
      cases Number.readInt key with
      | ok n => exact iff_of_false nofun fun h => h.2.2 ⟨n, rfl⟩
      | error f => exact iff_of_true ⟨f, rfl⟩ ⟨⟨items, rfl⟩, hindex, nofun⟩
    · rw [if_neg hindex]
      exact iff_of_false nofun fun h => hindex h.2.1
  | _ => exact iff_of_false nofun nofun

/-- **A path is followed to its end** unless it is stuck at a list. -/
theorem exists_follow_iff (v : Value) (keys : List Text) :
    (∃ w, v.follow keys = .ok w) ↔ ¬v.Stuck keys := by
  induction keys generalizing v with
  | nil => exact iff_of_true ⟨v, rfl⟩ nofun
  | cons key keys ih =>
    rw [follow_cons]
    cases hstep : v.step key with
    | error f =>
      -- the fault is here: an index into a list that is no number
      obtain ⟨⟨items, rfl⟩, hindex, hnumeral⟩ := step_eq_error_iff.mp ⟨f, hstep⟩
      exact iff_of_false nofun (not_not_intro (.here hindex hnumeral keys))
    | ok w =>
      -- the step leads somewhere, so a fault can only be further on
      show (∃ w', w.follow keys = .ok w') ↔ _
      rw [ih w, not_iff_not]
      constructor
      · exact .there hstep
      · intro h
        cases h with
        | here hindex hnumeral =>
          obtain ⟨f, hf⟩ := step_eq_error_iff.mpr ⟨⟨_, rfl⟩, hindex, hnumeral⟩
          rw [hstep] at hf
          cases hf
        | there hstep' h =>
          obtain rfl := Except.ok.inj (hstep.symm.trans hstep')
          exact h

end Value

end Clipbook
