import Clipbook.Proofs.Outcome
import Clipbook.Value.Reader

/-!
# Clipbook — the faults of JSON texts

A text that is no JSON is told by a fault of JSON.  There are two more ways for reading to fail,
and they say nothing of the form of the text: containers are nested too deeply, or an integer has
too many digits.

Main results:

* `ofJson_error_cases` — the faults of reading a text.
* `exists_items_iff` — the items of a text can be told unless reading it reaches a limit.
-/

namespace Clipbook.Value

/-- A limit is reached: the text may be JSON, and is not read. -/
def IsLimit (f : Fault) : Prop :=
  f = .tooDeep ∨ ∃ digits, f = .longNumeral digits ∧ Number.maxDigits < digits

namespace Reader

variable {α : Type} {stop : Stop}

/-- A reader stops at what is no JSON, or at a limit. -/
def Stop.Expected : Stop → Prop
  | .json .. => True
  | .fault f => IsLimit f

/-- A reader that stops, stops as expected. -/
def Safe : Result α → Prop
  | .ok _ => True
  | .error stop => stop.Expected

/-- A reader that is safe stops only where that is expected. -/
theorem Safe.expected {x : Result α} (h : Safe x) (hx : x = .error stop) : stop.Expected := by
  subst hx
  exact h

theorem Safe.map {β : Type} {x : Result α} (h : Safe x) (g : α × Text → β × Text) :
    Safe (Except.map g x) := by
  cases x with
  | ok a => trivial
  | error stop => exact h

/-! ## Texts and numbers -/

/-- A character in four digits is read safely. -/
theorem safe_unicode (t : Text) : Safe (unicode t) := by
  unfold unicode
  repeat' split
  all_goals trivial

theorem safe_text (start fuel : Nat) (read t : Text) : Safe (text start fuel read t) := by
  induction fuel generalizing read t with
  | zero => trivial
  | succ fuel ih =>
    cases t with
    | nil => trivial
    | cons c t =>
      unfold text
      split
      · trivial
      · split
        · -- an escape
          split
          · trivial
          · split
            · exact ih _ _
            · next hstop => exact (safe_unicode _).expected hstop
          · split
            · exact ih _ _
            · trivial
        · split
          · trivial
          · exact ih _ _

/-- A number is read safely: it stops at what is no number, or at the limit of its digits. -/
theorem safe_number (t : Text) : Safe (number t) := by
  unfold number
  split
  dsimp only
  split
  · trivial
  · split
    · split
      · next hlong => exact .inr ⟨_, rfl, hlong⟩
      · trivial
    · trivial

/-! ## Values -/

/-- Values, items and members are read safely together: the fuel is what they have in common. -/
theorem safe_value_items_members (fuel : Nat) :
    (∀ levels t, Safe (value fuel levels t)) ∧
      (∀ levels read t, Safe (items fuel levels read t)) ∧
      ∀ levels read t, Safe (members fuel levels read t) := by
  induction fuel with
  | zero =>
    refine ⟨fun _ _ => ?_, fun _ _ _ => ?_, fun _ _ _ => ?_⟩
    · unfold value; trivial
    · unfold items; trivial
    · unfold members; trivial
  | succ fuel ih =>
    -- each of the three reads with less fuel, and stops by itself only at what is no JSON or at the
    -- limit of levels
    obtain ⟨hvalue, hitems, hmembers⟩ := ih
    refine ⟨fun levels t => ?_, fun levels read t => ?_, fun levels read t => ?_⟩
    · unfold value
      split
      · exact (safe_text _ _ _ _).map _
      · split
        · exact .inl rfl
        · split
          · trivial
          · exact (hitems _ _ _).map _
      · split
        · exact .inl rfl
        · split
          · trivial
          · exact (hmembers _ _ _).map _
      · split
        · trivial
        · exact safe_number t
    · unfold items
      split
      · next hstop => exact (hvalue _ _).expected hstop
      · split
        · trivial
        · exact hitems _ _ _
        · trivial
    · unfold members
      split
      · split
        · next hstop => exact (safe_text _ _ _ _).expected hstop
        · split
          · split
            · next hstop => exact (hvalue _ _).expected hstop
            · split
              · trivial
              · exact hmembers _ _ _
              · trivial
          · trivial
      · trivial

/-- Reading a document stops at a fault in its text, or at a limit. -/
theorem expected_of_document {t : Text} (h : document t = .error stop) : stop.Expected := by
  unfold document at h
  split at h
  · next stop' hstop =>
    obtain rfl := Except.error.inj h
    exact ((safe_value_items_members _).1 _ _).expected hstop
  · split at h
    · cases h
    · obtain rfl := Except.error.inj h
      trivial

end Reader

/-! ## Whole texts -/

variable {t : Text} {f : Fault}

/-- **A text is no JSON, or a limit is reached**, if it is not read. -/
theorem ofJson_error_cases (h : ofJson t = .error f) :
    (∃ cause place, f = .json cause place) ∨ IsLimit f := by
  unfold ofJson at h
  split at h
  · exact .inl ⟨_, _, (Except.error.inj h).symm⟩
  · cases hdocument : Reader.document t with
    | ok v =>
      rw [hdocument] at h
      cases h
    | error stop =>
      rw [hdocument] at h
      obtain rfl := Except.error.inj h
      cases stop with
      | json cause left => exact .inl ⟨_, _, rfl⟩
      | fault f => exact .inr (Reader.expected_of_document hdocument)

/-- A fault in a text is no limit of the reader. -/
theorem not_isLimit_json (cause : JsonFault) (place : Position) : ¬IsLimit (.json cause place) := by
  rintro (h | ⟨digits, h, -⟩) <;> cases h

/-- **The items of a text can be told** unless reading it reaches a limit: a text that is no JSON
is an item itself. -/
theorem exists_items_iff (t : Text) :
    (∃ items, (str t).items = .ok items) ↔ ¬∃ f, ofJson t = .error f ∧ IsLimit f := by
  rw [Value.items, Except.exists_map_eq_ok_iff, parsed]
  cases hread : ofJson t with
  | ok v => exact iff_of_true ⟨v, rfl⟩ nofun
  | error f =>
    -- a text that is no JSON is an item; a text beyond a limit is none
    rcases ofJson_error_cases hread with ⟨cause, place, rfl⟩ | hlimit
    · refine iff_of_true ⟨_, rfl⟩ ?_
      rintro ⟨f, hf, hlimit⟩
      rw [← Except.error.inj hf] at hlimit
      exact not_isLimit_json cause place hlimit
    · refine iff_of_false ?_ fun h => h ⟨f, rfl, hlimit⟩
      split
      · next heq => cases heq
      · next heq =>
        obtain rfl := Except.error.inj heq
        exact absurd hlimit (not_isLimit_json _ _)
      · nofun

end Clipbook.Value
