import Clipbook.Proofs.Clipper.Clip
import Clipbook.Proofs.Value.Nested
import Clipbook.Proofs.Value.Reader

/-!
# Clipbook — files of templates that get no answer

What is wrong with a file of templates is told in a refusal, with two exceptions: its text may be
JSON nested too deeply, and a template may have a list or an object for its name, which names
nothing in a table.

Main results:

* `NoteTemplate.told_of_error` — a template is refused for its shape or for the type of a property.
* `Templates.exists_read_fails_iff` — the texts that are neither read nor refused.
* `Clipper.exists_templatesOf_fails_iff` — the same with the file they are in.
-/

namespace Clipbook

variable {v : Value} {f : Fault}

/-! ## Parts of values -/

namespace Value

/-- Not to be an object is a fault of the shape. -/
theorem shapeFault?_of_fields_error (h : v.fields = .error f) :
    (Templates.shapeFault? f).isSome = true := by
  cases v with
  | obj members => cases h
  | _ => rw [← Except.error.inj h]; rfl

/-- Not to have elements is a fault of the shape. -/
theorem shapeFault?_of_elementsIfAny_error (h : v.elementsIfAny = .error f) :
    (Templates.shapeFault? f).isSome = true := by
  rw [elementsIfAny] at h
  split at h
  · cases h
  · cases v with
    | arr items => cases h
    | obj members => cases h
    | str t => cases h
    | _ => rw [← Except.error.inj h]; rfl

end Value

/-! ## Templates -/

/-- A fault of a template that a refusal tells of. -/
def Fault.Told (f : Fault) : Prop :=
  (Templates.shapeFault? f).isSome = true ∨ ∃ type name, f = .unknownPropertyType type name

/-- Every fault of a property is one that is told with the file. -/
theorem Property.told_of_error (h : Property.ofValue v = .error f) : f.Told := by
  rcases Except.bind_eq_error_iff.mp h with hfields | ⟨fields, -, h⟩
  · exact .inl (Value.shapeFault?_of_fields_error hfields)
  · dsimp only at h
    split at h
    · rw [← Except.error.inj h]
      exact .inr ⟨_, _, rfl⟩
    · rw [← Except.error.inj h]
      exact .inl rfl
    · cases h

/-- **What is wrong with a template is told**: its shape, or the type of a property. -/
theorem NoteTemplate.told_of_error (h : NoteTemplate.ofValue v = .error f) : f.Told := by
  rcases Except.bind_eq_error_iff.mp h with hfields | ⟨fields, -, h⟩
  · exact .inl (Value.shapeFault?_of_fields_error hfields)
  rcases Except.bind_eq_error_iff.mp h with hlist | ⟨elements, -, h⟩
  · exact .inl (Value.shapeFault?_of_elementsIfAny_error hlist)
  rcases Except.bind_eq_error_iff.mp h with hproperties | ⟨properties, -, h⟩
  · obtain ⟨element, -, helement⟩ := Except.exists_of_mapM_eq_error hproperties
    exact Property.told_of_error helement
  · split at h
    · rw [← Except.error.inj h]
      exact .inl rfl
    · cases h

/-! ## Texts -/

namespace Templates

variable {path content : Text} {templates : Templates} {vs : List Value}

/-- Among values that tell of templates there is one with a list or an object for its name, and
what stands before it are templates. -/
inductive Unkeyed : List Value → Prop
  | here {v : Value} {t : NoteTemplate} (h : NoteTemplate.ofValue v = .ok t)
      (hname : t.name.isNested = true) (vs : List Value) : Unkeyed (v :: vs)
  | there {v : Value} {t : NoteTemplate} {vs : List Value} (h : NoteTemplate.ofValue v = .ok t)
      (hname : t.name.isNested = false) (hrest : Unkeyed vs) : Unkeyed (v :: vs)

/-- The values of a file that has any. -/
def entries : Value → List Value
  | .obj members => [.obj members]
  | .arr items => items
  | _ => []

/-- A text that is neither read nor refused. -/
def Unreadable (content : Text) : Prop :=
  Value.ofJson (unifyLineEnds content) = .error .tooDeep ∨
    ∃ v, Value.ofJson (unifyLineEnds content) = .ok v ∧ Unkeyed (entries v)

/-- A template that is not made is refused. -/
theorem refused_of_templateOf_error (h : templateOf path v = .error f) :
    (Clipper.templatesRefusal? f).isSome = true := by
  unfold templateOf at h
  split at h
  · cases h
  · next g hg =>
    have htold : g.Told := NoteTemplate.told_of_error hg
    -- a fault of the shape is told by a fault of the file, that of a type is told as it is
    split at h
    · rw [← Except.error.inj h]
      rfl
    · next hshape =>
      rcases htold with hsome | ⟨type, name, rfl⟩
      · rw [hshape] at hsome
        cases hsome
      · rw [← Except.error.inj h]
        rfl

/-- Telling a fault with the file takes no template away. -/
theorem templateOf_eq_ok_iff {t : NoteTemplate} :
    templateOf path v = .ok t ↔ NoteTemplate.ofValue v = .ok t := by
  unfold templateOf
  split
  · next u hu => rw [hu]
  · next g hg =>
    rw [hg]
    split <;> exact iff_of_false (Except.error_ne_ok _ _) (Except.error_ne_ok _ _)

theorem key_eq_error_iff : v.key = .error f ↔ v.isNested = true ∧ f = .unhashable v.kind := by
  cases v with
  | arr items => exact ⟨fun h => ⟨rfl, (Except.error.inj h).symm⟩, fun h => congrArg _ h.2.symm⟩
  | obj members => exact ⟨fun h => ⟨rfl, (Except.error.inj h).symm⟩, fun h => congrArg _ h.2.symm⟩
  | _ => exact iff_of_false nofun nofun

theorem key_eq_ok_of_not_isNested (h : v.isNested = false) : v.key = .ok v := by
  cases v with
  | arr items => cases h
  | obj members => cases h
  | _ => rfl

/-- Adding templates fails without a refusal at a name that is no key, and there only. -/
theorem exists_addAll_fails_iff :
    (∃ f, addAll path templates vs = .error f ∧ Clipper.templatesRefusal? f = none) ↔
      Unkeyed vs := by
  induction vs generalizing templates with
  | nil => exact iff_of_false nofun nofun
  | cons v vs ih =>
    rw [addAll]
    cases htemplate : templateOf path v with
    | error f =>
      -- refused, so that nothing behind it matters
      have hsome := refused_of_templateOf_error htemplate
      rw [Except.error_bind]
      refine iff_of_false ?_ fun h => ?_
      · rintro ⟨g, hg, hnone⟩
        rw [← Except.error.inj hg] at hnone
        rw [hnone] at hsome
        cases hsome
      · have hok : ∃ t, NoteTemplate.ofValue v = .ok t := by
          cases h with
          | here h => exact ⟨_, h⟩
          | there h => exact ⟨_, h⟩
        obtain ⟨t, ht⟩ := hok
        rw [templateOf_eq_ok_iff.mpr ht] at htemplate
        cases htemplate
    | ok t =>
      -- the name decides: a container fails at once, and any other name is a key
      have ht := templateOf_eq_ok_iff.mp htemplate
      rw [Except.ok_bind]
      cases hname : t.name.isNested with
      | true =>
        rw [key_eq_error_iff.mpr ⟨hname, rfl⟩, Except.error_bind]
        exact iff_of_true ⟨_, rfl, rfl⟩ (.here ht hname vs)
      | false =>
        rw [key_eq_ok_of_not_isNested hname, Except.ok_bind, ih]
        constructor
        · exact .there ht hname
        · intro h
          cases h with
          | here h hnested =>
            obtain rfl := Except.ok.inj (ht.symm.trans h)
            rw [hname] at hnested
            cases hnested
          | there _ _ hrest => exact hrest

/-- **The texts that are neither read nor refused.** -/
theorem exists_read_fails_iff :
    (∃ f, read path content = .error f ∧ Clipper.templatesRefusal? f = none) ↔
      Unreadable content := by
  rw [read, Unreadable]
  cases hread : Value.ofJson (unifyLineEnds content) with
  | error f =>
    -- a limit other than the nesting is refused, and so is what is no JSON
    rcases Value.ofJson_error_cases hread with ⟨cause, place, rfl⟩ | rfl | ⟨digits, rfl, -⟩
    · refine iff_of_false ?_ ?_
      · rintro ⟨g, hg, hnone⟩
        rw [← Except.error.inj hg] at hnone
        cases hnone
      · rintro (h | ⟨v, h, -⟩) <;> cases h
    · exact iff_of_true ⟨_, rfl, rfl⟩ (.inl rfl)
    · refine iff_of_false ?_ ?_
      · rintro ⟨g, hg, hnone⟩
        rw [← Except.error.inj hg] at hnone
        cases hnone
      · rintro (h | ⟨v, h, -⟩) <;> cases h
  | ok v =>
    have hok : (∃ w, (Except.ok v : Except Fault Value) = .ok w ∧ Unkeyed (entries w)) ↔
        Unkeyed (entries v) := by
      simp only [Except.ok.injEq, exists_eq_left']
    simp only [reduceCtorEq, false_or, hok]
    show (∃ f, (valuesOf path v >>= addAll path []) = .error f ∧ _) ↔ _
    cases v with
    | obj members => exact exists_addAll_fails_iff
    | arr items => exact exists_addAll_fails_iff
    | _ =>
      -- neither a list nor an object, which is refused
      refine iff_of_false ?_ nofun
      rintro ⟨g, hg, hnone⟩
      rw [← Except.error.inj hg] at hnone
      cases hnone

end Templates

/-! ## Files -/

namespace Clipper

variable {c : Clipper} {s : Settings}

/-- The file of templates is there, and it is a folder or has a text that is neither read nor
refused. -/
def TemplatesFail (c : Clipper) (s : Settings) : Prop :=
  ∃ p l, s.templatesPath = some p ∧ c.files.find? c.surroundings.folder p = some l ∧
    ∀ t, c.files.text? l = some t → Templates.Unreadable t

/-- **Templates fail without a refusal** where their file does. -/
theorem exists_templatesOf_fails_iff :
    (∃ f, c.templatesOf s = .error f ∧ templatesRefusal? f = none) ↔ TemplatesFail c s := by
  rw [templatesOf, TemplatesFail]
  cases hp : s.templatesPath with
  | none =>
    -- without a path there is the standard template
    refine iff_of_false ?_ ?_
    · rintro ⟨f, hf, -⟩
      cases hf
    · rintro ⟨p, l, hnone, -⟩
      cases hnone
  | some p =>
    dsimp only
    simp only [Option.some.injEq, exists_and_left, exists_eq_left']
    cases hl : c.files.find? c.surroundings.folder p with
    | none =>
      -- and so there is without a file at the path
      refine iff_of_false ?_ ?_
      · rintro ⟨f, hf, -⟩
        cases hf
      · rintro ⟨l, hnone, -⟩
        cases hnone
    | some l =>
      simp only [Option.some.injEq, exists_eq_left']
      cases ht : c.files.text? l with
      | none =>
        refine iff_of_true ⟨_, rfl, rfl⟩ fun t hnone => ?_
        cases hnone
      | some t =>
        simp only [Option.some.injEq, forall_eq']
        exact Templates.exists_read_fails_iff

end Clipper

end Clipbook
