import Clipbook.Note
import Clipbook.Proofs.Note.Filling
import Clipbook.Proofs.Table
import Clipbook.Proofs.Template.Render
import Clipbook.Proofs.Value.Nested

/-!
# Clipbook — notes that can be made

The variables of a page are texts, so that no path into them ever comes to a list and gets stuck.
A note is made unless its template holds what is no text where a text is wanted, or a limit is
reached on the way: what filters make of a variable is nested too deeply to be written, or a
property is JSON that is not read.

Main results:

* `exists_fill_iff` — the texts that can be filled in.
* `PropertyType.exists_read_iff` — the texts a property can be read from.
* `exists_ofTemplate_iff` — the templates that a note can be made from.
-/

namespace Clipbook

/-! ## Paths into variables -/

namespace Value

variable {v w : Value} {key : Text} {keys : List Text} {members : Table Value}

/-- A value without parts has nothing to get stuck at. -/
theorem not_stuck_of_not_isNested (h : v.isNested = false) : ¬v.Stuck keys := by
  induction keys generalizing v with
  | nil => nofun
  | cons key keys ih =>
    intro hstuck
    cases hstuck with
    | here => cases h
    | there hstep hrest =>
      refine ih ?_ hrest
      -- from such a value a key leads to null only
      cases v with
      | arr items => cases h
      | obj members => cases h
      | _ => rw [← Except.ok.inj hstep]; rfl

/-- In a table of scalars no path is stuck: there is no list to ask for an item. -/
theorem not_stuck_of_texts (h : ∀ k v, (k, v) ∈ members → v.isNested = false) :
    ¬(obj members).Stuck keys := by
  intro hstuck
  cases hstuck with
  | there hstep hrest =>
    -- the first key leads to a text or to nothing
    refine not_stuck_of_not_isNested ?_ hrest
    rw [← Except.ok.inj hstep]
    cases hget : Table.get? _ members with
    | none => rfl
    | some v => exact h _ v (Table.mem_of_get?_eq_some hget)

/-- Scalars are keys, lists and objects are not. -/
theorem exists_key_iff : (∃ k, v.key = .ok k) ↔ v.isNested = false := by
  cases v with
  | arr items => exact iff_of_false nofun nofun
  | obj members => exact iff_of_false nofun nofun
  | _ => exact iff_of_true ⟨_, rfl⟩ rfl

end Value

namespace Note

variable {words : Variables} {t : Text} {e : Expression} {v : Value}

theorem not_stuck_itemOf (words : Variables) (keys : List Text) :
    ¬(itemOf words).Stuck keys := by
  refine Value.not_stuck_of_texts fun k v hmem => ?_
  -- the members are the variables
  rcases Table.mem_extend hmem with hnil | hword
  · cases hnil
  · obtain ⟨entry, -, heq⟩ := List.mem_map.mp hword
    rw [← (Prod.mk.inj heq).2]
    rfl

/-- A text whose expressions can be written: the filters make of no variable what is nested too
deeply. -/
def Writable (words : Variables) (t : Text) : Prop :=
  ∀ e ∈ Expression.findAll t, ∀ v, (itemOf words).at_ e.path = .ok v → v ≠ .null →
    ((Call.chain (e.filters.getD [])).foldl (Call.effect Template.render) v).tooDeep = false

/-- A text is written if each of its expressions can be shown. -/
theorem writable_iff :
    Writable words t ↔
      ∀ e ∈ Expression.findAll t, e.Shows Template.render (itemOf words) :=
  forall₂_congr fun _ _ =>
    ⟨fun h => ⟨not_stuck_itemOf words _, h⟩, fun h => h.value⟩

/-! ## Slots that are filled in -/

theorem exists_image_placeholder (words : Variables) (place : Nat) (token : Text) :
    ∃ u, (image words (.placeholder place token)).result = .ok u :=
  ⟨_, rfl⟩

/-- The pass ends well if each expression it finds has a text: placeholders always have one, and
hide no expression. -/
theorem exists_fillOnce_iff (words : Variables) (place : Nat) (t : Text) :
    (∃ u, (fillOnce words place t).result = .ok u) ↔
      ∀ s ∈ scanFrom expressionAt? 0 place t, ∃ u, (image words s).result = .ok u := by
  -- along the pass: at the end, at a slot, at a character that is copied
  induction place, t using fillOnce.induct with
  | case1 place => exact iff_of_true ⟨[], by rw [fillOnce]; rfl⟩ nofun
  | case2 place c t s hs ih =>
    rw [fillOnce, hs]
    dsimp only
    refine Outcome.exists_map₂_iff.trans ((and_congr_right' ih).trans ?_)
    rw [slotAt?] at hs
    cases hE : expressionAt? place (c :: t) with
    | some e =>
      rw [hE, Option.some_or] at hs
      obtain rfl := Option.some.inj hs
      -- the scan passes over the expression as the pass does
      have hstop := (bounds_of_expressionAt? hE).2
      have hbehind := scanFrom_skip expressionAt? (e.stop - (place + 1)) (place + 1) t
      rw [show place + 1 + (e.stop - (place + 1)) = e.stop by omega] at hbehind
      rw [scanFrom, hE, ← hbehind]
      show _ ↔ ∀ s ∈ e :: scanFrom expressionAt? (e.stop - (place + 1)) (place + 1) t, _
      rw [List.forall_mem_cons]
    | none =>
      rw [hE, Option.none_or] at hs
      have hstop := (bounds_of_placeholderAt? hs).2
      -- no expression starts before the end of the placeholder
      have hbehind := scanFrom_of_none fun i hi => (inside_of_placeholderAt? hs (i := i) hi).1
      rw [show place + 1 + (s.stop - (place + 1)) = s.stop by omega] at hbehind
      rw [scanFrom, hE, ← hbehind]
      obtain ⟨token, -, rfl⟩ := Option.map_eq_some_iff.mp hs
      exact and_iff_right (exists_image_placeholder words place token)
  | case3 place c t hnone ih =>
    rw [fillOnce, hnone]
    dsimp only
    refine Outcome.exists_map_iff.trans (ih.trans ?_)
    rw [slotAt?, Option.or_eq_none_iff] at hnone
    rw [scanFrom, hnone.1]
    rfl

/-- **A text is filled in** if its expressions can be written. -/
theorem exists_fill_iff (words : Variables) (t : Text) :
    (∃ u, (fill words t).result = .ok u) ↔ Writable words t := by
  rw [fill, fillFrom_slots, exists_fillOnce_iff, ← map_findFrom, List.forall_mem_map, writable_iff]
  exact forall₂_congr fun e _ => Expression.exists_evaluate_iff

/-- A value is filled if it is a text that can be written. -/
theorem exists_fillValue_iff :
    (∃ u, (fillValue words v).result = .ok u) ↔ ∃ t, v = .str t ∧ Writable words t := by
  cases v with
  | str t =>
    rw [fillValue, exists_fill_iff]
    simp only [Value.str.injEq, exists_eq_left']
  | _ => exact iff_of_false nofun nofun

end Note

/-! ## Properties -/

namespace PropertyType

/-- A text that a property of a type can be read from: a list in JSON has to be within limits. -/
def Readable (type : PropertyType) (t : Text) : Prop :=
  type = .multitext → t.head? = some '[' → ¬∃ f, Value.ofJson t = .error f ∧ Value.IsLimit f

/-- A text is read as a list unless it starts as one and reaches a limit of the reader. -/
theorem exists_listOf_iff (t : Text) :
    (∃ v, listOf t = .ok v) ↔
      (t.head? = some '[' → ¬∃ f, Value.ofJson t = .error f ∧ Value.IsLimit f) := by
  rw [listOf]
  by_cases hopen : t.head? = some '['
  · -- such a text is read as JSON, with the limits of reading items
    rw [if_pos hopen, ← Value.exists_items_iff, Value.items, Except.exists_map_eq_ok_iff,
      Value.parsed]
    simp only [hopen, forall_const]
    cases hread : Value.ofJson t with
    | ok v => cases v <;> exact iff_of_true ⟨_, rfl⟩ ⟨_, rfl⟩
    | error f =>
      cases f with
      | json cause place => exact iff_of_true ⟨_, rfl⟩ ⟨_, rfl⟩
      | _ => exact iff_of_false (Except.not_exists_error_eq_ok _) (Except.not_exists_error_eq_ok _)
  · rw [if_neg hopen]
    exact iff_of_true ⟨_, rfl⟩ fun h => absurd h hopen

/-- **A property is read** from every text that it can be read from. -/
theorem exists_read_iff (type : PropertyType) (t : Text) :
    (∃ v, type.read t = .ok v) ↔ type.Readable t := by
  cases type with
  | multitext => exact (exists_listOf_iff t).trans ⟨fun h _ => h, fun h => h rfl⟩
  | _ => exact iff_of_true ⟨_, rfl⟩ nofun

end PropertyType

/-- A property that can be made of variables: it is named by a single value, and its text can be
filled in and read. -/
structure Property.Makeable (p : Property) (words : Note.Variables) : Prop where
  name : p.name.isNested = false
  value : ∃ t u, p.value = .str t ∧ (Note.fill words t).result = .ok u ∧
    p.type.Readable (Text.strip u)

/-! ## Notes -/

/-- A template that a note can be made from. -/
structure NoteTemplate.Makeable (t : NoteTemplate) (words : Note.Variables) : Prop where
  name : ∃ u, t.nameFormat = .str u ∧ Note.Writable words u
  path : ∃ u, t.path = .str u ∧ Note.Writable words u
  properties : ∀ p ∈ t.properties, p.Makeable words
  content : ∃ u, t.contentFormat = .str u ∧ Note.Writable words u

namespace Note

variable {words : Variables} {p : Property}

theorem exists_propertyOf_iff :
    (∃ e, (propertyOf words p).result = .ok e) ↔ p.Makeable words := by
  constructor
  · intro h
    obtain ⟨u, hu, h⟩ := Outcome.exists_bind_iff.mp h
    obtain ⟨v, hv, h⟩ := Outcome.exists_bind_iff.mp h
    obtain ⟨k, hk⟩ := Outcome.exists_map_iff.mp h
    -- a value that is filled in is a text
    obtain ⟨t, ht, -⟩ := exists_fillValue_iff.mp ⟨u, hu⟩
    rw [ht] at hu
    exact ⟨Value.exists_key_iff.mp ⟨k, hk⟩, t, u, ht, hu,
      (PropertyType.exists_read_iff _ _).mp ⟨v, hv⟩⟩
  · rintro ⟨hname, t, u, ht, hu, hread⟩
    have hfill : (fillValue words p.value).result = .ok u := by
      rw [ht]
      exact hu
    obtain ⟨v, hv⟩ := (PropertyType.exists_read_iff _ _).mpr hread
    obtain ⟨k, hk⟩ := Value.exists_key_iff.mpr hname
    exact Outcome.exists_bind_iff.mpr ⟨u, hfill, Outcome.exists_bind_iff.mpr
      ⟨v, hv, Outcome.exists_bind_iff.mpr ⟨k, hk, ⟨_, rfl⟩⟩⟩⟩

/-- **A note is made** from every template that it can be made from. -/
theorem exists_ofTemplate_iff (t : NoteTemplate) (words : Variables) :
    (∃ n, (ofTemplate t words).result = .ok n) ↔ t.Makeable words := by
  -- each part of the note is made by itself: all have to be
  have hproperties : (∃ ps, (Outcome.mapList (propertyOf words) t.properties).result = .ok ps) ↔
      ∀ p ∈ t.properties, p.Makeable words :=
    Outcome.exists_mapList_iff.trans (forall₂_congr fun _ _ => exists_propertyOf_iff)
  constructor
  · intro h
    obtain ⟨name, hname, h⟩ := Outcome.exists_bind_iff.mp h
    obtain ⟨path, hpath, h⟩ := Outcome.exists_bind_iff.mp h
    obtain ⟨ps, hps, h⟩ := Outcome.exists_bind_iff.mp h
    obtain ⟨content, hcontent⟩ := Outcome.exists_map_iff.mp h
    exact ⟨exists_fillValue_iff.mp ⟨name, hname⟩, exists_fillValue_iff.mp ⟨path, hpath⟩,
      hproperties.mp ⟨ps, hps⟩, exists_fillValue_iff.mp ⟨content, hcontent⟩⟩
  · intro h
    obtain ⟨name, hname⟩ := exists_fillValue_iff.mpr h.name
    obtain ⟨path, hpath⟩ := exists_fillValue_iff.mpr h.path
    obtain ⟨ps, hps⟩ := hproperties.mpr h.properties
    obtain ⟨content, hcontent⟩ := exists_fillValue_iff.mpr h.content
    refine Outcome.exists_bind_iff.mpr ⟨name, hname, ?_⟩
    refine Outcome.exists_bind_iff.mpr ⟨path, hpath, ?_⟩
    refine Outcome.exists_bind_iff.mpr ⟨ps, hps, ?_⟩
    exact Outcome.exists_bind_iff.mpr ⟨content, hcontent, ⟨_, rfl⟩⟩

end Note

end Clipbook
