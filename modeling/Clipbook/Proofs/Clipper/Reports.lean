import Clipbook.Proofs.Clipper.Templates

/-!
# Clipbook — what a bad file of templates says

A file of templates that is not read should say so with its path.  Most of what can be wrong with
it is put into words that begin with the path, but four faults leave as they are: the two limits of
reading JSON, a property of an unknown type, and a name that is no key.  The first such fault of a
text, in the order of its templates, is the one that leaves.

Main results:

* `Property.mistyped_iff`, `NoteTemplate.mistyped_iff` — the faults of a template that are not put
  into words of its file.
* `Templates.addAll_eq_error_of_unwrapped`, `Templates.unwrapped_of_addAll_eq_error` — the faults of
  a list of templates, with and without the path.
* `Templates.read_reports_iff` — a text is read or its fault tells the path, unless one of the four
  faults leaves.
-/

namespace Clipbook

variable {v : Value} {f : Fault}

/-! ## Types of properties -/

/-- There are no other types than those listed. -/
theorem PropertyType.mem_all (type : PropertyType) : type ∈ all := by
  cases type <;> decide

/-- A value is no type if it is the name of none. -/
theorem PropertyType.ofValue?_eq_none_iff :
    ofValue? v = none ↔ ∀ type : PropertyType, v ≠ .str type.name := by
  cases v with
  | str t =>
    rw [ofValue?, List.find?_eq_none]
    constructor
    · intro h type heq
      exact h type (mem_all type) (decide_eq_true (Value.str.inj heq).symm)
    · intro h type _ heq
      exact h type (congrArg Value.str (of_decide_eq_true heq).symm)
  | _ => exact iff_of_true rfl nofun

/-- A property has a type that is something and none of those there are. -/
inductive Property.Mistyped : Value → Fault → Prop
  | intro {fields : Table Value} {type : Value} (htype : fields.get? "type".toList = some type)
      (hsomething : type.isNothing = false) (hunknown : ∀ t : PropertyType, type ≠ .str t.name) :
      Mistyped (.obj fields)
        (.unknownPropertyType type.literal ((fields.get? "name".toList).getD .null).literal)

/-- Nothing in the place of a type is a text. -/
theorem PropertyType.ofValue?_orElse_eq_none_iff {type? : Option Value} :
    ofValue? ((type?.getD .null).orElse (.str "text".toList)) = none ↔
      ∃ type, type? = some type ∧ type.isNothing = false ∧
        ∀ t : PropertyType, type ≠ .str t.name := by
  have htext : ofValue? (.str "text".toList) ≠ none := by decide
  cases type? with
  | none => exact iff_of_false htext nofun
  | some type =>
    simp only [Option.getD_some, Value.orElse, Option.some.injEq, exists_eq_left']
    cases hsomething : type.isNothing with
    | true => exact iff_of_false htext nofun
    | false => simpa using ofValue?_eq_none_iff

theorem Value.eq_obj_of_fields_eq_ok {fields : Table Value} (h : v.fields = .ok fields) :
    v = .obj fields := by
  cases v with
  | obj members => rw [Except.ok.inj h]
  | _ => cases h

/-- **A property fails without a fault of its shape** where its type is unknown. -/
theorem Property.mistyped_iff :
    Property.ofValue v = .error f ∧ Templates.shapeFault? f = none ↔ Mistyped v f := by
  constructor
  · rintro ⟨hmade, hshape⟩
    -- what is no object is told by its shape
    rcases Except.bind_eq_error_iff.mp hmade with hfields | ⟨fields, hfields, h⟩
    · exact absurd hshape (Option.isSome_iff_ne_none.mp (Value.shapeFault?_of_fields_error hfields))
    · obtain rfl := Value.eq_obj_of_fields_eq_ok hfields
      dsimp only at h
      split at h
      · next hnone =>
        -- the type is asked for first, and an unknown one is no fault of the shape
        obtain ⟨type, htype, hsomething, hunknown⟩ :=
          PropertyType.ofValue?_orElse_eq_none_iff.mp hnone
        rw [← Except.error.inj h, htype, Option.getD_some, Value.orElse, hsomething]
        exact .intro htype hsomething hunknown
      · rw [← Except.error.inj h] at hshape
        cases hshape
      · cases h
  · rintro ⟨htype, hsomething, hunknown⟩
    refine ⟨?_, rfl⟩
    rw [Property.ofValue, Value.fields, Except.ok_bind]
    simp only [htype, Option.getD_some, Value.orElse, hsomething, Bool.false_eq_true, if_false,
      PropertyType.ofValue?_eq_none_iff.mpr hunknown]

/-! ## Properties of a template -/

/-- Only a list has an object for an element: those of an object are its keys, and those of a text
its characters. -/
theorem Value.eq_arr_of_obj_mem_elementsIfAny {elements : List Value} {fields : Table Value}
    (h : v.elementsIfAny = .ok elements) (hmem : .obj fields ∈ elements) : v = .arr elements := by
  rw [elementsIfAny] at h
  split at h
  · rw [← Except.ok.inj h] at hmem
    cases hmem
  · cases v with
    | arr items => rw [Except.ok.inj h]
    | obj members =>
      rw [← Except.ok.inj h] at hmem
      -- the elements of an object are its keys, and no object is among them
      obtain ⟨m, -, hkey⟩ := List.mem_map.mp hmem
      cases hkey
    | str t =>
      rw [← Except.ok.inj h] at hmem
      -- nor among the characters of a text
      obtain ⟨c, -, hcharacter⟩ := List.mem_map.mp hmem
      cases hcharacter
    | _ => cases h

/-- A template has a property of an unknown type, behind nothing but properties. -/
inductive NoteTemplate.Mistyped : Value → Fault → Prop
  | intro {fields : Table Value} {before after : List Value} {p : Value} {f : Fault}
      (hlist : fields.get? "properties".toList = some (.arr (before ++ p :: after)))
      (hbefore : ∀ q ∈ before, ∃ made, Property.ofValue q = .ok made)
      (hfirst : Property.Mistyped p f) : Mistyped (.obj fields) f

theorem Property.Mistyped.eq_some_of_elementsIfAny {before after : List Value} {p : Value}
    {list? : Option Value} (hp : Property.Mistyped p f)
    (h : (list?.getD .null).elementsIfAny = .ok (before ++ p :: after)) :
    list? = some (.arr (before ++ p :: after)) := by
  have hmem : p ∈ before ++ p :: after := List.mem_append_right _ (List.mem_cons_self ..)
  cases hp with
  | intro htype hsomething hunknown =>
    have hlist := Value.eq_arr_of_obj_mem_elementsIfAny h hmem
    cases list? with
    | none => cases hlist
    | some list => exact congrArg some hlist

/-- **A template fails without a fault of its shape** where a property's type is unknown. -/
theorem NoteTemplate.mistyped_iff :
    NoteTemplate.ofValue v = .error f ∧ Templates.shapeFault? f = none ↔ Mistyped v f := by
  constructor
  · rintro ⟨hmade, hshape⟩
    rcases Except.bind_eq_error_iff.mp hmade with hfields | ⟨fields, hfields, h⟩
    · exact absurd hshape (Option.isSome_iff_ne_none.mp (Value.shapeFault?_of_fields_error hfields))
    obtain rfl := Value.eq_obj_of_fields_eq_ok hfields
    rcases Except.bind_eq_error_iff.mp h with hlist | ⟨elements, hlist, hrest⟩
    · have hsome := Value.shapeFault?_of_elementsIfAny_error hlist
      exact absurd hshape (Option.isSome_iff_ne_none.mp hsome)
    rcases Except.bind_eq_error_iff.mp hrest with hproperties | ⟨properties, -, hname⟩
    -- the fault is that of the first property that has one
    · obtain ⟨before, p, after, rfl, hbefore, hp⟩ := Except.mapM_eq_error_iff.mp hproperties
      have hfirst := Property.mistyped_iff.mp ⟨hp, hshape⟩
      exact .intro (hfirst.eq_some_of_elementsIfAny hlist) hbefore hfirst
    · split at hname
      · rw [← Except.error.inj hname] at hshape
        cases hshape
      · cases hname
  · rintro @⟨fields, before, after, p, f, hlist, hbefore, hfirst⟩
    obtain ⟨hp, hshape⟩ := Property.mistyped_iff.mpr hfirst
    have hproperties : (before ++ p :: after).mapM Property.ofValue = .error f :=
      Except.mapM_eq_error_iff.mpr ⟨_, _, _, rfl, hbefore, hp⟩
    -- the list is not empty, so it is read as one
    have helements : (Value.arr (before ++ p :: after)).elementsIfAny
        = .ok (before ++ p :: after) := by
      simp [Value.elementsIfAny, Value.isNothing, Value.elements]
    refine ⟨?_, hshape⟩
    rw [NoteTemplate.ofValue, Value.fields, Except.ok_bind]
    simp only [hlist, Option.getD_some, helements, Except.ok_bind, hproperties, Except.error_bind]

/-! ## Names of templates -/

theorem Value.sameKey_self (h : v.isNested = false) : v.sameKey v = true := by
  cases v with
  | null => rfl
  | bool b => exact decide_eq_true rfl
  | int n => exact decide_eq_true rfl
  | float x =>
    cases x with
    | finite negative m e => exact decide_eq_true rfl
    | infinite negative => cases negative <;> rfl
    | nan => rfl
  | str t => exact decide_eq_true rfl
  | arr items => cases h
  | obj members => cases h

namespace Templates

variable {path content : Text} {templates made : Templates} {t : NoteTemplate} {vs : List Value}

/-- Every template is under a key that is equal to its name. -/
def Named (templates : Templates) : Prop :=
  ∀ e ∈ templates, ∃ key, e.2.name.key = .ok key ∧ e.1.sameKey key = true

/-- One more template is under a key that is equal to its name, be the key new or an older one. -/
theorem named_put (h : Named templates) (hname : t.name.isNested = false) :
    Named (templates.put t.name t) := by
  have hkey : t.name.key = .ok t.name := key_eq_ok_of_not_isNested hname
  induction templates with
  | nil => exact List.forall_mem_singleton.mpr ⟨t.name, hkey, Value.sameKey_self hname⟩
  | cons e templates ih =>
    obtain ⟨hfirst, hrest⟩ := List.forall_mem_cons.mp h
    rw [Book.put]
    split
    · next hsame => exact List.forall_mem_cons.mpr ⟨⟨t.name, hkey, hsame⟩, hrest⟩
    · exact List.forall_mem_cons.mpr ⟨hfirst, ih hrest⟩

/-- A template that is added stands under its own name. -/
theorem named_of_addAll_eq_ok (h : addAll path templates vs = .ok made)
    (hnamed : Named templates) : Named made := by
  induction vs generalizing templates with
  | nil =>
    rw [← Except.ok.inj h]
    exact hnamed
  | cons v vs ih =>
    obtain ⟨t, -, h⟩ := Except.bind_eq_ok_iff.mp h
    obtain ⟨key, hkey, hrest⟩ := Except.bind_eq_ok_iff.mp h
    cases hname : t.name.isNested with
    | true =>
      rw [key_eq_error_iff.mpr ⟨hname, rfl⟩] at hkey
      cases hkey
    | false =>
      rw [key_eq_ok_of_not_isNested hname] at hkey
      obtain rfl := Except.ok.inj hkey
      exact ih hrest (named_put hnamed hname)

/-! ## Lists of templates -/

/-- The first fault of the templates that is not put into words of their file: behind templates
with names that are keys, a property has an unknown type or a name is no key. -/
inductive Unwrapped : List Value → Fault → Prop
  | type {v : Value} {f : Fault} (h : NoteTemplate.Mistyped v f) (vs : List Value) :
      Unwrapped (v :: vs) f
  | name {v : Value} {t : NoteTemplate} (h : NoteTemplate.ofValue v = .ok t)
      (hname : t.name.isNested = true) (vs : List Value) :
      Unwrapped (v :: vs) (.unhashable t.name.kind)
  | later {v : Value} {f : Fault} {t : NoteTemplate} {vs : List Value}
      (h : NoteTemplate.ofValue v = .ok t) (hname : t.name.isNested = false)
      (hrest : Unwrapped vs f) : Unwrapped (v :: vs) f

/-- A fault of a template is put into words of its file, or a property has an unknown type. -/
theorem templateOf_eq_error_iff :
    templateOf path v = .error f ↔
      (∃ g reason, NoteTemplate.ofValue v = .error g ∧ shapeFault? g = some reason ∧
        f = .invalidTemplate path reason) ∨ NoteTemplate.Mistyped v f := by
  rw [← NoteTemplate.mistyped_iff]
  unfold templateOf
  split
  · next t ht =>
    rw [ht]
    refine iff_of_false nofun ?_
    rintro (⟨g, reason, h, -⟩ | ⟨h, -⟩) <;> cases h
  · next g hg =>
    rw [hg]
    split
    · next reason hreason =>
      constructor
      · intro h
        exact .inl ⟨g, reason, rfl, hreason, (Except.error.inj h).symm⟩
      · rintro (⟨g', reason', h, hreason', rfl⟩ | ⟨h, hnone⟩)
        · obtain rfl := Except.error.inj h
          rw [Option.some.inj (hreason.symm.trans hreason')]
        · rw [Except.error.inj h, hnone] at hreason
          cases hreason
    · next hnone =>
      -- no fault of the shape, and so that of a type
      constructor
      · intro h
        exact .inr ⟨h, Except.error.inj h ▸ hnone⟩
      · rintro (⟨g', reason, h, hreason, -⟩ | ⟨h, -⟩)
        · rw [← Except.error.inj h, hnone] at hreason
          cases hreason
        · exact h

/-- **A fault leaves as it is** where it is the first one not put into words of the file. -/
theorem addAll_eq_error_of_unwrapped (h : Unwrapped vs f) :
    addAll path templates vs = .error f := by
  induction h generalizing templates with
  | type h vs =>
    rw [addAll, templateOf_eq_error_iff.mpr (.inr h), Except.error_bind]
  | name h hname vs =>
    rw [addAll, templateOf_eq_ok_iff.mpr h, Except.ok_bind, key_eq_error_iff.mpr ⟨hname, rfl⟩,
      Except.error_bind]
  | later h hname hrest ih =>
    rw [addAll, templateOf_eq_ok_iff.mpr h, Except.ok_bind, key_eq_ok_of_not_isNested hname,
      Except.ok_bind, ih]

/-- Any other fault of a list of templates is put into words of the file. -/
theorem unwrapped_of_addAll_eq_error (h : addAll path templates vs = .error f) :
    Unwrapped vs f ∨ ∃ reason, f = .invalidTemplate path reason := by
  induction vs generalizing templates with
  | nil => cases h
  | cons v vs ih =>
    rcases Except.bind_eq_error_iff.mp h with htemplate | ⟨t, htemplate, h⟩
    -- a fault of the shape is put into words, that of a type that can be no key is not
    · rcases templateOf_eq_error_iff.mp htemplate with ⟨g, reason, -, -, rfl⟩ | hmistyped
      · exact .inr ⟨reason, rfl⟩
      · exact .inl (.type hmistyped vs)
    have ht : NoteTemplate.ofValue v = .ok t := templateOf_eq_ok_iff.mp htemplate
    rcases Except.bind_eq_error_iff.mp h with hkey | ⟨key, hkey, hrest⟩
    · -- made, but under a name that is no key: the fault of the table
      obtain ⟨hname, rfl⟩ := key_eq_error_iff.mp hkey
      exact .inl (.name ht hname vs)
    · have hname : t.name.isNested = false := by
        by_contra hnested
        rw [key_eq_error_iff.mpr ⟨eq_true_of_ne_false hnested, rfl⟩] at hkey
        cases hkey
      exact (ih hrest).imp_left (.later ht hname)

/-! ## Texts -/

/-- A fault is one that a file of templates is refused for, and has the path of the file in its
words. -/
def Reports (path : Text) (f : Fault) : Prop :=
  (Clipper.templatesRefusal? f).isSome = true ∧ path <:+: f.message

/-- A fault of a text of templates that nothing puts into words of its file: a limit of reading
JSON, or a fault of one of the templates. -/
inductive Uncaught (content : Text) : Fault → Prop
  | limit {f : Fault} (h : Value.ofJson (unifyLineEnds content) = .error f)
      (hlimit : Value.IsLimit f) : Uncaught content f
  | template {v : Value} {f : Fault} (h : Value.ofJson (unifyLineEnds content) = .ok v)
      (hfirst : Unwrapped (entries v) f) : Uncaught content f

/-- Words of the file begin with an opening and the path. -/
theorem infix_words (opening path mark reason : Text) :
    path <:+: opening ++ path ++ mark ++ reason :=
  (List.infix_append opening path mark).trans (List.prefix_append _ reason).isInfix

/-- A fault of the file is a report that names it. -/
theorem reports_invalidTemplatesFile (path reason : Text) :
    Reports path (.invalidTemplatesFile path reason) :=
  ⟨rfl, infix_words "Invalid templates file ".toList path ": ".toList reason⟩

/-- A fault of a template is a report that names the file. -/
theorem reports_invalidTemplate (path reason : Text) :
    Reports path (.invalidTemplate path reason) :=
  ⟨rfl, infix_words "Invalid template in ".toList path ": ".toList reason⟩

/-- Where a file holds a list, its entries are the items. -/
theorem entries_of_valuesOf_eq_ok (h : valuesOf path v = .ok vs) : entries v = vs := by
  cases v with
  | obj members => exact Except.ok.inj h
  | arr items => exact Except.ok.inj h
  | _ => cases h

/-- Where a file holds no list, that is reported. -/
theorem reports_of_valuesOf_eq_error (h : valuesOf path v = .error f) : Reports path f := by
  cases v with
  | obj members => cases h
  | arr items => cases h
  | _ => rw [← Except.error.inj h]; exact reports_invalidTemplatesFile ..

/-- A fault that is not put into words of the file leaves the reading as it is. -/
theorem read_eq_error_of_uncaught (h : Uncaught content f) : read path content = .error f := by
  cases h with
  | limit h hlimit =>
    rw [read, h]
    rcases hlimit with rfl | ⟨digits, rfl, -⟩ <;> rfl
  | @template v _ h hfirst =>
    rw [read, h]
    show (valuesOf path v >>= addAll path []) = .error f
    cases v with
    | obj members => exact addAll_eq_error_of_unwrapped hfirst
    | arr items => exact addAll_eq_error_of_unwrapped hfirst
    | _ => cases hfirst -- no entries, and no first fault of them

/-- Any other fault tells the path. -/
theorem uncaught_or_reports_of_read_eq_error (h : read path content = .error f) :
    Uncaught content f ∨ Reports path f := by
  rw [read] at h
  cases hread : Value.ofJson (unifyLineEnds content) with
  | error g =>
    rw [hread] at h
    rcases Value.ofJson_error_cases hread with ⟨cause, place, rfl⟩ | hlimit
    · rw [← Except.error.inj h]
      exact .inr (reports_invalidTemplatesFile ..)
    · -- a limit is no fault of JSON, and leaves as it is
      have hsame : g = f := by
        rcases hlimit with rfl | ⟨digits, rfl, -⟩ <;> exact Except.error.inj h
      rw [hsame] at hread hlimit
      exact .inl (.limit hread hlimit)
  | ok v =>
    rw [hread] at h
    have hadd : (valuesOf path v >>= addAll path []) = .error f := h
    rcases Except.bind_eq_error_iff.mp hadd with hvalues | ⟨vs, hvalues, hrest⟩
    · exact .inr (reports_of_valuesOf_eq_error hvalues)
    -- the values are the entries, so the first fault of one is that of the file
    · rcases unwrapped_of_addAll_eq_error hrest with hfirst | ⟨reason, rfl⟩
      · rw [← entries_of_valuesOf_eq_ok hvalues] at hfirst
        exact .inl (.template hread hfirst)
      · exact .inr (reports_invalidTemplate ..)

/-- Templates that are read stand under their own names. -/
theorem named_of_read_eq_ok (h : read path content = .ok templates) : Named templates := by
  rw [read] at h
  split at h
  · cases h
  · obtain ⟨v, -, hvalues⟩ := Except.bind_eq_ok_iff.mp h
    obtain ⟨vs, -, hadd⟩ := Except.bind_eq_ok_iff.mp hvalues
    exact named_of_addAll_eq_ok hadd (List.forall_mem_nil _)

/-- **A text of templates is read, or its fault tells the path of the file**, exactly if none of the
faults leaves that are not put into words of it, or the one that does has the path in its words by
chance.  Such a fault leaves whatever the path is. -/
theorem read_reports_iff (path content : Text) :
    (((∃ templates, read path content = .ok templates ∧ Named templates) ∨
        ∃ f, read path content = .error f ∧ Reports path f) ↔
      ∀ f, Uncaught content f → Reports path f) ∧
    ∀ f, Uncaught content f → read path content = .error f := by
  refine ⟨⟨?_, fun hall => ?_⟩, fun f => read_eq_error_of_uncaught⟩
  · rintro (⟨templates, hok, -⟩ | ⟨f, hf, hreports⟩) g huncaught
    · rw [read_eq_error_of_uncaught huncaught] at hok
      cases hok
    · rw [read_eq_error_of_uncaught huncaught] at hf
      rwa [Except.error.inj hf]
  · cases hread : read path content with
    | ok templates => exact .inl ⟨templates, rfl, named_of_read_eq_ok hread⟩
    | error f =>
      refine .inr ⟨f, rfl, ?_⟩
      -- a fault that leaves is either one of the uncaught ones or put into words
      rcases uncaught_or_reports_of_read_eq_error hread with huncaught | hreports
      · exact hall f huncaught
      · exact hreports

/-- **A template whose name is a list** is neither read nor told of: the table of templates fails,
and a file is not refused for that. -/
theorem not_forall_read_reports :
    ¬∀ path content : Text, (∃ templates, read path content = .ok templates ∧ Named templates) ∨
      ∃ f, read path content = .error f ∧ Reports path f := by
  intro h
  have hfault : (match read "templates.json".toList "[\x7b\"name\":[\"a\"]\x7d]".toList with
      | .ok _ => none
      | .error f => some f) = some (.unhashable .arr) := by decide +kernel
  rcases h "templates.json".toList "[\x7b\"name\":[\"a\"]\x7d]".toList with
    ⟨templates, hok, -⟩ | ⟨f, hf, hvalue, -⟩
  · rw [hok] at hfault
    cases hfault
  · rw [hf] at hfault
    obtain rfl := Option.some.inj hfault
    cases hvalue

end Templates

end Clipbook
