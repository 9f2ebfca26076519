import Clipbook.Note
import Clipbook.Proofs.Note.Filling
import Clipbook.Proofs.Outcome

/-!
# Clipbook — what the standard template makes

Each text of the standard template is one placeholder or has no slots at all.  So a note made of it
holds the variables as they are, whatever syntax stands in them.

Main results:

* `fill_braced` — a placeholder alone is filled in with its variable.
* `fill_of_isSlotless` — a text without slots stays as it is.
* `ofTemplate_standard` — the note that the standard template makes.
-/

namespace Clipbook.Note

variable {words : Variables} {name t : Text} {place : Nat} {type : PropertyType} {v : Value}

/-! ## Texts of the template -/

/-- A name that can stand in a placeholder. -/
def isName (name : Text) : Bool :=
  name ≠ [] && name.all (!isBrace ·)

/-- A placeholder alone is filled in with its variable. -/
theorem fill_braced (h : isName name = true) :
    fill words (Text.braced name) = pure ((words.get? (Text.braced name)).getD []) := by
  rw [isName, Bool.and_eq_true, decide_eq_true_eq, List.all_eq_true] at h
  obtain ⟨hne, hplain⟩ := h
  have hname : ∀ c ∈ name, isBrace c = false := fun c hc => by simpa using hplain c hc
  have hfound : placeholder? (Text.braced name) = some (Text.braced name) :=
    placeholder?_eq_some_iff.mpr ⟨name, [], hne, hname, rfl, (List.append_nil _).symm⟩
  have hslot : slotAt? 0 (Text.braced name) = some (.placeholder 0 (Text.braced name)) := by
    rw [slotAt?, placeholderAt?, hfound]
    rfl
  rw [fill_of_slot hslot (Nat.zero_add _)]
  rfl

/-- Only a dollar sign or an opening brace starts a slot. -/
theorem slotAt?_cons_of_ne {c : Char} (hdollar : c ≠ '$') (hbrace : c ≠ '\x7b') (t : Text) :
    slotAt? place (c :: t) = none := by
  -- one kind of slot starts with a dollar sign, the other with a brace
  have hexpression : expressionAt? place (c :: t) = none := by
    unfold expressionAt?
    split
    · next heq => exact absurd (List.cons.inj heq).1 hdollar
    · rfl
  have hplaceholder : placeholder? (c :: t) = none := by
    unfold placeholder?
    split
    · next heq => exact absurd (List.cons.inj heq).1 hbrace
    · rfl
  rw [slotAt?, placeholderAt?, hexpression, hplaceholder]
  rfl

/-- A text in which no slot starts. -/
def isSlotless (t : Text) : Bool :=
  t.all fun c => c ≠ '$' && c ≠ '\x7b'

theorem fill_of_isSlotless (h : isSlotless t = true) : fill words t = pure t := by
  -- the place moves on with each character, so the induction is for all places
  have hpass : ∀ place, fillOnce words place t = pure t := by
    induction t with
    | nil =>
      intro place
      rw [fillOnce]
      rfl
    | cons c t ih =>
      intro place
      rw [isSlotless, List.all_cons, Bool.and_eq_true, Bool.and_eq_true] at h
      obtain ⟨⟨hdollar, hbrace⟩, hrest⟩ := h
      rw [fillOnce, slotAt?_cons_of_ne (of_decide_eq_true hdollar) (of_decide_eq_true hbrace)]
      dsimp only
      rw [ih hrest]
      rfl
  rw [fill, fillFrom_slots, hpass]

/-- The text of a variable, empty if there is no such variable. -/
def textOf (words : Variables) (name : String) : Text :=
  (words.get? (Text.braced name.toList)).getD []

theorem fillValue_slot (name : String) (h : isName name.toList = true) :
    fillValue words (NoteTemplate.slot name) = pure (textOf words name) :=
  fill_braced h

/-- A property is read from the text its value is filled in with. -/
theorem propertyOf_eq_pure {value : Value} (hfill : fillValue words value = pure t)
    (hread : type.read (Text.strip t) = .ok v) :
    propertyOf words ⟨.str name, value, type⟩ = pure (.str name, v) := by
  rw [propertyOf, hfill, pure_bind, hread]
  rfl

/-! ## The note -/

/-- The properties that the standard template makes, with the list that the author is read as. -/
def standardEntries (words : Variables) (authors : Value) : List (Value × Value) :=
  [(.str "title".toList, .str (Text.strip (textOf words "title"))),
   (.str "source".toList, .str (Text.strip (textOf words "url"))),
   (.str "author".toList, authors),
   (.str "published".toList, .str (Text.strip (textOf words "published"))),
   (.str "created".toList, .str (Text.strip (textOf words "date"))),
   (.str "description".toList, .str (Text.strip (textOf words "description"))),
   (.str "tags".toList, .arr [.str "clippings".toList])]

/-- The properties of the standard template, each from its variable. -/
theorem properties_standard {authors : Value}
    (h : PropertyType.listOf (Text.strip (textOf words "author")) = .ok authors) :
    Outcome.mapList (propertyOf words) NoteTemplate.standard.properties =
      pure (standardEntries words authors) := by
  refine Outcome.mapList_eq_pure_of_forall₂ ?_
  -- a text is read as it is, so that the list of authors is the one that can fail
  refine .cons (propertyOf_eq_pure (fillValue_slot "title" rfl) rfl) ?_
  refine .cons (propertyOf_eq_pure (fillValue_slot "url" rfl) rfl) ?_
  refine .cons (propertyOf_eq_pure (fillValue_slot "author" rfl) h) ?_
  refine .cons (propertyOf_eq_pure (fillValue_slot "published" rfl) rfl) ?_
  refine .cons (propertyOf_eq_pure (fillValue_slot "date" rfl) rfl) ?_
  refine .cons (propertyOf_eq_pure (fillValue_slot "description" rfl) rfl) ?_
  have htags : fillValue words (.str "clippings".toList) = pure "clippings".toList :=
    fill_of_isSlotless rfl
  exact .cons (propertyOf_eq_pure htags rfl) .nil

/-- **The standard template makes a note of any variables** of which the author can be read as a
list. -/
theorem ofTemplate_standard {authors : Value}
    (h : PropertyType.listOf (Text.strip (textOf words "author")) = .ok authors) :
    ofTemplate NoteTemplate.standard words = pure
      { name := FileName.sanitize (textOf words "title")
        path := "Clippings".toList
        properties := Book.ofList (standardEntries words authors)
        content := Text.strip (textOf words "content") } := by
  have hname : fillValue words NoteTemplate.standard.nameFormat = pure (textOf words "title") :=
    fillValue_slot "title" rfl
  have hpath : fillValue words NoteTemplate.standard.path = pure "Clippings".toList :=
    fill_of_isSlotless rfl
  have hcontent : fillValue words NoteTemplate.standard.contentFormat =
      pure (textOf words "content") :=
    fillValue_slot "content" rfl
  rw [ofTemplate, hname, hpath, hcontent, properties_standard h]
  rfl

end Clipbook.Note
