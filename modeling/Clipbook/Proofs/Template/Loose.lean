import Clipbook.Proofs.Scan.Quoted
import Clipbook.Proofs.Table
import Clipbook.Proofs.Text.Pieces
import Clipbook.Proofs.Text.Trimmed
import Clipbook.Template.Loose

/-!
# Clipbook — loose objects that read back

Fields are printed as `key: value` with a comma and a blank between them, and the reader looks for
them anywhere in the text.  It finds a field where one was printed, and takes all of it: a value in
quotes up to the closing quote, whatever it looks like inside, and a bare one up to the comma.  So
it goes on behind the field, and the comma and the blank begin no other.

Main results:

* `valueHere?_printed` — a printed value is read to its end.
* `field?_printed` — and so is a printed field.
* `fieldsFrom_print` — the fields are found one by one.
* `read_print` — a loose object reads back.
-/

namespace Clipbook.Loose

variable {t rest : Text}

/-! ## Printing -/

/-- A value as it is printed: in quotes, or bare. -/
inductive Printable where
  | quoted (t : Text)
  | bare (t : Text)

namespace Printable

def text : Printable → Text
  | quoted t => t
  | bare t => t

def printed : Printable → Text
  | quoted t => '"' :: t ++ ['"']
  | bare t => t

/-- What may be printed in each way.  No value is the word for a missing one. -/
def Writable : Printable → Prop
  | quoted t => ('"' ∉ t ∧ '\\' ∉ t) ∧ t ≠ "undefined".toList
  | bare t => (t ≠ [] ∧ Text.Trimmed t ∧ t.head? ≠ some '"' ∧ ∀ c ∈ t, isBareChar c = true) ∧
      t ≠ "undefined".toList

instance (w : Printable) : Decidable w.Writable :=
  match w with
  | quoted _ => inferInstanceAs (Decidable ((_ ∧ _) ∧ _))
  | bare t =>
    decidable_of_iff
      ((t ≠ [] ∧ Text.Trimmed t ∧ t.head? ≠ some '"' ∧ t.all isBareChar = true) ∧
        t ≠ "undefined".toList)
      (by rw [Writable, List.all_eq_true])

end Printable

/-- A field with a key and a value. -/
structure Field where
  key : Text
  value : Printable

namespace Field

def printed (f : Field) : Text :=
  f.key ++ ':' :: ' ' :: f.value.printed

structure Writable (f : Field) : Prop where
  ne_nil : f.key ≠ []
  word : ∀ c ∈ f.key, Text.isWord c = true
  value : f.value.Writable

/-- Fields that may be written, in a form that can be decided. -/
theorem writable_iff (f : Field) :
    f.Writable ↔ f.key ≠ [] ∧ f.key.all Text.isWord = true ∧ f.value.Writable := by
  rw [List.all_eq_true]
  exact ⟨fun h => ⟨h.ne_nil, h.word, h.value⟩, fun h => ⟨h.1, h.2.1, h.2.2⟩⟩

instance (f : Field) : Decidable f.Writable :=
  decidable_of_iff _ (writable_iff f).symm

/-- What the field says. -/
def entry (f : Field) : Text × Option Text :=
  (f.key, some f.value.text)

end Field

/-- Fields with commas between them. -/
def print (fields : List Field) : Text :=
  Text.join ", ".toList (fields.map Field.printed)

/-! ## Values -/

variable {w : Printable} {f : Field} {fields : List Field}

/-- A value in quotes ends at the next quote. -/
theorem quotedRest_append (hquote : '"' ∉ t) (hslash : '\\' ∉ t) (rest : Text) :
    quotedRest (t ++ '"' :: rest) = some (t ++ ['"']) := by
  induction t with
  | nil => rfl
  | cons c t ih =>
    rw [List.mem_cons, not_or] at hquote hslash
    rw [List.cons_append, quotedRest, ih hquote.2 hslash.2]
    · rfl
    · exact Ne.symm hquote.1
    · exact fun _ _ h _ => hslash.1 h.symm
    · exact fun h _ => hslash.1 h.symm

/-- No bare value goes on in what stands behind it. -/
def Stops (rest : Text) : Prop :=
  ∀ c, rest.head? = some c → isBareChar c = false

/-- **A printed value is read to its end.** -/
theorem valueHere?_printed (h : w.Writable) (hrest : Stops rest) :
    valueHere? (w.printed ++ rest) = some w.printed := by
  cases w with
  | quoted t =>
    -- the closing quote ends the value, whatever comes behind it
    obtain ⟨⟨hquote, hslash⟩, -⟩ := h
    have happend : (Printable.quoted t).printed ++ rest = '"' :: (t ++ '"' :: rest) := by
      simp [Printable.printed]
    rw [happend, valueHere?, quotedRest_append hquote hslash]
    rfl
  | bare t =>
    -- here it is the rest that ends the value
    obtain ⟨⟨hne, -, hquote, hbare⟩, -⟩ := h
    have hspan := (Text.span_run hbare hrest).1
    show valueHere? (t ++ rest) = some t
    unfold valueHere?
    rw [hspan]
    dsimp only
    rw [if_neg hne]
    split
    · next heq =>
      obtain ⟨c, t, rfl⟩ := List.exists_cons_of_ne_nil hne
      exact absurd (congrArg some (List.cons.inj heq).1) hquote
    · rfl

theorem exists_printed_eq_cons (h : w.Writable) :
    ∃ c t, w.printed = c :: t ∧ Text.isBlank c = false := by
  cases w with
  | quoted t => exact ⟨'"', _, rfl, by decide⟩
  | bare t =>
    obtain ⟨⟨hne, htrim, -⟩, -⟩ := h
    obtain ⟨c, t, rfl⟩ := List.exists_cons_of_ne_nil hne
    exact ⟨c, t, rfl, htrim.head c rfl⟩

/-- The blank behind the colon is no part of the value. -/
theorem value?_printed (h : w.Writable) (hrest : Stops rest) :
    value? (' ' :: (w.printed ++ rest)) = some (w.printed, 1 + w.printed.length) := by
  obtain ⟨c, t, heq, hc⟩ := exists_printed_eq_cons h
  have hblank : ∀ d ∈ [' '], Text.isBlank d = true := List.forall_mem_singleton.mpr (by decide)
  have hspan := Text.span_run_cons hblank hc (t ++ rest)
  have hvalue := valueHere?_printed h hrest
  rw [heq, List.cons_append] at hvalue ⊢
  rw [List.singleton_append] at hspan
  rw [value?, hspan.1, hspan.2, hvalue]
  rfl

/-- A printed value without its quotes is the value. -/
theorem tidy_printed (h : w.Writable) : tidy w.printed = some w.text := by
  cases w with
  | quoted t =>
    obtain ⟨-, hword⟩ := h
    have hstrip : Text.stripEnd ('"' :: t ++ ['"']) = '"' :: t ++ ['"'] :=
      Text.trimEnd_eq_self
        (Text.trimmed_cons_append_singleton (by decide) t (by decide)).last
    show tidy ('"' :: t ++ ['"']) = some t
    unfold tidy
    rw [hstrip]
    simp only [List.cons_append, Text.before?_append, Option.getD_some, if_neg hword]
  | bare t =>
    obtain ⟨⟨hne, htrim, hquote, -⟩, hword⟩ := h
    have hstrip : Text.stripEnd t = t := Text.trimEnd_eq_self htrim.last
    show tidy t = some t
    unfold tidy
    rw [hstrip]
    dsimp only
    split
    · exact absurd rfl hquote
    · rw [if_neg hword]

/-! ## Fields -/

/-- **A printed field is read to its end.** -/
theorem field?_printed (h : f.Writable) (hrest : Stops rest) :
    field? (f.printed ++ rest) = some (f.key, some f.value.text, f.printed.length) := by
  have happend : f.printed ++ rest = f.key ++ ':' :: ' ' :: (f.value.printed ++ rest) := by
    simp [Field.printed]
  -- the colon ends the key, as it is no character of a word
  have hcolon : Text.isWord ':' = false := by decide
  have hspan := Text.span_run_cons h.word hcolon (' ' :: (f.value.printed ++ rest))
  have hlength : f.printed.length = f.key.length + 1 + (1 + f.value.printed.length) := by
    rw [Field.printed, List.length_append, List.length_cons, List.length_cons]
    omega
  rw [happend, field?, hspan.1, hspan.2]
  split
  · next heq => exact absurd heq h.ne_nil
  · next heq _ =>
    rw [← (List.cons.inj heq).2, value?_printed h.value hrest, Option.map_some,
      tidy_printed h.value, hlength]
  · next hcolon => exact absurd rfl (hcolon _)

/-- The characters of a field that is read are passed over. -/
theorem fieldsFrom_skip (t rest : Text) : fieldsFrom t.length (t ++ rest) = fieldsFrom 0 rest := by
  induction t with
  | nil => rfl
  | cons c t ih => exact ih

/-- A field is read back, and the others behind it. -/
theorem fieldsFrom_printed (h : f.Writable) (hrest : Stops rest) :
    fieldsFrom 0 (f.printed ++ rest) = f.entry :: fieldsFrom 0 rest := by
  have hfield := field?_printed h hrest
  -- the reader passes over the first character and skips the others
  obtain ⟨c, t, heq⟩ : ∃ c t, f.printed = c :: t :=
    List.exists_cons_of_ne_nil (List.append_ne_nil_of_left_ne_nil h.ne_nil _)
  rw [heq, List.cons_append] at hfield ⊢
  rw [fieldsFrom, hfield]
  show f.entry :: fieldsFrom t.length (t ++ rest) = _
  rw [fieldsFrom_skip]

/-- No field begins with the comma or the blank between two of them. -/
theorem fieldsFrom_comma (t : Text) : fieldsFrom 0 (',' :: ' ' :: t) = fieldsFrom 0 t := rfl

theorem stops_nil : Stops [] := nofun

theorem stops_comma (t : Text) : Stops (',' :: t) := by
  intro c hc
  rw [← Option.some.inj hc]
  rfl

/-- **The fields are found one by one**, whatever their values look like. -/
theorem fieldsFrom_print (h : ∀ f ∈ fields, f.Writable) :
    fieldsFrom 0 (print fields) = fields.map Field.entry := by
  induction fields with
  | nil => rfl
  | cons f fields ih =>
    -- the first field is taken whole, so none of the others is looked for inside of it
    obtain ⟨hfirst, hlater⟩ := List.forall_mem_cons.mp h
    cases fields with
    | nil =>
      have hlast := fieldsFrom_printed hfirst stops_nil
      rwa [List.append_nil] at hlast
    | cons g fields =>
      have hprint : print (f :: g :: fields) =
          f.printed ++ ',' :: ' ' :: print (g :: fields) := by
        rw [print, List.map_cons, List.map_cons, Text.join_cons_of_ne_nil (List.cons_ne_nil _ _),
          List.append_assoc]
        rfl
      rw [hprint, fieldsFrom_printed hfirst (stops_comma _), fieldsFrom_comma, ih hlater]
      rfl

/-- **A loose object reads back**, key by key in order. -/
theorem read_print (hkeys : (fields.map Field.key).Nodup) (h : ∀ f ∈ fields, f.Writable) :
    read (print fields) = fields.map fun f => (f.key, some f.value.text) := by
  have hentries : (Table.keys (fields.map Field.entry)).Nodup := by
    rw [Table.keys, List.map_map]
    exact hkeys
  rw [read, fieldsFrom_print h, Table.ofList_of_nodup_keys hentries]
  rfl

/-- Values that look like further fields, one that begins like an object, and an empty one. -/
theorem read_print_lookalike :
    let fields := [Field.mk "a".toList (.quoted "x, b: y\x7d".toList),
      Field.mk "b_2".toList (.bare "c: \x7b\"d\": 1".toList), Field.mk "c".toList (.quoted [])]
    (fields.map Field.key).Nodup ∧ (∀ f ∈ fields, f.Writable) ∧
      print fields = "a: \"x, b: y\x7d\", b_2: c: \x7b\"d\": 1, c: \"\"".toList ∧
      read (print fields) = [("a".toList, some "x, b: y\x7d".toList),
        ("b_2".toList, some "c: \x7b\"d\": 1".toList), ("c".toList, some [])] := by
  intro fields
  have hkeys : (fields.map Field.key).Nodup := by decide +kernel
  have hfields : ∀ f ∈ fields, f.Writable := by decide +kernel
  exact ⟨hkeys, hfields, by decide +kernel, read_print hkeys hfields⟩

end Clipbook.Loose
