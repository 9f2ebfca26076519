import Clipbook.Proofs.Filter.Split
import Clipbook.Proofs.Template.Loose
import Clipbook.Proofs.Template.Render
import Mathlib.Algebra.Order.BigOperators.Group.List
import Mathlib.Algebra.Order.Group.Nat

/-!
# Clipbook — plain texts as items

An item that is a text is read as a loose object first, and only where no field is found in it does
it become the field `str`.  Fields are looked for anywhere in the text, so that a plain text may
hold one: `https://example.com` has the field `https`, and `see: page 2` the field `see`.

The template `${str}` therefore leaves a text as it is if there is no field in it.  If there is
one, something shorter comes out: a value in place of a text that holds this value and its colon,
or nothing at all.

Main results:

* `Loose.fieldsFrom_eq_nil_iff` — the texts without a field.
* `Loose.sublist_of_mem_read` — the value of a field and its colon are a part of the text.
* `Template.itemText_of_not_hasField`, `Template.itemText_of_hasField` — what is shown of a text.
* `Template.render_showing_eq_iff` — the texts that are shown as they are.
* `Template.plain_texts_shown_iff` — the same for a text and for lists of texts as data.
-/

namespace Clipbook

namespace Loose

variable {t rest raw v k : Text} {c w : Char} {skip n : Nat}

/-! ## Fields in a text -/

/-- A character of a word, a colon and a character that a bare value may have stand in a row. -/
def HasField (t : Text) : Prop :=
  ∃ front w c rest, t = front ++ w :: ':' :: c :: rest ∧
    Text.isWord w = true ∧ isBareChar c = true

/-- A quote is a character of a bare value too, so that a quote that is never closed begins one. -/
theorem isSome_valueHere? (c : Char) (rest : Text) :
    (valueHere? (c :: rest)).isSome = isBareChar c := by
  unfold valueHere?
  cases hc : isBareChar c with
  | true =>
    have hbare : (c :: rest).takeWhile isBareChar ≠ [] := by
      rw [List.takeWhile_cons_of_pos hc]
      exact List.cons_ne_nil _ _
    dsimp only
    rw [if_neg hbare]
    -- in quotes or bare: where the quotes have no end, the bare value is taken
    split
    · split <;> rfl
    · rfl
  | false =>
    have hbare : (c :: rest).takeWhile isBareChar = [] :=
      List.takeWhile_cons_of_neg (by rw [hc]; exact Bool.false_ne_true)
    dsimp only
    rw [if_pos hbare]
    -- a quote would be bare itself
    split
    · next heq =>
      rw [(List.cons.inj heq).1] at hc
      cases hc
    · rfl

/-- No blank ends a value. -/
theorem isBareChar_of_isBlank (h : Text.isBlank c = true) : isBareChar c = true := by
  have hcomma : c ≠ ',' := fun heq => absurd (heq ▸ h) (by decide)
  have hbrace : c ≠ '\x7d' := fun heq => absurd (heq ▸ h) (by decide)
  simp [isBareChar, hcomma, hbrace]

/-- **A value comes next** where the next character does not end one. -/
theorem isSome_value? (c : Char) (rest : Text) :
    (value? (c :: rest)).isSome = isBareChar c := by
  unfold value?
  cases hc : Text.isBlank c with
  | true =>
    -- blanks are passed over, and if nothing comes behind them the last of them is the value
    have hblanks : (c :: rest).takeWhile Text.isBlank ≠ [] := by
      rw [List.takeWhile_cons_of_pos hc]
      exact List.cons_ne_nil _ _
    rw [isBareChar_of_isBlank hc]
    dsimp only
    split
    · rfl
    · rw [Option.isSome_map]
      exact List.getLast?_isSome.mpr hblanks
  | false =>
    have hneg : ¬Text.isBlank c = true := by rw [hc]; exact Bool.false_ne_true
    rw [List.takeWhile_cons_of_neg hneg, List.dropWhile_cons_of_neg hneg,
      ← isSome_valueHere? c rest]
    cases valueHere? (c :: rest) <;> rfl

/-- A character of a word, a colon and a character of a bare value are a field. -/
theorem isSome_field? (hw : Text.isWord w = true) (hc : isBareChar c = true) (rest : Text) :
    (field? (w :: ':' :: c :: rest)).isSome = true := by
  have hcolon : Text.isWord ':' = false := by decide
  have hspan := Text.span_run_cons (List.forall_mem_singleton.mpr hw) hcolon (c :: rest)
  rw [List.singleton_append] at hspan
  rw [field?, hspan.1, hspan.2]
  show ((value? (c :: rest)).map _).isSome = true
  rw [Option.isSome_map, isSome_value?, hc]

/-- The last character of a key stands before the colon. -/
theorem hasField_of_field? {r : Text × Option Text × Nat} (h : field? t = some r) : HasField t := by
  have hwhole : t.takeWhile Text.isWord ++ t.dropWhile Text.isWord = t :=
    List.takeWhile_append_dropWhile
  have hword : ∀ d ∈ t.takeWhile Text.isWord, Text.isWord d = true :=
    List.all_eq_true.mp List.all_takeWhile
  unfold field? at h
  split at h
  · cases h
  · next rest hrest hne =>
    -- the key ends with some character, and behind the colon comes a value
    obtain ⟨⟨value, n⟩, hvalue, -⟩ := Option.map_eq_some_iff.mp h
    obtain ⟨front, w, hkey⟩ := (List.eq_nil_or_concat _).resolve_left hne
    cases rest with
    | nil => cases hvalue
    | cons c rest =>
      have hc : isBareChar c = true := by rw [← isSome_value? c rest, hvalue]; rfl
      refine ⟨front, w, c, rest, ?_, hword w ?_, hc⟩
      · rw [← hwhole, hrest, hkey]
        simp
      · rw [hkey]
        simp
  · cases h

/-- **A text has no field** where no such row is in it. -/
theorem fieldsFrom_eq_nil_iff : fieldsFrom 0 t = [] ↔ ¬HasField t := by
  induction t with
  | nil =>
    refine iff_of_true rfl ?_
    rintro ⟨front, w, c, rest, heq, -⟩
    exact List.append_ne_nil_of_right_ne_nil front (List.cons_ne_nil _ _) heq.symm
  | cons d t ih =>
    rw [fieldsFrom]
    cases hfield : field? (d :: t) with
    | some r => exact iff_of_false (List.cons_ne_nil _ _) fun h => h (hasField_of_field? hfield)
    | none =>
      -- no field begins here, so a row is in what follows
      have hlater : HasField (d :: t) ↔ HasField t := by
        constructor
        · rintro ⟨front, w, c, rest, heq, hw, hc⟩
          cases front with
          | nil =>
            have hsome := isSome_field? hw hc rest
            rw [List.nil_append] at heq
            rw [← heq, hfield] at hsome
            cases hsome
          | cons e front => exact ⟨front, w, c, rest, (List.cons.inj heq).2, hw, hc⟩
        · rintro ⟨front, w, c, rest, rfl, hw, hc⟩
          exact ⟨d :: front, w, c, rest, rfl, hw, hc⟩
      rw [hlater]
      exact ih

instance (t : Text) : Decidable (HasField t) :=
  decidable_of_iff (fieldsFrom 0 t ≠ []) (not_congr fieldsFrom_eq_nil_iff |>.trans not_not)

theorem read_eq_nil_iff : read t = [] ↔ ¬HasField t := by
  rw [← fieldsFrom_eq_nil_iff, read]
  cases fieldsFrom 0 t with
  | nil => exact iff_of_true rfl rfl
  | cons e entries =>
    -- writing fields into a table leaves at least the key of the first
    refine iff_of_false (fun hnil => ?_) (List.cons_ne_nil _ _)
    have hfound := Table.exists_get?_extend (t := []) (List.mem_cons_self (a := e) (l := entries))
    rw [Table.extend_eq, ← Table.ofList, hnil] at hfound
    obtain ⟨w, hw⟩ := hfound
    cases hw

/-! ## Values in a text -/

theorem prefix_of_quotedRest (h : quotedRest t = some v) : v <+: t := by
  fun_induction quotedRest t generalizing v with
  | case1 => cases h
  | case2 t => exact Option.some.inj h ▸ ⟨t, rfl⟩
  | case3 => cases h
  | case4 c t hc ih =>
    obtain ⟨u, hu, rfl⟩ := Option.map_eq_some_iff.mp h
    exact (List.prefix_cons_inj _).mpr ((List.prefix_cons_inj _).mpr (ih hu))
  | case5 => cases h
  | case6 c t _ _ _ ih =>
    obtain ⟨u, hu, rfl⟩ := Option.map_eq_some_iff.mp h
    exact (List.prefix_cons_inj _).mpr (ih hu)

theorem prefix_of_valueHere? (h : valueHere? t = some v) : v <+: t := by
  -- the bare value is tried in two places
  have hbare : ∀ {u}, (if t.takeWhile isBareChar = [] then none
      else some (t.takeWhile isBareChar)) = some u → u <+: t := by
    intro u hu
    split at hu
    · cases hu
    · exact Option.some.inj hu ▸ List.takeWhile_prefix _
  unfold valueHere? at h
  dsimp only at h
  split at h
  · split at h
    · next hrest =>
      obtain rfl := Option.some.inj h
      exact (List.prefix_cons_inj _).mpr (prefix_of_quotedRest hrest)
    · exact hbare h
  · exact hbare h

/-- A value is part of the text behind the blanks before it. -/
theorem sublist_of_value? (h : value? t = some (v, n)) : v.Sublist t := by
  unfold value? at h
  dsimp only at h
  split at h
  · next u hu =>
    obtain ⟨rfl, -⟩ := Prod.mk.inj (Option.some.inj h)
    exact (prefix_of_valueHere? hu).sublist.trans (List.dropWhile_sublist _)
  · -- nothing but blanks, of which the last is the value
    obtain ⟨b, hb, heq⟩ := Option.map_eq_some_iff.mp h
    obtain ⟨rfl, -⟩ := Prod.mk.inj heq
    have hmem : b ∈ t := (List.takeWhile_sublist _).subset (List.mem_of_getLast? hb)
    exact List.singleton_sublist.mpr hmem

theorem sublist_of_tidy (h : tidy raw = some v) : v.Sublist raw := by
  have hstrip : (Text.stripEnd raw).Sublist raw := Text.trimEnd_sublist _ raw
  -- what stands between two quotes is part of the text, and a lone quote leaves all of it
  have hinner {body : Text} (heq : Text.stripEnd raw = '"' :: body) :
      ((Text.before? ['"'] body).getD (Text.stripEnd raw)).Sublist raw := by
    cases hbefore : Text.before? ['"'] body with
    | none => exact hstrip
    | some inner =>
      rw [heq, Text.before?_eq_some_iff.mp hbefore] at hstrip
      exact ((List.sublist_append_left inner _).trans (List.sublist_cons_self _ _)).trans hstrip
  unfold tidy at h
  dsimp only at h
  split at h
  · next body heq =>
    split at h
    · cases h
    · exact Option.some.inj h ▸ hinner heq
  · split at h
    · cases h
    · exact Option.some.inj h ▸ hstrip

/-- The value of a field and its colon are part of the text it is read from. -/
theorem sublist_of_field? (h : field? t = some (k, some v, n)) : (':' :: v).Sublist t := by
  have hdrop : (t.dropWhile Text.isWord).Sublist t := List.dropWhile_sublist _
  unfold field? at h
  split at h
  · cases h
  · next rest hrest _ =>
    obtain ⟨⟨raw, m⟩, hraw, heq⟩ := Option.map_eq_some_iff.mp h
    have htidy : tidy raw = some v := (Prod.mk.inj (Prod.mk.inj heq).2).1
    have hvalue : v.Sublist rest := (sublist_of_tidy htidy).trans (sublist_of_value? hraw)
    rw [hrest] at hdrop
    exact (hvalue.cons_cons ':').trans hdrop
  · cases h

/-- **The value of a field and its colon are a part of the text.** -/
theorem sublist_of_mem_fieldsFrom (h : (k, some v) ∈ fieldsFrom skip t) : (':' :: v).Sublist t := by
  -- along the text, where characters that are passed over or skipped only add to it
  induction t generalizing skip with
  | nil => cases h
  | cons c t ih =>
    cases skip with
    | succ skip => exact (ih h).cons c
    | zero =>
      rw [fieldsFrom] at h
      split at h
      · next key value length hfield =>
        rcases List.mem_cons.mp h with heq | hlater
        · obtain ⟨-, rfl⟩ := Prod.mk.inj heq
          exact sublist_of_field? hfield
        · exact (ih hlater).cons c
      · exact (ih h).cons c

/-- The value of a field and its colon are part of the text. -/
theorem sublist_of_mem_read (h : (k, some v) ∈ read t) : (':' :: v).Sublist t := by
  rw [read, Table.ofList, ← Table.extend_eq] at h
  exact sublist_of_mem_fieldsFrom ((Table.mem_extend h).resolve_left List.not_mem_nil)

end Loose

/-- Reading a text finds that it is no JSON. -/
def Value.NoJson (t : Text) : Prop :=
  ∃ cause place, ofJson t = .error (.json cause place)

namespace Template

open Loose

variable {render : Renderer} {item context : Value} {template t u v : Text} {ts : List Text}

/-! ## Texts that are shown -/

/-- The template that shows an item that is a text. -/
def showing : Text := "$\x7bstr\x7d".toList

/-- A text in which nothing is replaced when it is shown, and that is one line. -/
structure Inert (t : Text) : Prop where
  line : '\n' ∉ t
  reference : '&' ∉ t
  escape : '\\' ∉ t

/-- A text that shows what it says: not the word for what is missing, and without blanks around
it. -/
structure Plain (t : Text) : Prop extends Inert t where
  ne_nil : t ≠ []
  trimmed : Text.Trimmed t
  defined : t ≠ "undefined".toList

/-- Plain texts, in a form that can be decided. -/
theorem plain_iff : Plain t ↔ ('\n' ∉ t ∧ '&' ∉ t ∧ '\\' ∉ t) ∧
    t ≠ [] ∧ Text.Trimmed t ∧ t ≠ "undefined".toList := by
  constructor
  · rintro ⟨⟨hline, hreference, hescape⟩, hne, htrim, hdefined⟩
    exact ⟨⟨hline, hreference, hescape⟩, hne, htrim, hdefined⟩
  · rintro ⟨⟨hline, hreference, hescape⟩, hne, htrim, hdefined⟩
    exact ⟨⟨hline, hreference, hescape⟩, hne, htrim, hdefined⟩

instance (t : Text) : Decidable (Plain t) :=
  decidable_of_iff _ plain_iff.symm

/-- A part of a text in which nothing is replaced is such a text too. -/
theorem Inert.of_sublist (h : Inert t) (hpart : u.Sublist t) : Inert u where
  line hc := h.line (hpart.subset hc)
  reference hc := h.reference (hpart.subset hc)
  escape hc := h.escape (hpart.subset hc)

/-- A text of one line is dropped if it is blank. -/
theorem dropBlankLines_of_line (h : '\n' ∉ t) :
    dropBlankLines t = if Text.blank t then [] else t := by
  rw [dropBlankLines, Text.lines, Text.splitOn_of_not_mem h]
  cases hblank : Text.blank t with
  | true => simp [hblank, Text.join]
  | false => simp [hblank, Text.join]

theorem dropBlankLines_sublist (h : '\n' ∉ t) : (dropBlankLines t).Sublist t := by
  rw [dropBlankLines_of_line h]
  split
  · exact List.nil_sublist t
  · exact List.Sublist.refl t

/-- A trimmed text is blank only if nothing is in it. -/
theorem Plain.dropBlankLines_eq (h : Plain t) : dropBlankLines t = t := by
  obtain ⟨c, u, rfl⟩ := List.exists_cons_of_ne_nil h.ne_nil
  have hc : Text.isBlank c = false := h.trimmed.head c rfl
  have hblank : Text.blank (c :: u) = false := by
    rw [Text.blank, List.all_cons, hc, Bool.false_and]
  rw [dropBlankLines_of_line h.line, hblank]
  rfl

/-- What is put in is shown without blanks around it. -/
theorem itemText_of_inert (hu : Inert u)
    (h : Expression.substitute render template (objectOf item) = pure u) :
    itemText render template item = pure (Text.strip (dropBlankLines u)) := by
  have hescape : ¬['\\', 'n'] <:+: u := fun hin => hu.escape (hin.subset (List.mem_cons_self ..))
  rw [itemText, h, pure_bind, Text.replaceAll_eq_self hescape, Markup.unescape_eq_self hu.reference]
  rfl

/-- A plain text that is put in is shown as it is. -/
theorem itemText_of_plain (hu : Plain u)
    (h : Expression.substitute render template (objectOf item) = pure u) :
    itemText render template item = pure u := by
  rw [itemText_of_inert hu.toInert h, hu.dropBlankLines_eq, Text.strip_eq_self hu.trimmed]

/-- What is shown of the items of a value stands between blank lines. -/
theorem render_eq_pure {items : List Value} (hitems : context.items = .ok items)
    (h : List.Forall₂ (fun item t => itemText Template.render template item = pure t) items ts) :
    Template.render template context = pure (Text.strip (Text.join ['\n', '\n'] ts)) := by
  rw [render_eq, itemsText, hitems, Outcome.liftM_ok, pure_bind,
    Outcome.mapList_eq_pure_of_forall₂ h]
  rfl

/-! ## Members that are texts -/

section

variable {key : Text} {members : Table Value}

/-- A key in letters and digits. -/
structure Word (key : Text) : Prop where
  ne_nil : key ≠ []
  word : ∀ c ∈ key, Text.isWord c = true

theorem Word.printable (h : Word key) : Expression.Printable key none where
  path_ne := h.ne_nil
  path c hc := by rw [Expression.isPathChar, h.word c hc]; rfl
  filters := nofun

theorem Word.isPlain (h : Word key) : Path.isPlain key = true := by
  -- the separators are brackets and a point, which stand in no word
  have hword : ∀ c, Path.isSeparator c = true → Text.isWord c = false := by
    intro c hc
    rw [Path.isSeparator, Bool.or_eq_true, Bool.or_eq_true, decide_eq_true_eq, decide_eq_true_eq,
      decide_eq_true_eq] at hc
    rcases hc with (rfl | rfl) | rfl <;> decide
  rw [Path.isPlain, Bool.and_eq_true, decide_eq_true_eq, List.all_eq_true]
  refine ⟨h.ne_nil, fun c hc => ?_⟩
  cases hseparator : Path.isSeparator c with
  | false => rfl
  | true =>
    have hno := hword c hseparator
    rw [h.word c hc] at hno
    cases hno

theorem at_word (h : Word key) (members : Table Value) :
    (Value.obj members).at_ key = .ok ((Table.get? key members).getD .null) := by
  rw [Value.at_, Path.keys_of_isPlain h.isPlain, Value.follow_cons]
  rfl

/-- A member that is a text is put in as it is. -/
theorem substitute_of_str (hkey : Word key) (h : (Table.get? key members).getD .null = .str v) :
    Expression.substitute render (Expression.printed key none) (.obj members) =
      pure (Expression.shown v) := by
  rw [Expression.substitute_printed hkey.printable, Expression.evaluate, at_word hkey, h]
  rfl

/-- Nothing is put in for a member that is not there. -/
theorem substitute_of_null (hkey : Word key) (h : (Table.get? key members).getD .null = .null) :
    Expression.substitute render (Expression.printed key none) (.obj members) = pure [] := by
  rw [Expression.substitute_printed hkey.printable, Expression.evaluate, at_word hkey, h]
  rfl

end

/-! ## Items that are texts -/

theorem word_str : Word "str".toList :=
  ⟨by decide, List.all_eq_true.mp (by decide)⟩

theorem showing_eq : showing = Expression.printed "str".toList none := rfl

theorem shown_sublist (t : Text) : (Expression.shown t).Sublist t := by
  rw [Expression.shown]
  split
  · exact List.nil_sublist t
  · exact List.Sublist.refl t

/-- **A text without a field is shown as it is.** -/
theorem itemText_of_not_hasField (h : Plain t) (hfield : ¬HasField t) :
    itemText render showing (.str t) = pure t := by
  have hobject : objectOf (.str t) = .obj [("str".toList, .str t)] := by
    rw [objectOf, read_eq_nil_iff.mpr hfield]
  have htext : Expression.substitute render showing (objectOf (.str t)) = pure t := by
    rw [hobject, showing_eq, substitute_of_str word_str rfl, Expression.shown, if_neg h.defined]
  exact itemText_of_plain h htext

/-- The field `str` of a loose object holds nothing, or a text whose characters, with a colon
before them, are in the one that is read. -/
theorem get?_str_of_read {fields : Table (Option Text)} (hread : read t = fields) :
    let members : Table Value := fields.map fun f => (f.1, (f.2.map .str).getD .null)
    (Table.get? "str".toList members).getD .null = .null ∨
      ∃ v, (Table.get? "str".toList members).getD .null = .str v ∧ (':' :: v).Sublist t := by
  intro members
  cases hget : Table.get? "str".toList members with
  | none => exact .inl rfl
  | some w =>
    -- a member comes from a field, and a field without a value is nothing as well
    obtain ⟨⟨key, value⟩, hmem, heq⟩ := List.mem_map.mp (Table.mem_of_get?_eq_some hget)
    obtain ⟨-, rfl⟩ := Prod.mk.inj heq
    cases value with
    | none => exact .inl rfl
    | some v => exact .inr ⟨v, rfl, sublist_of_mem_read (hread ▸ hmem)⟩

/-- **A text with a field is not shown as it is**: what is put in for it misses a colon at least. -/
theorem itemText_of_hasField (h : Inert t) (hfield : HasField t) :
    ∃ u, itemText render showing (.str t) = pure u ∧ u.length < t.length := by
  have hobject : ∃ fields, read t = fields ∧
      objectOf (.str t) = .obj (fields.map fun f => (f.1, (f.2.map .str).getD .null)) := by
    cases hread : read t with
    | nil => exact absurd hfield (read_eq_nil_iff.mp hread)
    | cons f fields => exact ⟨f :: fields, rfl, by rw [objectOf, hread]⟩
  obtain ⟨fields, hread, hobject⟩ := hobject
  have hcolon : [':'].Sublist t := by
    obtain ⟨front, w, c, rest, rfl, -⟩ := hfield
    exact List.singleton_sublist.mpr (by simp)
  have hput : ∃ u, Expression.substitute render showing (objectOf (.str t)) = pure u ∧
      (':' :: u).Sublist t := by
    rw [hobject, showing_eq]
    rcases get?_str_of_read hread with hnull | ⟨v, hstr, hpart⟩
    · exact ⟨[], substitute_of_null word_str hnull, hcolon⟩
    · exact ⟨_, substitute_of_str word_str hstr, ((shown_sublist v).cons_cons ':').trans hpart⟩
  obtain ⟨u, hu, hpart⟩ := hput
  have hinert : Inert u := h.of_sublist ((List.sublist_cons_self ':' u).trans hpart)
  -- taking out blanks makes it no longer
  have hshort : (Text.strip (dropBlankLines u)).length ≤ u.length :=
    ((Text.strip_sublist _).trans (dropBlankLines_sublist hinert.line)).length_le
  have hlong : u.length + 1 ≤ t.length := hpart.length_le
  exact ⟨_, itemText_of_inert hinert hu, by omega⟩

/-! ## Data -/

/-- What is joined is shorter if one of the pieces is and none is longer. -/
theorem length_join_map_lt {image : Text → Text} (sep : Text)
    (hle : ∀ t ∈ ts, (image t).length ≤ t.length) (hlt : ∃ t ∈ ts, (image t).length < t.length) :
    (Text.join sep (ts.map image)).length < (Text.join sep ts).length := by
  have hsum : (ts.map fun t => (image t).length).sum < (ts.map List.length).sum :=
    List.sum_lt_sum _ _ hle hlt
  rw [Text.length_join, Text.length_join, List.length_flatten, List.length_flatten, List.map_map,
    List.length_map]
  exact Nat.add_lt_add_right hsum _

/-- What each of some plain texts is shown as. -/
theorem exists_image (render : Renderer) (h : ∀ t ∈ ts, Plain t) : ∃ image : Text → Text, ∀ t ∈ ts,
    itemText render showing (.str t) = pure (image t) ∧
      (¬HasField t → image t = t) ∧ (HasField t → (image t).length < t.length) := by
  have heach : ∀ t ∈ ts, ∃ u, itemText render showing (.str t) = pure u ∧
      (¬HasField t → u = t) ∧ (HasField t → u.length < t.length) := by
    intro t ht
    by_cases hfield : HasField t
    · obtain ⟨u, hu, hlt⟩ := itemText_of_hasField (h t ht).toInert hfield
      exact ⟨u, hu, fun hno => absurd hfield hno, fun _ => hlt⟩
    · exact ⟨t, itemText_of_not_hasField (h t ht) hfield, fun _ => rfl,
        fun hyes => absurd hyes hfield⟩
  choose! image himage using heach
  exact ⟨image, himage⟩

/-- **Plain texts are shown as they are**, with blank lines between them, if none of them has a
field.  With a field in one of them what is shown is shorter. -/
theorem render_showing_eq_iff (hitems : context.items = .ok (ts.map .str))
    (h : ∀ t ∈ ts, Plain t) :
    Template.render showing context = pure (Text.join ['\n', '\n'] ts) ↔
      ∀ t ∈ ts, ¬HasField t := by
  obtain ⟨image, himage⟩ := exists_image Template.render h
  have hrender : Template.render showing context =
      pure (Text.strip (Text.join ['\n', '\n'] (ts.map image))) := by
    refine render_eq_pure hitems ?_
    rw [List.forall₂_map_left_iff, List.forall₂_map_right_iff, List.forall₂_same]
    exact fun t ht => (himage t ht).1
  rw [hrender]
  constructor
  · -- a field makes its text shorter, and none of the others makes up for it
    intro hsame t ht hfield
    have hle : ∀ u ∈ ts, (image u).length ≤ u.length := by
      intro u hu
      by_cases hu' : HasField u
      · exact Nat.le_of_lt ((himage u hu).2.2 hu')
      · rw [(himage u hu).2.1 hu']
    have hshort := length_join_map_lt ['\n', '\n'] hle ⟨t, ht, (himage t ht).2.2 hfield⟩
    have hstrip := Text.length_strip_le (Text.join ['\n', '\n'] (ts.map image))
    have heq : Text.strip (Text.join ['\n', '\n'] (ts.map image)) = Text.join ['\n', '\n'] ts :=
      Except.ok.inj (congrArg Outcome.result hsame)
    rw [heq] at hstrip
    omega
  · intro hnone
    -- without a field nothing is put in, and stripping takes nothing away
    have hself : ts.map image = ts := by
      rw [List.map_congr_left fun t ht => (himage t ht).2.1 (hnone t ht), List.map_id']
    have htrimmed : Text.Trimmed (Text.join ['\n', '\n'] ts) :=
      Text.trimmed_join _ (fun t ht => (h t ht).ne_nil) fun t ht => (h t ht).trimmed
    rw [hself, Text.strip_eq_self htrimmed]

theorem items_of_noJson (h : Value.NoJson t) : (Value.str t).items = .ok [.str t] := by
  obtain ⟨cause, place, hread⟩ := h
  rw [Value.items, Value.parsed, hread]
  rfl

/-- **Texts without a field are shown as they are**, and only these: one that is no JSON by itself,
and any number of them in a list or in JSON text, with blank lines between them. -/
theorem plain_texts_shown_iff (t : Text) (ts : List Text) :
    (Plain t → Value.NoJson t →
      (Clipper.render showing t = pure t ↔ ¬HasField t)) ∧
    (ts ≠ [] → (∀ t ∈ ts, Plain t) →
      (Template.render showing (Filter.textList ts) = pure (Text.join ['\n', '\n'] ts) ↔
        ∀ t ∈ ts, ¬HasField t) ∧
      (Clipper.render showing (Filter.textList ts).json = pure (Text.join ['\n', '\n'] ts) ↔
        ∀ t ∈ ts, ¬HasField t)) := by
  refine ⟨fun ht hjson => ?_, fun _ hts => ⟨?_, ?_⟩⟩
  · have hone := render_showing_eq_iff (items_of_noJson hjson) (List.forall_mem_singleton.mpr ht)
    rwa [List.forall_mem_singleton] at hone
  · exact render_showing_eq_iff rfl hts
  · exact render_showing_eq_iff (Filter.items_textList ts) hts

/-- Colons with a blank or nothing in front of them or with a comma or nothing behind them make no
field, and what is JSON in a list is a text there. -/
theorem plain_texts_shown_iff_colons :
    let t := "at 12:, or (a) :b".toList
    let ts := [t, "[1]".toList, "$\x7bstr\x7d, x:".toList]
    Plain t ∧ Value.NoJson t ∧ Clipper.render showing t = pure t ∧
      Template.render showing (Filter.textList ts) = pure (Text.join ['\n', '\n'] ts) ∧
        Clipper.render showing (Filter.textList ts).json = pure (Text.join ['\n', '\n'] ts) := by
  intro t ts
  have ht : Plain t := by decide +kernel
  have hts : ∀ t ∈ ts, Plain t := by decide +kernel
  have hno : ∀ t ∈ ts, ¬HasField t := by decide +kernel
  have hjson : Value.NoJson t := ⟨.expectedValue, Position.after [], rfl⟩
  obtain ⟨hone, hlist⟩ := plain_texts_shown_iff t ts
  obtain ⟨hvalue, hjsonText⟩ := hlist (List.cons_ne_nil _ _) hts
  exact ⟨ht, hjson, (hone ht hjson).mpr (hno t (List.mem_cons_self ..)), hvalue.mpr hno,
    hjsonText.mpr hno⟩

/-- An address is a plain text, and has the field of its scheme. -/
theorem address_not_shown :
    let t := "https://example.com/a".toList
    Plain t ∧ Value.NoJson t ∧ Clipper.render showing t = pure [] ∧
      Clipper.render showing t ≠ pure t := by
  intro t
  have ht : Plain t := by decide +kernel
  have hjson : Value.NoJson t := ⟨.expectedValue, Position.after [], rfl⟩
  have hnothing : Clipper.render showing t = pure [] := rfl
  refine ⟨ht, hjson, hnothing, fun hsame => ?_⟩
  rw [hnothing] at hsame
  exact ht.ne_nil (Except.ok.inj (congrArg Outcome.result hsame)).symm

end Template

end Clipbook
