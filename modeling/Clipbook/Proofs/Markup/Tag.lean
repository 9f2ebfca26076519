import Clipbook.Markup.Token
import Clipbook.Proofs.Outcome
import Clipbook.Proofs.Text.Pieces
import Clipbook.Proofs.Text.Runs
import Clipbook.Proofs.Text.Trimmed
import Clipbook.Table
import Mathlib.Data.List.TakeWhile

/-!
# Clipbook — tags that read back

A start tag is written with its attributes in double quotes and one blank before each of them, an
end tag with nothing but its name.  The reader takes them apart again where nothing in them can be
taken for something else: a name holds no blank and nothing that ends a name, and a value holds no
double quote and no reference.

Main results:

* `attributes_written` — the attributes of a tag.
* `tag?_start` — a start tag.
* `tag?_stop` — an end tag.
-/

namespace Clipbook.Markup.Token

variable {name key v t rest : Text} {as : Table Text} {a : Text × Text} {c previous : Char}
  {fuel : Nat}

/-! ## What is written -/

/-- An attribute with its value in double quotes. -/
def attributeText (a : Text × Text) : Text :=
  a.1 ++ '=' :: '"' :: a.2 ++ ['"']

/-- The attributes of a tag with blanks between them. -/
def attributesText (as : Table Text) : Text :=
  Text.join [' '] (as.map attributeText)

/-- A name that a tag can be written with. -/
structure TagName (name : Text) : Prop where
  letter : name.head?.any isLetter = true
  chars : ∀ c ∈ name, isTagNameChar c = true ∧ Text.isBlank c = false
  lower : Text.lower name = name

/-- An attribute that can be written with its value in double quotes. -/
structure Quotable (a : Text × Text) : Prop where
  first : a.1.head?.any isAttributeStart = true
  chars : ∀ c ∈ a.1.drop 1, isAttributeChar c = true
  lower : Text.lower a.1 = a.1
  value : '"' ∉ a.2
  references : unescape a.2 = .ok a.2

instance : Decidable (TagName name) :=
  decidable_of_iff (name.head?.any isLetter = true ∧
      name.all (fun c => isTagNameChar c ∧ Text.isBlank c = false) = true ∧ Text.lower name = name)
    ⟨fun h => ⟨h.1, fun c hc => of_decide_eq_true (List.all_eq_true.mp h.2.1 c hc), h.2.2⟩,
      fun h => ⟨h.letter, List.all_eq_true.mpr fun c hc => decide_eq_true (h.chars c hc), h.lower⟩⟩

instance (a : Text × Text) : Decidable (Quotable a) :=
  decidable_of_iff (a.1.head?.any isAttributeStart = true ∧
      (a.1.drop 1).all isAttributeChar = true ∧ Text.lower a.1 = a.1 ∧ '"' ∉ a.2 ∧
      (unescape a.2).toOption = some a.2)
    ⟨fun h => ⟨h.1, List.all_eq_true.mp h.2.1, h.2.2.1, h.2.2.2.1,
        Except.toOption_eq_some_iff.mp h.2.2.2.2⟩,
      fun h => ⟨h.first, List.all_eq_true.mpr h.chars, h.lower, h.value,
        Except.toOption_eq_some_iff.mpr h.references⟩⟩

/-! ## Attributes -/

theorem attribute?_written (h : Quotable a) (r : Text) :
    attribute? (attributeText a ++ r) = some (a.1, some a.2, r) := by
  obtain ⟨key, v⟩ := a
  obtain ⟨hfirst, hchars, -, hvalue, -⟩ := h
  cases key with
  | nil => cases hfirst
  | cons c k =>
    have hstart : isAttributeStart c = true := hfirst
    have hk : ∀ d ∈ k, isAttributeChar d = true := hchars
    have htext : attributeText (c :: k, v) ++ r = c :: (k ++ '=' :: '"' :: (v ++ '"' :: r)) := by
      simp [attributeText]
    -- the name ends at the equality sign, the value at the quote
    obtain ⟨hname, hrest⟩ := Text.span_run_cons hk (by decide : isAttributeChar '=' = false)
      ('"' :: (v ++ '"' :: r))
    have hquoted : value? ('=' :: '"' :: (v ++ '"' :: r)) = some (v, r) := by
      have hcut : quotedValue? ('"' :: (v ++ '"' :: r)) = some (v, r) := Text.cut?_append hvalue r
      have hafter : valueAfter? ['='] ('"' :: (v ++ '"' :: r)) = some (v, r) := by
        unfold valueAfter?
        rw [List.dropWhile_cons_of_neg (by decide)]
        dsimp only
        rw [if_pos (by decide), hcut]
      unfold value?
      rw [List.dropWhile_cons_of_neg (by decide)]
      exact hafter
    rw [htext, attribute?, if_pos hstart]
    simp only [hname, hrest, hquoted]

/-- The blank between an attribute and the next one, if there is one. -/
def gapBefore (as : Table Text) : Text :=
  if as = [] then [] else [' ']

/-- Attributes are written with a blank between two of them. -/
theorem attributesText_cons_append (a : Text × Text) (as : Table Text) (r : Text) :
    attributesText (a :: as) ++ r =
      attributeText a ++ (gapBefore as ++ (attributesText as ++ r)) := by
  cases as with
  | nil => rfl
  | cons b as => simp [attributesText, gapBefore, Text.join]

/-- A tag goes on with an attribute or ends, and neither starts with a gap. -/
theorem attributesText_eq_cons (has : ∀ a ∈ as, Quotable a) (rest : Text) :
    ∃ c t, attributesText as ++ '>' :: rest = c :: t ∧ isGap c = false := by
  cases as with
  | nil => exact ⟨'>', rest, rfl, by decide⟩
  | cons a as =>
    obtain ⟨key, v⟩ := a
    have h := (has _ (List.mem_cons_self ..)).first
    cases key with
    | nil => cases h
    | cons c k =>
      have hstart : isAttributeStart c = true := h
      rw [isAttributeStart, Bool.and_eq_true, Bool.not_eq_true'] at hstart
      rw [attributesText_cons_append]
      exact ⟨c, _, rfl, hstart.1⟩

/-- Nothing is skipped where there is no gap. -/
theorem skipGap_of_isGap_eq_false (hc : isGap c = false) (t : Text) :
    skipGap (c :: t) = c :: t := by
  have hslash : c ≠ '/' := fun h => by rw [h] at hc; exact absurd hc (by decide)
  unfold skipGap
  split
  · next h => cases h
  · next h => exact absurd (List.cons.inj h).1 hslash
  · next h =>
    obtain ⟨rfl, rfl⟩ := List.cons.inj h
    rw [isGap] at hc
    rw [hc, if_neg Bool.false_ne_true]

/-- No gap stands before the first attribute. -/
theorem skipGap_attributesText (has : ∀ a ∈ as, Quotable a) (rest : Text) :
    skipGap (attributesText as ++ '>' :: rest) = attributesText as ++ '>' :: rest := by
  obtain ⟨c, t, heq, hc⟩ := attributesText_eq_cons has rest
  rw [heq, skipGap_of_isGap_eq_false hc]

theorem skipGap_blank (t : Text) : skipGap (' ' :: t) = skipGap t := by
  rw [skipGap, if_pos (by decide)]
  exact fun _ h => absurd h (by decide)

/-- The gap before the next attribute is skipped, and nothing behind it. -/
theorem skipGap_gapBefore (has : ∀ a ∈ as, Quotable a) (rest : Text) :
    skipGap (gapBefore as ++ (attributesText as ++ '>' :: rest)) =
      attributesText as ++ '>' :: rest := by
  unfold gapBefore
  split
  · exact skipGap_attributesText has rest
  · exact (skipGap_blank _).trans (skipGap_attributesText has rest)

/-- The first half of a text by the length of the second. -/
theorem take_sub_length (u w : Text) : (u ++ w).take ((u ++ w).length - w.length) = u := by
  rw [List.length_append, Nat.add_sub_cancel, List.take_left]

/-- The next attribute may start behind an attribute. -/
theorem mayPrecede_behind (previous : Char) (a : Text × Text) (as : Table Text) :
    mayPrecede (((attributeText a ++ gapBefore as).getLast?).getD previous) = true := by
  have hlast : (attributeText a).getLast? = some '"' := by
    rw [attributeText, List.getLast?_concat]
  unfold gapBefore
  split
  · rw [List.append_nil, hlast]
    rfl
  · rw [List.getLast?_concat]
    rfl

/-- **Attributes read back** up to the end of the tag. -/
theorem attributes_written (has : ∀ a ∈ as, Quotable a) (hprevious : mayPrecede previous = true)
    (hfuel : as.length ≤ fuel) (rest : Text) :
    attributes fuel previous (attributesText as ++ '>' :: rest) =
      (as.map fun a => (a.1, some a.2), '>' :: rest) := by
  induction as generalizing fuel previous with
  | nil =>
    cases fuel with
    | zero => rfl
    | succ fuel =>
      rw [attributes, if_pos hprevious]
      rfl
  | cons a as ih =>
    obtain ⟨fuel, rfl⟩ : ∃ k, fuel = k + 1 :=
      Nat.exists_eq_add_one_of_ne_zero fun h0 => by rw [h0, List.length_cons] at hfuel; omega
    obtain ⟨ha, hothers⟩ := List.forall_mem_cons.mp has
    -- the quote that ends a value, or the blank behind it, lets the next attribute start
    have hlater := ih hothers (mayPrecede_behind previous a as)
      (Nat.le_of_succ_le_succ hfuel)
    rw [attributesText_cons_append, attributes, if_pos hprevious, attribute?_written ha]
    dsimp only
    rw [skipGap_gapBefore hothers, ← List.append_assoc, take_sub_length, hlater]
    rfl

/-! ## Start tags -/

/-- The token of a start tag whose attributes all have values. -/
def opening (name : Text) (as : Table Text) : Token :=
  .start name (as.map fun a => (a.1, some a.2)) false

/-- Each attribute takes at least one character. -/
theorem length_le_attributesText (as : Table Text) : as.length ≤ (attributesText as).length := by
  induction as with
  | nil => exact Nat.zero_le _
  | cons a as ih =>
    have hcons := attributesText_cons_append a as []
    rw [List.append_nil, List.append_nil] at hcons
    have hpos : 0 < (attributeText a).length := by
      rw [attributeText, List.length_append]
      exact Nat.succ_pos _
    rw [hcons, List.length_append, List.length_append, List.length_cons]
    omega

/-- What a start tag is written as, behind its `<`. -/
def startText (name : Text) (as : Table Text) : Text :=
  name ++ ' ' :: attributesText as ++ ['>']

theorem startText_append (name : Text) (as : Table Text) (rest : Text) :
    startText name as ++ rest = name ++ ' ' :: (attributesText as ++ '>' :: rest) := by
  simp [startText]

/-- The name of a tag ends where its attributes begin. -/
theorem takeWhile_name (h : TagName name) (r : Text) :
    (name ++ ' ' :: r).takeWhile isTagNameChar = name ∧
      (name ++ ' ' :: r).dropWhile isTagNameChar = ' ' :: r :=
  Text.span_run_cons (fun c hc => (h.chars c hc).1) (by decide) r

/-- The end of a tag is found behind its attributes, whatever their values hold. -/
theorem findTagEnd_written (has : ∀ a ∈ as, Quotable a) (last : Char) (rest : Text) :
    findTagEnd last (' ' :: (attributesText as ++ '>' :: rest)) = .complete rest := by
  obtain ⟨c, t, heq, hc⟩ := attributesText_eq_cons has rest
  have hgap : isGap ' ' = true := by decide
  have hstop : ¬isGap c = true := by rw [hc]; exact Bool.false_ne_true
  have htake : (' ' :: c :: t).takeWhile isGap = [' '] := by
    rw [List.takeWhile_cons_of_pos hgap, List.takeWhile_cons_of_neg hstop]
  have hdrop : (' ' :: c :: t).dropWhile isGap = c :: t := by
    rw [List.dropWhile_cons_of_pos hgap, List.dropWhile_cons_of_neg hstop]
  -- every attribute takes a character, so the fuel is enough for all
  have hfuel : as.length ≤ (attributesText as ++ '>' :: rest).length + 1 := by
    have := length_le_attributesText as
    rw [List.length_append]
    omega
  have hread := attributes_written has (by decide : mayPrecede ' ' = true) hfuel rest
  rw [findTagEnd, heq, htake, hdrop]
  rw [heq] at hread
  show tagEnd (attributes ((c :: t).length + 1) ' ' (c :: t)).2 = _
  rw [hread]
  rfl

/-- The values of attributes are read as they are written. -/
theorem readValues_written (has : ∀ a ∈ as, Quotable a) :
    readValues (as.map fun a => (a.1, some a.2)) = .ok (as.map fun a => (a.1, some a.2)) := by
  induction as with
  | nil => rfl
  | cons a as ih =>
    obtain ⟨ha, hothers⟩ := List.forall_mem_cons.mp has
    rw [List.map_cons, readValues, ha.references, ih hothers, ha.lower]

/-- A start tag is read as the token it was written from. -/
theorem startToken_written (hname : TagName name) (has : ∀ a ∈ as, Quotable a) (rest : Text) :
    startToken (startText name as ++ rest) rest =
      .ok (opening name as) := by
  have hfuel : as.length ≤ (attributesText as ++ '>' :: rest).length + 1 := by
    have := length_le_attributesText as
    rw [List.length_append]
    omega
  have hread := attributes_written has (by decide : mayPrecede ' ' = true) hfuel rest
  obtain ⟨htake, hdrop⟩ := takeWhile_name hname (attributesText as ++ '>' :: rest)
  have hgap := (skipGap_blank _).trans (skipGap_attributesText has rest)
  -- the attributes are read from behind the blank, up to the end of the tag
  have htaken : (name ++ ' ' :: (attributesText as ++ '>' :: rest)).take
      ((name ++ ' ' :: (attributesText as ++ '>' :: rest)).length -
        (attributesText as ++ '>' :: rest).length) = name ++ [' '] := by
    rw [List.append_cons]
    exact take_sub_length _ _
  have hending : ('>' :: rest).take (('>' :: rest).length - rest.length) = ['>'] :=
    take_sub_length ['>'] rest
  rw [startText_append]
  unfold startToken
  dsimp only
  rw [htake, hdrop, hgap, htaken, List.getLast?_concat, Option.getD_some, hread]
  dsimp only
  rw [hending, if_pos (.inl (by decide)), readValues_written has, hname.lower]
  rfl

/-- **A start tag reads back.** -/
theorem tag?_start (hname : TagName name) (has : ∀ a ∈ as, Quotable a) (rest : Text) :
    tag? (startText name as ++ rest) =
      .ok (some (.token (opening name as) rest)) := by
  have htoken := startToken_written hname has rest
  obtain ⟨htake, hdrop⟩ := takeWhile_name hname (attributesText as ++ '>' :: rest)
  have hstart : startTag (startText name as ++ rest) =
      .ok (.token (opening name as) rest) := by
    unfold startTag
    dsimp only
    rw [startText_append, htake, hdrop, findTagEnd_written has]
    dsimp only
    rw [← startText_append, htoken]
    rfl
  obtain ⟨hletter, -, -⟩ := hname
  cases name with
  | nil => cases hletter
  | cons c name =>
    have hc : isLetter c = true := hletter
    have hcons : startText (c :: name) as ++ rest = c :: (startText name as ++ rest) := rfl
    rw [hcons] at hstart ⊢
    unfold tag?
    -- no other construct begins with a letter
    split
    · next h => rw [(List.cons.inj h).1] at hc; exact absurd hc (by decide)
    · next h => rw [(List.cons.inj h).1] at hc; exact absurd hc (by decide)
    · next h => rw [(List.cons.inj h).1] at hc; exact absurd hc (by decide)
    · next h => rw [(List.cons.inj h).1] at hc; exact absurd hc (by decide)
    · next h =>
      obtain ⟨rfl, rfl⟩ := List.cons.inj h
      rw [if_pos hc, hstart]
      rfl
    · next h => cases h

/-! ## End tags -/

/-- **An end tag reads back.** -/
theorem tag?_stop (hname : TagName name) (rest : Text) :
    tag? ('/' :: name ++ '>' :: rest) = .ok (some (.token (.stop name) rest)) := by
  obtain ⟨hletter, hchars, hlower⟩ := hname
  cases name with
  | nil => cases hletter
  | cons c u =>
    have hc : isLetter c = true := hletter
    have hclose : '>' ∉ c :: u := fun hmem => absurd (hchars _ hmem).1 (by decide)
    have hblank : (c :: u).dropWhile Text.isBlank = c :: u := by
      rw [List.dropWhile_cons_of_neg]
      rw [(hchars c (List.mem_cons_self ..)).2]
      exact Bool.false_ne_true
    have hwhole : (c :: u).takeWhile isTagNameChar = c :: u :=
      List.takeWhile_eq_self_iff.mpr fun d hd => (hchars d hd).1
    show Except.ok (some (endTag (c :: u ++ '>' :: rest))) = _
    have hread : endTag (c :: u ++ '>' :: rest) = .token (.stop (c :: u)) rest := by
      unfold endTag
      rw [Text.cut?_append hclose]
      dsimp only
      rw [hblank]
      split
      · next h =>
        -- what is left of the name is blank, so that nothing is left
        have hnil : (c :: u).dropWhile isEndNameChar = [] := by
          refine List.eq_nil_iff_forall_not_mem.mpr fun d hd => ?_
          have hd' := (hchars d ((List.dropWhile_suffix _).subset hd)).2
          rw [List.all_eq_true.mp h.2 d hd] at hd'
          cases hd'
        rw [List.takeWhile_eq_self_iff.mpr (List.dropWhile_eq_nil_iff.mp hnil), hlower]
      · rw [if_pos (by exact hc), hwhole, hlower]
    rw [hread]

end Clipbook.Markup.Token
