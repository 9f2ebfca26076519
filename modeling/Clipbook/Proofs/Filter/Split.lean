import Clipbook.Filter.Split
import Clipbook.Proofs.Scan.Quoted
import Clipbook.Proofs.Text.Pieces
import Clipbook.Proofs.Value.Written

/-!
# Clipbook — splitting at a character

A character in quotes is a separator as it stands, be it a quote, a parenthesis or a backslash
itself: one layer of marks is taken off and no more.  A text that is split at it gives its pieces as
JSON, which reads back; splitting each of the pieces again leaves them as they are, since none of
them has the separator.

Main results:

* `splitText_quotedChar` — the pieces that are written.
* `splitEach_quotedChar` — texts without the separator are not split.
* `splitText_splitEach_quotedChar` — both, with what makes a list the pieces of a text.
-/

namespace Clipbook.Filter

variable {c : Char} {t : Text} {ps : List Text}

/-- The arguments that are one character in quotes. -/
def quotedChar (c : Char) : Text :=
  '(' :: ('"' :: [c] ++ ['"']) ++ [')']

/-- A character in quotes is the separator it stands for. -/
theorem separatorOf_quotedChar (c : Char) : separatorOf (quotedChar c) = [c] :=
  Text.stripQuotes_stripParens [c]

theorem quotedChar_ne_nil (c : Char) : quotedChar c ≠ [] := List.cons_ne_nil _ _

/-! ## Lists of texts -/

/-- A list of texts as a value. -/
def textList (ps : List Text) : Value :=
  .arr (ps.map .str)

/-- A list of texts is read back from its JSON. -/
theorem ofJson_textList (ps : List Text) : Value.ofJson (textList ps).json = .ok (textList ps) := by
  have htext : ∀ v ∈ ps.map Value.str, v.isExact = true ∧ v.depth ≤ 0 := by
    intro v hv
    obtain ⟨p, -, rfl⟩ := List.mem_map.mp hv
    exact ⟨rfl, Nat.le_refl 0⟩
  have hdepth : (textList ps).depth ≤ 1 := Value.depth_arr_le_iff.mpr fun v hv => (htext v hv).2
  exact Value.ofJson_json (Value.isExact_arr_iff.mpr fun v hv => (htext v hv).1)
    (Value.tooDeep_eq_false_iff.mpr (Nat.le_trans hdepth (by decide)))

/-- The items of a list of texts are the texts. -/
theorem items_textList (ps : List Text) :
    (Value.str (textList ps).json).items = .ok (ps.map .str) := by
  have hparsed : (Value.str (textList ps).json).parsed = .ok (textList ps) := by
    rw [Value.parsed, ofJson_textList]
  exact (Value.items_of_parsed hparsed).1 _ rfl

/-! ## Splitting -/

/-- **A text is split into its pieces.** -/
theorem splitText_quotedChar (c : Char) (t : Text) :
    splitText (quotedChar c) (.str t) = pure (.str (textList (Text.splitOn c t)).json) := by
  have htext : (Value.str t).text = .ok t := rfl
  rw [splitText, htext, Outcome.liftM_ok, pure_bind, if_neg (quotedChar_ne_nil c),
    separatorOf_quotedChar]
  rfl

/-- A text without the separator is one piece. -/
theorem itemPieces_of_not_mem (h : c ∉ t) : itemPieces [c] (.str t) = pure [.str t] := by
  have hpieces : pieces? [c] t = pure (some ((Text.splitOn c t).map .str)) := rfl
  have htext : (Value.str t).text = .ok t := rfl
  rw [itemPieces, htext, Outcome.liftM_ok, pure_bind, hpieces, Text.splitOn_of_not_mem h]
  rfl

/-- **Texts without the separator are not split.** -/
theorem splitEach_quotedChar (h : ∀ p ∈ ps, c ∉ p) :
    splitEach (quotedChar c) (.str (textList ps).json) = pure (textList ps) := by
  have heach : Outcome.mapList (itemPieces [c]) (ps.map .str) =
      pure ((ps.map Value.str).map fun v => [v]) := by
    apply Outcome.mapList_eq_pure
    intro v hv
    obtain ⟨p, hp, rfl⟩ := List.mem_map.mp hv
    exact itemPieces_of_not_mem (h p hp)
  have hflat : ((ps.map Value.str).map fun v => [v]).flatten = ps.map Value.str := by
    rw [← List.flatMap_def, List.flatMap_singleton']
  rw [splitEach, items_textList, Outcome.liftM_ok, pure_bind, if_neg (quotedChar_ne_nil c),
    separatorOf_quotedChar, heach, pure_bind, hflat]
  rfl

/-- **Splitting at a character loses nothing.**  The pieces of the text, of which there is one list,
are read from the JSON that is written, and splitting each of them again gives the same list. -/
theorem splitText_splitEach_quotedChar (c : Char) (t : Text) :
    ∃ ps json, (∀ qs, Text.Pieces c t qs ↔ qs = ps) ∧
      splitText (quotedChar c) (.str t) = pure (.str json) ∧
        Value.ofJson json = .ok (.arr (ps.map .str)) ∧
          splitEach (quotedChar c) (.str json) = pure (.arr (ps.map .str)) :=
  ⟨Text.splitOn c t, (textList (Text.splitOn c t)).json, fun _ => Text.pieces_iff,
    splitText_quotedChar c t, ofJson_textList _,
    splitEach_quotedChar fun _ => Text.not_mem_of_mem_splitOn⟩

end Clipbook.Filter
