import Clipbook.Proofs.Scan.Delimited
import Clipbook.Proofs.Text.Occurrences
import Clipbook.Scan.Literal

/-!
# Clipbook — quoted arguments

A text is written as an argument between double quotes, with a backslash before each quote and
each backslash in it.  Taking the quotes and the backslashes off gives the text back, and a scan
leaves a quoted argument with everything open or closed as it was before: the argument is neutral,
whatever the text holds.

Main results:

* `unescape_escapeQuotes`, `stripQuotes_quotes` — a quoted text is read back.
* `enclosed_escapeQuotes` — what is escaped fits between quotes.
* `neutral_inQuotes` — a scan passes over a quoted text.
-/

namespace Clipbook

namespace Text

/-! ## Writing and reading -/

/-- A backslash before each double quote and each backslash. -/
def escapeQuotes : Text → Text
  | [] => []
  | c :: t => if c = '"' ∨ c = '\\' then '\\' :: c :: escapeQuotes t else c :: escapeQuotes t

/-- A text as a quoted argument. -/
def inQuotes (t : Text) : Text :=
  '"' :: escapeQuotes t ++ ['"']

theorem unescape_cons {c : Char} (h : c ≠ '\\') (t : Text) :
    unescape (c :: t) = c :: unescape t := by
  rw [unescape]
  intro d u hc
  exact absurd hc h

theorem unescape_escapeQuotes (t : Text) : unescape (escapeQuotes t) = t := by
  induction t with
  | nil => rfl
  | cons c t ih =>
    rw [escapeQuotes]
    -- a backslash is taken off where one was put, and there only
    split
    · rw [unescape, ih]
    · next h =>
      rw [unescape_cons fun hc => h (.inr hc), ih]

theorem between?_append (opening closing : Char) (t : Text) :
    between? opening closing (opening :: t ++ [closing]) = some t := by
  rw [List.cons_append, between?, if_pos rfl, before?_append]

theorem stripParens_parens (t : Text) : stripParens ('(' :: t ++ [')']) = t := by
  rw [stripParens, between?_append]
  rfl

theorem stripQuotes_quotes (t : Text) : stripQuotes ('"' :: t ++ ['"']) = t := by
  show (between? '"' '"' ('"' :: t ++ ['"'])).getD ('"' :: t ++ ['"']) = t
  rw [between?_append]
  rfl

/-- An argument alone is read without its parentheses and its quotes. -/
theorem stripQuotes_stripParens (t : Text) :
    stripQuotes (stripParens ('(' :: ('"' :: t ++ ['"']) ++ [')'])) = t := by
  rw [stripParens_parens, stripQuotes_quotes]

theorem stripQuotes_eq_self {t : Text} (hapos : '\'' ∉ t) (hquot : '"' ∉ t) :
    stripQuotes t = t := by
  unfold stripQuotes
  split
  · exact absurd (List.mem_cons_self ..) hapos
  · exact absurd (List.mem_cons_self ..) hquot
  · rfl

/-! ## Scanning -/

/-- An escaped text fits between quotes. -/
theorem enclosed_escapeQuotes (t : Text) : Enclosed '"' (escapeQuotes t) := by
  induction t with
  | nil => exact enclosed_nil '"'
  | cons c t ih =>
    rw [escapeQuotes]
    split
    · -- the backslash escapes the next character, whichever of the two it is
      exact (enclosed_escaped (by decide) c).append ih
    · next hc =>
      obtain ⟨hquot, hback⟩ := not_or.mp hc
      exact (enclosed_singleton hquot hback).append ih

end Text

namespace Scan

/-- A quoted text opens a quote and closes it, whatever is open around it. -/
theorem neutral_quoted {t : Text} (h : Text.Enclosed '"' t) : Neutral ('"' :: t ++ ['"']) :=
  neutral_of_passes fun _ hs => passes_delimited hs (.inl rfl) h

/-- A text in quotes leaves the scanner where it was. -/
theorem neutral_inQuotes (t : Text) : Neutral (Text.inQuotes t) :=
  neutral_quoted (Text.enclosed_escapeQuotes t)

end Scan

end Clipbook
