import Clipbook.Text.Printable

/-!
# Clipbook — quoted text

How a message shows a text it complains about: between single quotes, or double ones where the
text holds a single but no double quote, with a backslash before the quote and the backslash and
escapes for what cannot be printed.
-/

namespace Clipbook.Text

/-- `n` in hexadecimal, filled up with zeros. -/
def hex (width n : Nat) : Text :=
  padLeft '0' width (Nat.toDigits 16 n)

def quoteOf (t : Text) : Char :=
  if '\'' ∈ t ∧ '"' ∉ t then '"' else '\''

def escapeIn (quote : Char) (c : Char) : Text :=
  if c = quote ∨ c = '\\' then ['\\', c]
  else if c = '\n' then "\\n".toList
  else if c = '\r' then "\\r".toList
  else if c = '\t' then "\\t".toList
  else if isPrintable c then [c]
  else if c.toNat < 0x100 then "\\x".toList ++ hex 2 c.toNat
  else if c.toNat < 0x10000 then "\\u".toList ++ hex 4 c.toNat
  else "\\U".toList ++ hex 8 c.toNat

def quoted (t : Text) : Text :=
  let quote := quoteOf t
  quote :: t.flatMap (escapeIn quote) ++ [quote]

end Clipbook.Text
