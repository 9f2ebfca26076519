import Clipbook.Scan

/-!
# Clipbook — literals in arguments

Taking parentheses and quotes off, and reading `/pattern/flags`.  One line end after the closing
mark is tolerated.
-/

namespace Clipbook.Text

/-- `t` without the line end it may end in. -/
def dropLineEnd (t : Text) : Text :=
  (before? ['\n'] t).getD t

/-- What stands between an opening character at the start of a text and a closing one at its end,
or before its final line end. -/
def between? (opening closing : Char) (t : Text) : Option Text :=
  match t with
  | [] => none
  | c :: body =>
    if c = opening then
      match before? [closing] body with
      | some inner => some inner
      | none => (before? ['\n'] body).bind (before? [closing])
    else none

/-- A text without the parentheses around it. -/
def stripParens (t : Text) : Text :=
  (between? '(' ')' t).getD t

/-- A text without the quotes around it. -/
def stripQuotes (t : Text) : Text :=
  match t with
  | '\'' :: _ => (between? '\'' '\'' t).getD t
  | '"' :: _ => (between? '"' '"' t).getD t
  | _ => t

def isFlag (c : Char) : Bool :=
  c ∈ ['d', 'g', 'i', 'm', 's', 'u', 'y']

/-- The pattern and the flags of a text of the form `/pattern/flags`. -/
def regexLiteral? (t : Text) : Option (Text × Text) :=
  match t with
  | '/' :: body =>
    match cutLast? '/' body with
    | some (pattern, after) =>
      let flags := dropLineEnd after
      if flags.all isFlag then some (pattern, flags) else none
    | none => none
  | _ => none

/-- A text without the backslash of each `\x`. -/
def unescape : Text → Text
  | '\\' :: c :: t => c :: unescape t
  | c :: t => c :: unescape t
  | [] => []

end Clipbook.Text
