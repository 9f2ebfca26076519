import Clipbook.Outcome
import Clipbook.Pattern.Template
import Clipbook.Scan.Literal
import Clipbook.Scan.Split
import Clipbook.Value.Printer

/-!
# Clipbook — replacing in text

`replace:("old":"new",/pattern/g:"new")` replaces in the order of its pairs.  A pattern replaces its
first match, or all matches with the flag `g`; a text replaces all its occurrences.
-/

namespace Clipbook

namespace Pattern

/-- The fault of a problem that is one; an invalid pattern gives a warning instead. -/
def orWarn (warning : Warning) (r : Except Problem Pattern) : Outcome (Option Pattern) :=
  match r with
  | .ok p => .ok (some p)
  | .error .hugeCount => .fail .repetitionTooLarge
  | .error .invalid => do
    Outcome.warn warning
    return none

end Pattern

namespace Filter

/-- The arguments of a filter between its parentheses. -/
def arguments (param : Text) : List Text :=
  Scan.splitTop ',' true (Text.stripParens param)

/-- An argument `left:right`, both without their quotes. -/
def pairOf (argument : Text) : Text × Text :=
  let (left, right) := Scan.splitPair ':' true argument
  (Text.stripQuotes left, Text.stripQuotes (right.getD []))

def replaceOne (t search replacement : Text) : Outcome Text :=
  match Text.regexLiteral? search with
  | some (pattern, flags) => do
    match ← Pattern.orWarn (.invalidPattern search) (Pattern.ofLiteral pattern flags) with
    -- without the flag only the first match is replaced
    | some p => return p.replace ('g' ∈ flags) replacement t
    | none => return t
  -- escapes are undone here only: a pattern has its own
  | none => return Text.replaceAll (Text.unescape search) (Text.unescape replacement) t

def replacePairs (t : Text) : List Text → Outcome Text
  | [] => .ok t
  | argument :: arguments => do
    let (search, replacement) := pairOf argument
    let t ← replaceOne t search replacement
    replacePairs t arguments

/-- The text of a value with each pair of the arguments applied in turn. -/
def replaced (param : Text) (v : Value) : Outcome Value :=
  if param = [] then .ok v
  else do
    let t ← v.text
    return .str (← replacePairs t (arguments param))

end Filter

end Clipbook
