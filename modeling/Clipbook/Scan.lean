import Clipbook.Text.Blank

/-!
# Clipbook — scanning arguments

The arguments of a filter may hold quoted texts, `/pattern/flags` literals and nested brackets.  A
scan reads a text character by character and knows what is open at each place; a separator or a
closing brace counts only where nothing is.
-/

namespace Clipbook

/-- What a scan has read, last character first, and what is open after it. -/
structure Scan where
  read : Text := []
  quote : Option Char := none
  inRegex : Bool := false
  /-- Whether a slash may open a pattern. -/
  regexes : Bool := true
  curly : Nat := 0
  paren : Nat := 0
  deriving DecidableEq, Repr

namespace Scan

def start (regexes : Bool) : Scan := { regexes }

def atTop (s : Scan) : Bool :=
  s.quote.isNone && !s.inRegex && s.curly = 0 && s.paren = 0

end Scan

namespace Text

/-- Whether a reversed text ends in an odd run of backslashes. -/
def oddBackslashes : Text → Bool
  | [] => false
  | c :: t => if c = '\\' then !oddBackslashes t else false

/-- Whether a character appended to the text follows an unescaped backslash. -/
def endsEscaped (t : Text) : Bool :=
  oddBackslashes t.reverse

end Text

namespace Scan

def escaped (s : Scan) : Bool :=
  Text.oddBackslashes s.read

/-- A slash opens a pattern only where an argument can start. -/
def regexCanOpen (s : Scan) : Bool :=
  match s.read.dropWhile Text.isBlank with
  | [] => true
  | c :: _ => c = ':' || c = ',' || c = '('

/-- What an unescaped character opens or closes. -/
def shift (s : Scan) (c : Char) : Scan :=
  match s.quote with
  | some q => if c = q then { s with quote := none } else s
  | none =>
    if s.inRegex then
      -- in a pattern, quotes and brackets are characters like others
      if c = '/' then { s with inRegex := false } else s
    else if c = '\'' ∨ c = '"' then { s with quote := some c }
    else if c = '/' ∧ s.regexes ∧ s.regexCanOpen then { s with inRegex := true }
    else if c = '\x7b' then { s with curly := s.curly + 1 }
    -- a bracket that closes nothing is passed over: the count stays at zero
    else if c = '\x7d' then { s with curly := s.curly - 1 }
    else if c = '(' then { s with paren := s.paren + 1 }
    else if c = ')' then { s with paren := s.paren - 1 }
    else s

def step (s : Scan) (c : Char) : Scan :=
  -- what was read decides what is escaped, so the character is added last
  let t := if s.escaped then s else s.shift c
  { t with read := c :: t.read }

/-- The scan after each character of a text. -/
def trace (s : Scan) : Text → List Scan
  | [] => []
  | c :: t => let n := s.step c; n :: trace n t

def run (s : Scan) (t : Text) : Scan :=
  t.foldl step s

/-- Whether the next character may separate or close. -/
def splits (s : Scan) : Bool :=
  s.atTop && !s.escaped

/-- The text read, in order. -/
def text (s : Scan) : Text :=
  s.read.reverse

end Scan

end Clipbook
