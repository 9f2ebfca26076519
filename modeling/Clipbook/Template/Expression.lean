import Clipbook.Scan
import Clipbook.Text.Word

/-!
# Clipbook — expressions in templates

An expression is `${path}` or `${path|filters}`.  The filters go on to the first closing brace at
the top level of a scan, or, where the scan never gets back there, to the first closing brace.
-/

namespace Clipbook

/-- An expression with the places of its first character and after its last one. -/
structure Expression where
  start : Nat
  stop : Nat
  path : Text
  filters : Option Text
  deriving DecidableEq, Repr

namespace Expression

def isPathChar (c : Char) : Bool :=
  Text.isWord c || c = '.' || c = '[' || c = ']'

/-- What stands before the first closing brace where the scan splits. -/
def untilBrace? (s : Scan) : Text → Option Text
  | [] => none
  | c :: t =>
    if c = '\x7d' ∧ s.splits then some [] else (untilBrace? (s.step c) t).map (c :: ·)

/-- The filters at the start of a text that goes on behind them. -/
def filters? (t : Text) : Option Text :=
  match untilBrace? (Scan.start true) t with
  | some f => some f
  -- where no brace splits, a quote or bracket was left open: the next brace will do
  | none => (Text.cut? '\x7d' t).map (·.1)

/-- The path and the filters of an expression after its `${`. -/
def body? (t : Text) : Option (Text × Option Text) :=
  match t.takeWhile isPathChar, t.dropWhile isPathChar with
  | [], _ => none
  | path, c :: rest =>
    if c = '\x7d' then some (path, none)
    -- a bar opens filters, and there may be none behind it
    else if c = '|' then (filters? rest).map fun f => (path, some f)
    else none
  | _, [] => none

/-- The number of characters of an expression. -/
def length (path : Text) (filters : Option Text) : Nat :=
  match filters with
  | none => path.length + 3
  | some f => path.length + f.length + 4

/-- The expressions of a text from a place on; the first `skip` characters belong to what is
already read. -/
def findFrom (skip place : Nat) : Text → List Expression
  | [] => []
  | c :: t =>
    match skip with
    | n + 1 => findFrom n (place + 1) t
    | 0 =>
      match c, t with
      | '$', '\x7b' :: rest =>
        match body? rest with
        | some (path, filters) =>
          ⟨place, place + length path filters, path, filters⟩
            :: findFrom (length path filters - 1) (place + 1) t
        -- the brace is passed over too: no expression starts in it
        | none => findFrom 1 (place + 1) t
      | _, _ => findFrom 0 (place + 1) t

/-- All expressions of a template, left to right. -/
def findAll (template : Text) : List Expression :=
  findFrom 0 0 template

end Expression

end Clipbook
