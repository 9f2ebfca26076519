import Clipbook.Filter.Split
import Clipbook.Markup.Fragment
import Clipbook.Markup.Printer
import Clipbook.Markup.Selector.Matching
import Clipbook.Markup.Selector.Reader

/-!
# Clipbook — markup in values

Renaming elements, the shown text of a fragment, and fragments as trees of objects.
-/

namespace Clipbook.Filter

open Markup

/-! ## Renaming -/

def renamePairs (ns : List Node) : List Text → Outcome (List Node)
  | [] => .ok ns
  | argument :: arguments => do
    let (selector, name) := pairOf argument
    -- a pair without a name asks for nothing
    if name = [] then renamePairs ns arguments
    else
      match readSelectors? selector with
      | some selectors => renamePairs (rename selectors name ns) arguments
      | none =>
        Outcome.warn (.invalidSelector selector)
        renamePairs ns arguments

/-- Markup with the elements that satisfy each `selector:name` renamed and without attributes. -/
def renameTags (param : Text) (v : Value) : Outcome Value :=
  if param = [] then .ok v
  else do
    let ns ← readFragment (← v.text)
    return .str (print .named (← renamePairs ns (arguments param)))

/-! ## Shown text -/

/-- Elements that stand on lines of their own. -/
def blockNames : List Text :=
  names ("address article aside blockquote dd div dl dt fieldset figcaption figure footer form "
    ++ "h1 h2 h3 h4 h5 h6 header hr li main nav ol p pre section table tr ul")

def lineEnd : Node := .text .plain ['\n']

mutual

/-- A node with line ends for breaks and around blocks. -/
def spreadNode : Node → List Node
  | .text kind t => [.text kind t]
  | .element name as void cs =>
    if name = "br".toList then [lineEnd]
    else
      let n := Node.element name as void (spread cs)
      if name ∈ blockNames then [lineEnd, n, lineEnd] else [n]

def spread : List Node → List Node
  | [] => []
  | n :: ns => spreadNode n ++ spread ns

end

def isGap (c : Char) : Bool :=
  c ∈ [' ', '\t', '\r', '\x0c', '\x0b']

/-- A text without the gaps before its line ends and the blanks after them; `gap` is the gap just
read, last character first, and `fresh` tells that a line has just begun. -/
def tightenFrom (gap : Text) (fresh : Bool) : Text → Text
  | [] => gap.reverse
  | c :: t =>
    -- blank lines go with the blanks that start a line
    if fresh && Text.isBlank c then tightenFrom [] true t
    else if c = '\n' then '\n' :: tightenFrom [] true t
    -- whether the gap is kept depends on what follows
    else if isGap c then tightenFrom (c :: gap) false t
    else gap.reverse ++ c :: tightenFrom [] false t

def tighten (t : Text) : Text :=
  tightenFrom [] false t

/-- The shown text of markup, each block on lines of its own. -/
def shownText (v : Value) : Outcome Value := do
  let ns ← readFragment (← v.text)
  return .str (Text.strip (tighten (Node.textsOf TextKind.shown (spread ns))))

end Clipbook.Filter
