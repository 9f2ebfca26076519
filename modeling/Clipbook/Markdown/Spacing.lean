import Clipbook.Text.Blank

/-!
# Clipbook — blanks in Markdown

Runs of blanks, line ends between blocks, and lines behind a margin.
-/

namespace Clipbook.Markdown

/-! ## Runs -/

def isSpace (c : Char) : Bool :=
  c ∈ [' ', '\t', '\r', '\n']

/-- A text with `image` in the place of each run of spaces; `run` is the run just read, last
character first. -/
def mapRuns (image : Text → Text) (run : Text) : Text → Text
  | [] => if run = [] then [] else image run
  | c :: t =>
    if isSpace c then mapRuns image (c :: run) t
    else (if run = [] then [] else image run) ++ c :: mapRuns image [] t

/-- Runs of spaces as one space, or as one line end where they break the line. -/
def squeeze (t : Text) : Text :=
  mapRuns (fun run => if run.any fun c => c = '\n' || c = '\r' then ['\n'] else [' ']) [] t

/-- Runs of spaces as one space, on one line. -/
def onOneLine (t : Text) : Text :=
  mapRuns (fun _ => [' ']) [] t

/-- A text without the blanks at its ends, and the space to keep before and after it. -/
def chomp (t : Text) : Text × Text × Text :=
  (if t.head? = some ' ' then [' '] else [], Text.strip t,
    if t.getLast? = some ' ' then [' '] else [])

/-! ## Blocks -/

def isLineEnd (c : Char) : Bool := c = '\n'

/-- Texts put together; where line ends meet, the larger number of them stays, but two at most.
`out` is what comes before the line ends `tail`. -/
def joinFrom (out tail : Text) : List Text → Text
  | [] => out ++ tail
  | t :: ts =>
    let lead := t.takeWhile isLineEnd
    let rest := t.dropWhile isLineEnd
    let body := Text.trimEnd isLineEnd rest
    let next := rest.drop body.length
    if tail ≠ [] ∧ lead ≠ [] then
      let between := List.replicate (min 2 (max tail.length lead.length)) '\n'
      joinFrom (out ++ between ++ body) next ts
    else joinFrom (out ++ tail ++ lead ++ body) next ts

def joinBlocks (ts : List Text) : Text :=
  joinFrom [] [] ts

/-- Three and more line ends as two; `count` is the number of those just written. -/
def limitLineEnds (count : Nat) : Text → Text
  | [] => []
  | c :: t =>
    if c = '\n' then if count < 2 then c :: limitLineEnds (count + 1) t else limitLineEnds count t
    else c :: limitLineEnds 0 t

/-! ## Lines -/

/-- Each line behind a margin; empty lines get another one. -/
def withMargin (margin empty : Text) (t : Text) : Text :=
  Text.join ['\n'] ((Text.lines t).map fun line => if line = [] then empty else margin ++ line)

/-- Lines behind blanks as wide as a mark, with the mark in the place of the first ones. -/
def hanging (mark : Text) (t : Text) : Text :=
  mark ++ (withMargin (List.replicate mark.length ' ') [] t).drop mark.length

end Clipbook.Markdown
