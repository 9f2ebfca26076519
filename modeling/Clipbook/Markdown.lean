import Clipbook.Markdown.Spacing
import Clipbook.Markup.Fragment
import Clipbook.Markup.Selector.Matching

/-!
# Clipbook — markup as Markdown

Every element is written by a rule for its name around the text of its content; elements without a
rule are their content.

Rules are looked up by name among all that a converter has, and two names find what is no rule: one
finds the entry to the converter itself, the other one the rules that were looked up before.  An
element of such a name cannot be written, unless it is the first of all for which a rule is looked
up: then there are no rules yet to be found, and it has none.
-/

namespace Clipbook.Markdown

open Markup

/-! ## Elements -/

/-- The level of a heading: `h` and a number. -/
def headingDigits (name : Text) : Text :=
  match name with
  | 'h' :: rest => rest.takeWhile Text.isDecimal
  | _ => []

def isHeading (name : Text) : Bool :=
  headingDigits name ≠ []

/-- Blocks, at whose inner and outer edges blanks are dropped. -/
def isBlock (name : Text) : Bool :=
  isHeading name || name ∈ names ("p blockquote article div section ol ul li dl dt dd table thead "
    ++ "tbody tfoot tr td th")

def isBlockNode (n : Option Node) : Bool :=
  match n.bind Node.name? with
  | some name => isBlock name || name = "pre".toList
  | none => false

/-- Whether something stands next to a node; an empty text is nothing. -/
def stands : Option Node → Bool
  | some (.text _ t) => t ≠ []
  | some _ => true
  | none => false

def isRemark : TextKind → Bool
  | .comment | .doctype => true
  | _ => false

/-! ## Where an element stands -/

structure Setting where
  /-- Inside preformatted text. -/
  preformatted : Bool := false
  /-- Inside a heading or a cell, where all is on one line. -/
  inline : Bool := false
  /-- Inside text in which marks have no meaning. -/
  verbatim : Bool := false
  /-- Inside an item of a list. -/
  item : Bool := false
  /-- The name of the first element of all that ends. -/
  first : Option Text := none

def Setting.enter (s : Setting) (name : Text) : Setting :=
  { s with
    preformatted := s.preformatted || name = "pre".toList
    inline := s.inline || isHeading name || name ∈ names "td th"
    verbatim := s.verbatim || name ∈ names "pre code kbd samp"
    item := s.item || name = "li".toList }

/-! ## Text -/

def escape (t : Text) : Text :=
  t.flatMap fun c => if c = '*' || c = '_' then ['\\', c] else [c]

/-- A text between its neighbours, in a parent. -/
def textMarkdown (s : Setting) (parent : Text) (previous next : Option Node) (t : Text) : Text :=
  let t := if s.preformatted then t else squeeze t
  let t := if s.verbatim then t else escape t
  let t :=
    if isBlockNode previous || (isBlock parent && !stands previous) then Text.trimStart isSpace t
    else t
  if isBlockNode next || (isBlock parent && !stands next) then Text.stripEnd t else t

/-- Whether a node is left out: a remark, or blanks at the edge of a block. -/
def leftOut (parent : Text) (previous next : Option Node) : Node → Bool
  | .element .. => false
  | .text kind t =>
    isRemark kind ||
      (Text.blank t &&
        ((isBlock parent && (!stands previous || !stands next)) || isBlockNode previous
          || isBlockNode next))

/-! ## Rules -/

/-- Content between marks, unless there is none. -/
def marked (s : Setting) (mark t : Text) : Text :=
  if s.verbatim then t
  else
    let (before, t, after) := chomp t
    if t = [] then [] else before ++ mark ++ t ++ mark ++ after

def attributeOf (p : Place) (key : String) : Text :=
  ((p.attributes.get? key.toList).map AttributeValue.text).getD []

/-- A title behind an address. -/
def titlePart (title : Text) : Text :=
  if title = [] then []
  else ' ' :: '"' :: Text.replaceAll ['"'] ['\\', '"'] title ++ ['"']

def unescapedUnderscores (t : Text) : Text :=
  Text.replaceAll ['\\', '_'] ['_'] t

/-- A link; one whose text is its address is written in angle brackets. -/
def link (s : Setting) (p : Place) (t : Text) : Text :=
  if s.verbatim then t
  else
    let (before, t, after) := chomp t
    let href := attributeOf p "href"
    let title := attributeOf p "title"
    if t = [] then []
    -- the text was escaped on its way here
    else if p.attributes.holds "href".toList ∧ unescapedUnderscores t = href ∧ title = [] then
      '<' :: href ++ ['>']
    else if href = [] then t
    else
      before ++ '[' :: t ++ ']' :: '(' :: href ++ titlePart title ++ ')' :: after

def image (s : Setting) (p : Place) : Text :=
  let alt := attributeOf p "alt"
  if s.inline then alt
  else
    '!' :: '[' :: alt ++ ']' :: '(' :: attributeOf p "src" ++ titlePart (attributeOf p "title")
      ++ [')']

/-- The address of a video, its own or that of its first source that has one. -/
def videoAddress (p : Place) : Text :=
  match attributeOf p "src" with
  | [] =>
    let sources := (Node.findAll "source".toList p.children).filterMap
      (·.attribute? "src".toList)
    ((sources.head?).map AttributeValue.text).getD []
  | src => src

def video (s : Setting) (p : Place) (t : Text) : Text :=
  if s.inline then t
  else
    match videoAddress p, attributeOf p "poster" with
    | [], [] => t
    | [], poster => '!' :: '[' :: t ++ ']' :: '(' :: poster ++ [')']
    | src, [] => '[' :: t ++ ']' :: '(' :: src ++ [')']
    | src, poster =>
      '[' :: '!' :: '[' :: t ++ ']' :: '(' :: poster ++ ')' :: ']' :: '(' :: src ++ [')']

/-- The length of the longest run of backticks; `run` is that of the one just read. -/
def longestRun (run : Nat) : Text → Nat
  | [] => run
  | c :: t => if c = '\x60' then longestRun (run + 1) t else max run (longestRun 0 t)

def code (s : Setting) (t : Text) : Text :=
  if s.verbatim then t
  else
    let (before, t, after) := chomp t
    if t = [] then []
    else
      -- the marks have to be longer than what stands between them
      let run := longestRun 0 t
      let mark := List.replicate (run + 1) '\x60'
      -- a backtick at an end would be taken for one of the marks
      let t := if run = 0 then t else ' ' :: t ++ [' ']
      before ++ mark ++ t ++ mark ++ after

/-- A block of its own between blank lines. -/
def spaced (t : Text) : Text :=
  '\n' :: '\n' :: t ++ ['\n', '\n']

def block (s : Setting) (t : Text) : Text :=
  if s.inline then ' ' :: t ++ [' '] else if t = [] then [] else spaced t

def fence : Text := ['\x60', '\x60', '\x60']

/-- Leading lines of spaces only, and all blanks at the end, dropped. -/
def trimLines (t : Text) : Text :=
  let isGap (c : Char) : Bool := c = ' ' || c = '\n'
  let lead := t.takeWhile isGap
  let kept := (lead.reverse.takeWhile (· ≠ '\n')).reverse
  let t := if '\n' ∈ lead then kept ++ t.dropWhile isGap else t
  Text.trimEnd isGap t

def preformatted (t : Text) : Text :=
  if t = [] then [] else spaced (fence ++ '\n' :: trimLines t ++ '\n' :: fence)

def quotation (s : Setting) (t : Text) : Text :=
  let t := Text.trim isSpace t
  if s.inline then ' ' :: t ++ [' ']
  else if t = [] then ['\n']
  else '\n' :: withMargin ['>', ' '] ['>'] t ++ ['\n', '\n']

def term (s : Setting) (t : Text) : Text :=
  let t := onOneLine (Text.strip t)
  if s.inline then ' ' :: t ++ [' '] else if t = [] then ['\n'] else '\n' :: '\n' :: t ++ ['\n']

def definition (s : Setting) (t : Text) : Text :=
  let t := Text.strip t
  if s.inline then ' ' :: t ++ [' ']
  else if t = [] then ['\n']
  else ':' :: (withMargin "    ".toList [] t).drop 1 ++ ['\n']

/-- A heading; its level is read even where it is not shown. -/
def heading (s : Setting) (name t : Text) : Except Fault Text :=
  (Number.readInt (headingDigits name)).map fun n =>
    if s.inline then t
    else
      let hashes := List.replicate (max 1 (min 6 n.toNat)) '#'
      spaced (hashes ++ ' ' :: onOneLine (Text.strip t))

/-! ### Lists -/

/-- Whether content comes after a node before anything else: an element other than a list, or
text. -/
def paragraphFollows : List Node → Bool
  | [] => false
  | .element name .. :: _ => name ∉ names "ul ol"
  | .text kind t :: ns => if isRemark kind || Text.blank t then paragraphFollows ns else true

def list (s : Setting) (after : List Node) (t : Text) : Text :=
  if s.item then '\n' :: Text.stripEnd t
  else '\n' :: '\n' :: t ++ if paragraphFollows after then ['\n'] else []

def firstNumber (list : Place) : Except Fault Int :=
  match attributeOf list "start" with
  | [] => .ok 1
  | start => if start.all Text.isNumeric then Number.readInt start else .ok 1

def bullet (parent : Place) (before : List Node) : Except Fault Text :=
  if parent.name = "ol".toList then
    (firstNumber parent).map fun n =>
      Text.ofInt (n + before.countP (·.name? = some "li".toList)) ++ ['.', ' ']
  else .ok ['-', ' ']

def item (parent : Place) (before : List Node) (t : Text) : Except Fault Text :=
  let t := Text.strip t
  -- an empty item takes no number
  if t = [] then .ok ['\n']
  else (bullet parent before).map fun mark => hanging mark t ++ ['\n']

/-! ### Tables -/

/-- The number of columns of a cell. -/
def columns (attributes : Table AttributeValue) : Except Fault Nat :=
  match (attributes.get? "colspan".toList).map AttributeValue.text with
  | some t =>
    if t ≠ [] ∧ t.all Text.isDigit then
      (Number.readInt t).map fun n => max 1 (min 1000 n.toNat)
    else .ok 1
  | none => .ok 1

def cell (p : Place) (t : Text) : Except Fault Text :=
  (columns p.attributes).map fun n =>
    ' ' :: (Text.strip t).map (fun c => if c = '\n' then ' ' else c)
      ++ (List.replicate n [' ', '|']).flatten

def nodeAttributes : Node → Table AttributeValue
  | .element _ as _ _ => as
  | .text .. => []

def totalColumns : List Node → Except Fault Nat
  | [] => .ok 0
  | n :: ns => do
    let k ← columns (nodeAttributes n)
    return k + (← totalColumns ns)

/-- A row with the same text in every column. -/
def uniformRow (columns : Nat) (t : Text) : Text :=
  '|' :: ' ' :: Text.join " | ".toList (List.replicate columns t) ++ " |\n".toList

/-- A row, with the rule below a head and an empty head above a first row without one. -/
def row (p parent : Place) (before : List Node) (t : Text) : Except Fault Text := do
  let cells := (Node.elementsOf p.children).filter fun n =>
    n.name? = some "td".toList ∨ n.name? = some "th".toList
  let count ← totalColumns cells
  let isFirst := before.all fun n => !isElement n
  let inBody := parent.name = "tbody".toList
  let isHead := (cells.all fun n => n.name? = some "th".toList)
    || (parent.name = "thead".toList && (Node.findAll "tr".toList parent.children).length = 1)
  let grandChildren :=
    match parent with
    | .inside grandparent .. => grandparent.children
    | .document _ => []
  let noHead := isFirst && (!inBody || Node.findAll "thead".toList grandChildren = [])
  let startsTable :=
    match parent with
    | .inside _ earlier .. => inBody && !stands earlier.head?
    | .document _ => false
  let line := '|' :: t ++ ['\n']
  -- the first row is the head itself, and the rule stands below it
  if isHead && isFirst then return line ++ uniformRow count "---".toList
  else if noHead || (isFirst && (parent.name = "table".toList || startsTable)) then
    return uniformRow count [] ++ uniformRow count "---".toList ++ line
  else return line

/-! ### Names that find no rule -/

/-- The name that finds the entry to the converter. -/
def entryName : Text := "soup".toList

/-- Whether a name finds the rules that were looked up before; some marks in a name are taken for
an underscore. -/
def findsRules (name : Text) : Bool :=
  name.map (fun c => if c ∈ ['[', ']', ':', '-'] then '_' else c) = "fn_cache".toList

/-- An element without a rule, which is its content, unless its name finds something else. -/
def withoutRule (s : Setting) (name t : Text) : Except Fault Text :=
  if name = entryName then
    .error (.unexpectedArgument "MarkdownConverter.convert_soup".toList "parent_tags".toList)
  else if findsRules name && s.first ≠ some name then .error (.notCallable .obj)
  else .ok t

/-! ### All rules -/

/-- An element by the rule for its name, given the text of its content. -/
def byRule (s : Setting) (p parent : Place) (before after : List Node) (t : Text) :
    Except Fault Text :=
  let name := p.name
  match String.ofList name with
  | "a" => .ok (link s p t)
  | "b" | "strong" => .ok (marked s ['*', '*'] t)
  | "em" | "i" => .ok (marked s ['*'] t)
  | "del" | "s" => .ok (marked s ['~', '~'] t)
  | "sub" | "sup" => .ok (marked s [] t)
  | "blockquote" => .ok (quotation s t)
  | "br" => .ok (if s.inline then [' '] else [' ', ' ', '\n'])
  | "code" | "kbd" | "samp" => .ok (code s t)
  | "div" | "article" | "section" | "dl" => .ok (block s (Text.strip t))
  | "p" => .ok (block s (Text.trim isSpace t))
  | "dd" => .ok (definition s t)
  | "dt" => .ok (term s t)
  | "hr" => .ok (spaced "---".toList)
  | "img" => .ok (image s p)
  | "video" => .ok (video s p t)
  | "ul" | "ol" | "list" => .ok (list s after t)
  | "li" => item parent before t
  | "pre" => .ok (preformatted t)
  | "q" => .ok ('"' :: t ++ ['"'])
  | "script" | "style" => .ok []
  | "table" | "figcaption" => .ok (spaced (Text.strip t))
  | "caption" => .ok (Text.strip t ++ ['\n', '\n'])
  | "td" | "th" => cell p t
  | "tr" => row p parent before t
  | _ => if isHeading name then heading s name t else withoutRule s name t

/-! ## Fragments -/

mutual

/-- The name of the first element that ends: the first one has inside of it the one that ends
before it. -/
def firstEnded? : List Node → Option Text
  | [] => none
  | n :: ns => (firstEndedOf? n).or (firstEnded? ns)

def firstEndedOf? : Node → Option Text
  | .text .. => none
  | .element name _ _ cs => (firstEnded? cs).or (some name)

end

mutual

/-- A node among its siblings. -/
def nodeMarkdown (s : Setting) (parent : Place) (before : List Node) (n : Node)
    (after : List Node) : Except Fault Text :=
  match n with
  | .text _ t => .ok (textMarkdown s parent.name before.head? after.head? t)
  | .element name as void cs =>
    let here := Place.inside parent before (.element name as void cs) after
    match listMarkdown (s.enter name) here [] cs with
    | .error e => .error e
    | .ok ts =>
      -- inside of preformatted text nothing is joined
      let t := if s.preformatted || name = "pre".toList then ts.flatten else joinBlocks ts
      byRule s here parent before after t

/-- The texts of a list of siblings. -/
def listMarkdown (s : Setting) (parent : Place) (before : List Node) (ns : List Node) :
    Except Fault (List Text) :=
  match ns with
  | [] => .ok []
  | n :: after =>
    -- what is left out is still a neighbour of the others
    if leftOut parent.name before.head? after.head? n then listMarkdown s parent (n :: before) after
    else
      match nodeMarkdown s parent before n after with
      | .error e => .error e
      | .ok t =>
        (listMarkdown s parent (n :: before) after).map fun ts => if t = [] then ts else t :: ts

end

/-- The Markdown of a document. -/
def ofNodes (ns : List Node) : Except Fault Text :=
  (listMarkdown { first := firstEnded? ns } (.document ns) [] ns).map fun ts =>
    Text.trim isLineEnd (joinBlocks ts)

/-- The Markdown of a fragment of markup. -/
def convert (t : Text) : Except Fault Text :=
  readFragment t >>= ofNodes

end Clipbook.Markdown
