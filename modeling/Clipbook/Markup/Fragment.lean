import Clipbook.Markup.Node
import Clipbook.Markup.Token

/-!
# Clipbook — reading fragments

A fragment is built from its tokens by a stack of open elements.  Nothing is implied: an end tag
closes the elements up to the nearest open one of its name, and is dropped if there is none; what
is open at the end is closed there.  A void element is closed where it starts.

An end tag of a void element is waited for, since it may be there, and is passed over.  Readers
differ in what they make of a void element that says of itself that it is closed, behind one of its
name that does not: `<br><br/>x`.  The fragments of this library are read by a reader that closes
it at once, so that `a<br>b<br/>c` is three lines of text; what is said of trees in the theory
holds for the other reader too.
-/

namespace Clipbook.Markup

/-! ## Elements -/

def names (s : String) : List Text :=
  Text.splitOn ' ' s.toList

/-- Elements without content. -/
def voidNames : List Text :=
  names ("area base br col embed hr img input keygen link menuitem meta param source track wbr "
    ++ "basefont bgsound command frame image isindex nextid spacer")

/-- Whether the value of an attribute is a list of words. -/
def isWordList (element key : Text) : Bool :=
  key ∈ names "class accesskey dropzone" ||
    match String.ofList element with
    | "a" | "link" => key ∈ names "rel rev"
    | "td" | "th" => key = "headers".toList
    | "form" => key = "accept-charset".toList
    | "object" => key = "archive".toList
    | "area" => key = "rel".toList
    | "icon" => key = "sizes".toList
    | "iframe" => key = "sandbox".toList
    | "output" => key = "for".toList
    | _ => false

/-- The words of a text. -/
def words (t : Text) : List Text :=
  (Text.splitOn ' ' (t.map fun c => if Text.isBlank c then ' ' else c)).filter (· ≠ [])

def attributeValue (element key : Text) (value : Text) : AttributeValue :=
  if isWordList element key then .words (words value) else .single value

/-- The attributes of an element; of two with one name the last counts. -/
def attributeTable (element : Text) (as : List (Text × Option Text)) : Table AttributeValue :=
  as.foldl (fun t a => t.put a.1 (attributeValue element a.1 (a.2.getD []))) []

/-! ## The stack -/

/-- An element whose end is not reached; its children come last first. -/
structure Open where
  name : Text
  attributes : Table AttributeValue
  void : Bool
  children : List Node

def Open.close (o : Open) : Node :=
  .element o.name o.attributes o.void o.children.reverse

/-- What becomes of an element that says of itself that it is closed. -/
inductive Closing where
  /-- It is closed where it starts. -/
  | atOnce
  /-- It is closed by an end tag that is read behind its start; so it stays open where that tag is
  taken for one that was waited for. -/
  | byEndTag
  deriving DecidableEq, Repr

/-- There are two ways to close, so what is said of all can be decided. -/
instance {p : Closing → Prop} [DecidablePred p] : Decidable (∀ closing, p closing) :=
  decidable_of_iff (p .atOnce ∧ p .byEndTag)
    ⟨fun h => fun | .atOnce => h.1 | .byEndTag => h.2, fun h => ⟨h _, h _⟩⟩

/-- The open elements, innermost first, the nodes outside of them, last first, the text not yet
added, and the void elements whose end tag, if they have one, is still to come. -/
structure Building where
  stack : List Open := []
  roots : List Node := []
  pending : Option Text := none
  ended : List Text := []

namespace Building

def add (b : Building) (n : Node) : Building :=
  match b.stack with
  | [] => { b with roots := n :: b.roots }
  | o :: os => { b with stack := { o with children := n :: o.children } :: os }

def isOpen (b : Building) (name : Text) : Bool :=
  b.stack.any (·.name = name)

def keepsBlanks (b : Building) : Bool :=
  b.isOpen "pre".toList || b.isOpen "textarea".toList

/-- The kind of plain text inside the open elements. -/
def plainKind (b : Building) : TextKind :=
  (b.stack.findSome? fun o =>
    match String.ofList o.name with
    | "script" => some .script
    | "style" => some .style
    | "template" => some .template
    | "rt" | "rp" => some .ruby
    | _ => none).getD .plain

def isSpace (c : Char) : Bool :=
  c ∈ [' ', '\n', '\t', '\x0c', '\r']

/-- Text of spaces only becomes one space or one line end. -/
def squeeze (t : Text) : Text :=
  if t.all isSpace then if '\n' ∈ t then ['\n'] else [' '] else t

/-- The pending text added as a node. -/
def flush (b : Building) (kind : Option TextKind) : Building :=
  match b.pending with
  | none => b
  | some t =>
    -- line ends in preformatted text are kept
    let t := if b.keepsBlanks then t else squeeze t
    { b with pending := none }.add (.text (kind.getD b.plainKind) t)

def data (b : Building) (t : Text) : Building :=
  { b with pending := some (b.pending.getD [] ++ t) }

def special (b : Building) (kind : TextKind) (t : Text) : Building :=
  ((b.flush none).data t).flush (some kind)

/-- The innermost element closed. -/
def pop (b : Building) : Building :=
  match b.stack with
  | [] => b
  | o :: os => { b with stack := os }.add o.close

/-- Elements closed up to the nearest one of a name, or up to `stack` of them. -/
def popTo (name : Text) : (stack : Nat) → Building → Building
  | 0, b => b
  | n + 1, b =>
    match b.stack with
    | [] => b
    | o :: _ => if o.name = name then b.pop else popTo name n b.pop

/-- An end tag: that of a void element is passed over, and does not even divide a text. -/
def close (b : Building) (name : Text) : Building :=
  -- the text before it is not flushed, so it goes on behind the tag
  if name ∈ b.ended then { b with ended := b.ended.erase name }
  else
    let b := b.flush none
    -- elements inside of the one that ends are closed with it
    if b.isOpen name then popTo name b.stack.length b else b

/-- An element opened; a void one is closed where it starts, and its end tag waited for. -/
def start (closing : Closing) (b : Building) (name : Text) (attributes : Table AttributeValue)
    (closed : Bool) : Building :=
  let b := b.flush none
  let void := name ∈ voidNames
  let opened := { b with stack := ⟨name, attributes, void, []⟩ :: b.stack }
  if closed then
    match closing with
    | .atOnce => opened.pop
    | .byEndTag => opened.close name
  else if void then { opened.pop with ended := name :: b.ended }
  else opened

def popAll : (stack : Nat) → Building → Building
  | 0, b => b
  | n + 1, b => popAll n b.pop

def finish (b : Building) : List Node :=
  let b := b.flush none
  (popAll b.stack.length b).roots.reverse

end Building

/-! ## Tokens -/

/-- What a numeric reference in a fragment stands for: the codes below 256 are read as bytes of
the character set they were once written in. -/
def codeText (digits : Text) : Except Fault Text :=
  let code : Except Fault Nat :=
    match digits with
    | 'x' :: hex | 'X' :: hex => .ok (hexNumber hex)
    | _ => decimalCode digits
  code.map fun n =>
    match windowsCodes.lookup n with
    | some m => [Char.ofNat m]
    | none => [charOfCode n]

/-- What a named reference in a fragment stands for; an unknown one is text. -/
def nameData (name : Text) : Text :=
  (namedText? name).getD ('&' :: name)

/-- What one token adds. -/
def step (closing : Closing) (b : Building) : Token → Except Fault Building
  | .start name as closed => .ok (b.start closing name (attributeTable name as) closed)
  | .stop name => .ok (b.close name)
  | .data t => .ok (b.data t)
  | .code digits => (codeText digits).map b.data
  | .named name => .ok (b.data (nameData name))
  | .comment t => .ok (b.special .comment t)
  | .doctype t => .ok (b.special .doctype (t.drop 8))
  | .marked t =>
    .ok (if (t.take 6).map Char.toUpper = "CDATA[".toList then b.special .marked (t.drop 6)
      else b.special .declaration t)
  | .instruction t => .ok (b.special .instruction t)

def steps (closing : Closing) (b : Building) : List Token → Except Fault Building
  | [] => .ok b
  | k :: ks => (step closing b k).bind fun b => steps closing b ks

/-- The nodes that a reader makes of a fragment of markup. -/
def readFragmentBy (closing : Closing) (t : Text) : Except Fault (List Node) :=
  (Token.ofText t).bind fun ks => (steps closing {} ks).map Building.finish

/-- The nodes of a fragment of markup. -/
def readFragment (t : Text) : Except Fault (List Node) :=
  readFragmentBy .atOnce t

end Clipbook.Markup
