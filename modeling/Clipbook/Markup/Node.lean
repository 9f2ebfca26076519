import Clipbook.Table
import Clipbook.Text.Blank

/-!
# Clipbook — markup trees

A document is a list of nodes.  A text knows what kind of text it is, since the text of comments
and scripts is not shown; an element knows whether it is written without an end tag as long as it
is empty.
-/

namespace Clipbook.Markup

inductive TextKind where
  | plain
  | marked
  | comment
  | doctype
  | declaration
  | instruction
  | script
  | style
  | template
  | ruby
  deriving DecidableEq, Repr

/-- The text of pages, as opposed to that of comments, scripts and the like. -/
def TextKind.shown : TextKind → Bool
  | plain | marked => true
  | _ => false

/-- Texts with a notation of their own. -/
def TextKind.hasNotation : TextKind → Bool
  | marked | comment | doctype | declaration | instruction => true
  | _ => false

/-- The value of an attribute: a text, or the words of a list. -/
inductive AttributeValue where
  | single (t : Text)
  | words (ws : List Text)
  deriving DecidableEq, Repr

def AttributeValue.text : AttributeValue → Text
  | single t => t
  | words ws => Text.join [' '] ws

inductive Node where
  | text (kind : TextKind) (t : Text)
  | element (name : Text) (attributes : Table AttributeValue) (void : Bool) (children : List Node)

namespace Node

def attribute? (key : Text) : Node → Option AttributeValue
  | text .. => none
  | element _ attributes _ _ => attributes.get? key

def name? : Node → Option Text
  | text .. => none
  | element name .. => some name

def children : Node → List Node
  | text .. => []
  | element _ _ _ cs => cs

/-! ## Shown text -/

mutual

/-- The text of the nodes inside that are of the given kinds. -/
def textOf (keep : TextKind → Bool) : Node → Text
  | text kind t => if keep kind then t else []
  | element _ _ _ cs => textsOf keep cs

def textsOf (keep : TextKind → Bool) : List Node → Text
  | [] => []
  | n :: ns => n.textOf keep ++ textsOf keep ns

end

/-- The kinds of text that count as the text of an element. -/
def kindsOf (name : Text) : TextKind → Bool :=
  if name = "script".toList then (· = .script)
  else if name = "style".toList then (· = .style)
  else if name = "template".toList then (· = .template)
  else TextKind.shown

/-- The text of an element. -/
def contentText (n : Node) : Text :=
  textsOf (kindsOf (n.name?.getD [])) n.children

/-! ## Search -/

mutual

/-- The elements among the nodes and inside them, in document order. -/
def elements : Node → List Node
  | text .. => []
  | element name attributes void cs => element name attributes void cs :: elementsOf cs

def elementsOf : List Node → List Node
  | [] => []
  | n :: ns => n.elements ++ elementsOf ns

end

/-- The first element with the given name. -/
def find? (name : Text) (ns : List Node) : Option Node :=
  (elementsOf ns).find? (·.name? = some name)

/-- All elements with the given name. -/
def findAll (name : Text) (ns : List Node) : List Node :=
  (elementsOf ns).filter (·.name? = some name)

end Node

end Clipbook.Markup
