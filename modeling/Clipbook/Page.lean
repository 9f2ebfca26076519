import Clipbook.Markup.Document
import Clipbook.Markup.Printer
import Clipbook.Outcome
import Clipbook.Text.Case
import Clipbook.Value.Reader

/-!
# Clipbook — pages

What a page says about itself: its meta tags, its data blocks, the first time it mentions and its
title.
-/

namespace Clipbook

structure Page where
  nodes : List Markup.Node

namespace Page

open Markup

def read (html : Text) : Page :=
  ⟨readDocument html⟩

def attributeText? (n : Node) (key : Text) : Option Text :=
  (n.attribute? key).map AttributeValue.text

/-! ## Meta tags -/

structure Meta where
  name : Option Text
  property : Option Text
  content : Option Text
  deriving DecidableEq, Repr

def metaNodes (p : Page) : List Node :=
  Node.findAll "meta".toList p.nodes

def metas (p : Page) : List Meta :=
  p.metaNodes.map fun n =>
    ⟨attributeText? n "name".toList, attributeText? n "property".toList,
      attributeText? n "content".toList⟩

/-- The content of the first meta tag with a value for a key, whatever the case of the value. -/
def metaContent (p : Page) (key value : Text) : Text :=
  let matching (n : Node) : Bool := (attributeText? n key).map Text.lower = some (Text.lower value)
  match p.metaNodes.find? matching with
  | some n => Text.strip ((attributeText? n "content".toList).getD [])
  | none => []

/-! ## Elements -/

/-- What the first time element says, in an attribute for it or in its text. -/
def time (p : Page) : Text :=
  match Node.find? "time".toList p.nodes with
  | none => []
  | some n => Text.strip ((attributeText? n "datetime".toList).getD n.contentText)

def title (p : Page) : Text :=
  match Node.find? "title".toList p.nodes with
  | none => []
  | some n => Text.strip n.contentText

/-- The markup inside the body. -/
def bodyMarkup (p : Page) : Text :=
  match Node.find? "body".toList p.nodes with
  | none => []
  | some n => print .escaped n.children

/-! ## Data blocks -/

def dataType : Text := "application/ld+json".toList

def dataBlocks (p : Page) : List Text :=
  let blocks := (Node.findAll "script".toList p.nodes).filter fun n =>
    attributeText? n "type".toList = some dataType
  (blocks.map Node.contentText).filter fun t => !Text.blank t

/-- The values of data blocks; a block that is no JSON is left out. -/
def readBlocks : List Text → Outcome (List Value)
  | [] => .ok []
  | t :: ts =>
    match Value.ofJson t with
    | .ok v => do return v :: (← readBlocks ts)
    -- a number of too many digits is not among the faults that are passed over
    | .error (.json ..) | .error .tooDeep => do
      Outcome.warn .skippedDataBlock
      readBlocks ts
    | .error f => .fail f

/-- The data of a page: that of its one block, or the list of those of several. -/
def data (p : Page) : Outcome Value := do
  match ← readBlocks p.dataBlocks with
  | [] => return .null
  -- one block is the data itself, not a list of one
  | [v] => return v
  | vs => return .arr vs

end Page

end Clipbook
