import Clipbook.Markdown
import Clipbook.Markup.Printer
import Clipbook.Url

/-!
# Clipbook — markup of a page as Markdown

Scripts and styles are dropped from a fragment, and its links are resolved against the address of
the page.  Then it is written as markup again, and an engine makes Markdown of that.

What engines make of what they are given is theirs, and so are their faults.  The library has an
engine for Markdown of its own, and none that looks for articles.
-/

namespace Clipbook

/-- What is asked of others. -/
structure Engines where
  /-- What the reader of fragments makes of elements that say of themselves that they are closed. -/
  closing : Markup.Closing
  /-- The article in a page; none where the page is not one in which to look for an article. -/
  article : Text → Except Fault (Option Text)
  /-- Markup as Markdown. -/
  markdown : Text → Except Fault Text

/-- The engines of the library. -/
def Engines.own : Engines where
  closing := .atOnce
  article := fun _ => .ok none
  markdown := Markdown.convert

namespace Markdown

open Markup

/-! ## Scripts -/

mutual

/-- Nodes without scripts and styles. -/
def withoutScripts : List Node → List Node
  | [] => []
  | n :: ns =>
    match n.name? with
    | some name =>
      if name ∈ names "script style" then withoutScripts ns
      else scriptless n :: withoutScripts ns
    | none => scriptless n :: withoutScripts ns

/-- A node without the scripts and styles inside of it. -/
def scriptless : Node → Node
  | .text kind t => .text kind t
  | .element name as void cs => .element name as void (withoutScripts cs)

end

/-! ## Links -/

/-- An attribute that holds an address, resolved. -/
def resolveAttribute (base key : Text) (as : Table AttributeValue) :
    Except Fault (Table AttributeValue) :=
  match as.get? key with
  | none => .ok as
  -- the attribute keeps its place
  | some v => (Url.join base v.text).map fun t => as.put key (.single t)

mutual

/-- A node with an attribute resolved in all its elements. -/
def resolveNode (base key : Text) : Node → Except Fault Node
  | .text kind t => .ok (.text kind t)
  | .element name as void cs => do
    let as ← resolveAttribute base key as
    let cs ← resolveNodes base key cs
    return .element name as void cs

def resolveNodes (base key : Text) : List Node → Except Fault (List Node)
  | [] => .ok []
  | n :: ns => do
    let n ← resolveNode base key n
    return n :: (← resolveNodes base key ns)

end

/-- The Markdown of a fragment of markup on the page at an address. -/
def ofMarkup (e : Engines) (base t : Text) : Except Fault Text := do
  let ns := withoutScripts (← readFragmentBy e.closing t)
  -- all links first, then all sources: the first fault counts
  let ns ← resolveNodes base "href".toList ns
  let ns ← resolveNodes base "src".toList ns
  return Text.strip (limitLineEnds 0 (← e.markdown (print .escaped ns)))

end Markdown

end Clipbook
