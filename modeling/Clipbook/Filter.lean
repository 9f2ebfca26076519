import Clipbook.Filter.Duration
import Clipbook.Filter.Layout
import Clipbook.Filter.Markup
import Clipbook.Filter.Tree
import Clipbook.Scan.Chain

/-!
# Clipbook — filters

A filter takes a value and its arguments, still in their parentheses, to a value; no arguments are
the empty text.  A chain hands the value on from filter to filter: a name that is no filter is left
out, and a filter that faults leaves the value as it was.
-/

namespace Clipbook

/-- Fills a template in for a value. -/
abbrev Renderer := Text → Value → Outcome Text

inductive Filter where
  | dur
  | indent
  | replace
  | replaceHtmlTag
  | split
  | splitItems
  | template
  | text
  | toHtml
  | toJson
  | wrap
  deriving DecidableEq, Repr

namespace Filter

def named : List (Text × Filter) :=
  [("dur".toList, dur), ("indent".toList, indent), ("replace".toList, replace),
   ("replace_html_tag".toList, replaceHtmlTag), ("split".toList, split),
   ("split_items".toList, splitItems), ("template".toList, template), ("text".toList, text),
   ("to_html".toList, toHtml), ("to_json".toList, toJson), ("wrap".toList, wrap)]

def ofName? (name : Text) : Option Filter :=
  named.lookup name

/-- The template in the arguments filled in for each item of a value. -/
def fill (render : Renderer) (param : Text) (v : Value) : Outcome Value :=
  match param, v with
  | [], .str t => .ok (.str t)
  | [], v => .ofExcept (v.json?.map .str)
  | _, v => do return .str (← render (separatorOf param) v)

def apply (render : Renderer) (f : Filter) (param : Text) (v : Value) : Outcome Value :=
  match f with
  | dur => duration v
  | indent => indented param v
  | replace => replaced param v
  | replaceHtmlTag => renameTags param v
  | split => splitText param v
  | splitItems => splitEach param v
  | template => fill render param v
  | text => shownText v
  | toHtml => toMarkup v
  | toJson => toTree v
  | wrap => regrouped param v

end Filter

namespace Call

/-- The value a call makes of a value. -/
def apply (render : Renderer) (call : Call) (v : Value) : Outcome Value :=
  match Filter.ofName? call.name with
  | none => do
    Outcome.warn (.unknownFilter call.name)
    return v
  | some f =>
    (f.apply render call.args v).recover fun _ => do
      Outcome.warn (.filterFailed call.name)
      return v

/-- The value that calls make of a value, one after the other. -/
def applyAll (render : Renderer) : List Call → Value → Outcome Value
  | [], v => .ok v
  | call :: calls, v => do
    let w ← call.apply render v
    applyAll render calls w

end Call

end Clipbook
