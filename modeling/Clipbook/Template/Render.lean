import Clipbook.Filter
import Clipbook.Markup.Entity
import Clipbook.Template.Expression
import Clipbook.Template.Loose
import Clipbook.Template.Path

/-!
# Clipbook — filling in templates

A template is filled in once for each item of a value.  The arguments of a filter may hold a
template again; since they are shorter than the template they stand in, its length bounds how far
that goes.
-/

namespace Clipbook

namespace Call

/-- The value that a chain of filters makes of a value. -/
def applyChain (render : Renderer) (chain : Text) (v : Value) : Outcome Value :=
  applyAll render (Call.chain chain) v

end Call

namespace Expression

/-- The word for what is missing counts as nothing. -/
def shown (t : Text) : Text :=
  if t = "undefined".toList then [] else t

/-- The text of an expression for an item. -/
def evaluate (render : Renderer) (item : Value) (e : Expression) : Outcome Text := do
  match ← item.at_ e.path with
  -- filters are for what is there
  | .null => return []
  | v =>
    let w ← Call.applyChain render (e.filters.getD []) v
    return shown (← w.text)

/-- A template from a place on, its expressions replaced by what `f` gives for them; the texts
put in are not read again. -/
def replaceFrom (f : Expression → Outcome Text) (template : Text) :
    (place : Nat) → List Expression → Outcome Text
  | place, [] => .ok (template.drop place)
  | place, e :: es => do
    let image ← f e
    return Text.slice place e.start template ++ image
      ++ (← replaceFrom f template e.stop es)

/-- A template with its expressions replaced by their texts for an item. -/
def substitute (render : Renderer) (template : Text) (item : Value) : Outcome Text :=
  replaceFrom (evaluate render item) template 0 (findAll template)

end Expression

namespace Template

/-- An item to take fields of: a text is read as a loose object, or becomes the field `str`. -/
def objectOf : Value → Value
  | .str t =>
    match Loose.read t with
    | [] => .obj [("str".toList, .str t)]
    | fields => .obj (fields.map fun f => (f.1, (f.2.map .str).getD .null))
  | v => v

/-- A text without its blank lines. -/
def dropBlankLines (t : Text) : Text :=
  Text.join ['\n'] ((Text.lines t).filter fun line => !Text.blank line)

/-- A template filled in for one item: `\n` breaks the line, and references of markup are
resolved. -/
def itemText (render : Renderer) (template : Text) (item : Value) : Outcome Text := do
  let t ← Expression.substitute render template (objectOf item)
  -- the texts put in are resolved with the template around them
  let t ← Markup.unescape (Text.replaceAll ['\\', 'n'] ['\n'] t)
  return Text.strip (dropBlankLines t)

/-- A template filled in for the items of a value, with blank lines between them; templates in
arguments are filled in by `render`. -/
def itemsText (render : Renderer) (template : Text) (context : Value) : Outcome Text := do
  let texts ← Outcome.mapList (itemText render template) (← context.items)
  return Text.strip (Text.join ['\n', '\n'] texts)

/-- `itemsText` with templates in templates down to a level. -/
def renderWithin : (levels : Nat) → Renderer
  | 0 => fun _ _ => .ok []
  | n + 1 => itemsText (renderWithin n)

/-- A template filled in for a value, with all templates inside of it. -/
def render : Renderer :=
  fun template context => renderWithin (template.length + 1) template context

/-- A template with its expressions replaced, and nothing else done to it. -/
def substitute (template : Text) (item : Value) : Outcome Text :=
  Expression.substitute render template item

/-- A template filled in for one item. -/
def renderItem (template : Text) (item : Value) : Outcome Text :=
  itemText render template item

end Template

/-- The value that a chain of filters makes of a value. -/
def applyFilters (chain : Text) (v : Value) : Outcome Value :=
  Call.applyChain Template.render chain v

end Clipbook
