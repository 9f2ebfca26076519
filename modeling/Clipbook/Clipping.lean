import Clipbook.FileName
import Clipbook.Highlight
import Clipbook.Markdown.Links
import Clipbook.Page.Field
import Clipbook.Schema.Flattening
import Clipbook.Time.Moment

/-!
# Clipbook — clippings

A clipping is a page with what its reader marked in it.  It gives a name for a note and a table of
variables, the words in double braces that note templates speak of.

Two engines have a part in a clip.  One of them picks the article out of the page, unless it came
with the page; the other one makes Markdown of the body and of the highlights.
-/

namespace Clipbook

structure Clipping where
  html : Text
  url : Text
  selection : Text := []
  /-- Variables that came with the page. -/
  extracted : Table Text := []
  /-- The data of the page; null is for that in its data blocks. -/
  data : Value := .null
  /-- What the body is when there is nothing else. -/
  fullHtml : Text := []
  highlights : Value := .null
  /-- The article in the page, where someone has picked it out; else an engine is asked for it. -/
  article : Option Text := none

/-- What a note can be made of. -/
structure Clip where
  noteName : Text
  words : Table Text
  deriving DecidableEq, Repr

namespace Highlight

/-- The content as markup. -/
def markup (h : Highlight) : Except Fault Text :=
  match h.content with
  | .str t => .ok t
  | .arr _ => .error (.notSearchable .arr)
  | .obj _ => .error .unhashableSlice
  | v => .error (.noMarkup v.literal)

/-- The contents one after the other; `index` is the place of the first one. -/
def joined (index : Nat) : List Highlight → Except Fault Text
  | [] => .ok []
  | h :: hs =>
    match h.content with
    | .str t => (joined (index + 1) hs).map (t ++ ·)
    | v => .error (.notText index v.kind)

/-- A highlight as it is listed: its text, its time and its notes, if there are any. -/
def listed (e : Engines) (url : Text) (h : Highlight) : Except Fault Value := do
  let text ← Markdown.ofMarkup e url (← h.markup)
  let time ← timestamp h.id
  let notes := if h.notes.isEmpty then [] else [("notes".toList, Value.arr h.notes)]
  return .obj ([("text".toList, .str text), ("timestamp".toList, .str time)] ++ notes)

end Highlight

namespace Clipping

/-- The article in the page.  Where an engine is asked for it and finds none, there are warnings. -/
def articleBy (e : Engines) (c : Clipping) : Outcome (Option Text) :=
  match c.article with
  | some t => .ok (some t)
  | none => do
    match ← e.article c.html with
    | some t => return some t
    | none =>
      Outcome.warn .readerFailed
      Outcome.warn .noArticle
      return none

/-- The body of the note: highlights if they are wanted, else the selection, the article, the body
of the page. -/
def body (c : Clipping) (useHighlights : Bool) (p : Page) (article : Option Text)
    (hs : List Highlight) : Except Fault Text :=
  -- highlights are wanted only where there are some
  if useHighlights && !hs.isEmpty then Highlight.joined 0 hs
  else if c.selection ≠ [] then .ok c.selection
  else
    match article with
    -- an article without text is none
    | some (ch :: t) => .ok (ch :: t)
    | _ => .ok (if p.bodyMarkup = [] then c.fullHtml else p.bodyMarkup)

/-- The variables of the meta tags, where they have a content. -/
def tagVariables (metas : List Page.Meta) : List (Text × Text) :=
  metas.flatMap fun m =>
    match m.content with
    -- a tag without content gives no variable
    | none | some [] => []
    | some content =>
      let entry (start : String) : Option Text → List (Text × Text)
        | none | some [] => []
        | some key => [(Text.braced (start.toList ++ key), content)]
      entry "meta:name:" m.name ++ entry "meta:property:" m.property

/-- The highlights a value lists. -/
def highlightsOf (now : Int) (v : Value) : Except Fault (List Highlight) := do
  (← v.elementsIfAny).mapM (Highlight.ofValue now)

/-- The JSON text of a list of highlights. -/
def highlightsText (e : Engines) (url : Text) (hs : List Highlight) : Except Fault Text := do
  (Value.arr (← hs.mapM (Highlight.listed e url))).json?

/-- The variables every page has. -/
structure Basics where
  title : Text
  author : Text
  description : Text
  image : Text
  published : Text
  site : Text
  domain : Text
  noteName : Text
  url : Text
  content : Text
  contentHtml : Text
  fullHtml : Text
  date : Text
  highlights : Text

def Basics.table (b : Basics) : Table Text :=
  let entries : List (String × Text) :=
    [("author", b.author), ("content", b.content), ("contentHtml", b.contentHtml),
     ("date", b.date), ("time", b.date), ("description", b.description), ("domain", b.domain),
     ("fullHtml", b.fullHtml), ("image", b.image), ("noteName", b.noteName),
     ("published", b.published), ("site", b.site), ("title", b.title), ("url", b.url),
     ("highlights", b.highlights)]
  entries.map fun e => (Text.braced e.1.toList, e.2)

/-- The data of a page, unless other data is given. -/
def dataOf (c : Clipping) (p : Page) : Outcome Value :=
  match c.data with
  | .null => p.data
  | v => .ok v

/-- The variables every page has, for a clip made at the instant `now`, which a clock shows as
`moment`. -/
def basics (e : Engines) (c : Clipping) (useHighlights : Bool) (now : Int) (moment : Moment)
    (p : Page) (data : Value) : Outcome Basics := do
  let url := Url.withoutQuote c.url
  let title ← Field.title.resolve p data
  let author ← Field.author.resolve p data
  let description ← Field.description.resolve p data
  let domain ← Url.domain url
  let image ← Field.image.resolve p data
  let published ← Field.published.resolve p data
  let site ← Field.site.resolve p data
  let article ← c.articleBy e
  let hs ← highlightsOf now c.highlights
  let body ← c.body useHighlights p article hs
  let content ← Markdown.ofMarkup e url body
  let highlights ← highlightsText e url hs
  return { title, author, description, image, published, site, domain
           noteName := FileName.sanitize title
           url := Text.strip url
           content
           contentHtml := Text.strip body
           fullHtml := Text.strip c.fullHtml
           date := moment.text
           highlights }

/-- `clip`, with faults told by their causes. -/
def clipOrCause (e : Engines) (c : Clipping) (useHighlights : Bool) (now : Int)
    (moment : Moment) : Outcome Clip := do
  let p := Page.read c.html
  let data ← c.dataOf p
  let basics ← c.basics e useHighlights now moment p data
  -- later entries win: what every page has, what came with it, what its tags say, its data
  let extracted := c.extracted.map fun e => (Text.braced e.1, e.2)
  let table := Table.extend basics.table (extracted ++ tagVariables p.metas)
  let words ← if data.isNothing then Outcome.ok table else Schema.flatten table [] data
  return ⟨basics.noteName, words⟩

/-- The clip of a page.  What the page says of itself wins over what came with it, and both over
what every page has. -/
def clip (e : Engines) (c : Clipping) (useHighlights : Bool) (now : Int) (moment : Moment) :
    Outcome Clip :=
  (c.clipOrCause e useHighlights now moment).recover fun f => .fail (.pageContent f.message)

end Clipping

end Clipbook
