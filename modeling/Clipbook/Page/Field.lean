import Clipbook.Page
import Clipbook.Schema.Search

/-!
# Clipbook — fields of pages

A field has several sources, and the first one that says something is taken.
-/

namespace Clipbook

inductive Source where
  /-- A meta tag with a value for a key. -/
  | tag (key value : Text)
  | property (name : Text)
  | time
  | title
  deriving DecidableEq, Repr

namespace Source

def text (p : Page) (data : Value) : Source → Outcome Text
  | tag key value => .ok (p.metaContent key value)
  | property name => Schema.lookup data name []
  | time => .ok p.time
  | title => .ok p.title

/-- The first of some sources that gives more than blanks. -/
def resolve (p : Page) (data : Value) : List Source → Outcome Text
  | [] => .ok []
  | s :: sources => do
    -- a source that gives blanks is passed over like one that gives nothing
    match Text.strip (← s.text p data) with
    | [] => resolve p data sources
    | t => return t

end Source

inductive Field where
  | title
  | author
  | description
  | image
  | published
  | site
  deriving DecidableEq, Repr

namespace Field

def named (name : String) : Source := .tag "name".toList name.toList

def propertied (name : String) : Source := .tag "property".toList name.toList

def schema (name : String) : Source := .property name.toList

def sources : Field → List Source
  | title =>
    [propertied "og:title", named "twitter:title", schema "headline", named "title",
     named "sailthru.title", .title]
  | author =>
    [named "sailthru.author", schema "author.name", propertied "author", named "byl",
     named "author", named "copyright", schema "copyrightHolder.name", propertied "og:site_name",
     schema "publisher.name", schema "sourceOrganization.name", schema "isPartOf.name",
     named "twitter:creator", named "application-name"]
  | description =>
    [named "description", propertied "description", propertied "og:description",
     schema "description", named "twitter:description", named "sailthru.description"]
  | image =>
    [propertied "og:image", named "twitter:image", schema "image.url",
     named "sailthru.image.full"]
  | published =>
    [schema "datePublished", propertied "article:published_time", .time, named "sailthru.date"]
  | site =>
    [schema "publisher.name", propertied "og:site_name", schema "sourceOrganization.name",
     named "copyright", schema "copyrightHolder.name", schema "isPartOf.name",
     named "application-name"]

/-- What a page and its data say of a field. -/
def resolve (f : Field) (p : Page) (data : Value) : Outcome Text :=
  Source.resolve p data f.sources

end Field

end Clipbook
