import Clipbook.Cache
import Clipbook.Clipper
import Clipbook.Clipping
import Clipbook.Fault
import Clipbook.FileName
import Clipbook.FilePath
import Clipbook.Files
import Clipbook.Filter
import Clipbook.Filter.Duration
import Clipbook.Filter.Layout
import Clipbook.Filter.Markup
import Clipbook.Filter.Replace
import Clipbook.Filter.Split
import Clipbook.Filter.Tree
import Clipbook.Highlight
import Clipbook.Markdown
import Clipbook.Markdown.Links
import Clipbook.Markdown.Spacing
import Clipbook.Markup.Document
import Clipbook.Markup.Document.Token
import Clipbook.Markup.Entity
import Clipbook.Markup.Entity.Table
import Clipbook.Markup.Fragment
import Clipbook.Markup.Node
import Clipbook.Markup.Printer
import Clipbook.Markup.Selector
import Clipbook.Markup.Selector.Matching
import Clipbook.Markup.Selector.Reader
import Clipbook.Markup.Token
import Clipbook.Note
import Clipbook.Note.Filling
import Clipbook.Note.Template
import Clipbook.Number.Binary
import Clipbook.Number.Decimal
import Clipbook.Number.Integer
import Clipbook.Outcome
import Clipbook.Page
import Clipbook.Page.Field
import Clipbook.Pattern.Fold
import Clipbook.Pattern.Matcher
import Clipbook.Pattern.Reader
import Clipbook.Pattern.Search
import Clipbook.Pattern.Syntax
import Clipbook.Pattern.Template
import Clipbook.Scan
import Clipbook.Scan.Chain
import Clipbook.Scan.Literal
import Clipbook.Scan.Split
import Clipbook.Schema.Flattening
import Clipbook.Schema.Search
import Clipbook.Settings
import Clipbook.Store
import Clipbook.Table
import Clipbook.Template.Expression
import Clipbook.Template.Loose
import Clipbook.Template.Path
import Clipbook.Template.Render
import Clipbook.Text.Basic
import Clipbook.Text.Blank
import Clipbook.Text.Case
import Clipbook.Text.Digit
import Clipbook.Text.Printable
import Clipbook.Text.Quoted
import Clipbook.Text.Word
import Clipbook.Time.Calendar
import Clipbook.Time.Instant
import Clipbook.Time.Moment
import Clipbook.Url
import Clipbook.Url.Host
import Clipbook.Value
import Clipbook.Value.Frozen
import Clipbook.Value.Key
import Clipbook.Value.Parts
import Clipbook.Value.Printer
import Clipbook.Value.Reader
import Clipbook.Value.Sameness
import Clipbook.Yaml
import Clipbook.Yaml.Meaning
import Clipbook.Yaml.Scalar
import Clipbook.Proofs.Note.Filling
import Clipbook.Proofs.Scan.Run
import Clipbook.Proofs.Scan.Split
import Clipbook.Proofs.Scan.Quoted
import Clipbook.Proofs.Cache
import Clipbook.Proofs.Chain
import Clipbook.Proofs.Template.Expression
import Clipbook.Proofs.Filter.Replace
import Clipbook.Proofs.Schema.Search
import Clipbook.Proofs.Schema.Missing
import Clipbook.Proofs.Value.Frozen
import Clipbook.Proofs.Schema.Memo
import Clipbook.Proofs.Schema.Keys
import Clipbook.Proofs.Schema.Outline
import Clipbook.Proofs.Template.Path
import Clipbook.Proofs.Text.Pieces
import Clipbook.Proofs.Schema.Address
import Clipbook.Proofs.Schema.Scalars
import Clipbook.Proofs.Store.Tables
import Clipbook.Proofs.Store.Log
import Clipbook.Proofs.FileName
import Clipbook.Proofs.FilePath
import Clipbook.Proofs.Outcome
import Clipbook.Proofs.Settings
import Clipbook.Proofs.Files
import Clipbook.Proofs.Clipper.Clip
import Clipbook.Proofs.Clipper.Vault
import Clipbook.Proofs.Clipping
import Clipbook.Proofs.Clipper.Account
import Clipbook.Proofs.Markup.Entity
import Clipbook.Proofs.Template.Nested
import Clipbook.Proofs.Template.Render
import Clipbook.Proofs.Note.Made
import Clipbook.Proofs.Clipper.Templates
import Clipbook.Proofs.Clipper.Answer
import Clipbook.Proofs.Template.Pieces
import Clipbook.Proofs.Filter.Template
import Clipbook.Proofs.Url
import Clipbook.Proofs.Markup.Node
import Clipbook.Proofs.Markdown.Links
import Clipbook.Proofs.Markdown.Numbers
import Clipbook.Proofs.Markdown
import Clipbook.Proofs.Page
import Clipbook.Proofs.Clipping.Details
import Clipbook.Proofs.Value.Written
import Clipbook.Proofs.Markup.Tag
import Clipbook.Proofs.Markup.Round
import Clipbook.Proofs.Markup.Tree
import Clipbook.Proofs.Filter.Tree
import Clipbook.Proofs.Value.Numeral
import Clipbook.Proofs.Scan.Escaped
import Clipbook.Proofs.Scan.Factors
import Clipbook.Proofs.Scan.Delimited
import Clipbook.Proofs.Scan.Pairs
import Clipbook.Proofs.Filter.Unquoted
import Clipbook.Proofs.Pattern.Matcher
import Clipbook.Proofs.Pattern.Matches
import Clipbook.Proofs.Pattern.Names
import Clipbook.Proofs.Filter.Pattern
import Clipbook.Proofs.Template.Spans
import Clipbook.Proofs.FileName.Safe
import Clipbook.Proofs.Url.Quote
import Clipbook.Proofs.Filter.Split
import Clipbook.Proofs.Filter.Layout
import Clipbook.Proofs.Template.Loose
import Clipbook.Proofs.Template.Steps
import Clipbook.Proofs.Number.Whole
import Clipbook.Proofs.Filter.Duration
import Clipbook.Proofs.Template.Plain
import Clipbook.Proofs.Note.Standard
import Clipbook.Proofs.Note.Authors
import Clipbook.Proofs.Clipping.Precedence
import Clipbook.Proofs.Note.Highlights
import Clipbook.Proofs.Settings.Vaults
import Clipbook.Proofs.Store.Atomicity
import Clipbook.Proofs.Clipper.Reports
