import Clipbook.Markup.Entity
import Clipbook.Markup.Node

/-!
# Clipbook — writing markup

Nodes as markup, in one of two styles: with characters written by name, or with nothing but the
marks of markup escaped.  Attributes come in the order of their names.
-/

namespace Clipbook.Markup

/-- How markup is written. -/
structure Style where
  escape : Text → Text
  /-- Written before the `>` of an element without content. -/
  voidSlash : Text
  /-- Whether an empty attribute is written as its name alone. -/
  bareEmpty : Bool

/-- Characters by name, `<br>`, and `disabled` for an empty attribute. -/
def Style.named : Style := ⟨writeNames, [], true⟩

/-- Escaped marks, `<br/>`, and every value written. -/
def Style.escaped : Style := ⟨escapeMarkup, ['/'], false⟩

/-- A value in double quotes, or in single ones where it has double quotes only; where it has both
the double ones are escaped. -/
def quotedValue (t : Text) : Text :=
  if '"' ∈ t then
    if '\'' ∈ t then '"' :: Text.replaceAll ['"'] "&quot;".toList t ++ ['"']
    else '\'' :: t ++ ['\'']
  else '"' :: t ++ ['"']

/-- The character set a page declares is replaced by the one it is written in. -/
def encoding : Text := "utf-8".toList

def isCharsetChar (c : Char) : Bool := c ≠ ';'

/-- A content type with each of its character sets replaced; a declaration starts a line or
follows a semicolon or a blank. -/
def withEncoding (mayStart : Bool) (skip : Nat) : Text → Text
  | [] => []
  | c :: t =>
    match skip with
    | n + 1 => withEncoding false n t
    | 0 =>
      let mark := "charset=".toList
      match if mayStart then Text.after? mark (c :: t) else none with
      | some rest =>
        mark ++ encoding ++ withEncoding false (mark.length - 1 + (rest.takeWhile isCharsetChar).length) t
      | none => c :: withEncoding (c = ';' || Text.isBlank c) 0 t

/-- The text of an attribute as it is written. -/
def attributeText (element : Text) (attributes : Table AttributeValue) (key : Text)
    (v : AttributeValue) : Text :=
  if element = "meta".toList then
    let typed := ((attributes.get? "http-equiv".toList).map (·.text.map Char.toLower))
      = some "content-type".toList
    -- the set is named in an attribute of its own, or in the content type
    if attributes.holds "charset".toList then
      if key = "charset".toList then encoding else v.text
    else if key = "content".toList ∧ typed then withEncoding true 0 v.text
    else v.text
  else v.text

def printAttribute (s : Style) (element : Text) (attributes : Table AttributeValue)
    (a : Text × AttributeValue) : Text :=
  if s.bareEmpty ∧ a.2 = .single [] then ' ' :: a.1
  else
    ' ' :: a.1 ++ '=' :: quotedValue (s.escape (attributeText element attributes a.1 a.2))

def printAttributes (s : Style) (element : Text) (attributes : Table AttributeValue) : Text :=
  attributes.sorted.flatMap (printAttribute s element attributes)

/-- Texts with a notation of their own are written in it and as they are. -/
def printText (s : Style) (raw : Bool) (kind : TextKind) (t : Text) : Text :=
  match kind with
  | .marked => "<![CDATA[".toList ++ t ++ "]]>".toList
  | .comment => "<!--".toList ++ t ++ "-->".toList
  | .doctype => "<!DOCTYPE ".toList ++ t ++ ">\n".toList
  | .declaration => "<?".toList ++ t ++ "?>".toList
  | .instruction => "<?".toList ++ t ++ ['>']
  | _ => if raw then t else s.escape t

/-- The text of scripts and styles is not escaped. -/
def isRawElement (name : Text) : Bool :=
  name = "script".toList || name = "style".toList

mutual

def Node.print (s : Style) (raw : Bool) : Node → Text
  | .text kind t => printText s raw kind t
  | .element name attributes void cs =>
    let opening := '<' :: name ++ printAttributes s name attributes
    -- a void element that took something in has an end tag after all
    if void && cs.isEmpty then opening ++ s.voidSlash ++ ['>']
    else
      opening ++ '>' :: printNodes s (isRawElement name) cs ++ '<' :: '/' :: name ++ ['>']

def printNodes (s : Style) (raw : Bool) : List Node → Text
  | [] => []
  | n :: ns => n.print s raw ++ printNodes s raw ns

end

/-- Nodes as markup. -/
def print (s : Style) (ns : List Node) : Text :=
  printNodes s false ns

end Clipbook.Markup
