import Clipbook.Markup.Token

/-!
# Clipbook — tokens of documents

A whole document is read in one pass.  Inside some elements everything up to their end tag is text,
with references in titles and text areas and without them elsewhere.
-/

namespace Clipbook.Markup.Document

/-! ## Characters -/

/-- Line ends are single characters, and the null character is replaced. -/
def normalize : Text → Text
  | '\r' :: '\n' :: t => '\n' :: normalize t
  | '\r' :: t => '\n' :: normalize t
  | c :: t => (if c.toNat = 0 then '\ufffd' else c) :: normalize t
  | [] => []

def isSpace (c : Char) : Bool :=
  c ∈ [' ', '\t', '\n', '\x0c', '\r']

def skipSpaces (t : Text) : Text :=
  t.dropWhile isSpace

def lower (t : Text) : Text :=
  t.map Char.toLower

/-! ## References -/

def codeChar (n : Nat) : Char :=
  match windowsCodes.lookup n with
  | some m => Char.ofNat m
  | none => if n = 0 then '\ufffd' else charOfCode n

/-- A semicolon that closes a reference counts as one of its characters. -/
def closing (t : Text) : Nat :=
  if t.head? = some ';' then 1 else 0

/-- What the text after an ampersand stands for, with the number of characters taken.  In an
attribute a name without a semicolon is no reference where a letter, digit or equals sign
follows. -/
def reference? (inAttribute : Bool) (t : Text) : Option (Text × Nat) :=
  match t with
  | '#' :: c :: rest =>
    if c = 'x' ∨ c = 'X' then
      match rest.takeWhile isHexDigit with
      | [] => none
      | digits =>
        some ([codeChar (hexNumber digits)],
          digits.length + 2 + closing (rest.drop digits.length))
    else
      match (c :: rest).takeWhile Char.isDigit with
      | [] => none
      | digits =>
        some ([codeChar (Number.ofDigits (digits.map fun d => d.toNat - '0'.toNat))],
          digits.length + 1 + closing ((c :: rest).drop digits.length))
  | _ =>
    let name := t.takeWhile Char.isAlphanum
    let rest := t.drop name.length
    match if closing rest = 1 then namedText? name else none with
    | some image => some (image, name.length + 1)
    | none =>
      match loosePart name name.length with
      | none => none
      | some (image, unread) =>
        let next := (unread ++ rest).head?
        if inAttribute && next.any fun c => c = '=' || c.isAlphanum then none
        else some (image, name.length - unread.length)

/-- A text with its references replaced; the first `skip` characters are already read. -/
def resolveFrom (inAttribute : Bool) (skip : Nat) : Text → Text
  | [] => []
  | c :: t =>
    match skip with
    | n + 1 => resolveFrom inAttribute n t
    | 0 =>
      if c = '&' then
        match reference? inAttribute t with
        | some (image, length) => image ++ resolveFrom inAttribute length t
        | none => '&' :: resolveFrom inAttribute 0 t
      else c :: resolveFrom inAttribute 0 t

def resolve (inAttribute : Bool) (t : Text) : Text :=
  resolveFrom inAttribute 0 t

/-! ## Tags -/

def isNameChar (c : Char) : Bool :=
  !isSpace c && c ≠ '/' && c ≠ '>'

/-- A value after the equals sign, and the rest; a quote that does not close leaves none. -/
def value? (t : Text) : Option (Text × Text) :=
  match skipSpaces t with
  | '"' :: rest => Text.cut? '"' rest
  | '\'' :: rest => Text.cut? '\'' rest
  | rest =>
    let bare (c : Char) : Bool := !isSpace c && c ≠ '>'
    some (rest.takeWhile bare, rest.dropWhile bare)

/-- The attributes of a tag, whether it closes itself, and what comes after it.  A tag that does
not end is none. -/
def attributes? : (fuel : Nat) → Text → Option (List (Text × Option Text) × Bool × Text)
  | 0, _ => none
  | fuel + 1, t =>
    match skipSpaces t with
    | [] => none
    | '/' :: '>' :: rest => some ([], true, rest)
    | '/' :: rest => attributes? fuel rest
    | '>' :: rest => some ([], false, rest)
    | c :: rest =>
      let more (d : Char) : Bool := isNameChar d && d ≠ '='
      let name := lower (c :: rest.takeWhile more)
      let after := rest.dropWhile more
      match skipSpaces after with
      | '=' :: t =>
        match value? t with
        | none => none
        | some (value, rest) =>
          (attributes? fuel rest).map fun r => ((name, some (resolve true value)) :: r.1, r.2)
      | _ => (attributes? fuel after).map fun r => ((name, none) :: r.1, r.2)

/-- Of two attributes with one name the first counts. -/
def distinct (as : List (Text × Option Text)) : List (Text × Option Text) :=
  as.foldr (fun a rest => a :: rest.filter (·.1 ≠ a.1)) []

/-! ## Raw text -/

/-- Elements whose content is text with references. -/
def isTextElement (name : Text) : Bool :=
  name ∈ ["title".toList, "textarea".toList]

/-- Elements whose content is text without references. -/
def isRawElement (name : Text) : Bool :=
  name ∈ ["style".toList, "xmp".toList, "iframe".toList, "noembed".toList, "noframes".toList]

def isScript (name : Text) : Bool :=
  name = "script".toList

/-- Whether a text starts with a tag of the given opening mark and name. -/
def startsTag (mark name t : Text) : Bool :=
  match Text.after? mark t with
  | none => false
  | some rest =>
    lower (rest.take name.length) = name
      && (rest.drop name.length).head?.any fun c => isSpace c || c = '/' || c = '>'

/-- The text before the end tag of an element, and the rest from that tag on. -/
def untilEnd (name : Text) : Text → Text × Text
  | [] => ([], [])
  | c :: t =>
    if startsTag ['<', '/'] name (c :: t) then ([], c :: t)
    else let r := untilEnd name t; (c :: r.1, r.2)

/-- What a script may be hiding its text behind: a comment, and another script inside of it. -/
inductive Hiding where
  | nothing
  | comment
  | script
  deriving DecidableEq, Repr

/-- The text of a script.  Its end tag does not count where a comment hides another script. -/
def untilScriptEnd (h : Hiding) : Text → Text × Text
  | [] => ([], [])
  | c :: t =>
    let here := c :: t
    let name := "script".toList
    if h ≠ .script && startsTag ['<', '/'] name here then ([], here)
    else
      let h :=
        match h with
        | .nothing =>
          if Text.startsWith "<!--".toList here && !Text.startsWith "<!-->".toList here
            && !Text.startsWith "<!--->".toList here then .comment else .nothing
        | .comment =>
          if Text.startsWith "-->".toList here then .nothing
          else if startsTag ['<'] name here then .script else .comment
        | .script =>
          if Text.startsWith "-->".toList here then .nothing
          else if startsTag ['<', '/'] name here then .comment else .script
      let r := untilScriptEnd h t
      (c :: r.1, r.2)

/-- The text of an element that holds text only, and the rest. -/
def content? (name t : Text) : Option (Text × Text) :=
  if isTextElement name then
    let r := untilEnd name t
    some (resolve false r.1, r.2)
  else if isRawElement name then some (untilEnd name t)
  else if isScript name then some (untilScriptEnd .nothing t)
  else if name = "plaintext".toList then some (t, [])
  else none

/-! ## Tokens -/

/-- A comment after its opening mark, and the rest. -/
def commentRest : Text → Text × Text
  | [] => ([], [])
  | '-' :: '-' :: '>' :: t => ([], t)
  | '-' :: '-' :: '!' :: '>' :: t => ([], t)
  | c :: t => let r := commentRest t; (c :: r.1, r.2)

def comment (t : Text) : Text × Text :=
  match t with
  | '>' :: rest => ([], rest)
  | '-' :: '>' :: rest => ([], rest)
  | _ => commentRest t

/-- What stands before and after the next `>`. -/
def untilClose (t : Text) : Text × Text :=
  (Text.cut? '>' t).getD (t, [])

/-- Whether a construct starts after a `<`. -/
def opens : Text → Bool
  | '!' :: _ => true
  | '?' :: _ => true
  | '/' :: _ :: _ => true
  | c :: _ => c.isAlpha
  | [] => false

/-- The text up to the next construct, and the rest. -/
def untilOpen : Text → Text × Text
  | [] => ([], [])
  | c :: t =>
    if c = '<' && opens t then ([], c :: t) else let r := untilOpen t; (c :: r.1, r.2)

/-- The tokens of a construct after its `<`, and the rest. -/
def construct (t : Text) : List Token × Text :=
  match t with
  | '!' :: '-' :: '-' :: rest => let r := comment rest; ([.comment r.1], r.2)
  | '!' :: rest =>
    let r := untilClose rest
    if lower (rest.take 7) = "doctype".toList then
      ([.doctype (skipSpaces (r.1.drop 7))], r.2)
    else ([.comment r.1], r.2)
  | '/' :: '>' :: rest => ([], rest)
  | '/' :: c :: rest =>
    if c.isAlpha then
      let name := lower ((c :: rest).takeWhile isNameChar)
      match attributes? (rest.length + 1) ((c :: rest).dropWhile isNameChar) with
      | some (_, _, rest) => ([.stop name], rest)
      | none => ([], [])
    else let r := untilClose (c :: rest); ([.comment r.1], r.2)
  | c :: _ =>
    if c.isAlpha then
      let name := lower (t.takeWhile isNameChar)
      match attributes? (t.length + 1) (t.dropWhile isNameChar) with
      | some (as, closed, rest) =>
        let tag := Token.start name (distinct as) closed
        match if closed then none else content? name rest with
        | some (text, rest) => (if text = [] then [tag] else [tag, .data text], rest)
        | none => ([tag], rest)
      | none => ([], [])
    else let r := untilClose t; ([.comment r.1], r.2)
  | [] => ([], [])

/-- The tokens of a text; every construct takes at least one character. -/
def tokensFrom : (fuel : Nat) → Text → List Token
  | 0, _ => []
  | _ + 1, [] => []
  | fuel + 1, t =>
    match untilOpen t with
    | ([], '<' :: rest) => let r := construct rest; r.1 ++ tokensFrom fuel r.2
    | (text, rest) => .data (resolve false text) :: tokensFrom fuel rest

def tokens (t : Text) : List Token :=
  let t := normalize (match t with | '\ufeff' :: rest => rest | _ => t)
  tokensFrom (t.length + 1) t

end Clipbook.Markup.Document
