import Clipbook.Markup.Entity
import Clipbook.Text.Blank
import Clipbook.Text.Case

/-!
# Clipbook — markup tokens

A fragment of markup is a sequence of tokens.  Reading never refuses a tag: what is no complete
construct is text.  It goes in two rounds, the first of which stops at what might still be
completed and the second takes what is left as it is.
-/

namespace Clipbook.Markup

inductive Token where
  | start (name : Text) (attributes : List (Text × Option Text)) (closed : Bool)
  | stop (name : Text)
  | data (t : Text)
  | code (digits : Text)
  | named (name : Text)
  | comment (t : Text)
  | doctype (t : Text)
  | marked (t : Text)
  | instruction (t : Text)
  deriving DecidableEq, Repr

namespace Token

/-! ## Tag syntax -/

def isLetter (c : Char) : Bool := c.isAlpha

def isTagNameChar (c : Char) : Bool :=
  !(c ∈ ['\t', '\n', '\r', '\x0c', ' ', '/', '>', '\x00'])

/-- Blanks and slashes, but not the slash of `/>`. -/
def skipGap : Text → Text
  | [] => []
  | '/' :: '>' :: t => '/' :: '>' :: t
  | c :: t => if c = '/' || Text.isBlank c then skipGap t else c :: t

def isGap (c : Char) : Bool :=
  c = '/' || Text.isBlank c

def isAttributeStart (c : Char) : Bool :=
  !isGap c && c ≠ '>'

def isAttributeChar (c : Char) : Bool :=
  isAttributeStart c && c ≠ '='

def isQuote (c : Char) : Bool :=
  c = '"' || c = '\''

def isBareChar (c : Char) : Bool :=
  c ≠ '>' && !Text.isBlank c

/-- A value in quotes: what they enclose, and the rest. -/
def quotedValue? : Text → Option (Text × Text)
  | [] => none
  | q :: t => if isQuote q then Text.cut? q t else none

/-- The value after equality signs.  Where a quote does not close, the signs and blanks before it
are taken less greedily: an empty value before the last blank, or one that starts with the last
sign. -/
def valueAfter? (signs : Text) (t : Text) : Option (Text × Text) :=
  let blanks := t.takeWhile Text.isBlank
  let rest := t.dropWhile Text.isBlank
  match rest with
  | [] => some ([], [])
  | q :: _ =>
    if isQuote q then
      -- a quote that does not close is no quote
      match quotedValue? rest with
      | some r => some r
      | none =>
        match blanks.getLast?, signs with
        | some b, _ => some ([], b :: rest)
        -- no blank to give back, but an equality sign
        | none, _ :: sign :: _ =>
          some ((sign :: rest).takeWhile isBareChar, (sign :: rest).dropWhile isBareChar)
        | none, _ => none
    else some (rest.takeWhile isBareChar, rest.dropWhile isBareChar)

/-- An equality sign and a value, if they come next. -/
def value? (t : Text) : Option (Text × Text) :=
  let rest := t.dropWhile Text.isBlank
  match rest.takeWhile (· = '=') with
  | [] => none
  | signs => valueAfter? signs (rest.dropWhile (· = '='))

/-- One attribute: its name, its value if it has one, and the rest. -/
def attribute? : Text → Option (Text × Option Text × Text)
  | [] => none
  | c :: t =>
    if isAttributeStart c then
      let name := c :: t.takeWhile isAttributeChar
      let rest := t.dropWhile isAttributeChar
      match value? rest with
      | some (v, rest') => some (name, some v, rest')
      | none => some (name, none, rest)
    else none

/-- An attribute starts after a quote, a blank or a slash. -/
def mayPrecede (previous : Char) : Bool :=
  isQuote previous || isGap previous

/-- The attributes of a tag up to what is none, given the character before them. -/
def attributes : (fuel : Nat) → (previous : Char) → Text → List (Text × Option Text) × Text
  | 0, _, t => ([], t)
  | fuel + 1, previous, t =>
    if mayPrecede previous then
      match attribute? t with
      | none => ([], t)
      | some (name, v, rest) =>
        let rest' := skipGap rest
        let taken := t.take (t.length - rest'.length)
        let r := attributes fuel (taken.getLast?.getD previous) rest'
        ((name, v) :: r.1, r.2)
    else ([], t)

/-! ## Start tags -/

/-- The end of a start tag: where it is complete, where it is broken off by a character that
belongs to no tag, or nowhere. -/
inductive TagEnd where
  | complete (rest : Text)
  | broken (rest : Text)
  | missing

/-- What follows the attributes of a tag decides how it ends. -/
def tagEnd (t : Text) : TagEnd :=
  match t.dropWhile Text.isBlank with
  | '>' :: rest => .complete rest
  | '/' :: '>' :: rest => .complete rest
  | [] => .missing
  | c :: rest => if isLetter c || c = '=' || c = '/' then .missing else .broken (c :: rest)

/-- The place a start tag is read up to, from after its name and the name's last character. -/
def findTagEnd (last : Char) (t : Text) : TagEnd :=
  let gap := t.takeWhile isGap
  let rest := t.dropWhile isGap
  tagEnd (attributes (rest.length + 1) (gap.getLast?.getD last) rest).2

/-- Values are unescaped, and a missing one stays missing. -/
def readValues : List (Text × Option Text) → Except Fault (List (Text × Option Text))
  | [] => .ok []
  | (name, none) :: as => (readValues as).map ((Text.lower name, none) :: ·)
  | (name, some v) :: as =>
    match unescape v, readValues as with
    | .ok v, .ok as => .ok ((Text.lower name, some v) :: as)
    | .error e, _ => .error e
    | _, .error e => .error e

/-- The token of a start tag, which begins after the `<` and ends before `rest`; a tag that does
not end as one is text. -/
def startToken (t rest : Text) : Except Fault Token :=
  let whole := t.take (t.length - rest.length)
  let name := t.takeWhile isTagNameChar
  let gap := t.dropWhile isTagNameChar
  let body := skipGap gap
  let taken := t.take (t.length - body.length)
  let r := attributes (body.length + 1) (taken.getLast?.getD '<') body
  let ending := Text.strip (r.2.take (r.2.length - rest.length))
  if ending = ['>'] ∨ ending = ['/', '>'] then
    (readValues r.1).map fun as => .start (Text.lower name) as (ending ≠ ['>'])
  else .ok (.data ('<' :: whole))

/-! ## One step -/

/-- What a step reads: a token and the rest, nothing but the rest, or a construct that does not
end. -/
inductive Piece where
  | token (k : Token) (rest : Text)
  | nothing (rest : Text)
  | unfinished

/-- A start tag after its `<`. -/
def startTag (t : Text) : Except Fault Piece :=
  let name := t.takeWhile isTagNameChar
  match findTagEnd (name.getLast?.getD '<') (t.dropWhile isTagNameChar) with
  | .missing => .ok .unfinished
  | .complete rest | .broken rest => (startToken t rest).map (.token · rest)

def isEndNameChar (c : Char) : Bool :=
  c.isAlphanum || c = '-' || c = '.' || c = ':' || c = '_'

/-- An end tag after its `</`. -/
def endTag (t : Text) : Piece :=
  match Text.cut? '>' t with
  | none => .unfinished
  | some (inside, rest) =>
    let body := inside.dropWhile Text.isBlank
    let name := body.takeWhile isEndNameChar
    if body.head?.any isLetter ∧ Text.blank (body.dropWhile isEndNameChar) then
      .token (.stop (Text.lower name)) rest
    else if t.head?.any isLetter then
      .token (.stop (Text.lower (inside.takeWhile isTagNameChar))) rest
    -- an end tag without a name is nothing, or a remark
    else if inside = [] then .nothing rest
    else .token (.comment inside) rest

/-- The first two of a closing character separated from `>` by blanks only: what stands before,
and the rest. -/
def closing? (marks : Text) : Text → Option (Text × Text)
  | [] => none
  | c :: t =>
    let here :=
      (Text.after? marks (c :: t)).bind fun r =>
        match r.dropWhile Text.isBlank with
        | '>' :: rest => some rest
        | _ => none
    match here with
    | some rest => some ([], rest)
    | none => (closing? marks t).map fun r => (c :: r.1, r.2)

/-- As `closing?`, for two brackets that blanks may separate. -/
def sectionEnd? : Text → Option (Text × Text)
  | [] => none
  | c :: t =>
    let here :=
      if c = ']' then
        match t.dropWhile Text.isBlank with
        | ']' :: r =>
          match r.dropWhile Text.isBlank with
          | '>' :: rest => some rest
          | _ => none
        | _ => none
      else none
    match here with
    | some rest => some ([], rest)
    | none => (sectionEnd? t).map fun r => (c :: r.1, r.2)

def isSectionNameChar (c : Char) : Bool :=
  c.isAlphanum || c = '-' || c = '_' || c = '.'

def rejection (reason : Text) : Fault :=
  Fault.rejectedMarkup <| ("The markup you provided was rejected by the parser. Trying a different "
    ++ "parser or a different encoding may help.\n\nOriginal error(s) from parser:\n  "
    ++ "AssertionError: ").toList ++ reason

/-- A marked section after its `<![`. -/
def markedSection (t : Text) : Except Fault Piece :=
  let piece (r : Option (Text × Text)) : Except Fault Piece :=
    match r with
    | some (inside, rest) => .ok (.token (.marked inside) rest)
    | none => .ok .unfinished
  match t with
  | [] => .ok .unfinished
  | c :: _ =>
    if isLetter c then
      let name := t.takeWhile isSectionNameChar
      let rest := (t.dropWhile isSectionNameChar).dropWhile Text.isBlank
      let lower := String.ofList (name.map Char.toLower)
      if rest = [] then .ok .unfinished
      else if lower ∈ ["temp", "cdata", "ignore", "include", "rcdata"] then piece (sectionEnd? t)
      -- sections of conditions close with one bracket
      else if lower ∈ ["if", "else", "endif"] then piece (closing? [']'] t)
      else
        .error (rejection ("unknown status keyword ".toList
          ++ Text.quoted (t.take (t.length - rest.length)) ++ " in marked section".toList))
    else
      .error (rejection ("expected name token at ".toList
        ++ Text.quoted (("<![".toList ++ t).take 20)))

/-- A declaration after its `<!`, which is no comment. -/
def declaration (t : Text) : Except Fault Piece :=
  match t with
  | '[' :: body => markedSection body
  | _ =>
    if (t.take 7).map Char.toLower = "doctype".toList then
      match Text.cut? '>' (t.drop 7) with
      | some (inside, rest) => .ok (.token (.doctype (t.take 7 ++ inside)) rest)
      | none => .ok .unfinished
    else
      match Text.cut? '>' t with
      | some (inside, rest) => .ok (.token (.comment inside) rest)
      | none => .ok .unfinished

/-- What follows a `<`; `none` where it is a character like others. -/
def tag? (t : Text) : Except Fault (Option Piece) :=
  match t with
  | '/' :: body => .ok (some (endTag body))
  -- before declarations, since a remark starts like one
  | '!' :: '-' :: '-' :: body =>
    match closing? ['-', '-'] body with
    | some (inside, rest) => .ok (some (.token (.comment inside) rest))
    | none => .ok (some .unfinished)
  | '?' :: body =>
    match Text.cut? '>' body with
    | some (inside, rest) => .ok (some (.token (.instruction inside) rest))
    | none => .ok (some .unfinished)
  | '!' :: body => (declaration body).map some
  | c :: _ => if isLetter c then (startTag t).map some else .ok none
  | [] => .ok none

/-- What is text of a construct that does not end, after its `<`: it goes to the next `>`, or up
to the next `<`, or is the `<` alone. -/
def unfinishedText (t : Text) : Text × Text :=
  match Text.cut? '>' t with
  | some (inside, rest) => ('<' :: inside ++ ['>'], rest)
  | none =>
    match Text.cut? '<' t with
    | some (inside, rest) => ('<' :: inside, '<' :: rest)
    | none => (['<'], t)

/-- A numeric reference after its `&#`: the digits, with what marks them as hexadecimal, and the
rest. -/
def codeReference? (t : Text) : Option (Text × Text) :=
  let ending (mark : Text) (digits rest : Text) : Option (Text × Text) :=
    match rest with
    | [] => none
    | c :: rest' =>
      -- no hexadecimal digit may follow, whatever the base is
      if digits = [] || isHexDigit c then none
      else some (mark ++ digits, if c = ';' then rest' else rest)
  match t with
  | x :: body =>
    if x = 'x' || x = 'X' then ending [x] (body.takeWhile isHexDigit) (body.dropWhile isHexDigit)
    else ending [] (t.takeWhile Char.isDigit) (t.dropWhile Char.isDigit)
  | [] => none

def isEntityChar (c : Char) : Bool :=
  c.isAlphanum || c = '-' || c = '.'

/-- A named reference after its `&`: the name and the rest.  At the end of the text the name
stops at its last point or hyphen. -/
def namedReference? (t : Text) : Option (Text × Text) :=
  match t with
  | [] => none
  | c :: _ =>
    if isLetter c then
      let name := t.takeWhile isEntityChar
      match t.dropWhile isEntityChar with
      | ';' :: rest => some (name, rest)
      | d :: rest => some (name, d :: rest)
      | [] =>
        let tail := name.reverse.takeWhile Char.isAlphanum
        match (name.reverse.dropWhile Char.isAlphanum) with
        -- the text may go on, so what could belong to a longer name is left
        | mark :: before => if before = [] then none else some (before.reverse, mark :: tail.reverse)
        | [] => none
    else none

/-! ## Rounds -/

/-- The tokens read, the rest, and the element whose raw text goes on. -/
structure Round where
  tokens : List Token
  rest : Text
  raw : Option Text

def Round.cons (k : Token) (r : Round) : Round :=
  { r with tokens := k :: r.tokens }

/-- The end tag of raw text: what stands before it, and the rest. -/
def rawEnd? (name : Text) : Text → Option (Text × Text)
  | [] => none
  | c :: t =>
    let here :=
      (Text.after? ['<', '/'] (c :: t)).bind fun r =>
        let body := r.dropWhile Text.isBlank
        if (body.take name.length).map Char.toLower = name then
          match (body.drop name.length).dropWhile Text.isBlank with
          | '>' :: rest => some rest
          | _ => none
        else none
    match here with
    | some rest => some ([], rest)
    | none => (rawEnd? name t).map fun r => (c :: r.1, r.2)

def isRaw (name : Text) : Bool :=
  name = "script".toList || name = "style".toList

/-- The element a token opens whose content is raw text. -/
def opensRaw? : Token → Option Text
  | .start name _ false => if isRaw name then some name else none
  | _ => none

/-- One round over a text; only the last one takes unfinished constructs as text. -/
def round (last : Bool) : (fuel : Nat) → (raw : Option Text) → Text → Except Fault Round
  | 0, raw, t => .ok ⟨[], t, raw⟩
  | _ + 1, raw, [] => .ok ⟨[], [], raw⟩
  | fuel + 1, some name, t =>
    match rawEnd? name t with
    -- raw text waits for its end tag, however many tags stand in it
    | none => .ok ⟨[], t, some name⟩
    | some (inside, rest) =>
      (round last fuel none rest).map fun r =>
        let r := r.cons (.stop name)
        if inside = [] then r else r.cons (.data inside)
  | fuel + 1, none, c :: t =>
    if c = '<' then
      match tag? t with
      | .error e => .error e
      | .ok none =>
        -- the mark may still open something that is to come
        if t = [] then .ok ⟨[], [c], none⟩
        else (round last fuel none t).map (·.cons (.data [c]))
      | .ok (some (.token k rest)) => (round last fuel (opensRaw? k) rest).map (·.cons k)
      | .ok (some (.nothing rest)) => round last fuel none rest
      | .ok (some .unfinished) =>
        if last then
          let r := unfinishedText t
          (round last fuel none r.2).map (·.cons (.data r.1))
        else .ok ⟨[], c :: t, none⟩
    else if c = '&' then
      match t with
      | '#' :: body =>
        match codeReference? body with
        | some (digits, rest) => (round last fuel none rest).map (·.cons (.code digits))
        | none =>
          if ';' ∈ body then .ok ⟨[.data ['&', '#']], body, none⟩ else .ok ⟨[], c :: t, none⟩
      | _ =>
        match namedReference? t with
        | some (name, rest) => (round last fuel none rest).map (·.cons (.named name))
        | none =>
          if t.head?.any isLetter then .ok ⟨[], if last && t.length = 1 then t else c :: t, none⟩
          else if t = [] then .ok ⟨[], [c], none⟩
          else (round last fuel none t).map (·.cons (.data [c]))
    else
      let plain (d : Char) : Bool := d ≠ '<' && d ≠ '&'
      (round last fuel none (t.dropWhile plain)).map
        (·.cons (.data (c :: t.takeWhile plain)))

/-- The tokens of a fragment.  What the second round leaves is text, but not inside raw text. -/
def ofText (t : Text) : Except Fault (List Token) :=
  match round false (t.length + 1) none t with
  | .error e => .error e
  | .ok first =>
    match round true (first.rest.length + 1) first.raw first.rest with
    | .error e => .error e
    | .ok second =>
      let left :=
        if second.rest = [] ∨ second.raw.isSome then [] else [.data second.rest]
      .ok (first.tokens ++ second.tokens ++ left)

end Token

end Clipbook.Markup
