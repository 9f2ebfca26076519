import Clipbook.Markup.Selector
import Clipbook.Text.Blank

/-!
# Clipbook — reading selectors

A selector list is read to the end of the text, or to the parenthesis that closes it.  A class of
elements that says something about a running page is read and matches nothing; a class that is not
known, an element part such as `::before` and anything left over make the whole list invalid.
-/

namespace Clipbook.Markup.SelectorReader

/-! ## Words -/

def isSpace (c : Char) : Bool :=
  c ∈ [' ', '\t', '\r', '\n', '\x0c']

/-- The text after a comment, if one comes next and ends. -/
def comment? (t : Text) : Option Text :=
  (Text.after? ['/', '*'] t).bind fun body => (Text.find? ['*', '/'] body).map (·.2)

/-- The text after spaces and comments. -/
def skipBlanks : (fuel : Nat) → Text → Text
  | 0, t => t
  | fuel + 1, t =>
    match t with
    | [] => []
    | c :: rest =>
      if isSpace c then skipBlanks fuel rest
      else
        match comment? t with
        | some rest => skipBlanks fuel rest
        | none => t

def skip (t : Text) : Text := skipBlanks t.length t

def isHex (c : Char) : Bool :=
  c.isDigit || ('a' ≤ c && c ≤ 'f') || ('A' ≤ c && c ≤ 'F')

def hexValue (digits : Text) : Nat :=
  digits.foldl (fun n c =>
    n * 16 + (if c.isDigit then c.toNat - '0'.toNat else c.toLower.toNat - 'a'.toNat + 10)) 0

/-- The character of an escape after its backslash, and the rest. -/
def escape? (t : Text) : Option (Char × Text) :=
  match t with
  | [] => some ('\ufffd', [])
  | c :: rest =>
    if isHex c then
      let digits := (t.take 6).takeWhile isHex
      let n := hexValue digits
      let rest := t.drop digits.length
      let rest :=
        match rest with
        | '\r' :: '\n' :: r => r
        | d :: r => if isSpace d then r else rest
        | [] => []
      some (if n = 0 ∨ 0x10ffff < n ∨ (0xd800 ≤ n ∧ n ≤ 0xdfff) then '\ufffd' else Char.ofNat n, rest)
    else if c = '\n' ∨ c = '\r' ∨ c = '\x0c' then none
    else some (c, rest)

def isNameStart (c : Char) : Bool :=
  c.isAlpha || c = '_' || 0xa0 ≤ c.toNat

def isNameChar (c : Char) : Bool :=
  isNameStart c || c.isDigit || c = '-'

/-- Name characters and escapes, of which the first may be restricted. -/
def nameRest : (fuel : Nat) → Text → Text × Text
  | 0, t => ([], t)
  | fuel + 1, t =>
    match t with
    | [] => ([], [])
    | c :: rest =>
      if isNameChar c then let r := nameRest fuel rest; (c :: r.1, r.2)
      else if c = '\\' then
        match escape? rest with
        | some (d, rest) => let r := nameRest fuel rest; (d :: r.1, r.2)
        | none => ([], t)
      else ([], t)

/-- The first character of a name, after a hyphen if there is one. -/
def nameFirst? (t : Text) : Option (Char × Text) :=
  match t with
  | [] => none
  | c :: rest =>
    if isNameStart c then some (c, rest)
    else if c = '\\' then escape? rest
    else none

/-- A name, with its escapes replaced, and the rest. -/
def name? (t : Text) : Option (Text × Text) :=
  let continued (start : Text) (rest : Text) : Text × Text :=
    let r := nameRest (rest.length + 1) rest
    (start ++ r.1, r.2)
  match t with
  | '-' :: '-' :: rest => some (continued ['-', '-'] rest)
  | '-' :: rest => (nameFirst? rest).map fun r => continued ['-', r.1] r.2
  | _ => (nameFirst? t).map fun r => continued [r.1] r.2

/-- The rest of a text in quotes, with its escapes replaced. -/
def quotedRest (quote : Char) : (fuel : Nat) → Text → Option (Text × Text)
  | 0, _ => none
  | fuel + 1, t =>
    match t with
    | [] => none
    | c :: rest =>
      if c = quote then some ([], rest)
      else if c = '\\' then
        match rest with
        | '\r' :: '\n' :: rest => quotedRest quote fuel rest
        | d :: rest' =>
          if d = '\n' ∨ d = '\r' ∨ d = '\x0c' then quotedRest quote fuel rest'
          else
            (escape? rest).bind fun e =>
              (quotedRest quote fuel e.2).map fun r => (e.1 :: r.1, r.2)
        | [] => none
      else if c = '\n' ∨ c = '\r' ∨ c = '\x0c' then none
      else (quotedRest quote fuel rest).map fun r => (c :: r.1, r.2)

/-- A value: a text in quotes or names. -/
def value? (t : Text) : Option (Text × Text) :=
  match t with
  | '"' :: rest => quotedRest '"' (rest.length + 1) rest
  | '\'' :: rest => quotedRest '\'' (rest.length + 1) rest
  | _ => name? t

def accept? (c : Char) : Text → Option Text
  | d :: rest => if d = c then some rest else none
  | [] => none

def lower (t : Text) : Text := t.map Char.toLower

/-! ## Attributes -/

def comparison? : Text → Option (Option Comparison × Text)
  | '=' :: t => some (some .equal, t)
  | '^' :: '=' :: t => some (some .starts, t)
  | '$' :: '=' :: t => some (some .ends, t)
  | '*' :: '=' :: t => some (some .includes, t)
  | '~' :: '=' :: t => some (some .word, t)
  | '|' :: '=' :: t => some (some .dashed, t)
  | '!' :: '=' :: t => some (none, t)
  | _ => none

/-- The name of an attribute, with its namespace. -/
def attributeName? (t : Text) : Option ((Text × Text) × Text) :=
  let plain := (name? t).map fun r => (([], r.1), r.2)
  let spaced (space rest : Text) :=
    ((accept? '|' rest).bind name?).map fun r => ((space, r.1), r.2)
  match t with
  | '*' :: rest => spaced ['*'] rest
  | '|' :: _ => spaced [] t
  | _ =>
    match name? t with
    | some (space, rest) => (spaced space rest).orElse fun _ => plain
    | none => none

/-- The mark after a value that says whether case counts. -/
def caseMark (t : Text) : Option Char × Text :=
  match skip t with
  | c :: rest =>
    if c.toLower = 'i' ∨ c.toLower = 's' then (some c.toLower, rest) else (none, c :: rest)
  | [] => (none, [])

/-- An attribute test after its opening bracket. -/
def attribute? (t : Text) : Option (Test × Text) :=
  match attributeName? (skip t) with
  | none => none
  | some ((space, name), rest) =>
    match skip rest with
    | ']' :: rest => some (.attribute space name none, rest)
    | rest =>
      match comparison? rest with
      | none => none
      | some (comparison, rest) =>
        match value? (skip rest) with
        | none => none
        | some (value, rest) =>
          let (mark, rest) := caseMark rest
          let ignoreCase := mark = some 'i' || (mark = none && lower name = "type".toList)
          match accept? ']' (skip rest) with
          | none => none
          | some rest =>
            match comparison with
            | some c => some (.attribute space name (some ⟨c, value, ignoreCase⟩), rest)
            | none =>
              some (.oneOf false [[.attribute space name (some ⟨.equal, value, ignoreCase⟩)]], rest)

/-! ## Classes of elements -/

def named (s : String) : List Text :=
  Text.splitOn ' ' s.toList

/-- Classes that no element of a page at rest is in. -/
def inactiveNames : List Text :=
  named (":active :autofill :buffering :current :focus :focus-visible :focus-within :fullscreen "
    ++ ":future :host :hover :local-link :modal :muted :past :paused :picture-in-picture :playing "
    ++ ":popover-open :seeking :stalled :target :target-within :user-invalid :user-valid :visited "
    ++ ":volume-locked")

def inactiveLists : List Text :=
  named ":current :host :host-context"

def firstPlace (sameName fromLast : Bool) : Test :=
  .place ⟨0, 1, false⟩ sameName fromLast none

def tagIs (s : String) : List Test :=
  [.tag none s.toList]

def hasAttribute (s : String) : Test :=
  .attribute [] s.toList none

def attributeIs (name value : String) : Test :=
  .attribute [] name.toList (some ⟨.equal, value.toList, name = "type"⟩)

/-- An input that is not hidden. -/
def shownInput : List Test :=
  [.tag none "input".toList, .oneOf false [[attributeIs "type" "hidden"]]]

def controls : List Selector :=
  [shownInput, tagIs "button", tagIs "select", tagIs "textarea", tagIs "fieldset"]

def disabled : List Selector :=
  [[.oneOf true (controls ++ [tagIs "optgroup", tagIs "option"]), hasAttribute "disabled"],
   [.tag none "option".toList,
    .related .child [.tag none "optgroup".toList, hasAttribute "disabled"]],
   [.oneOf true controls,
    .related .child [.tag none "fieldset".toList, hasAttribute "disabled"]],
   [.oneOf true controls,
    .related .descendant
      [.oneOf false [[.tag none "legend".toList, firstPlace true false]],
       .related .child [.tag none "fieldset".toList, hasAttribute "disabled"]]]]

def filledIn : List Selector :=
  [tagIs "input", tagIs "select", tagIs "textarea"]

/-- Types of inputs into which text is typed. -/
def typedInput : List Selector :=
  [.oneOf false [[hasAttribute "type"]]]
    :: ["", "date", "datetime-local", "email", "month", "number", "password", "search", "tel",
        "text", "time", "url", "week"].map fun type => [attributeIs "type" type]

def writable : List Selector :=
  [[.oneOf true [tagIs "textarea", [.tag none "input".toList, .oneOf true typedInput]],
    .oneOf false [[hasAttribute "readonly"]], .oneOf false disabled],
   [.oneOf true [[attributeIs "contenteditable" ""],
      [.attribute [] "contenteditable".toList (some ⟨.equal, "true".toList, true⟩)]]]]

/-- Types of inputs that show a hint while they are empty. -/
def hinted : List Selector :=
  [[.tag none "input".toList,
    .oneOf true ([.oneOf false [[hasAttribute "type"]]]
      :: ["", "text", "search", "url", "tel", "email", "password", "number"].map fun type =>
        [attributeIs "type" type]),
    hasAttribute "placeholder", .oneOf false [[.oneOf false [[attributeIs "value" ""]],
      hasAttribute "value"]]],
   [.tag none "textarea".toList, hasAttribute "placeholder", .empty]]

/-- The tests a class without arguments stands for. -/
def plainClass? (name : Text) : Option (List Test) :=
  if name ∈ inactiveNames then some [.never]
  else
    match String.ofList name with
    | ":root" | ":scope" => some [.root]
    | ":empty" => some [.empty]
    | ":first-child" => some [firstPlace false false]
    | ":last-child" => some [firstPlace false true]
    | ":first-of-type" => some [firstPlace true false]
    | ":last-of-type" => some [firstPlace true true]
    | ":only-child" => some [firstPlace false false, firstPlace false true]
    | ":only-of-type" => some [firstPlace true false, firstPlace true true]
    | ":link" | ":any-link" =>
      some [.oneOf true [[.oneOf true [tagIs "a", tagIs "area"], hasAttribute "href"]]]
    | ":checked" =>
      some [.oneOf true
        [[.oneOf true [[.tag none "input".toList, attributeIs "type" "checkbox"],
            [.tag none "input".toList, attributeIs "type" "radio"]], hasAttribute "checked"],
         [.tag none "option".toList, hasAttribute "selected"]]]
    | ":disabled" => some [.oneOf true disabled]
    | ":enabled" =>
      some [.oneOf true (controls ++ [tagIs "optgroup", tagIs "option"]), .oneOf false disabled]
    | ":required" => some [.oneOf true filledIn, hasAttribute "required"]
    | ":optional" => some [.oneOf true filledIn, .oneOf false [[hasAttribute "required"]]]
    | ":read-write" => some [.oneOf true writable]
    | ":read-only" => some [.oneOf false writable]
    | ":placeholder-shown" => some [.oneOf true hinted]
    | ":defined" => some []
    | _ => none

/-- How the list inside a class is read. -/
structure Mode where
  nested : Bool := true
  relative : Bool := false
  forgiving : Bool := false

/-- Whether a class takes a list, how the list is read and whether it must hold. -/
def listClass? (name : Text) : Option (Mode × Bool) :=
  match String.ofList name with
  | ":is" | ":where" => some ({ forgiving := true }, true)
  | ":matches" => some ({}, true)
  | ":not" => some ({}, false)
  | ":has" => some ({ relative := true }, true)
  | _ => none

/-! ## Places -/

def signed (sign : Option Char) (n : Nat) : Int :=
  if sign = some '-' then -n else n

def sign? : Text → Option Char × Text
  | '-' :: t => (some '-', t)
  | '+' :: t => (some '+', t)
  | t => (none, t)

def decimal (digits : Text) : Nat :=
  digits.foldl (fun n c => n * 10 + (c.toNat - '0'.toNat)) 0

/-- The offset of a progression after its `n`, if there is one. -/
def offset (t : Text) : Int × Text :=
  match sign? (skip t) with
  | (some s, rest) =>
    let body := skip rest
    let digits := body.takeWhile Char.isDigit
    if digits = [] then (0, t) else (signed (some s) (decimal digits), body.dropWhile Char.isDigit)
  | (none, _) => (0, t)

/-- A progression: `even`, `odd`, a number, or `an+b`. -/
def progression? (t : Text) : Option (Progression × Text) :=
  let (s, body) := sign? t
  let digits := body.takeWhile Char.isDigit
  let rest := body.dropWhile Char.isDigit
  let cyclic (step : Nat) (rest : Text) : Progression × Text :=
    let o := offset rest
    (⟨signed s step, o.1, true⟩, o.2)
  match rest with
  | c :: after =>
    if c.toLower = 'n' then some (cyclic (if digits = [] then 1 else decimal digits) after)
    else if digits ≠ [] then some (⟨0, signed s (decimal digits), false⟩, rest)
    else if lower (t.take 4) = "even".toList then some (⟨2, 0, true⟩, t.drop 4)
    else if lower (t.take 3) = "odd".toList then some (⟨2, 1, true⟩, t.drop 3)
    else none
  | [] => if digits = [] then none else some (⟨0, signed s (decimal digits), false⟩, [])

/-- The words of a text test, separated by commas, up to the closing parenthesis. -/
def values : (fuel : Nat) → Text → Option (List Text × Text)
  | 0, _ => none
  | fuel + 1, t =>
    match value? t with
    | none => none
    | some (v, rest) =>
      match skip rest with
      | ')' :: rest => some ([v], rest)
      | ',' :: rest => (values fuel (skip rest)).map fun r => (v :: r.1, r.2)
      | _ => none

/-! ## Combinators -/

def isMark (c : Char) : Bool :=
  c ∈ [',', '+', '>', '~']

/-- A mark between selectors, where only one space or comments may stand before it, or the space
itself. -/
def mark? : (fuel : Nat) → Text → Option (Char × Text)
  | 0, _ => none
  | fuel + 1, t =>
    match t with
    | [] => none
    | c :: rest =>
      if isMark c then some (c, skip rest)
      else if isSpace c then
        if rest.head?.any isMark then mark? fuel rest else some (' ', skip rest)
      else
        match comment? t with
        | some rest => mark? fuel rest
        | none => none

def combinator (c : Char) : Combinator :=
  if c = '>' then .child else if c = '+' then .adjacent else if c = '~' then .sibling
  else .descendant

/-! ## Lists -/

/-- What has been read of a list: the finished selectors and the current one, last test first; in
a relative list, the parts of the current one before it, last first. -/
structure Progress where
  done : List Selector := []
  tests : List Test := []
  started : Bool := false
  left : Option (Combinator × Selector) := none
  /-- In a relative list, how the current part relates to the one before it. -/
  link : Char := ' '
  parts : List (Combinator × Selector) := []

namespace Progress

def add (p : Progress) (ts : List Test) : Progress :=
  { p with tests := ts.reverse ++ p.tests, started := true }

/-- The tests read for the current element, with its relation to the one before. -/
def current (p : Progress) : Selector :=
  match p.left with
  | none => p.tests.reverse
  | some (c, s) => p.tests.reverse ++ [.related c s]

/-- The current part of a relative list added to its parts. -/
def endPart (p : Progress) : Progress :=
  { p with parts := (combinator p.link, p.tests.reverse) :: p.parts, tests := [], started := false }

/-- Parts as one test: each is looked for from the one before it. -/
def nest (parts : List (Combinator × Selector)) : Selector :=
  parts.foldl (fun inner part => [.has part.1 (part.2 ++ inner)]) []

def endSelector (relative : Bool) (p : Progress) : Progress :=
  if relative then
    { done := nest p.endPart.parts :: p.done }
  else { done := p.current :: p.done }

def neverSelector (p : Progress) : Progress :=
  { done := [.never] :: p.done }

end Progress

/-- The list read after a mark. -/
def afterMark? (m : Mode) (c : Char) (p : Progress) : Option Progress :=
  if m.relative then
    if c = ',' then if p.started then some (p.endSelector true) else none
    else if p.started then some { p.endPart with link := c }
    else if p.link = ' ' then some { p with link := c }
    else none
  else if !p.started then
    if m.forgiving ∧ c = ',' then some p.neverSelector else none
  else if c = ',' then some (p.endSelector false)
  else some { p with left := some (combinator c, p.current), tests := [], started := false }

/-- The list finished. -/
def finish? (m : Mode) (p : Progress) : Option (List Selector) :=
  if p.started then some (p.endSelector m.relative).done.reverse
  else if m.forgiving then some p.neverSelector.done.reverse
  else none

/-- The name of a tag with its namespace. -/
def tag? (t : Text) : Option (Test × Text) :=
  let nameOrAny (t : Text) : Option (Text × Text) :=
    match t with
    | '*' :: rest => some (['*'], rest)
    | _ => name? t
  let spaced (space rest : Text) : Option (Test × Text) :=
    ((accept? '|' rest).bind nameOrAny).map fun r => (.tag (some space) r.1, r.2)
  match t with
  | '|' :: _ => spaced [] t
  | _ =>
    match nameOrAny t with
    | none => none
    | some (name, rest) => (spaced name rest).orElse fun _ => some (.tag none name, rest)

mutual

/-- The selectors of a list, after what has been read of it. -/
def list? (fuel : Nat) (m : Mode) (p : Progress) (t : Text) : Option (List Selector × Text) :=
  match fuel with
  | 0 => none
  | fuel + 1 =>
    match t with
    | [] => if m.nested then none else (finish? m p).map (·, [])
    | c :: rest =>
      match skip t with
      | ')' :: rest' => if m.nested then (finish? m p).map (·, rest') else none
      | _ =>
        if c = ':' then
          match class? fuel t with
          | some (ts, rest) => list? fuel m (p.add ts) rest
          | none => none
        else if c = '&' then list? fuel m (p.add [.root]) rest
        else if c = '#' then
          match name? rest with
          | some (n, rest) => list? fuel m (p.add [.id n]) rest
          | none => none
        else if c = '.' then
          match name? rest with
          | some (n, rest) => list? fuel m (p.add [.className n]) rest
          | none => none
        else if c = '[' then
          match attribute? rest with
          | some (test, rest) => list? fuel m (p.add [test]) rest
          | none => none
        else
          match tag? t with
          | some (test, rest) => if p.started then none else list? fuel m (p.add [test]) rest
          | none =>
            match mark? (t.length + 1) t with
            | some (mark, rest) => (afterMark? m mark p).bind fun p => list? fuel m p rest
            | none => none

/-- A class of elements. -/
def class? (fuel : Nat) (t : Text) : Option (List Test × Text) :=
  match fuel with
  | 0 => none
  | fuel + 1 =>
    match (accept? ':' t).bind name? with
    | none => none
    | some (n, rest) =>
      let name := ':' :: lower n
      match rest with
      | '(' :: body => classWithArguments? fuel name (skip body)
      | _ => if Text.startsWith ['-', '-'] n then none else (plainClass? name).map (·, rest)

/-- A class after its name and opening parenthesis. -/
def classWithArguments? (fuel : Nat) (name body : Text) : Option (List Test × Text) :=
  match fuel with
  | 0 => none
  | fuel + 1 =>
    match String.ofList name with
    | ":nth-child" => place? fuel false false body
    | ":nth-last-child" => place? fuel false true body
    | ":nth-of-type" => place? fuel true false body
    | ":nth-last-of-type" => place? fuel true true body
    | ":contains" | ":-soup-contains" =>
      (values (body.length + 1) body).map fun r => ([.contains false r.1], r.2)
    | ":-soup-contains-own" =>
      (values (body.length + 1) body).map fun r => ([.contains true r.1], r.2)
    | _ =>
      match listClass? name with
      | some (mode, positive) =>
        (list? fuel mode {} body).map fun r => ([.oneOf positive r.1], r.2)
      | none =>
        if name ∈ inactiveLists then (list? fuel {} {} body).map fun r => ([.never], r.2)
        else none

/-- The argument of a place: a progression, and a list after the word `of`. -/
def place? (fuel : Nat) (sameName fromLast : Bool) (body : Text) : Option (List Test × Text) :=
  match fuel with
  | 0 => none
  | fuel + 1 =>
    match progression? body with
    | none => none
    | some (p, rest) =>
      match skip rest with
      | ')' :: rest => some ([.place p sameName fromLast none], rest)
      | 'o' :: 'f' :: after =>
        if sameName ∨ !rest.head?.any isSpace ∨ !after.head?.any isSpace then none
        else
          (list? fuel {} {} (skip after)).map fun r =>
            ([.place p false fromLast (some r.1)], r.2)
      | _ => none

end

/-- Whether spaces and comments are all that is left. -/
def trimmed (t : Text) : Text :=
  let start := skip t
  let rec ends : Text → Text
    | [] => []
    | c :: rest => if skip (c :: rest) = [] then [] else c :: ends rest
  ends start

end SelectorReader

/-- The selectors of a list. -/
def readSelectors? (t : Text) : Option (List Selector) :=
  let body := SelectorReader.trimmed (t.map fun c => if c = '\x00' then '\ufffd' else c)
  (SelectorReader.list? (4 * body.length + 8) { nested := false } {} body).map (·.1)

end Clipbook.Markup
