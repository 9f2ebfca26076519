import Clipbook.Markup.Document.Token
import Clipbook.Markup.Fragment

/-!
# Clipbook — reading documents

A whole document has a root, a head and a body, which are opened where they are missing.  Some
start tags close the element they stand in, and an end tag closes the elements inside of the one it
names, unless one of them binds more tightly.
-/

namespace Clipbook.Markup

namespace Document

/-! ## Elements that end by themselves -/

def bodyNames : List Text :=
  names ("a abbr acronym address b bdo big blockquote body br center cite code dd dfn dir div dl dt "
    ++ "em fieldset font form frameset h1 h2 h3 h4 h5 h6 hr i iframe img kbd li listing map menu "
    ++ "ol p pre q s samp small span strike strong sub sup table tt u ul var xmp")

/-- Open elements with the start tags that close them. -/
def closings : List (Text × List Text) :=
  [("a".toList, names "a fieldset table td th"),
   ("address".toList, names "dd dl dt form li ul"),
   ("b".toList, names "center p td th"),
   ("big".toList, names "p"),
   ("caption".toList, names "col colgroup tbody tfoot thead tr"),
   ("col".toList, names "col colgroup tbody tfoot thead tr"),
   ("colgroup".toList, names "colgroup tbody tfoot thead tr"),
   ("dd".toList, names "dt"),
   ("dir".toList, names "dd dl dt form ul"),
   ("dl".toList, names "form li"),
   ("dt".toList, names "dd dl"),
   ("font".toList, names "center td th"),
   ("form".toList, names "form"),
   ("h1".toList, names "fieldset form li p table"),
   ("h2".toList, names "fieldset form li p table"),
   ("h3".toList, names "fieldset form li p table"),
   ("h4".toList, names "fieldset form li p table"),
   ("h5".toList, names "fieldset form li p table"),
   ("h6".toList, names "fieldset form li p table"),
   ("head".toList, bodyNames),
   ("hr".toList, names "form"),
   ("i".toList, names "center"),
   ("li".toList, names "li"),
   ("legend".toList, names "fieldset"),
   ("link".toList, names "body frameset"),
   ("listing".toList, names "dd dl dt fieldset form li table ul"),
   ("menu".toList, names "dd dl dt form ul"),
   ("ol".toList, names "form ul"),
   ("option".toList, names "optgroup option"),
   ("p".toList, names ("address blockquote body caption center col colgroup dd dir div dl dt "
     ++ "fieldset form frameset h1 h2 h3 h4 h5 h6 head hr li listing menu ol p pre table tbody td "
     ++ "tfoot th title tr ul xmp")),
   ("pre".toList, names "dd dl dt fieldset form li table ul"),
   ("s".toList, names "p"),
   ("script".toList, names "noscript"),
   ("small".toList, names "p"),
   ("span".toList, names "td th"),
   ("strike".toList, names "p"),
   ("style".toList, names "body frameset"),
   ("tbody".toList, names "tbody tfoot"),
   ("td".toList, names "tbody td tfoot th tr"),
   ("tfoot".toList, names "tbody"),
   ("th".toList, names "tbody td tfoot th tr"),
   ("thead".toList, names "tbody tfoot"),
   ("title".toList, names "body frameset"),
   ("tr".toList, names "tbody tfoot tr"),
   ("tt".toList, names "p"),
   ("u".toList, names "p td th"),
   ("ul".toList, names "address form menu ol pre"),
   ("xmp".toList, names "dd dl dt fieldset form li table ul")]

def closes (opened name : Text) : Bool :=
  match closings.lookup opened with
  | some ns => name ∈ ns
  | none => false

/-- Elements that end with their start tag. -/
def emptyNames : List Text :=
  names "area base basefont br col frame hr img input isindex link meta param"

/-- How tightly an element binds: its end tag closes nothing that binds more tightly. -/
def tightness (name : Text) : Nat :=
  match String.ofList name with
  | "div" => 150
  | "td" | "th" => 160
  | "tr" => 170
  | "thead" | "tbody" | "tfoot" => 180
  | "table" => 190
  | "head" | "body" => 200
  | "html" => 220
  | _ => 100

/-! ## Reading -/

def htmlName : Text := "html".toList

def headName : Text := "head".toList

def bodyName : Text := "body".toList

/-- What is built, whether a head and a body were opened, and how many end tags to leave out since
their start tags were. -/
structure Reading where
  building : Building := {}
  headSeen : Bool := false
  bodySeen : Bool := false
  ignored : Nat := 0

namespace Reading

/-- The names of the open elements, innermost first. -/
def path (r : Reading) : List Text :=
  r.building.stack.map (·.name)

def push (r : Reading) (name : Text) (attributes : Table AttributeValue) : Reading :=
  let b := r.building.flush none
  { r with
    building := { b with stack := ⟨name, attributes, name ∈ voidNames, []⟩ :: b.stack }
    headSeen := r.headSeen || name = headName || name = bodyName
    bodySeen := r.bodySeen || name = bodyName }

def pop (r : Reading) : Reading :=
  { r with building := (r.building.flush none).pop }

/-- The innermost elements closed that a start tag closes. -/
def autoClose (name : Text) : (depth : Nat) → Reading → Reading
  | 0, r => r
  | n + 1, r =>
    match r.path with
    | [] => r
    | o :: _ => if closes o name then autoClose name n r.pop else r

def close (r : Reading) (name : Text) : Reading :=
  autoClose name r.path.length r

/-- Elements of the head. -/
def isHeadElement (name : Text) : Bool :=
  name ∈ names "script style meta link title base"

/-- The root, the head and the body opened as far as an element needs them. -/
def imply (r : Reading) (name : Text) : Reading :=
  if name = htmlName then r
  else
    let r := if r.path = [] then r.push htmlName [] else r
    -- these stand in the root by themselves
    if name ∈ names "body frameset head" then r
    else if r.path.length ≤ 1 && isHeadElement name then
      if r.headSeen then r else r.push headName []
    else if name ∈ names "noframes frame" then r
    else if r.bodySeen || bodyName ∈ r.path || headName ∈ r.path then r
    else r.push bodyName []

/-- Whether a start tag is misplaced: a root inside another element, a head anywhere but in the
root, and a body inside a body. -/
def misplaced (r : Reading) (name : Text) : Bool :=
  (name = htmlName && r.path ≠ []) || (name = headName && r.path.length ≠ 1)
    || (name = bodyName && bodyName ∈ r.path)

def start (r : Reading) (name : Text) (attributes : List (Text × Option Text)) (closed : Bool) :
    Reading :=
  let r := (r.close name).imply name
  if r.misplaced name then { r with ignored := r.ignored + 1 }
  else
    let r := r.push name (attributeTable name attributes)
    -- an element that says it is closed is, whatever its name
    if closed || name ∈ emptyNames then r.pop else r

/-- The open elements up to the nearest one of a name, unless one inside of it binds more
tightly. -/
def inside? (name : Text) : List Text → Option Nat
  | [] => none
  | o :: path =>
    if o = name then some 1
    else if tightness name < tightness o then none
    else (inside? name path).map (· + 1)

def popMany : Nat → Reading → Reading
  | 0, r => r
  | n + 1, r => popMany n r.pop

def stop (r : Reading) (name : Text) : Reading :=
  -- the end tag of a start tag that was left out is left out with it
  if 0 < r.ignored && name ∈ [htmlName, headName, bodyName] then
    { r with ignored := r.ignored - 1 }
  else
    match inside? name r.path with
    | some n => popMany n r
    | none => r

/-- Whether text opens the body. -/
def beforeBody (r : Reading) : Bool :=
  match r.path with
  | [] => true
  | o :: _ => o = htmlName || o = headName

/-- Text; blanks before the body stay where they are. -/
def data (r : Reading) (t : Text) : Reading :=
  let add (t : Text) (r : Reading) : Reading := { r with building := r.building.data t }
  if r.beforeBody then
    -- blanks alone do not open the body
    let blanks := t.takeWhile isSpace
    let r := if blanks = [] then r else add blanks r
    match t.dropWhile isSpace with
    | [] => r
    | rest =>
      let p := "p".toList
      let r := if r.path.head? = some headName then r.close p else r
      add rest (r.imply p)
  else add t r

def special (r : Reading) (kind : TextKind) (t : Text) : Reading :=
  { r with building := r.building.special kind t }

def step (r : Reading) : Token → Reading
  | .start name as closed => r.start name as closed
  | .stop name => r.stop name
  | .data t => r.data t
  | .comment t => r.special .comment t
  | .doctype t => r.special .doctype t
  | _ => r

end Reading

end Document

/-- The nodes of a whole document. -/
def readDocument (t : Text) : List Node :=
  ((Document.tokens t).foldl Document.Reading.step {}).building.finish

end Clipbook.Markup
