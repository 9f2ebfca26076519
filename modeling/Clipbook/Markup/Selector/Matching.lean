import Clipbook.Markup.Selector
import Clipbook.Text.Case

/-!
# Clipbook — matching selectors

A place is a node with its siblings and the place of its parent.  The document itself stands above
the outermost elements and passes tests as an element without attributes.
-/

namespace Clipbook.Markup

/-- A node in its document: siblings before it come nearest first. -/
inductive Place where
  | document (children : List Node)
  | inside (parent : Place) (before : List Node) (node : Node) (after : List Node)

def isElement (n : Node) : Bool := n.name?.isSome

def asciiLower (t : Text) : Text := t.map Char.toLower

namespace Place

def name : Place → Text
  | document _ => "[document]".toList
  | inside _ _ n _ => n.name?.getD []

def attributes : Place → Table AttributeValue
  | inside _ _ (.element _ as _ _) _ => as
  | _ => []

def children : Place → List Node
  | document cs => cs
  | inside _ _ n _ => n.children

/-- An attribute, whatever the case of its name. -/
def attribute? (p : Place) (name : Text) : Option AttributeValue :=
  (p.attributes.find? fun a => asciiLower a.1 = asciiLower name).map (·.2)

/-- The places of the elements of a list, after the siblings read, nearest first. -/
def placesFrom (parent : Place) (before : List Node) : List Node → List Place
  | [] => []
  | n :: ns =>
    let rest := placesFrom parent (n :: before) ns
    if isElement n then inside parent before n ns :: rest else rest

def childPlaces (p : Place) : List Place :=
  placesFrom p [] p.children

/-- The element before a place, itself with its siblings. -/
def previousFrom (parent : Place) : (before after : List Node) → Option Place
  | [], _ => none
  | n :: ns, after =>
    if isElement n then some (inside parent ns n after) else previousFrom parent ns (n :: after)

def previous? : Place → Option Place
  | document _ => none
  | inside parent before n after => previousFrom parent before (n :: after)

/-- Whether one of the elements before a place satisfies `f`, nearest first. -/
def anyBefore (f : Place → Bool) (parent : Place) : (before after : List Node) → Bool
  | [], _ => false
  | n :: ns, after =>
    isElement n && f (inside parent ns n after) || anyBefore f parent ns (n :: after)

/-- Whether one of the places around a place satisfies `f`. -/
def anyAround (f : Place → Bool) : Place → Bool
  | document _ => false
  | inside parent _ _ _ => f parent || anyAround f parent

def parentHolds (f : Place → Bool) : Place → Bool
  | document _ => false
  | inside parent _ _ _ => f parent

end Place

/-- Whether an element related to a place satisfies `f`, looking outwards and back. -/
def Combinator.holds (c : Combinator) (f : Place → Bool) (p : Place) : Bool :=
  match c, p with
  | .descendant, p => p.anyAround f
  | .child, p => p.parentHolds f
  | .sibling, .inside parent before n after => Place.anyBefore f parent before (n :: after)
  | .adjacent, p => p.previous?.any f
  | .sibling, .document _ => false

mutual

/-- Whether an element inside a node, or the node itself, satisfies `f`. -/
def anyInside (f : Place → Bool) (parent : Place) (before : List Node) (n : Node)
    (after : List Node) : Bool :=
  match n with
  | .text .. => false
  | .element name as void cs =>
    let here := Place.inside parent before (.element name as void cs) after
    f here || anyInList f here [] cs

def anyInList (f : Place → Bool) (parent : Place) (before : List Node) (ns : List Node) : Bool :=
  match ns with
  | [] => false
  | n :: rest => anyInside f parent before n rest || anyInList f parent (n :: before) rest

end

/-- Whether an element related to a place satisfies `f`, looking inwards and on. -/
def Combinator.holdsAhead (c : Combinator) (f : Place → Bool) (p : Place) : Bool :=
  let following : List Place :=
    match p with
    | .inside parent before n after => Place.placesFrom parent (n :: before) after
    | .document _ => []
  match c with
  | .descendant => anyInList f p [] p.children
  | .child => p.childPlaces.any f
  | .sibling => following.any f
  | .adjacent => following.head?.any f

/-! ## Tests -/

def sameText (ignoreCase : Bool) (t : Text) : Text :=
  if ignoreCase then t.map Text.lowerChar else t

/-- The space characters of markup. -/
def isSpaceChar (c : Char) : Bool :=
  c ∈ [' ', '\t', '\r', '\n', '\x0c']

/-- A value may end in one line end more than the test asks for. -/
def ValueTest.holds (v : ValueTest) (value : Text) : Bool :=
  let wanted := sameText v.ignoreCase v.value
  let found := sameText v.ignoreCase value
  match v.comparison with
  | .equal => found = wanted || found = wanted ++ ['\n']
  | .starts => Text.startsWith wanted found
  | .ends => Text.endsWith wanted found || Text.endsWith (wanted ++ ['\n']) found
  | .includes => Text.contains wanted found
  | .word =>
    wanted ≠ [] && !wanted.any isSpaceChar &&
      wanted ∈ Text.splitOn ' ' (found.map fun c => if isSpaceChar c then ' ' else c)
  | .dashed =>
    found = wanted || found = wanted ++ ['\n'] || Text.startsWith (wanted ++ ['-']) found

/-- The words of the class attribute. -/
def Place.classes (p : Place) : List Text :=
  match p.attribute? "class".toList with
  -- in fragments the value was taken apart when it was read
  | some (.words ws) => ws
  | some (.single t) =>
    (Text.splitOn ' ' (t.map fun c => if Text.isBlank c then ' ' else c)).filter (· ≠ [])
  | none => []

/-- Texts that are content, as opposed to comments and the like. -/
def isContent (kind : TextKind) : Bool := !kind.hasNotation

/-- Whether nothing but space is in a node's children. -/
def hasNoContent (ns : List Node) : Bool :=
  ns.all fun
    | .element .. => false
    | .text kind t => !isContent kind || t.all isSpaceChar

/-- Whether a node beside the root keeps it from being the root. -/
def countsBesideRoot : Node → Bool
  | .element .. => true
  | .text kind t => kind = .marked || (isContent kind && !Text.blank t)

def Place.isRoot : Place → Bool
  | .inside (.document _) before _ after =>
    !before.any countsBesideRoot && !after.any countsBesideRoot
  | _ => false

/-- In a fragment elements have no namespace of their own, and any is taken for the default. -/
def spaceHolds : Option Text → Bool
  | none => true
  | some space => space = ['*']

def tagHolds (space : Option Text) (name : Text) (p : Place) : Bool :=
  spaceHolds space && (name = ['*'] || asciiLower name = asciiLower p.name)

def ownTexts (ns : List Node) : List Text :=
  ns.filterMap fun
    | .text kind t => if isContent kind then some t else none
    | .element .. => none

/-- The place of an element among those siblings that satisfy `f`, counted from one. -/
def countPlace (f : Place → Bool) (fromLast : Bool) : Place → Nat
  | .document _ => 1
  | .inside parent before n after =>
    -- texts are no siblings to count
    let siblings := Place.placesFrom parent [] (before.reverse ++ n :: after)
    let earlier := (before.filter isElement).length
    let others := if fromLast then siblings.drop (earlier + 1) else siblings.take earlier
    (others.filter f).length + 1

mutual

def Test.holds (t : Test) (p : Place) : Bool :=
  match t with
  | .never => false
  | .tag space name => tagHolds space name p
  | .id name => (p.attribute? "id".toList).map AttributeValue.text = some name
  | .className name => name ∈ p.classes
  | .attribute _ name value =>
    match p.attribute? name with
    | none => false
    | some v => value.all (·.holds v.text)
  | .place progression sameName fromLast among =>
    match among with
    | none =>
      let f (q : Place) := !sameName || asciiLower q.name = asciiLower p.name
      progression.holds (countPlace f fromLast p)
    | some alternatives =>
      -- the element itself has to be among those that are counted
      anyHolds alternatives p &&
        progression.holds (countPlace (anyHolds alternatives) fromLast p)
  | .root => p.isRoot
  | .empty => hasNoContent p.children
  | .contains own texts =>
    if own then texts.any fun t => (ownTexts p.children).any (Text.contains t)
    else texts.any fun t => Text.contains t (Node.textsOf isContent p.children)
  | .oneOf positive alternatives => anyHolds alternatives p == positive
  | .related c tests => c.holds (allHold tests) p
  | .has c tests => c.holdsAhead (allHold tests) p

def allHold (tests : List Test) (p : Place) : Bool :=
  match tests with
  | [] => true
  | t :: ts => t.holds p && allHold ts p

def anyHolds (alternatives : List (List Test)) (p : Place) : Bool :=
  match alternatives with
  | [] => false
  | tests :: rest => allHold tests p || anyHolds rest p

end

/-! ## Renaming -/

mutual

/-- Elements that satisfy a list get a new name and lose their attributes. -/
def renameNode (selectors : List Selector) (name : Text) (parent : Place) (before : List Node)
    (n : Node) (after : List Node) : Node :=
  match n with
  | .text kind t => .text kind t
  | .element old as void cs =>
    let here := Place.inside parent before (.element old as void cs) after
    let cs' := renameList selectors name here [] cs
    if anyHolds selectors here then .element name [] void cs' else .element old as void cs'

def renameList (selectors : List Selector) (name : Text) (parent : Place) (before : List Node)
    (ns : List Node) : List Node :=
  match ns with
  | [] => []
  | n :: rest =>
    renameNode selectors name parent before n rest
      :: renameList selectors name parent (n :: before) rest

end

/-- All elements of a document that satisfy a list, renamed. -/
def rename (selectors : List Selector) (name : Text) (ns : List Node) : List Node :=
  renameList selectors name (.document ns) [] ns

end Clipbook.Markup
