import Clipbook.Number.Integer
import Clipbook.Pattern.Syntax

/-!
# Clipbook — reading patterns

A pattern is read from its marks: single characters, and pairs of a backslash and a character.
Options given by letters apply to the rest of the group they stand in, or to the whole pattern at
its start.  A pattern looked for backwards must have one width.
-/

namespace Clipbook.Pattern

inductive Problem where
  | invalid
  | hugeCount
  deriving DecidableEq, Repr

/-! ## Marks -/

inductive Mark where
  | plain (c : Char)
  | escaped (c : Char)
  deriving DecidableEq, Repr

/-- The marks of a pattern; a backslash at its end is no mark. -/
def marks : Text → Option (List Mark)
  | [] => some []
  | '\\' :: c :: t => (marks t).map (.escaped c :: ·)
  | ['\\'] => none
  | c :: t => (marks t).map (.plain c :: ·)

/-! ## Widths -/

/-- The least and the greatest number of characters a node can take. -/
structure Width where
  least : Nat
  most : Option Nat
  deriving DecidableEq, Repr

namespace Width

def both (a b : Option Nat) (f : Nat → Nat → Nat) : Option Nat :=
  match a, b with
  | some m, some n => some (f m n)
  | _, _ => none

def add (a b : Width) : Width :=
  ⟨a.least + b.least, both a.most b.most (· + ·)⟩

def either (a b : Width) : Width :=
  ⟨min a.least b.least, both a.most b.most max⟩

def times (a : Width) (least : Nat) (most : Option Nat) : Width :=
  ⟨a.least * least, if a.most = some 0 then some 0 else both a.most most (· * ·)⟩

end Width

/-- The width of a node, given those of the groups. -/
def Node.width (groups : List (Option Width)) : Node → Width
  | .set _ | .any _ => ⟨1, some 1⟩
  | .seq p q => (p.width groups).add (q.width groups)
  | .alt p q => (p.width groups).either (q.width groups)
  | .group _ p | .atomic p => p.width groups
  | .repeated least most _ p => (p.width groups).times least most
  | .again index _ => ((groups[index]?).join).getD ⟨0, some 0⟩
  | .ifGroup _ yes no => (yes.width groups).either (no.width groups)
  | .empty | .anchor _ | .ahead .. | .behind .. => ⟨0, some 0⟩

/-! ## Options -/

structure Options where
  ignoreCase : Bool := false
  multiline : Bool := false
  dotAll : Bool := false
  verbose : Bool := false
  ascii : Bool := false
  deriving DecidableEq, Repr

def Options.casing (o : Options) : Casing :=
  if o.ignoreCase then if o.ascii then .asciiFolded else .folded else .exact

def isOption (c : Char) : Bool :=
  c ∈ ['i', 'L', 'm', 's', 'x', 'a', 't', 'u']

def Options.turnOn (o : Options) (c : Char) : Options :=
  match c with
  | 'i' => { o with ignoreCase := true }
  | 'm' => { o with multiline := true }
  | 's' => { o with dotAll := true }
  | 'x' => { o with verbose := true }
  | 'a' => { o with ascii := true }
  | 'u' => { o with ascii := false }
  | _ => o

def Options.turnOff (o : Options) (c : Char) : Options :=
  match c with
  | 'i' => { o with ignoreCase := false }
  | 'm' => { o with multiline := false }
  | 's' => { o with dotAll := false }
  | 'x' => { o with verbose := false }
  | _ => o

/-! ## The reader's state -/

structure State where
  rest : List Mark
  /-- The options of the whole pattern. -/
  options : Options
  /-- The width of each group, once it is closed; group 0 never is. -/
  groups : List (Option Width) := [none]
  names : Table Nat := []
  /-- Inside a lookbehind, the number of groups before it. -/
  behind : Option Nat := none
  /-- The greatest group a condition names by number. -/
  needed : Nat := 0

abbrev Reading (α : Type) := State → Except Problem (α × State)

def fail {α : Type} : Except Problem α := .error .invalid

namespace State

def next? (s : State) : Option Mark := s.rest.head?

def skip (s : State) : State := { s with rest := s.rest.tail }

/-- The state after a plain character, if it comes next. -/
def accept? (s : State) (c : Char) : Option State :=
  if s.next? = some (.plain c) then some s.skip else none

def closed (s : State) (group : Nat) : Bool :=
  ((s.groups[group]?).join).isSome

/-- Whether a reference may stand here: not to an open group, nor in a lookbehind to a group of
that lookbehind. -/
def mayRefer (s : State) (group : Nat) : Bool :=
  match s.behind with
  | none => true
  | some bound => s.closed group && group < bound

end State

/-- At most `n` plain characters of a class. -/
def takeWhileMarks (holds : Char → Bool) : (n : Nat) → List Mark → Text × List Mark
  | n + 1, .plain c :: rest =>
    if holds c then
      let r := takeWhileMarks holds n rest
      (c :: r.1, r.2)
    else ([], .plain c :: rest)
  | _, rest => ([], rest)

def Mark.spelling : Mark → Text
  | .plain c => [c]
  | .escaped c => ['\\', c]

/-- A non-empty name up to a closing character. -/
def nameUntil (closing : Char) (s : State) : Except Problem (Text × State) :=
  let name := s.rest.takeWhile (· ≠ .plain closing)
  match s.rest.dropWhile (· ≠ .plain closing) with
  | _ :: rest => if name = [] then fail else .ok (name.flatMap Mark.spelling, { s with rest })
  | [] => fail

/-- A name is letters, digits and underscores, and does not start with a digit. -/
def isName : Text → Bool
  | [] => false
  | c :: t =>
    Text.isWord c && !Text.isDigit c &&
      t.all fun d => Text.isWord d && (Text.isDecimal d || !Text.isDigit d)

/-! ## Escapes -/

def isOctal (c : Char) : Bool := '0' ≤ c && c ≤ '7'

def isHex (c : Char) : Bool :=
  c.isDigit || ('a' ≤ c && c ≤ 'f') || ('A' ≤ c && c ≤ 'F')

def hexDigit (c : Char) : Nat :=
  if c.isDigit then c.toNat - '0'.toNat else c.toLower.toNat - 'a'.toNat + 10

def numeral (base : Nat) (digits : Text) : Nat :=
  digits.foldl (fun n c => n * base + hexDigit c) 0

/-- Exactly `n` hexadecimal digits. -/
def hexEscape (n : Nat) (s : State) : Except Problem (Nat × State) :=
  let r := takeWhileMarks isHex n s.rest
  let value := numeral 16 r.1
  if r.1.length = n ∧ value ≤ 0x10ffff then .ok (value, { s with rest := r.2 }) else fail

/-- Characters with an escape of one letter. -/
def control? : Char → Option Nat
  | 'a' => some 0x7
  | 'f' => some 0xc
  | 'n' => some 0xa
  | 'r' => some 0xd
  | 't' => some 0x9
  | 'v' => some 0xb
  | '\\' => some 0x5c
  | _ => none

def category? : Char → Option Member
  | 'd' => some (.category .digit true)
  | 'D' => some (.category .digit false)
  | 's' => some (.category .space true)
  | 'S' => some (.category .space false)
  | 'w' => some (.category .word true)
  | 'W' => some (.category .word false)
  | _ => none

/-- An escape that stands for one character, inside and outside of sets. -/
def letterEscape (c : Char) (s : State) : Except Problem (Nat × State) :=
  match control? c with
  | some n => .ok (n, s)
  | none =>
    if c = 'x' then hexEscape 2 s
    else if c = 'u' then hexEscape 4 s
    else if c = 'U' then hexEscape 8 s
    else if c.isAlphanum then fail
    else .ok (c.toNat, s)

/-- An escape inside a set. -/
def setEscape (c : Char) (s : State) : Except Problem (Member × State) :=
  match category? c with
  | some m => .ok (m, s)
  | none =>
    if c = 'b' then .ok (.range 0x8 0x8, s)
    else if isOctal c then
      let r := takeWhileMarks isOctal 2 s.rest
      let n := numeral 8 (c :: r.1)
      if n ≤ 0xff then .ok (.range n n, { s with rest := r.2 }) else fail
    else (letterEscape c s).map fun r => (.range r.1 r.1, r.2)

def anchorEscape? (o : Options) : Char → Option Anchor
  | 'A' => some .textStart
  | 'Z' => some .textEnd
  | 'b' => some (.boundary o.ascii true)
  | 'B' => some (.boundary o.ascii false)
  | _ => none

def setNode (o : Options) (negated : Bool) (members : List Member) : Node :=
  .set ⟨members, negated, o.casing, o.ascii⟩

def charNode (o : Options) (n : Nat) : Node :=
  setNode o false [.range n n]

/-- A reference to a closed group. -/
def reference (o : Options) (group : Nat) (s : State) : Except Problem (Node × State) :=
  if s.closed group ∧ s.mayRefer group then .ok (.again group o.casing, s) else fail

/-- An escape that starts with a digit: an octal code or the number of a group. -/
def digitEscape (o : Options) (c : Char) (s : State) : Except Problem (Node × State) :=
  if c = '0' then
    let r := takeWhileMarks isOctal 2 s.rest
    .ok (charNode o (numeral 8 (c :: r.1)), { s with rest := r.2 })
  else
    match s.rest with
    | .plain d :: .plain e :: rest =>
      -- three octal digits are a code, fewer are the number of a group
      if isOctal c ∧ isOctal d ∧ isOctal e then
        let n := numeral 8 [c, d, e]
        if n ≤ 0xff then .ok (charNode o n, { s with rest }) else fail
      else if d.isDigit then
        reference o (numeral 10 [c, d]) { s with rest := .plain e :: rest }
      else reference o (numeral 10 [c]) s
    | .plain d :: rest =>
      if d.isDigit then reference o (numeral 10 [c, d]) { s with rest }
      else reference o (numeral 10 [c]) s
    | _ => reference o (numeral 10 [c]) s

def escape (o : Options) (c : Char) (s : State) : Except Problem (Node × State) :=
  match anchorEscape? o c with
  | some a => .ok (.anchor a, s)
  | none =>
    match category? c with
    | some m => .ok (setNode o false [m], s)
    | none =>
      if c.isDigit then digitEscape o c s
      else (letterEscape c s).map fun r => (charNode o r.1, r.2)

/-! ## Sets -/

/-- One end of a range, or a member of its own. -/
def member (m : Mark) (s : State) : Except Problem (Member × State) :=
  match m with
  | .plain c => .ok (.range c.toNat c.toNat, s)
  | .escaped c => setEscape c s

def rangeOf : Member → Member → Except Problem Member
  | .range a _, .range b _ => if a ≤ b then .ok (.range a b) else fail
  | _, _ => fail

/-- The members of a set up to its end, after those read so far, last first. -/
def setMembers : (fuel : Nat) → List Member → State → Except Problem (List Member × State)
  | 0, _, _ => fail
  | fuel + 1, read, s =>
    match s.next? with
    | none => fail
    | some m =>
      -- a bracket that comes first is a member
      if m = .plain ']' ∧ read ≠ [] then .ok (read.reverse, s.skip)
      else
        match member m s.skip with
        | .error e => .error e
        | .ok (first, s) =>
          match s.accept? '-' with
          | none => setMembers fuel (first :: read) s
          | some s =>
            match s.next? with
            | none => fail
            | some n =>
              -- a hyphen that comes last is a member
              if n = .plain ']' then
                .ok ((.range 0x2d 0x2d :: first :: read).reverse, s.skip)
              else
                match member n s.skip with
                | .error e => .error e
                | .ok (last, s) =>
                  match rangeOf first last with
                  | .error e => .error e
                  | .ok r => setMembers fuel (r :: read) s

def readSet (o : Options) (s : State) : Except Problem (Node × State) :=
  let (negated, s) :=
    match s.accept? '^' with
    | some s => (true, s)
    | none => (false, s)
  (setMembers (s.rest.length + 1) [] s).map fun r => (setNode o negated r.1, r.2)

/-! ## Items -/

/-- What may follow an item of a sequence: an anchor is not repeated, a repetition not again. -/
inductive ItemKind where
  | anchor
  | repetition
  | other
  deriving DecidableEq, Repr

structure Item where
  node : Node
  kind : ItemKind

def Item.of (n : Node) : Item :=
  ⟨n, match n with | .anchor _ => .anchor | _ => .other⟩

/-- The items of a sequence, last first, as one node. -/
def sequence (items : List Item) : Node :=
  items.foldl (fun n i => match n with | .empty => i.node | _ => .seq i.node n) .empty

/-- The bounds of a repetition in braces after the opening one, if it is complete. -/
def bounds? (s : State) : Option ((Text × Text) × State) :=
  let lo := takeWhileMarks Char.isDigit s.rest.length s.rest
  match lo.2 with
  | .plain ',' :: rest =>
    let hi := takeWhileMarks Char.isDigit rest.length rest
    match hi.2 with
    | .plain '\x7d' :: rest' => some ((lo.1, hi.1), { s with rest := rest' })
    | _ => none
  | .plain '\x7d' :: rest =>
    -- braces without a number are characters
    if lo.1 = [] then none else some ((lo.1, lo.1), { s with rest })
  | _ => none

/-- The bounds of a repetition, if the mark starts one. -/
def quantifier? (c : Char) (s : State) :
    Except Problem (Option ((Nat × Option Nat) × State)) :=
  if c = '?' then .ok (some ((0, some 1), s))
  else if c = '*' then .ok (some ((0, none), s))
  else if c = '+' then .ok (some ((1, none), s))
  else if c = '\x7b' then
    match bounds? s with
    | none => .ok none
    | some ((lo, hi), s) =>
      let least := numeral 10 lo
      let most := if hi = [] then none else some (numeral 10 hi)
      -- this one is a fault, and not an invalid pattern
      if 4294967295 ≤ least ∨ most.any (4294967295 ≤ ·) then .error .hugeCount
      else if most.any (· < least) then fail
      else .ok (some ((least, most), s))
  else .ok none

/-- How a repetition gives back: by the mark after it. -/
def greed (s : State) : Greed × State :=
  match s.accept? '?' with
  | some s => (.lazy, s)
  | none =>
    match s.accept? '+' with
    | some s => (.possessive, s)
    | none => (.greedy, s)

/-- The last item repeated. -/
def repeatLast (items : List Item) (least : Nat) (most : Option Nat) (s : State) :
    Except Problem (List Item × State) :=
  match items with
  | [] => fail
  | i :: before =>
    if i.kind = .other then
      let (g, s) := greed s
      .ok (⟨.repeated least most g i.node, .repetition⟩ :: before, s)
    else fail

/-! ## Options in the pattern -/

/-- Option letters up to a closing, colon or minus, which is given too. -/
def optionLetters : (fuel : Nat) → Text → State → Except Problem ((Text × Char) × State)
  | 0, _, _ => fail
  | fuel + 1, read, s =>
    match s.next? with
    | some (.plain c) =>
      if c = ')' ∨ c = '-' ∨ c = ':' then .ok ((read.reverse, c), s.skip)
      else if isOption c then optionLetters fuel (c :: read) s.skip
      else fail
    | _ => fail

/-- Letters that may be turned on: those of text patterns, with one class of characters. -/
def compatible (on : Text) : Bool :=
  'L' ∉ on && !('a' ∈ on && 'u' ∈ on)

/-- Letters that may be turned off again. -/
def removable (off : Text) : Bool :=
  off.all fun c => c ∈ ['i', 'm', 's', 'x']

/-- What option letters in a group ask for: options of the whole pattern, or of the group. -/
inductive OptionScope where
  | whole (on : Text)
  | group (on off : Text)

def readOptions (s : State) : Except Problem (OptionScope × State) := do
  let ((on, closing), s) ← optionLetters (s.rest.length + 1) [] s
  if !compatible on then fail
  else if closing = ')' then
    if on = [] then fail else return (.whole on, s)
  else if 't' ∈ on then fail
  else if closing = ':' then
    if on = [] then fail else return (.group on [], s)
  else
    let ((off, closing), s) ← optionLetters (s.rest.length + 1) [] s
    if closing ≠ ':' ∨ off = [] ∨ !removable off ∨ off.any (· ∈ on) then fail
    else return (.group on off, s)

def Options.scoped (o : Options) (on off : Text) : Options :=
  off.foldl turnOff (on.foldl turnOn o)

/-! ## Groups -/

def openGroup (name : Option Text) (s : State) : Except Problem (Nat × State) :=
  let index := s.groups.length
  let s := { s with groups := s.groups ++ [none] }
  match name with
  | none => .ok (index, s)
  | some name =>
    if s.names.holds name then fail else .ok (index, { s with names := s.names.put name index })

def closeGroup (index : Nat) (p : Node) (s : State) : State :=
  { s with groups := s.groups.set index (some (p.width s.groups)) }

/-- The state after a closing parenthesis. -/
def close (s : State) : Except Problem State :=
  match s.accept? ')' with
  | some s => .ok s
  | none => fail

/-- The state after a comment. -/
def skipComment (s : State) : Except Problem State :=
  match s.rest.dropWhile (· ≠ .plain ')') with
  | _ :: rest => .ok { s with rest }
  | [] => fail

/-- The group a condition names. -/
def conditionGroup (name : Text) (s : State) : Except Problem (Nat × State) :=
  if isName name then
    match s.names.get? name with
    | some index => .ok (index, s)
    | none => fail
  else
    match Number.readInt name with
    | .ok n =>
      if 0 < n ∧ n < 1073741823 then .ok (n.toNat, { s with needed := max s.needed n.toNat })
      else fail
    | .error _ => fail

def isVerboseSpace (c : Char) : Bool :=
  c ∈ [' ', '\t', '\n', '\r', '\x0b', '\x0c']

mutual

/-- Alternatives up to a closing parenthesis or the end. -/
def alternatives (fuel : Nat) (top : Bool) (o : Options) (s : State) :
    Except Problem (Node × State) :=
  match fuel with
  | 0 => fail
  | fuel + 1 =>
    match items fuel top o [] s with
    | .error e => .error e
    | .ok (p, s) => moreAlternatives fuel (if top then s.options else o) p s

/-- The alternatives after the first one; at the top level they take the options of the whole
pattern. -/
def moreAlternatives (fuel : Nat) (o : Options) (p : Node) (s : State) :
    Except Problem (Node × State) :=
  match fuel with
  | 0 => fail
  | fuel + 1 =>
    match s.accept? '|' with
    | none => .ok (p, s)
    | some s =>
      match items fuel false o [] s with
      | .error e => .error e
      | .ok (q, s) =>
        match moreAlternatives fuel o q s with
        | .error e => .error e
        | .ok (r, s) => .ok (.alt p r, s)

/-- The items of one alternative, after those read so far, last first.  With `first`, options of
the whole pattern may still come. -/
def items (fuel : Nat) (first : Bool) (o : Options) (read : List Item) (s : State) :
    Except Problem (Node × State) :=
  match fuel with
  | 0 => fail
  | fuel + 1 =>
    match s.rest with
    | [] => .ok (sequence read, s)
    | .escaped c :: rest =>
      match escape o c { s with rest } with
      | .error e => .error e
      | .ok (n, s) => items fuel first o (.of n :: read) s
    | .plain c :: rest =>
      if c = '|' ∨ c = ')' then .ok (sequence read, s)
      else
        let s := { s with rest }
        if o.verbose ∧ isVerboseSpace c then items fuel first o read s
        else if o.verbose ∧ c = '#' then
          items fuel first o read { s with rest := (rest.dropWhile (· ≠ .plain '\n')).drop 1 }
        else if c = '[' then
          match readSet o s with
          | .error e => .error e
          | .ok (n, s) => items fuel first o (.of n :: read) s
        else if c = '.' then items fuel first o (.of (.any o.dotAll) :: read) s
        else if c = '^' then
          items fuel first o
            (.of (.anchor (if o.multiline then .lineStart else .textStart)) :: read) s
        else if c = '$' then
          items fuel first o
            (.of (.anchor (if o.multiline then .lineEnd else .nearEnd)) :: read) s
        else if c = '(' then parenthesis fuel first o read s
        else
          match quantifier? c s with
          | .error e => .error e
          | .ok (some ((least, most), s)) =>
            match repeatLast read least most s with
            | .error e => .error e
            | .ok (read, s) => items fuel first o read s
          | .ok none => items fuel first o (.of (charNode o c.toNat) :: read) s

/-- What an opening parenthesis starts, and the items after it. -/
def parenthesis (fuel : Nat) (first : Bool) (o : Options) (read : List Item) (s : State) :
    Except Problem (Node × State) :=
  match fuel with
  | 0 => fail
  | fuel + 1 =>
    match s.accept? '?' with
    | none => capture fuel first o none read s
    | some s =>
      match s.rest with
      | .plain 'P' :: .plain '<' :: rest =>
        match nameUntil '>' { s with rest } with
        | .error e => .error e
        | .ok (name, s) => if isName name then capture fuel first o (some name) read s else fail
      | .plain 'P' :: .plain '=' :: rest =>
        match nameUntil ')' { s with rest } with
        | .error e => .error e
        | .ok (name, s) =>
          match s.names.get? name with
          | none => fail
          | some index =>
            match reference o index s with
            | .error e => .error e
            | .ok (n, s) => items fuel first o (.of n :: read) s
      | .plain ':' :: rest => enclosed fuel first o o id read { s with rest }
      | .plain '>' :: rest => enclosed fuel first o o .atomic read { s with rest }
      | .plain '#' :: rest =>
        match skipComment { s with rest } with
        | .error e => .error e
        | .ok s => items fuel first o read s
      | .plain '=' :: rest => enclosed fuel first o o (.ahead true) read { s with rest }
      | .plain '!' :: rest => enclosed fuel first o o (.ahead false) read { s with rest }
      | .plain '<' :: .plain '=' :: rest => lookBehind fuel first o true read { s with rest }
      | .plain '<' :: .plain '!' :: rest => lookBehind fuel first o false read { s with rest }
      | .plain '(' :: rest =>
        match nameUntil ')' { s with rest } with
        | .error e => .error e
        | .ok (name, s) =>
          match conditionGroup name s with
          | .error e => .error e
          | .ok (index, s) => if s.mayRefer index then condition fuel first o index read s else fail
      | _ =>
        match readOptions s with
        | .error e => .error e
        | .ok (.group on off, s) => enclosed fuel first o (o.scoped on off) id read s
        | .ok (.whole on, s) =>
          if first ∧ read.isEmpty then
            let whole := on.foldl Options.turnOn s.options
            items fuel first whole read { s with options := whole }
          else fail

/-- A group whose content becomes one item. -/
def enclosed (fuel : Nat) (first : Bool) (o inner : Options) (wrap : Node → Node)
    (read : List Item) (s : State) : Except Problem (Node × State) :=
  match fuel with
  | 0 => fail
  | fuel + 1 =>
    match alternatives fuel false inner s with
    | .error e => .error e
    | .ok (p, s) =>
      match close s with
      | .error e => .error e
      | .ok s => items fuel first o (⟨wrap p, .other⟩ :: read) s

/-- A group that keeps what it takes. -/
def capture (fuel : Nat) (first : Bool) (o : Options) (name : Option Text) (read : List Item)
    (s : State) : Except Problem (Node × State) :=
  match fuel with
  | 0 => fail
  | fuel + 1 =>
    match openGroup name s with
    | .error e => .error e
    | .ok (index, s) =>
      match alternatives fuel false o s with
      | .error e => .error e
      | .ok (p, s) =>
        match close s with
        | .error e => .error e
        | .ok s => items fuel first o (⟨.group index p, .other⟩ :: read) (closeGroup index p s)

/-- A look backwards, at text of one width. -/
def lookBehind (fuel : Nat) (first : Bool) (o : Options) (positive : Bool) (read : List Item)
    (s : State) : Except Problem (Node × State) :=
  match fuel with
  | 0 => fail
  | fuel + 1 =>
    let outer := s.behind
    match alternatives fuel false o { s with behind := some (outer.getD s.groups.length) } with
    | .error e => .error e
    | .ok (p, s) =>
      match close s with
      | .error e => .error e
      | .ok s =>
        let width := p.width s.groups
        if width.most = some width.least then
          items fuel first o (⟨.behind positive width.least p, .other⟩ :: read)
            { s with behind := outer }
        else fail

/-- The two branches of a condition. -/
def condition (fuel : Nat) (first : Bool) (o : Options) (index : Nat) (read : List Item)
    (s : State) : Except Problem (Node × State) :=
  match fuel with
  | 0 => fail
  | fuel + 1 =>
    match items fuel false o [] s with
    | .error e => .error e
    | .ok (yes, s) =>
      match s.accept? '|' with
      | none =>
        match close s with
        | .error e => .error e
        | .ok s => items fuel first o (⟨.ifGroup index yes .empty, .other⟩ :: read) s
      | some s =>
        match items fuel false o [] s with
        | .error e => .error e
        | .ok (no, s) =>
          match close s with
          | .error e => .error e
          | .ok s => items fuel first o (⟨.ifGroup index yes no, .other⟩ :: read) s

end

/-! ## Whole patterns -/

/-- The pattern a text spells under the given options. -/
def read (o : Options) (t : Text) : Except Problem Pattern :=
  match marks t with
  | none => fail
  | some ms =>
    match alternatives (4 * ms.length + 8) true o { rest := ms, options := o } with
    | .error e => .error e
    | .ok (p, s) =>
      if s.rest ≠ [] ∨ s.groups.length ≤ s.needed then fail
      else .ok ⟨p, s.groups.length - 1, s.names⟩

end Clipbook.Pattern
