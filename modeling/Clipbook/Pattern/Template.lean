import Clipbook.Pattern.Reader
import Clipbook.Pattern.Search

/-!
# Clipbook — replacing matches

A replacement may name parts of the match: `$&` the match, a backtick or an apostrophe after the
dollar what stands before or after it, `$1` to `$99` a group by number, `$<name>` a group by name,
and `$$` a dollar.  Any other dollar stands for itself.
-/

namespace Clipbook

namespace Pattern

/-! ## Patterns of arguments -/

/-- Group names are written `(?<name>…)`; in the notation that is read they take a `P`. -/
def renameGroups : Text → Text
  | '(' :: '?' :: '<' :: t =>
    match t with
    -- a look behind is no name
    | '=' :: _ | '!' :: _ => '(' :: '?' :: '<' :: renameGroups t
    | _ => '(' :: '?' :: 'P' :: '<' :: renameGroups t
  | c :: t => c :: renameGroups t
  | [] => []

def optionsOf (flags : Text) : Options :=
  { ignoreCase := 'i' ∈ flags, multiline := 'm' ∈ flags, dotAll := 's' ∈ flags }

/-- The pattern of an argument `/pattern/flags`. -/
def ofLiteral (pattern flags : Text) : Except Problem Pattern :=
  read (optionsOf flags) (renameGroups pattern)

end Pattern

/-! ## References in replacements -/

/-- A piece of a replacement: a character, or a reference with its spelling. -/
inductive Reference where
  | literal (c : Char)
  | dollar
  | whole
  | before
  | after
  | number (digits : List (Char × Nat))
  | name (name : Text)
  deriving DecidableEq, Repr

namespace Reference

/-- The reference after a dollar, and the rest. -/
def ofDollar? (t : Text) : Option (Reference × Nat) :=
  match t with
  | '$' :: _ => some (.dollar, 1)
  | '&' :: _ => some (.whole, 1)
  | '\x60' :: _ => some (.before, 1)
  | '\'' :: _ => some (.after, 1)
  | '<' :: t => (Text.cut? '>' t).map fun r => (.name r.1, r.1.length + 2)
  | c :: t =>
    match Text.decimalValue? c with
    | none => none
    | some n =>
      match t with
      | d :: _ =>
        match Text.decimalValue? d with
        | some m => some (.number [(c, n), (d, m)], 2)
        | none => some (.number [(c, n)], 1)
      | [] => some (.number [(c, n)], 1)
  | [] => none

/-- The pieces of a replacement; the first `skip` characters belong to a piece already read. -/
def readFrom (skip : Nat) : Text → List Reference
  | [] => []
  | c :: t =>
    match skip with
    | n + 1 => readFrom n t
    | 0 =>
      if c = '$' then
        match ofDollar? t with
        | some (r, length) => r :: readFrom length t
        | none => .literal c :: readFrom 0 t
      else .literal c :: readFrom 0 t

def read (t : Text) : List Reference :=
  readFrom 0 t

/-- A group by number; two digits that name no group are one digit and a character, and digits
that name none stand for themselves. -/
def numberText (p : Pattern) (m : Match) (subject : Text) (digits : List (Char × Nat)) : Text :=
  let group (n : Nat) := (m.group? subject n).getD []
  let spelling := '$' :: digits.map Prod.fst
  let inRange (n : Nat) : Bool := 0 < n && n ≤ p.groups
  match digits with
  | [(_, n)] => if inRange n then group n else spelling
  | [(_, n), (d, k)] =>
    -- two digits are one number where there are as many groups
    if inRange (n * 10 + k) then group (n * 10 + k)
    else if inRange n then group n ++ [d]
    else spelling
  | _ => spelling

/-- The text of a piece for a match.  Names are references only in a pattern that has some. -/
def text (p : Pattern) (m : Match) (subject : Text) : Reference → Text
  | literal c => [c]
  | dollar => ['$']
  | whole => m.text subject
  | before => subject.take m.start
  | after => subject.drop m.stop
  | number digits => numberText p m subject digits
  | name n =>
    -- without names the mark stands for itself
    if p.names = [] then '$' :: '<' :: n ++ ['>']
    else ((p.names.get? n).bind (m.group? subject)).getD []

end Reference

/-- A replacement filled in for a match. -/
def Match.fill (p : Pattern) (replacement subject : Text) (m : Match) : Text :=
  (Reference.read replacement).flatMap (Reference.text p m subject)

/-- A text with its first match, or all matches, replaced. -/
def Pattern.replace (p : Pattern) (all : Bool) (replacement subject : Text) : Text :=
  let ms := p.findAll subject
  Match.replaceAll (Match.fill p replacement subject) subject (if all then ms else ms.take 1)

end Clipbook
