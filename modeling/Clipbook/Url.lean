import Clipbook.Text.Case
import Clipbook.Url.Host

/-!
# Clipbook — addresses of pages

An address has a scheme, a host, a path with parameters, a query and a fragment.  Links are
resolved against the address of the page they stand on.
-/

namespace Clipbook

structure Url where
  scheme : Text := []
  host : Text := []
  path : Text := []
  parameters : Text := []
  query : Text := []
  fragment : Text := []
  deriving DecidableEq, Repr

namespace Url

def schemes (s : String) : List Text :=
  [] :: Text.splitOn ' ' s.toList

/-- Schemes whose addresses may be relative. -/
def relativeSchemes : List Text :=
  schemes ("ftp http gopher nntp imap wais file https shttp mms prospero rtsp rtsps rtspu sftp svn "
    ++ "svn+ssh ws wss")

/-- Schemes whose addresses name a host. -/
def hostSchemes : List Text :=
  schemes ("ftp http gopher nntp telnet imap wais file mms https shttp snews prospero rtsp rtsps "
    ++ "rtspu rsync svn svn+ssh sftp nfs git git+ssh ws wss")

/-- Schemes whose paths may end in parameters. -/
def parameterSchemes : List Text :=
  schemes "ftp hdl prospero http imap https shttp rtsp rtsps rtspu sip sips mms sftp tel"

/-! ## Reading -/

def isSchemeChar (c : Char) : Bool :=
  c.isAlphanum || c = '+' || c = '-' || c = '.'

/-- The scheme a text starts with, in lower case, and the rest. -/
def scheme? (t : Text) : Option (Text × Text) :=
  match Text.cut? ':' t with
  | some (c :: s, rest) =>
    if c.isAlpha && s.all isSchemeChar then some ((c :: s).map Char.toLower, rest) else none
  | _ => none

/-- What stands before and after the first occurrence of a character, all before it if there is
none. -/
def cutAt (c : Char) (t : Text) : Text × Text :=
  (Text.cut? c t).getD (t, [])

def isHostChar (c : Char) : Bool :=
  c ≠ '/' && c ≠ '?' && c ≠ '#'

/-- The host after two slashes, and the rest. -/
def hostOf : Text → Text × Text
  | '/' :: '/' :: t => (t.takeWhile isHostChar, t.dropWhile isHostChar)
  | t => ([], t)

/-- A path and the parameters after a semicolon in its last segment. -/
def cutParameters (path : Text) : Text × Text :=
  match Text.cutLast? '/' path with
  | some (before, last) =>
    let (segment, parameters) := cutAt ';' last
    (before ++ '/' :: segment, parameters)
  | none => cutAt ';' path

/-- The address a text spells, with a scheme for those that have none. -/
def read (defaultScheme : Text) (t : Text) : Except Fault Url := do
  -- line ends are dropped wherever they stand
  let t := (t.dropWhile fun c => c.toNat ≤ 0x20).filter (· ∉ ['\t', '\r', '\n'])
  let (scheme, t) := (scheme? t).getD (defaultScheme, t)
  let (host, t) := hostOf t
  -- brackets are checked before the parts are cut off, characters after that: of two faults the
  -- first is told
  checkBrackets host
  let (t, fragment) := cutAt '#' t
  let (t, query) := cutAt '?' t
  checkCharacters host
  let (path, parameters) := if scheme ∈ parameterSchemes then cutParameters t else (t, [])
  return { scheme, host, path, parameters, query, fragment }

/-! ## Writing -/

/-- A part behind its mark, or nothing. -/
def marked (mark : Char) (part : Text) : Text :=
  if part = [] then [] else mark :: part

/-- The path of an address behind its host. -/
def hostAndPath (u : Url) : Text :=
  let path := u.path ++ marked ';' u.parameters
  if u.host ≠ [] ∨ (u.scheme ≠ [] ∧ u.scheme ∈ hostSchemes) ∨ path.take 2 = ['/', '/'] then
    -- a path that was relative is not taken for a part of the host
    let path := if path ≠ [] ∧ path.head? ≠ some '/' then '/' :: path else path
    '/' :: '/' :: u.host ++ path
  else path

def text (u : Url) : Text :=
  let scheme := if u.scheme = [] then [] else u.scheme ++ [':']
  scheme ++ u.hostAndPath ++ marked '?' u.query ++ marked '#' u.fragment

/-! ## Links -/

/-- Segments with those that lead up resolved; the last segment comes first. -/
def resolve (reached : List Text) : List Text → List Text
  | [] => reached
  | s :: segments =>
    -- at the root two dots lead nowhere
    if s = ['.', '.'] then resolve reached.tail segments
    else if s = ['.'] then resolve reached segments
    else resolve (s :: reached) segments

/-- Segments without the empty ones between the first and the last. -/
def dropEmpty : List Text → List Text
  | [] => []
  | s :: segments =>
    match segments.getLast? with
    | none => [s]
    | some last => s :: segments.dropLast.filter (· ≠ []) ++ [last]

/-- The segments of a path that a relative one is added to. -/
def directory (path : Text) : List Text :=
  let segments := Text.splitOn '/' path
  if segments.getLast? = some [] then segments else segments.dropLast

/-- The path a link leads to from a path. -/
def joinPath (base path : Text) : Text :=
  let own := Text.splitOn '/' path
  let segments := if path.head? = some '/' then own else dropEmpty (directory base ++ own)
  let reached := (resolve [] segments).reverse
  -- a path that ends in dots leads to a folder, and so it ends in a slash
  let up := segments.getLast? = some ['.'] ∨ segments.getLast? = some ['.', '.']
  match Text.join ['/'] (if up then reached ++ [[]] else reached) with
  | [] => ['/']
  | joined => joined

/-- A link relative to a base of the same scheme. -/
def follow (base link : Url) : Url :=
  if link.scheme ∈ hostSchemes ∧ link.host ≠ [] then link
  else
    let host := if link.scheme ∈ hostSchemes then base.host else link.host
    -- the link leads to the page itself, or to another query of it
    if link.path = [] ∧ link.parameters = [] then
      { link with host, path := base.path, parameters := base.parameters,
                  query := if link.query = [] then base.query else link.query }
    else { link with host, path := joinPath base.path link.path }

/-- The address a link on a page leads to. -/
def join (base link : Text) : Except Fault Text :=
  if base = [] then .ok link
  else if link = [] then .ok base
  else do
    let b ← read [] base
    let l ← read b.scheme link
    -- such a link leads where it says, whatever the page is
    if l.scheme ≠ b.scheme ∨ l.scheme ∉ relativeSchemes then return link
    else return (follow b l).text

/-! ## Domains -/

/-- The name of the host, without user, port and brackets, in lower case but for its zone. -/
def hostName (u : Url) : Text :=
  -- a user may hold the sign too, a host may not
  let place := ((Text.cutLast? '@' u.host).map Prod.snd).getD u.host
  let name :=
    match Text.cut? '[' place with
    | some (_, bracketed) => (cutAt ']' bracketed).1
    | none => (cutAt ':' place).1
  match Text.cut? '%' name with
  | some (name, zone) => Text.lower name ++ '%' :: zone
  | none => Text.lower name

/-- The domain of an address, which must have a scheme. -/
def domain (t : Text) : Except Fault Text := do
  let u ← read [] t
  if u.scheme = [] then .error (.invalidUrl t)
  else
    let name := u.hostName
    return (Text.after? "www.".toList name).getD name

/-! ## Quotes in links -/

/-- What follows a mark that points to a quote, if it quotes something: all after the next
ampersand. -/
def afterQuote? (t : Text) : Option Text :=
  match Text.after? "#:~:text=".toList t with
  | none => none
  | some rest =>
    match rest.takeWhile (· ≠ '&') with
    | [] => none
    | _ => some ((rest.dropWhile (· ≠ '&')).drop 1)

/-- An address without the first mark that points to a quote on the page. -/
def withoutQuote : Text → Text
  | [] => []
  | c :: t =>
    match afterQuote? (c :: t) with
    | some rest => rest
    | none => c :: withoutQuote t

end Url

end Clipbook
