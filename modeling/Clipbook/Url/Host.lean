import Clipbook.Fault
import Clipbook.Text.Basic

/-!
# Clipbook — hosts

What may stand between the brackets of a host, and which characters a host must not hold because
another form of them has a meaning in addresses.
-/

namespace Clipbook.Url

/-! ## Addresses -/

/-- One of the four numbers of a dotted address. -/
def isOctet (t : Text) : Bool :=
  t ≠ [] && t.all Char.isDigit && t.length ≤ 3 && (t = ['0'] || t.head? ≠ some '0')
    && t.foldl (fun n c => n * 10 + (c.toNat - '0'.toNat)) 0 ≤ 255

def isDottedAddress (t : Text) : Bool :=
  let octets := Text.splitOn '.' t
  octets.length = 4 && octets.all isOctet

def isHexChar (c : Char) : Bool :=
  c.isDigit || ('a' ≤ c && c ≤ 'f') || ('A' ≤ c && c ≤ 'F')

/-- One of the numbers between the colons of an address. -/
def isGroup (t : Text) : Bool :=
  t ≠ [] && t.length ≤ 4 && t.all isHexChar

/-- The groups of an address, with a dotted address at the end in the place of two of them. -/
def groups? (t : Text) : Option (List Text) :=
  let parts := Text.splitOn ':' t
  let last := (parts.getLast?).getD []
  if parts.length < 3 then none
  else if '.' ∈ last then
    if isDottedAddress last then some (parts.dropLast ++ [['0'], ['0']]) else none
  else some parts

/-- An end of the groups, which is empty, or holds groups only. -/
def isEnd (groups : List Text) : Bool :=
  groups.all isGroup

/-- Whether groups make an address: eight of them, or fewer with one gap, which may stand at
either end. -/
def areAddress (groups : List Text) : Bool :=
  let inner := (groups.drop 1).dropLast
  match inner.count [] with
  | 0 => groups.length = 8 && groups.all isGroup
  | 1 =>
    let high := groups.take (1 + inner.idxOf [])
    let low := groups.drop (2 + inner.idxOf [])
    let high := if high = [[]] then [] else high
    let low := if low = [[]] then [] else low
    isEnd high && isEnd low && high.length + low.length < 8
  | _ => false

/-- The address before its zone; a zone is not empty and holds no further mark. -/
def withoutZone? (t : Text) : Option Text :=
  match Text.cut? '%' t with
  | none => some t
  | some (address, zone) => if zone = [] ∨ '%' ∈ zone then none else some address

def isColonAddress (t : Text) : Bool :=
  '/' ∉ t &&
    match (withoutZone? t).bind groups? with
    | some groups => areAddress groups
    | none => false

/-- An address of a version to come: `v`, a version, a point and more. -/
def isFutureAddress (t : Text) : Bool :=
  match Text.cut? '.' (t.drop 1) with
  | some (version, rest) =>
    version ≠ [] && version.all isHexChar && rest ≠ [] && '\n' ∉ rest
  | none => false

/-- A host in brackets is an address with colons. -/
def checkBracketed (host : Text) : Except Fault Unit :=
  if host.head? = some 'v' then
    if isFutureAddress host then .ok () else .error .futureAddress
  else if isDottedAddress host then .error .bracketedAddress
  else if isColonAddress host then .ok ()
  else .error (.notAddress host)

/-- Brackets come in pairs, with an address in the first pair. -/
def checkBrackets (host : Text) : Except Fault Unit :=
  match Text.cut? '[' host with
  | some (_, opened) =>
    if ']' ∈ host then checkBracketed (((Text.cut? ']' opened).map Prod.fst).getD opened)
    else .error .invalidHost
  | none => if ']' ∈ host then .error .invalidHost else .ok ()

/-! ## Ambiguous characters -/

/-- The characters with a compatible form that holds one of `/`, `?`, `#`, `@` and `:`. -/
def ambiguousRanges : Text.Ranges :=
  [(0x2047, 0x2049), (0x2100, 0x2101), (0x2105, 0x2106), (0x2a74, 0x2a74), (0xfe13, 0xfe13),
   (0xfe16, 0xfe16), (0xfe55, 0xfe56), (0xfe5f, 0xfe5f), (0xfe6b, 0xfe6b), (0xff03, 0xff03),
   (0xff0f, 0xff0f), (0xff1a, 0xff1a), (0xff1f, 0xff20)]

def checkCharacters (host : Text) : Except Fault Unit :=
  if host.any ambiguousRanges.contains then .error (.ambiguousHost host) else .ok ()

end Clipbook.Url
