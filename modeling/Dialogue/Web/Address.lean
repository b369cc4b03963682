import Dialogue.Json.Reader
import Dialogue.Text.Blank

/-! Addresses of hosts in numbers: four decimal octets, or eight groups of hexadecimal digits of
which one run may be left out. -/
namespace Dialogue.Web

def isOctet (cs : List Char) : Bool :=
  !cs.isEmpty && cs.all Char.isDigit && cs.length ≤ 3 && (cs == ['0'] || cs.head? != some '0') &&
    Json.natOf cs ≤ 255

def isV4 (cs : List Char) : Bool :=
  let octets := cs.splitOn '.'
  octets.length == 4 && octets.all isOctet

def isGroup (cs : List Char) : Bool :=
  !cs.isEmpty && cs.length ≤ 4 && cs.all fun c => (Json.hexValue? c).isSome

/-- Groups with a last part in decimal octets as two groups. -/
def withoutV4? (parts : List (List Char)) : Option (List (List Char)) :=
  let last := parts.getLast?.getD []
  if last.contains '.' then
    if isV4 last then some (parts.dropLast ++ [['0'], ['0']]) else none
  else some parts

/-- A side of the run that is left out; at the end of the address it may be an empty part alone. -/
def side (parts : List (List Char)) : List (List Char) := if parts == [[]] then [] else parts

def gaps (parts : List (List Char)) : List Nat :=
  (List.range parts.length).filter fun i =>
    0 < i && i + 1 < parts.length && parts[i]? == some []

def areGroups (parts : List (List Char)) : Bool :=
  match gaps parts with
  | [] => parts.length == 8 && parts.all isGroup
  | [i] =>
    let high := side (parts.take i)
    let low := side (parts.drop (i + 1))
    high.length + low.length ≤ 7 && high.all isGroup && low.all isGroup
  | _ => false

/-- What stands behind a percent sign names a zone and is not empty. -/
def isV6 (cs : List Char) : Bool :=
  let (address, zoned) := match Text.cut '%' cs with
    | some (address, zone) => (address, !zone.isEmpty && !zone.contains '%')
    | none => (cs, true)
  let parts := address.splitOn ':'
  zoned && 3 ≤ parts.length &&
    match withoutV4? parts with
    | some groups => groups.length ≤ 9 && areGroups groups
    | none => false

/-- An address of a later version: the letter, hexadecimal digits, a point and the rest. -/
def isFuture (cs : List Char) : Bool :=
  match cs with
  | 'v' :: r =>
    let (version, rest) := r.span fun c => (Json.hexValue? c).isSome
    !version.isEmpty && rest.head? == some '.' && 1 < rest.length
  | _ => false

end Dialogue.Web
