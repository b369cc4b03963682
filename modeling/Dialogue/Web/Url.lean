import Dialogue.Text.Match
import Dialogue.Text.Quoted
import Dialogue.Text.Utf8
import Dialogue.Web.Address
import Dialogue.Web.HostName

/-! URLs: their parts, what can be wrong with the host, and a URL as it is sent. -/
namespace Dialogue.Web

structure Url where
  scheme : List Char := []
  authority : List Char := []
  path : List Char := []
  query : List Char := []
  deriving DecidableEq, Repr

inductive UrlFault where
  | brackets
  | address (host : String)
  | bracketedV4
  | future
  | expanding (authority : String)
  | socket (text : String)
  | socketDigits (count : Nat)
  | socketRange
  | label
  deriving DecidableEq, Repr

def UrlFault.message : UrlFault → String
  | brackets => "Invalid IPv6 URL"
  | address host => s!"{Text.quoted host} does not appear to be an IPv4 or IPv6 address"
  | bracketedV4 => "An IPv4 address cannot be in brackets"
  | future => "IPvFuture address is invalid"
  | expanding authority =>
    s!"netloc '{authority}' contains invalid characters under NFKC normalization"
  | socket text => "Port could not be cast to integer value as " ++ Text.quoted text
  | socketDigits count => (Json.FaultKind.digits count).text
  | socketRange => "Port out of range 0-65535"
  | label => "label empty or too long"

namespace Url

def upTo (marks cs : List Char) : List Char := cs.takeWhile fun c => !marks.contains c

def after (marks cs : List Char) : List Char := cs.dropWhile fun c => !marks.contains c

/-- Blanks and controls at the head and line breaks anywhere are no part of a URL. -/
def cleaned (cs : List Char) : List Char :=
  (cs.dropWhile fun c => c.toNat ≤ 0x20).filter fun c => c != '\t' && c != '\n' && c != '\r'

def isSchemeChar (c : Char) : Bool := c.isAlphanum || c = '+' || c = '-' || c = '.'

/-- A name before the first colon, in small letters, and what follows. -/
def cutScheme (cs : List Char) : List Char × List Char :=
  match Text.cut ':' cs with
  | some (name, rest) =>
    if name.head?.any Char.isAlpha && name.all isSchemeChar then (name.map Char.toLower, rest)
    else ([], cs)
  | none => ([], cs)

/-- What stands between two slashes and the next, and the rest. -/
def cutAuthority (cs : List Char) : List Char × List Char :=
  match cs with
  | '/' :: '/' :: r => (upTo ['/', '?', '#'] r, after ['/', '?', '#'] r)
  | _ => ([], cs)

def userAndHost (authority : List Char) : List Char × List Char :=
  let host := (authority.reverse.takeWhile (· ≠ '@')).reverse
  (authority.take (authority.length - host.length - 1), host)

def bracketed (host : List Char) : List Char × List Char :=
  let inner := (after ['['] host).drop 1
  (upTo [']'] inner, (after [']'] inner).drop 1)

def nameAndSocket (host : List Char) : List Char × List Char :=
  if host.contains '[' then
    let (name, rest) := bracketed host
    (name, (after [':'] rest).drop 1)
  else (upTo [':'] host, (after [':'] host).drop 1)

/-- An address in brackets is none of four octets. -/
def checkAddress (host : List Char) : Except UrlFault Unit :=
  if host.head? = some 'v' then if isFuture host then .ok () else .error .future
  else if isV4 host then .error .bracketedV4
  else if isV6 host then .ok ()
  else .error (.address (.ofList host))

/-- Characters that stand for several, one of which would end a host. -/
def expanding : List Nat :=
  [0x2047, 0x2048, 0x2049, 0x2100, 0x2101, 0x2105, 0x2106, 0x2A74, 0xFE13, 0xFE16, 0xFE55, 0xFE56,
    0xFE5F, 0xFE6B, 0xFF03, 0xFF0F, 0xFF1A, 0xFF1F, 0xFF20]

/-- Brackets come in pairs and hold the address of the host, with nothing before them and nothing
but a socket behind. -/
def checkBrackets (authority : List Char) : Except UrlFault Unit :=
  let opened := authority.contains '['
  let closed := authority.contains ']'
  if opened != closed then .error .brackets
  else if !opened then .ok ()
  else
    let host := (userAndHost authority).2
    let rest := (bracketed host).2
    let alone := host.head? = some '[' && (rest.isEmpty || rest.head? = some ':')
    if host.contains '[' && !alone then .error .brackets
    else checkAddress (nameAndSocket host).1

def checkAuthority (authority : List Char) : Except UrlFault Unit := do
  checkBrackets authority
  if authority.any fun c => expanding.contains c.toNat then
    throw (.expanding (.ofList authority))

/-- The parts of a text, which names a host only behind two slashes. -/
def ofText (cs : List Char) : Except UrlFault Url := do
  let (scheme, rest) := cutScheme (cleaned cs)
  let (authority, rest) := cutAuthority rest
  checkAuthority authority
  let located := upTo ['#'] rest
  return ⟨scheme, authority, upTo ['?'] located, (after ['?'] located).drop 1⟩

def maxSocket : Nat := 65535

def socket (text : List Char) : Except UrlFault (List Char) :=
  if text.isEmpty then .ok []
  else if !text.all Char.isDigit then .error (.socket (.ofList text))
  else if Json.maxDigits < text.length then .error (.socketDigits text.length)
  else
    let n := Json.natOf text
    if maxSocket < n then .error .socketRange
    else .ok (if n = 0 then [] else ':' :: Nat.toDigits 10 n)

def lowered (name : List Char) : List Char :=
  (upTo ['%'] name).map Char.toLower ++ after ['%'] name

/-- The host of an authority as it is sent, with its socket. -/
def sentHost (authority : List Char) : Except UrlFault (List Char) := do
  let (name, text) := nameAndSocket (userAndHost authority).2
  match HostName.form? (lowered name) with
  | none => throw .label
  | some form =>
    let form := if form.contains ':' then '[' :: (form ++ [']']) else form
    let host := form ++ (← socket text)
    checkBrackets host
    return host

def hasUser (authority : List Char) : Bool := !(upTo [':'] (userAndHost authority).1).isEmpty

end Url

/-- What a request asks for: the scheme, the host as it is sent, whether a user is named, and the
path. -/
structure Target where
  scheme : List Char
  host : List Char
  hasUser : Bool
  path : List Char
  deriving DecidableEq, Repr

/-- The target of a text. What is left beside its scheme and its host is read as a URL again. -/
def Target.ofText (url : String) : Except UrlFault Target := do
  let u ← Url.ofText url.toList
  let v ← Url.ofText (u.path ++ if u.query.isEmpty then [] else '?' :: u.query)
  return ⟨u.scheme, ← Url.sentHost u.authority, Url.hasUser u.authority, v.path⟩

namespace Target

def isHostChar (c : Char) : Bool := c.isAlphanum || c = '-' || c = '.'

/-- A name of such characters, perhaps with a socket, is taken for a host, and then has to be
readable. Any other host counts as none. -/
def isReadable (t : Target) : Bool :=
  let (name, rest) := t.host.span isHostChar
  t.hasUser || !(rest.isEmpty || rest.head? = some ':') || HostName.isReadable name

def isSocket (t : Target) : Bool := t.scheme == "ws".toList || t.scheme == "wss".toList

def percentBytes : List Char → List Nat
  | [] => []
  | '%' :: a :: b :: cs =>
    match Json.hexValue? a, Json.hexValue? b with
    | some x, some y => (16 * x + y) :: percentBytes cs
    | _, _ => '%'.toNat :: percentBytes (a :: b :: cs)
  | c :: cs => (String.singleton c).toUTF8.toList.map UInt8.toNat ++ percentBytes cs

/-- The path with its escapes undone and one slash at its head. -/
def decodedPath (t : Target) : String :=
  let cs := Text.decodeLossy 0 (percentBytes t.path)
  .ofList ('/' :: cs.dropWhile (· == '/'))

end Target
end Dialogue.Web
