import Dialogue.Json.Reader
import Dialogue.Text.Encoding
import Dialogue.Text.Match
import Dialogue.Web.Route
import Dialogue.Web.Url

/-! Requests with their bodies, and responses. -/
namespace Dialogue.Web

/-- A request; `body` is empty where nothing is sent. -/
structure Request where
  method : String := "GET"
  url : String
  contentType : String := ""
  body : String := ""
  deriving DecidableEq, Repr

/-- A response; one without a value has a body that is not JSON, or none. -/
structure Response where
  status : Nat
  value : Option Json := none

/-- Why a request cannot be sent at all. -/
inductive SendFault where
  | url (f : UrlFault)
  | contentType
  deriving DecidableEq, Repr

def SendFault.message : SendFault → String
  | url f => f.message
  | contentType => "Header values must not contain newline characters."

namespace Request

def verb (r : Request) : Method := .ofText r.method

/-- What the request asks for, if it can be sent: a content type stands on one line, and the name
of a host can be read. -/
def target (r : Request) : Except SendFault Target := do
  let t ← (Target.ofText r.url).mapError .url
  if r.contentType.toList.any fun c => c == '\n' || c == '\r' then throw .contentType
  if !t.isReadable then throw (.url .label)
  return t

def isPadding (c : Char) : Bool := c = ' ' || c = '\t'

def mediaType (r : Request) : List Char :=
  let cs := (Url.upTo [';'] r.contentType.toList).dropWhile isPadding
  ((cs.reverse.dropWhile isPadding).reverse).map Char.toLower

def isJson (r : Request) : Bool :=
  let t := r.mediaType
  t == "application/json".toList ||
    ("application/".toList.isPrefixOf t && "+json".toList.isSuffixOf t)

/-- The value that is sent: none where there is none to be read, and a fault where it has too many
levels. -/
def value? (r : Request) : Except Json.Fault (Option Json) :=
  if !r.isJson then .ok none
  else match Text.decodeShown? (r.body.toUTF8.toList.map UInt8.toNat) with
    | none => .ok none
    | some cs =>
      match Json.readDocument Json.maxNesting cs with
      | .ok v => .ok (some v)
      | .error f => if f.kind = .nesting then .error f else .ok none

/-- The object that is sent. A missing or empty value counts as an empty object, and any other
value is none. -/
def object? (r : Request) : Option Json :=
  match r.value? with
  | .error _ => none
  | .ok none => some (.obj [])
  | .ok (some v) =>
    if v.isEmpty then some (.obj [])
    else match v with
      | .obj _ => some v
      | _ => none

end Request
end Dialogue.Web
