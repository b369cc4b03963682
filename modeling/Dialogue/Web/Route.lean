import Dialogue.Files.Path

/-! Routes: which paths and methods the editor's server answers. -/
namespace Dialogue.Web

inductive Method where
  | get
  | head
  | post
  | options
  | other (name : String)
  deriving DecidableEq, Repr

namespace Method

/-- The capitals of a letter; a few letters beyond ASCII have theirs within it. -/
def capitals (c : Char) : List Char :=
  if c = 'ı' then ['I']
  else if c = 'ſ' then ['S']
  else if c = 'ﬅ' || c = 'ﬆ' then ['S', 'T']
  else [c.toUpper]

/-- In any case. -/
def ofText (s : String) : Method :=
  match String.ofList (s.toList.flatMap capitals) with
  | "GET" => get
  | "HEAD" => head
  | "POST" => post
  | "OPTIONS" => options
  | name => other name

def text : Method → String
  | get => "GET"
  | head => "HEAD"
  | post => "POST"
  | options => "OPTIONS"
  | other name => name

end Method

/-- What a path asks for: the list of dialogues, one of them, one of the four services for a
text, or a file that belongs to the server, of which there are none. -/
inductive Route where
  | dialogues
  | file (name : String)
  | parse
  | replay
  | exportScript
  | save
  | asset
  deriving DecidableEq, Repr

namespace Route

/-- The rest of a path as a name: it has no slash at its head, and one line behind its first
character. -/
def fileName? (segments : List String) : Option String :=
  let name := "/".intercalate segments
  match name.toList with
  | [] => none
  | c :: cs => if c = '/' || cs.contains '\n' then none else some name

def ofSegments? : List String → Option Route
  | ["", "api", "dialogues"] => some dialogues
  | ["", "api", "parse"] => some parse
  | ["", "api", "replay"] => some replay
  | ["", "api", "export"] => some exportScript
  | ["", "api", "save"] => some save
  | "" :: "api" :: "file" :: rest => (fileName? rest).map file
  | "" :: "static" :: rest => (fileName? rest).map fun _ => asset
  | _ => none

def ofPath? (path : String) : Option Route := ofSegments? (Path.rawParts path)

/-- Services take a text that is sent to them, and all else is looked at. -/
def takes : Route → Method → Bool
  | _, .options => true
  | parse, m | replay, m | exportScript, m | save, m => m == .post
  | dialogues, m | file _, m | asset, m => m == .get || m == .head

end Route

def mergeSlashes : List Char → List Char
  | [] => []
  | c :: cs => if c = '/' && cs.head? == some '/' then mergeSlashes cs else c :: mergeSlashes cs

/-- Where a request goes: to a route, or elsewhere because it holds runs of slashes, or nowhere
because of its method, its path, or the lasting connection that it asks for. -/
inductive Routing where
  | found (r : Route)
  | moved
  | socketRefused
  | methodNotAllowed
  | notFound
  deriving DecidableEq, Repr

namespace Routing

def ofRoute (method : Method) (socket : Bool) (r : Route) (served : Routing) : Routing :=
  if !r.takes method then methodNotAllowed
  else if socket then socketRefused
  else served

/-- Where a request for a path goes; `socket` tells whether it asks for a lasting connection. -/
def ofRequest (method : Method) (socket : Bool) (path : String) : Routing :=
  match Route.ofPath? path with
  | some r => ofRoute method socket r (found r)
  | none =>
    match Route.ofPath? (.ofList (mergeSlashes path.toList)) with
    | some r => ofRoute method socket r moved
    | none => notFound

end Routing
end Dialogue.Web
