import Dialogue.Editor.Elements
import Dialogue.Editor.Store
import Dialogue.Export
import Dialogue.Json.Literal
import Dialogue.Session.Replay
import Dialogue.Validation
import Dialogue.Web.Request

/-! The services of the editor: for each route, what a request is answered and what comes of the
store. -/
namespace Dialogue.Editor
open Web

/-- What comes of a request: the response, what was noted, and the store. -/
structure Exchange where
  response : Response
  log : List LogRecord := []
  store : Store

namespace Exchange

def answer (s : Store) (value : Json) : Exchange := { response := ⟨200, some value⟩, store := s }

def refuse (s : Store) (status : Nat) (error : String) : Exchange :=
  { response := ⟨status, some (.obj [("error", .str error)])⟩, store := s }

def empty (s : Store) (status : Nat) : Exchange := { response := { status }, store := s }

def noting (e : Exchange) (log : List LogRecord) : Exchange := { e with log := log ++ e.log }

end Exchange

def logger : String := "gab_forge.web.app"

/-- A request on its way to a service, with the path that is asked for. -/
structure Call where
  request : Request
  path : String
  deriving DecidableEq, Repr

/-- A call that a service cannot deal with: the note of it, and an answer without a value. -/
def broken (s : Store) (c : Call) : Exchange :=
  (Exchange.empty s 500).noting
    [⟨.error, logger, s!"Exception on {c.path} [{c.request.verb.text}]"⟩]

/-- Where to start, in a request. Lists and objects are no start at all. -/
def startOf? (v : Json) : Option Start :=
  if v.isEmpty then some .unspecified
  else match v with
    | .str s | .unpaired s _ => some (.title s)
    | .arr _ | .obj _ => none
    | v => some (.foreign v.display)

def field (v : Json) (name : String) (absent : Json) : Json := (v.member? name).getD absent

def scriptEntry (s : Store) (p : Path) : Json :=
  .obj [("path", .str (s.root.join p).text), ("relative_path", .str p.text),
    ("name", .str p.stem), ("category", .str (Store.category p))]

def dialogues (s : Store) (c : Call) : Exchange :=
  match s.scripts with
  | .error _ => broken s c
  | .ok ps => .answer s (.obj [("files", .arr (ps.map (scriptEntry s)))])

def file (s : Store) (c : Call) (name : String) : Exchange :=
  match s.fetch name with
  | .missing => .refuse s 404 "File not found"
  | .failed _ => broken s c
  | .found p content =>
    .answer s (.obj [("content", .str content), ("path", .str p.text), ("name", .str p.stem)])

def diagnosticJson (severity : String) (d : Diagnostic) : Json :=
  .obj [("line", .int d.line), ("column", .int Diagnostic.column), ("severity", .str severity),
    ("message", .str d.message), ("suggestion", .ofOption .str d.suggestion)]

/-- Errors and warnings together by line, errors first on each. -/
def diagnosticsJson (v : Validation) : Json :=
  let all := v.errors.map (("error", ·)) ++ v.warnings.map (("warning", ·))
  .arr ((all.mergeSort fun a b => a.2.line ≤ b.2.line).map fun (s, d) => diagnosticJson s d)

/-- The diagnosis of a text; `asked` is the start as the request gave it, and `start` what is made
of it. -/
def diagnosis (v : Validation) (start : Start) (asked : Json) : Json :=
  let startNode := if !asked.isEmpty then asked
    else if v.start.isEmpty then .null else .str v.start
  .obj [("valid", .bool v.ok), ("start_node", startNode), ("diagnostics", diagnosticsJson v),
    ("speakers",
      .obj (v.script.speakers.map fun (name, sp) => (name, .ofOption .str sp.animation))),
    ("graph", (Elements.ofScript v.script (Validation.startNode? v.script start)).json),
    ("stats", .obj [("nodes", .int v.script.nodes.length),
      ("speakers", .int v.script.speakers.length), ("errors", .int v.errors.length),
      ("warnings", .int v.warnings.length)])]

/-- Whether a value can name the text that is diagnosed; an empty one need not. -/
def isName (v : Json) : Bool := v.isEmpty || v.string?.isSome

def parse (s : Store) (terminating : List String) (c : Call) (body : Json) : Exchange :=
  let asked := field body "start" .null
  match isName (field body "name" .null), (field body "content" (.str "")).string? with
  | true, some text =>
    (match startOf? asked with
      | none => broken s c
      | some start =>
        .answer s (diagnosis (Validation.run text start terminating) start asked)).noting
      (Script.readLog text none)
  | _, _ => broken s c

def answerOf? : Json → Option Session.Answer
  | .int n => some (.ofInt n)
  | .bool b => some (.ofBool b)
  | _ => none

def answersOf? : Json → Option (List Session.Answer)
  | .arr vs => vs.mapM answerOf?
  | _ => none

/-- The name of a failure's kind, if it is one of the program's own. -/
def failureKind? : Replay.Failure → Option String
  | .structural _ => some "ScriptParseError"
  | .noNodes => some "GabError"
  | .session f =>
    match f.kind with
    | .reference => some "ScriptReferenceError"
    | .protocol => some "SessionProtocolError"
    | .loop => some "SessionLoopError"
    | .corrupt => none

def replayed (s : Store) (c : Call) : Except Replay.Failure Replay.Result → Exchange
  | .error f =>
    match failureKind? f with
    | some kind =>
      { store := s
        response := ⟨400, some (.obj [("error", .str f.message), ("kind", .str kind)])⟩ }
    | none => broken s c
  | .ok result => .answer s (.obj (("success", .bool true) :: result.members))

def replay (s : Store) (c : Call) (body : Json) : Exchange :=
  match answersOf? (field body "choices" (.arr [])) with
  | none => .refuse s 400 "choices must be a list of option indices"
  | some answers =>
    match (field body "content" (.str "")).string? with
    | some text =>
      match startOf? (field body "start" .null) with
      | some start =>
        (replayed s c (Replay.run text start answers)).noting (Replay.log text start answers)
      | none =>
        (match Script.readStrict text with
          | .error i => replayed s c (.error (.structural i))
          | .ok _ => broken s c).noting (Script.readStrictLog text)
    | none => broken s c

def exportScript (s : Store) (c : Call) (body : Json) : Exchange :=
  match (field body "content" (.str "")).string? with
  | some text =>
    let script := (Script.read text).1
    (Exchange.answer s (.obj [("success", .bool true), ("json", Export.ofScript script)])).noting
      (Script.readLog text none ++ Export.log script)
  | none => broken s c

/-- The halves of pairs that stand for the bytes of a name that is no text. -/
def isByte (half : Nat) : Bool := 0xDC80 ≤ half && half < 0xDD00

/-- The name that a path gives. One of bytes is taken with replacement characters for them, and
other halves of pairs are in no name. -/
def pathName? : Json → Option String
  | .str name => some name
  | .unpaired name halves => if halves.all isByte then some name else none
  | _ => none

/-- The service for saves. A content that is no text cannot be written. -/
def save (s : Store) (c : Call) (body : Json) (hitch : Option Hitch := none) : Exchange :=
  let path := field body "path" (.str "")
  let couldNotSave (s' : Store) (p : Path) (message : String) : Exchange :=
    (Exchange.refuse s' 500 message).noting [⟨.error, logger, s!"Could not save {p.text}"⟩]
  if path.isEmpty then .refuse s 400 "No file path specified"
  else match pathName? path with
    | some name =>
      match s.save name (field body "content" (.str "")).text? hitch with
      | (s', .outside) => .refuse s' 403 "Invalid file path"
      | (s', .noScript) => .refuse s' 400 s!"Can only save {Store.suffix} files"
      | (s', .failed p e) =>
        if e.fault.isExpected then couldNotSave s' p e.message else broken s' c
      | (s', .brokenOff p message) => couldNotSave s' p message
      | (s', .noText) => broken s' c
      | (s', .done p) =>
        (Exchange.answer s' (.obj [("success", .bool true),
          ("message", .str s!"Saved to {name}")])).noting [⟨.info, logger, s!"Saved {p.text}"⟩]
    | none => if path.string?.isSome then .refuse s 403 "Invalid file path" else broken s c

def routed (s : Store) (terminating : List String) (c : Call) (route : Route)
    (hitch : Option Hitch := none) : Exchange :=
  let sent (service : Json → Exchange) := match c.request.object? with
    | some body => service body
    | none => broken s c
  match route with
  | .dialogues => dialogues s c
  | .file name => file s c name
  | .parse => sent (parse s terminating c)
  | .replay => sent (replay s c)
  | .exportScript => sent (exportScript s c)
  | .save => sent (save s c · hitch)
  | .asset => .empty s 404

/-- The answer to a call; `socket` tells whether it asks for a lasting connection. A value is kept
back only where the head alone is asked for in capitals. -/
def dispatched (s : Store) (terminating : List String) (socket : Bool) (c : Call)
    (hitch : Option Hitch := none) : Exchange :=
  match Routing.ofRequest c.request.verb socket c.path with
  | .notFound => .empty s 404
  | .methodNotAllowed => .empty s 405
  | .socketRefused => .empty s 400
  | .moved => .empty s 308
  | .found route =>
    if c.request.verb = .options then .empty s 200
    else
      let e := routed s terminating c route hitch
      if c.request.method = Method.head.text then
        { e with response := { e.response with value := none } }
      else e

/-- One request, which may not be fit to be sent. The device under the store may have a hitch while
it is served. -/
def handle (s : Store) (terminating : List String) (r : Request) (hitch : Option Hitch := none) :
    Except SendFault Exchange :=
  r.target.map fun t => dispatched s terminating t.isSocket ⟨r, t.decodedPath⟩ hitch

/-- Exchanges in order, and the fault of the request that ended them. -/
structure Conversation where
  exchanges : List Exchange
  fault : Option SendFault := none

/-- Requests in order, each on the store that the one before it left, up to one that cannot be
sent. Each may have a hitch of its own. -/
def handleAll (s : Store) (terminating : List String) (requests : List Request)
    (hitches : List (Option Hitch) := []) : Conversation :=
  match requests with
  | [] => ⟨[], none⟩
  | r :: rs =>
    match handle s terminating r (hitches.headD none) with
    | .error f => ⟨[], some f⟩
    | .ok e =>
      let rest := handleAll e.store terminating rs hitches.tail
      ⟨e :: rest.exchanges, rest.fault⟩

end Dialogue.Editor
