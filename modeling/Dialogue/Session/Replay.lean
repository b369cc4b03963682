import Dialogue.Json.Basic
import Dialogue.Script.Reader
import Dialogue.Session.Trail

/-! Replays: a fresh session run from a start with a list of answers, up to a bound on its
events. -/
namespace Dialogue

namespace Replay
open Session

/-- Most events of a replay, so that a dialogue without an end is answered too. -/
def maxEvents : Nat := 1000

/-- Why a replay stopped: the dialogue was over, a choice had no answer left, or the bound was
reached. -/
inductive Ending where
  | ended
  | waiting
  | truncated
  deriving DecidableEq, Repr

structure Playback where
  events : List Event
  ending : Ending
  state : State
  deriving DecidableEq, Repr

inductive Failure where
  | structural (i : Issue)
  | noNodes
  | session (f : Session.Failure)
  deriving DecidableEq, Repr

def Playback.cons (e : Event) (p : Playback) : Playback := { p with events := e :: p.events }

/-- Steps from a state with `n + 1` events allowed, the answers going to the choices in order. -/
def drive (script : Script) (n : Nat) (s : State) (input : Option Answer) (answers : List Answer) :
    Except Session.Failure Playback :=
  match step script s input with
  | .error f => .error f
  | .ok (s', none) => .ok ⟨[], .ended, s'⟩
  | .ok (s', some e) =>
    match n with
    | 0 => .ok ⟨[e], .truncated, s'⟩
    | n + 1 =>
      match e with
      | .choice _ _ =>
        match answers with
        | [] => .ok ⟨[e], .waiting, s'⟩
        | a :: rest => (drive script n s' (some a) rest).map (·.cons e)
      | _ => (drive script n s' none answers).map (·.cons e)

def driveLog (script : Script) (n : Nat) (s : State) (input : Option Answer)
    (answers : List Answer) : List LogRecord :=
  stepLog script s input ++
    match step script s input with
    | .ok (s', some e) =>
      match n with
      | 0 => []
      | n + 1 =>
        match e with
        | .choice _ _ =>
          match answers with
          | [] => []
          | a :: rest => driveLog script n s' (some a) rest
        | _ => driveLog script n s' none answers
    | _ => []

/-- The title to start from: the one asked for, else that of the first node. -/
def startTitle (script : Script) (start : Start) : Except Failure String :=
  match start with
  | .title name => .ok name
  | .foreign shown => .error (.session (.missingNode shown))
  | .unspecified =>
    match script.nodes with
    | [] => .error .noNodes
    | n :: _ => .ok n.title

structure Result where
  start : String
  playback : Playback
  deriving DecidableEq, Repr

def ofScript (script : Script) (start : Start) (answers : List Answer) : Except Failure Result :=
  match startTitle script start with
  | .error f => .error f
  | .ok title =>
    match Session.start script {} title with
    | .error f => .error (.session f)
    | .ok s =>
      match drive script (maxEvents - 1) s none answers with
      | .error f => .error (.session f)
      | .ok p => .ok ⟨title, p⟩

def run (text : String) (start : Start) (answers : List Answer) : Except Failure Result :=
  match Script.readStrict text with
  | .error i => .error (.structural i)
  | .ok script => ofScript script start answers

def log (text : String) (start : Start) (answers : List Answer) : List LogRecord :=
  Script.readStrictLog text ++
    match Script.readStrict text with
    | .error _ => []
    | .ok script =>
      match startTitle script start with
      | .error _ => []
      | .ok title =>
        startLog script title ++
          match Session.start script {} title with
          | .error _ => []
          | .ok s => driveLog script (maxEvents - 1) s none answers

/-- An event as a JSON object; options go without their detours. -/
def ofEvent (e : Event) : Json :=
  let node := ("node", Json.str e.node.title)
  match e with
  | .line speaker text _ =>
    .obj [("type", .str "line"), node, ("speaker", .ofOption .str speaker), ("text", .str text)]
  | .choice options _ =>
    .obj [("type", .str "choice"), node, ("options", .arr (options.map fun o =>
      .obj [("text", .str o.text), ("target", .ofOption .str o.target),
        ("visited", .bool o.visited)]))]
  | .command c _ =>
    .obj [("type", .str "command"), node, ("command", .str c.name), ("args", .strings c.args)]

def Result.members (r : Result) : List (String × Json) :=
  let p := r.playback
  [("start", .str r.start), ("events", .arr (p.events.map ofEvent)),
    ("ended", .bool (p.ending == .ended)), ("waiting", .bool (p.ending == .waiting)),
    ("truncated", .bool (p.ending == .truncated)),
    ("visited", .strings (p.state.visited.mergeSort (· ≤ ·)))]

namespace Failure

def message : Failure → String
  | structural i => i.message
  | noNodes => "Script defines no nodes"
  | session f => f.message

end Failure
end Replay
end Dialogue
