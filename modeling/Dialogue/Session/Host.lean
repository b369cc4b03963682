import Dialogue.Session.Trail
import Dialogue.Script.Reader
import Dialogue.Text.Quoted

/-! A host driving a session: command handlers, what is called during a step, and questions about
the current state. -/
namespace Dialogue.Session

/-- What a handler does beside noting its call. -/
inductive Handler where
  | record
  | fail
  | advance
  deriving DecidableEq, Repr

structure Host where
  script : Script
  handlers : Table Handler
  state : State
  deriving DecidableEq, Repr

/-- Something a handler noted: its call, or the event of a step that it made itself. -/
inductive Call where
  | handled (name : String) (args : List String)
  | nested (event : Option Event)
  deriving DecidableEq, Repr

inductive HostFailure where
  | session (f : Failure)
  | handler (name : String)
  | nesting
  deriving DecidableEq, Repr

/-- A script that cannot be hosted: a structural problem, or handlers for unknown commands. -/
inductive SetupFailure where
  | structural (i : Issue)
  | unknownHandlers (names : List String)
  deriving DecidableEq, Repr

/-- All that comes of a step: the host after it, the calls, the log, and the event or failure. -/
structure Outcome where
  host : Host
  calls : List Call := []
  log : List LogRecord := []
  result : Except HostFailure (Option Event)

namespace Host

def create (script : Script) (handlers : Table Handler) (visited : List String) :
    Except SetupFailure Host :=
  let unknown := (handlers.keys.filter fun n => !commandNames.contains n).mergeSort (· ≤ ·)
  if unknown.isEmpty then
    .ok ⟨script, handlers, { visited := visited.foldl visit [] }⟩
  else .error (.unknownHandlers unknown)

def ofText (text : String) (handlers : Table Handler) (visited : List String) :
    Except SetupFailure Host :=
  match Script.readStrict text with
  | .error i => .error (.structural i)
  | .ok script => create script handlers visited

/-- A new session over the same script that remembers what was visited. -/
def renew (h : Host) : Host := { h with state := { visited := h.state.visited } }

/-- A failed start leaves the state as it was. -/
def start (h : Host) (title : String) : Outcome :=
  let log := startLog h.script title
  match Session.start h.script h.state title with
  | .error f => { host := h, log, result := .error (.session f) }
  | .ok s => { host := { h with state := s }, log, result := .ok none }

/-- Most steps that handlers make within each other before the stack is used up. -/
def maxNesting : Nat := 490

/-- One step and then the handler of its command, if it shows one. The state is stored before the
handler runs, so a failing handler does not undo the step. `depth` bounds the steps that handlers
make within each other. -/
def advance : Nat → Host → Option Answer → Outcome
  | 0, h, _ => { host := h, result := .error .nesting }
  | depth + 1, h, answer =>
    let log := stepLog h.script h.state answer
    match step h.script h.state answer with
    | .error f => { host := h, log, result := .error (.session f) }
    | .ok (s, event) =>
      let h := { h with state := s }
      match event with
      | some (.command c node) =>
        match h.handlers.get? c.name with
        | none => { host := h, log, result := .ok event }
        | some handler =>
          let calls := [Call.handled c.name c.args]
          let log := log ++ [note s!"Running handler for {c.name} {Text.quotedList c.args}"]
          match handler with
          | .record => { host := h, calls, log, result := .ok (some (.command c node)) }
          | .fail => { host := h, calls, log, result := .error (.handler c.name) }
          | .advance =>
            let inner := advance depth h none
            match inner.result with
            | .error f =>
              { host := inner.host, calls := calls ++ inner.calls, log := log ++ inner.log,
                result := .error f }
            | .ok e =>
              { host := inner.host, calls := calls ++ inner.calls ++ [.nested e],
                log := log ++ inner.log, result := .ok event }
      | _ => { host := h, log, result := .ok event }

def next (h : Host) (answer : Option Answer) : Outcome := advance maxNesting h answer

def isVisited (h : Host) (title : String) : Bool := h.state.visited.contains title

def animation? (h : Host) (name : String) : Option (Option String) :=
  (h.script.speakers.get? name).map (·.animation)

/-- The animation of the active speaker; its name if that speaker is not defined. -/
def currentAnimation (h : Host) : Except String (Option String) :=
  match h.state.activeSpeaker with
  | none => .ok none
  | some name =>
    match h.animation? name with
    | some a => .ok a
    | none => .error name

def isExamining (h : Host) : Bool := h.state.content.any (·.tags.contains "examine")

def pending? (h : Host) : Option Event := do
  let options ← h.state.pending
  let node ← h.state.content
  return .choice options node

end Host
end Dialogue.Session
