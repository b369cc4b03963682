import Dialogue.Session.Step

/-! The trail of a step: what it notes of the nodes it enters, also when it fails on the way. -/
namespace Dialogue.Session

def logger : String := "gab_forge.runtime.session"

def note (message : String) : LogRecord := ⟨.debug, logger, message⟩

def gotoLog (script : Script) (title : String) (returning : Bool) : List LogRecord :=
  if title.isEmpty then []
  else match script.node? title with
    | none => []
    | some node =>
      let suffix := if returning then " (returning to choices)" else ""
      node.compileLog ++ [note s!"Entering node '{title}'{suffix}"]

def navigateLog (script : Script) (s : State) : List LogRecord :=
  match s.content.bind (·.jump) with
  | some title => gotoLog script title false
  | none =>
    match s.returnStack.getLast? with
    | some caller => gotoLog script caller true
    | none => [note s!"Dialogue ended at node '{Failure.shownTitle s.current}'"]

def resolveLog (script : Script) (s : State) (a : Answer) : List LogRecord :=
  match (s.pending.bind (option? · a)).bind (·.target) with
  | some target => gotoLog script target false
  | none => []

def settleLog (script : Script) : Nat → List Key → State → List LogRecord
  | 0, _, _ => []
  | n + 1, seen, s =>
    if s.phase = .emitting && s.content.any (isSilent s) && !seen.contains s.key then
      navigateLog script s ++
        match navigate script s with
        | .error _ => []
        | .ok s' => settleLog script n (s.key :: seen) s'
    else []

def startLog (script : Script) (title : String) : List LogRecord := gotoLog script title false

def proceedLog (script : Script) (s : State) (answer : Option Answer) : List LogRecord :=
  match s.phase, answer with
  | .choicePending, some a => resolveLog script s a
  | .commandPending, none => navigateLog script s
  | _, _ => []

def stepLog (script : Script) (s : State) (answer : Option Answer) : List LogRecord :=
  proceedLog script s answer ++
    match proceed script s answer with
    | .error _ => []
    | .ok s' => settleLog script (settleBound script s') [] s'

end Dialogue.Session
