import Dialogue.Player.Reply
import Dialogue.Player.Screen
import Dialogue.Session.Replay
import Dialogue.Terminal.Output
import Dialogue.Text.Quoted

/-! Playing a dialogue on a terminal: every event is shown, and the choices are answered by lines
of input. -/
namespace Dialogue.Player
open Session Terminal

/-- Why a performance stopped: the dialogue was over, the player quit, there was no answer to a
choice, the session failed, or the dialogue goes on and on without a choice. -/
inductive Ending where
  | over
  | quit
  | unanswered
  | failed (f : Failure)
  | endless
  deriving DecidableEq, Repr

structure Performance where
  events : List Event
  output : List Output
  ending : Ending
  deriving DecidableEq, Repr

namespace Performance

def before (output : List Output) (p : Performance) : Performance :=
  { p with output := output ++ p.output }

/-- One event more, and what was shown from it on. -/
def cons (e : Event) (output : List Output) (p : Performance) : Performance :=
  { p with events := e :: p.events, output := output ++ p.output }

end Performance

/-- What comes of asking: an option by its index with the lines of input that are left, a wish to
quit, or the end of the input. -/
inductive Pick where
  | option (index : Nat) (left : List String)
  | quit
  | unanswered
  deriving DecidableEq, Repr

def ask (columns : Nat) (s : State) (commands : List String) (options : List Choice) :
    List String → List Output × Pick
  | [] => ([.out prompt], .unanswered)
  | line :: lines =>
    let again (said : List String) :=
      let (output, pick) := ask columns s commands options lines
      (.out prompt :: (said.map Output.line ++ output), pick)
    match Reply.ofLine line with
    | .quit => ([.out prompt], .quit)
    | .state => again (stateLines s commands)
    | .unclear => again [unclearAnswer]
    | .number n =>
      match if 1 ≤ n then options[n.toNat - 1]? else none with
      | some o =>
        ([.out prompt, .line (box columns .brightGreen "You" o.text)],
          .option (n.toNat - 1) lines)
      | none => again [wrongNumber]

def handledCommands : List String := ["loadPuzzle", "loadLevel"]

def isHandled (c : Command) : Bool := handledCommands.contains c.name

def commandText (c : Command) : String := Text.trim (" ".intercalate (c.name :: c.args))

def handled (c : Command) : List Output :=
  if isHandled c then
    [.note (note s!"Running handler for {c.name} {Text.quotedList c.args}"), .line (commandLine c)]
  else []

/-- The title of the current node, if it is not the one shown last. -/
def header (s : State) (shown : Option String) : List Output :=
  if s.current = shown then [] else [.line (nodeHeader (Failure.shownTitle s.current))]

/-- Steps from a state with at most so many events, the lines of input going to the choices.
`shown` is the title shown last, and `commands` lists the commands handled so far. -/
def drive (script : Script) (columns : Nat) :
    Nat → State → Option Answer → List String → Option String → List String → Performance
  | 0, _, _, _, _, _ => ⟨[], [], .endless⟩
  | n + 1, s, input, lines, shown, commands =>
    let log := notes (stepLog script s input)
    match step script s input with
    | .error f => ⟨[], log, .failed f⟩
    | .ok (s', none) => ⟨[], log ++ (finale ++ stateLines s' commands).map .line, .over⟩
    | .ok (s', some e) =>
      match e with
      | .line speaker text _ =>
        (drive script columns n s' none lines s'.current commands).cons e
          (log ++ header s' shown ++ (speechLines script columns speaker text).map .line)
      | .command c _ =>
        let commands := if isHandled c then commands ++ [commandText c] else commands
        (drive script columns n s' none lines s'.current commands).cons e
          (log ++ handled c ++ header s' shown)
      | .choice options _ =>
        let (asked, pick) := ask columns s' commands options lines
        let output := log ++ header s' shown ++ (optionLines options).map .line ++ asked
        match pick with
        | .quit => ⟨[e], output ++ [.line farewell], .quit⟩
        | .unanswered => ⟨[e], output ++ [.line farewell], .unanswered⟩
        | .option i lines =>
          (drive script columns n s' (some (.ofInt i)) lines s'.current commands).cons e output

def longestBody (script : Script) : Nat := (script.nodes.map (·.body.length)).foldl max 0

/-- More events than a dialogue shows under `k` lines of input before it stops, unless it goes on for
ever. Between two choices it can only enter a new node, return from a detour, or jump to a node that
it has not been to since. No replay is longer. -/
def eventBound (script : Script) (k : Nat) : Nat :=
  Replay.maxEvents +
    (k + 1) * (script.nodes.length + k + 2) * (script.nodes.length + 2) * (longestBody script + 3)

def perform (script : Script) (title : String) (columns : Nat) (lines : List String) :
    Performance :=
  let opening := banner.map Output.line ++ notes (startLog script title)
  match Session.start script {} title with
  | .error f => ⟨[], opening, .failed f⟩
  | .ok s =>
    (drive script columns (eventBound script lines.length) s none lines none []).before opening

end Dialogue.Player
