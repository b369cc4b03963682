import Dialogue.Player.Play
import Dialogue.Program.Statistics

/-! Playing a script file on the terminal. -/
namespace Dialogue.Program
open Terminal

inductive PlayFailure where
  | script (f : ScriptFailure)
  | noNodes (path : String)
  | session (f : Session.Failure)
  deriving DecidableEq, Repr

namespace PlayFailure

def message : PlayFailure → String
  | script f => f.message
  | noNodes path => s!"No nodes found in {path}"
  | session f => f.message

end PlayFailure

/-- What was shown, what went wrong if something did, and whether more input was wanted. -/
structure Showing where
  output : List Output := []
  failure : Option PlayFailure := none
  wantsInput : Bool := false
  deriving DecidableEq, Repr

/-- Plays a script from a start; an empty title stands for the first node. -/
def playScript (w : World) (script : Script) (p : Path) (start : Option String) : Showing :=
  match script.nodes with
  | [] => { failure := some (.noNodes p.text) }
  | n :: _ =>
    let title := (Settings.given? start).getD n.title
    let performance := Player.perform script title w.width w.lines
    { output := performance.output
      wantsInput := performance.ending = .unanswered
      failure := match performance.ending with
        | .failed f => some (.session f)
        | _ => none }

def playFile (w : World) (p : Path) (start : Option String) : Showing :=
  let log := notes (readScriptLog w p)
  match readScript w p with
  | .error f => { output := log, failure := some (.script f) }
  | .ok script =>
    let showing := playScript w script p start
    { showing with output := log ++ showing.output }

/-- What comes of a showing, where `tell` deals with a failure. -/
def Showing.outcome (w : World) (tell : PlayFailure → Outcome) (s : Showing) : Outcome :=
  let o : Outcome := match s.failure with
    | none => { tree := w.tree, wantsInput := s.wantsInput }
    | some f => tell f
  o.after s.output

def play (w : World) (p : Path) (start : Option String) : Outcome :=
  (playFile w p start).outcome w fun
    | .script f => refuse w f
    | f => .stop w 1 [.complaint s!"\n❌ Error: {f.message}"]

def playFailed : LogRecord := ⟨.debug, "gab_forge.cli.play_cmd", "Playback failed"⟩

/-- Plays a file that may be missing or named in an unusual way. Nothing is made of a file that
cannot be read. -/
def playOrMiss (w : World) (p : Path) (start : Option String) : Outcome :=
  match w.tree.isThere w.cwd p with
  | .error e => .crashed w (.read (.file e))
  | .ok false => .stop w 1 [.line s!"❌ File not found: {p.text}"]
  | .ok true =>
    let warning :=
      if p.suffix = ".gab" then [] else [.line "⚠️  Warning: File doesn't have .gab extension"]
    ((playFile w p start).outcome w fun
      | .script (.read f) => .crashed w (.read f)
      | f => .stop w 1 [.line s!"\n❌ Error: {f.message}", .note playFailed]).after warning

end Dialogue.Program
