import Dialogue.Files.Tree
import Dialogue.Region.Room
import Dialogue.Script.Reader
import Dialogue.Terminal.Output

/-! Programs: what surrounds one, what it leaves behind, and how it takes its input files. -/
namespace Dialogue.Program
open Terminal

structure World where
  tree : FileTree
  cwd : Place
  environment : Environment := {}
  columns : Nat := 80
  input : String := ""

def usualColumns : Nat := 80

namespace World

/-- The width of the terminal; zero is no width. -/
def width (w : World) : Nat := if w.columns = 0 then usualColumns else w.columns

def cwdPath (w : World) : Path := ⟨"/", w.cwd⟩

/-- The lines of the standard input, which end in line feeds. -/
def lines (w : World) : List String := Text.linesEnded w.input

end World

/-- A failure that a program does not make a message of. -/
inductive Crash where
  | read (f : ReadFailure)
  | rooms (f : RoomFailure)
  deriving DecidableEq, Repr

/-- What a program leaves behind. One that stopped where more input would have let it go on has its
last output about that. -/
structure Outcome where
  output : List Output := []
  exit : Nat := 0
  threshold : LogLevel := .warning
  crash : Option Crash := none
  tree : FileTree
  wantsInput : Bool := false

namespace Outcome

def after (earlier : List Output) (o : Outcome) : Outcome :=
  { o with output := earlier ++ o.output }

def atThreshold (level : LogLevel) (o : Outcome) : Outcome := { o with threshold := level }

def stop (w : World) (exit : Nat) (output : List Output) : Outcome :=
  { output, exit, tree := w.tree }

/-- An end by a failure that nobody handles. -/
def crashed (w : World) (c : Crash) : Outcome := { exit := 1, crash := some c, tree := w.tree }

end Outcome

/-- Why there is no script: its file cannot be read, or it has a structural problem. -/
inductive ScriptFailure where
  | read (f : ReadFailure)
  | structural (i : Issue)
  deriving DecidableEq, Repr

namespace ScriptFailure

def message : ScriptFailure → String
  | read f => f.message
  | structural i => i.message

end ScriptFailure

def readScript (w : World) (p : Path) : Except ScriptFailure Script :=
  match w.tree.readText w.cwd p with
  | .error f => .error (.read f)
  | .ok text => (Script.readStrict text).mapError .structural

def readScriptLog (w : World) (p : Path) : List LogRecord :=
  match w.tree.readText w.cwd p with
  | .error _ => []
  | .ok text => Script.readStrictLog text

end Dialogue.Program
