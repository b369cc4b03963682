import Dialogue.Files.Path
import Dialogue.Graph
import Dialogue.Log
import Dialogue.Text.Blank

/-! Settings: what the environment and the arguments of a program decide, and which log records
are shown. -/
namespace Dialogue

structure Environment where
  verbose : Option String := none
  dialoguesRoot : Option String := none
  deriving DecidableEq, Repr

def verboseVariable : String := "GAB_FORGE_VERBOSE"
def dialoguesRootVariable : String := "GAB_FORGE_DIALOGUES_ROOT"

/-- The words that switch a flag on, in any case and with blanks around. -/
def onWords : List String := ["1", "true", "yes", "on"]

namespace Environment

def isVerbose (e : Environment) : Bool :=
  onWords.contains (Text.lowerAscii (Text.trim (e.verbose.getD "")))

end Environment

structure Settings where
  root : Path
  verbose : Bool
  terminating : List String
  deriving DecidableEq, Repr

namespace Settings

def given? (s : Option String) : Option String := s.filter fun s => !s.isEmpty

/-- An explicit root goes before the variable, and that before the directory `dialogue` below the
current one. An empty text gives nothing. -/
def read (e : Environment) (cwd : Path) (root : Option String) : Settings where
  root := match given? root with
    | some r => .ofString r
    | none => match given? e.dialoguesRoot with
      | some r => .ofString r
      | none => cwd.child "dialogue"
  verbose := e.isVerbose
  terminating := defaultTerminating

def threshold (e : Environment) (verbose : Bool) : LogLevel :=
  if verbose || e.isVerbose then .debug else .warning

end Settings

def LogRecord.opening : LogRecord :=
  ⟨.debug, "root", "Logging initialized with VERBOSE mode (DEBUG level)"⟩

/-- A record as a line of output, with the time at which it was made. -/
def LogRecord.line (r : LogRecord) (time : String) : String :=
  s!"{time} - {r.logger} - {r.level.text} - {r.message}\n"

/-- The lines of the records that reach the threshold. -/
def LogRecord.lines (rs : List LogRecord) (time : String) (threshold : LogLevel) : String :=
  String.join ((rs.filter fun r => threshold.rank ≤ r.level.rank).map (·.line time))

end Dialogue
