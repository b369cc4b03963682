import Dialogue.Settings
import Dialogue.Terminal.Style

/-! Output of a program, in the order in which it is made: text for either stream, and notes for
the log, which go to the first stream if they reach the threshold. -/
namespace Dialogue.Terminal

inductive Output where
  | out (text : String)
  | err (text : String)
  | note (record : LogRecord)
  deriving DecidableEq, Repr

namespace Output

/-- A line as it is. -/
def line (s : String) : Output := .out (s ++ "\n")

/-- A line without control sequences. -/
def plainLine (s : String) : Output := .out (plain s ++ "\n")

/-- A line on the second stream, without control sequences. -/
def complaint (s : String) : Output := .err (plain s ++ "\n")

def stdoutPart (time : String) (threshold : LogLevel) : Output → String
  | out s => s
  | err _ => ""
  | note r => LogRecord.lines [r] time threshold

def stderrPart : Output → String
  | err s => s
  | _ => ""

def record? : Output → Option LogRecord
  | note r => some r
  | _ => none

end Output

/-- All of the first stream, with the time at which it was made. -/
def stdout (os : List Output) (time : String) (threshold : LogLevel) : String :=
  String.join (os.map (·.stdoutPart time threshold))

/-- All of the second stream. -/
def stderr (os : List Output) : String := String.join (os.map Output.stderrPart)

def records (os : List Output) : List LogRecord := os.filterMap Output.record?

def notes (rs : List LogRecord) : List Output := rs.map .note

end Dialogue.Terminal
