import Dialogue.Graph
import Dialogue.Lint
import Dialogue.Script.Reader

/-! Validation: structural problems and missing targets are errors, what the graph and the lints
find are warnings. -/
namespace Dialogue

structure Diagnostic where
  line : Nat
  message : String
  context : Option String := none
  suggestion : Option String := none
  deriving DecidableEq, Repr

namespace Diagnostic

/-- Every diagnostic points at the start of its line. -/
def column : Nat := 1

end Diagnostic

/-- All that is found of a source text, errors and warnings each in the order found. -/
structure Validation where
  lines : List String
  script : Script
  start : String
  report : Graph.Report
  errors : List Diagnostic
  warnings : List Diagnostic
  deriving DecidableEq, Repr

namespace Validation

def ok (v : Validation) : Bool := v.errors.isEmpty

/-- A diagnostic on a source line, with the line itself if there is one. -/
def diagnostic (lines : List String) (line : Nat) (message : String)
    (suggestion : Option String) : Diagnostic where
  line := line
  message := message
  context := if 0 < line then (lines[line - 1]?).map Text.trimEnd else none
  suggestion := suggestion

/-- The first definition's line, and the first line for a title without one. -/
def nodeLine (s : Script) (title : String) : Nat :=
  match s.nodes.find? (·.title == title) with
  | some n => n.line
  | none => 1

def duplicateAdvice : String := "The last definition wins at runtime; rename one of them"

def endingAdvice : String :=
  "Every path should reach a loadPuzzle/loadLevel command, a dead end or a node tagged 'final'"

def commandAdvice : String := "Split the commands across nodes joined with <<jump>>"

/-- Definitions whose title was defined before. -/
def duplicates : List String → List Node → List Node
  | _, [] => []
  | known, n :: ns =>
    if known.contains n.title then n :: duplicates known ns
    else duplicates (n.title :: known) ns

/-- The title that a start stands for, as it is shown; the first node is the usual start. -/
def startTitle (s : Script) : Start → String
  | .title name => name
  | .foreign shown => shown
  | .unspecified => ((s.nodes.head?).map (·.title)).getD ""

/-- The title to search the graph from. -/
def startNode? (s : Script) : Start → Option String
  | .foreign _ => none
  | start => some (startTitle s start)

def hasStart (s : Script) (start : Start) : Bool := (startNode? s start).any s.hasTitle

def titleErrors (s : Script) (start : Start) : List (Nat × String × Option String) :=
  (duplicates [] s.nodes).map (fun n =>
    (n.line, s!"Duplicate node title '{n.title}'", some duplicateAdvice)) ++
  if s.nodes.isEmpty || hasStart s start then []
  else [(1, s!"Start node '{startTitle s start}' does not exist", none)]

def graphErrors (s : Script) (r : Graph.Report) : List (Nat × String × Option String) :=
  r.dangling.map fun (source, target) =>
    (nodeLine s source, s!"Node '{source}' references missing node '{target}'", none)

def graphWarnings (s : Script) (r : Graph.Report) : List (Nat × String × Option String) :=
  r.unreachable.map (fun t => (nodeLine s t, s!"Unreachable node: {t}", none)) ++
  r.nonterminating.map fun t => (nodeLine s t, s!"Non-terminating node: {t}", some endingAdvice)

def lintWarnings (s : Script) : List (Nat × String × Option String) :=
  s.undefinedSpeakers.map (fun i =>
    (i.line, s!"Speaker '{i.speaker}' is not defined (node '{i.node}')", none)) ++
  s.multipleCommands.map fun t =>
    (nodeLine s t, s!"Node '{t}' has more than one command; only the last one runs",
      some commandAdvice)

def run (text : String) (start : Start) (terminating : List String) : Validation :=
  let lines := Text.splitLines text
  let (script, issues) := Script.read text
  let report := Graph.report script (startNode? script start) terminating
  let place (found : List (Nat × String × Option String)) : List Diagnostic :=
    found.map fun (line, message, suggestion) => diagnostic lines line message suggestion
  { lines, script, report
    start := startTitle script start
    errors := place (issues.map (fun i => (i.line, i.text, none)) ++ titleErrors script start ++
      graphErrors script report)
    warnings := place (
      (if script.nodes.isEmpty then [(1, "File defines no nodes", none)] else []) ++
        graphWarnings script report ++ lintWarnings script) }

/-- With an error for every finding about a region. Regions are not on any line. -/
def withRegions (v : Validation) (found : Table (List String)) : Validation :=
  { v with errors := v.errors ++ found.flatMap fun (place, messages) =>
      messages.map fun m => diagnostic v.lines 0 s!"Examine region {place}: {m}" none }

/-- Diagnostics by line, those of one line in the order found. -/
def byLine (ds : List Diagnostic) : List Diagnostic := ds.mergeSort fun a b => a.line ≤ b.line

end Validation
end Dialogue
