import Dialogue.Terminal.Output
import Dialogue.Validation

/-! The report of a validation: in full with every diagnostic in its context, and in brief. -/
namespace Dialogue.Program
open Terminal Text

/-- How the diagnostics of one kind are set off. -/
structure Severity where
  look : Look
  heading : String
  deriving DecidableEq, Repr

namespace Severity

def error : Severity := ⟨.brightRed, "❌ ERRORS"⟩
def warning : Severity := ⟨.brightYellow, "⚠️  WARNINGS"⟩

end Severity

namespace ValidationReport

def rule : String := paint [.bold] (row 80 '=')

/-- A diagnostic with its source line, unless that is blank, and what to do about it. -/
def issue (look : Look) (d : Diagnostic) : List String :=
  let place := paint [look, .bold] s!"Line {d.line}"
  let number := paint [look] (padStart 4 (toString d.line))
  [s!"\n  {place} - {paint [.bold] d.message}"] ++
  ((d.context.filter fun c => !c.isEmpty).map fun c => s!"    {number} │ {c}").toList ++
  (d.suggestion.map fun a => "    " ++ paint [.brightCyan] "💡 Suggestion:" ++ s!" {a}").toList

/-- The diagnostics of one kind by line, under their number. -/
def group (s : Severity) (ds : List Diagnostic) : List String :=
  if ds.isEmpty then []
  else ("\n" ++ paint [s.look, .bold] s!"{s.heading} ({ds.length}):") ::
    (Validation.byLine ds).flatMap (issue s.look)

def statistics (v : Validation) : List String :=
  let entry (name value : String) := s!"  • {name}: {paint [.brightCyan] value}"
  ["\n" ++ paint [.bold, .brightBlue] "📊 STATISTICS:",
    entry "Nodes" (toString v.script.nodes.length),
    entry "Speakers" (toString v.script.speakers.length), entry "Start node" v.start,
    entry "Total lines" (toString v.lines.length)]

def verdict (v : Validation) : String :=
  if v.ok then paint [.brightGreen, .bold] "✅ VALIDATION PASSED WITH WARNINGS"
  else paint [.brightRed, .bold] "❌ VALIDATION FAILED"

def summary (v : Validation) : List String :=
  if v.errors.isEmpty && v.warnings.isEmpty then
    ["\n" ++ paint [.brightGreen, .bold] "✅ VALIDATION PASSED - No issues found!"]
  else
    let errors := paint [.brightRed] s!"{v.errors.length} error(s)"
    let warnings := paint [.brightYellow] s!"{v.warnings.length} warning(s)"
    group .error v.errors ++ group .warning v.warnings ++
      ["\n" ++ rule, paint [.bold] "Summary:" ++ s!" {errors}, {warnings}", verdict v]

/-- The full report on a file of this name. -/
def full (name : String) (v : Validation) : List Output :=
  (["\n" ++ rule, Look.on .bold ++ "VALIDATION REPORT: " ++ paint [.brightCyan] name, rule] ++
    summary v ++ statistics v).map .line

/-- A diagnostic in one line. -/
def brief (d : Diagnostic) : String := s!"  • Line {d.line}: {d.message}"

/-- The counts and the diagnostics in the order found; errors go to the second stream. -/
def short (name : String) (v : Validation) : List Output :=
  [.plainLine s!"\n📄 File: {name}", .plainLine (row 40 '-'),
    .plainLine s!"Nodes: {v.script.nodes.length}",
    .plainLine s!"Speakers: {v.script.speakers.length}", .plainLine s!"Start node: {v.start}"] ++
  (if v.errors.isEmpty then []
    else .plainLine "\n❌ Errors:" :: v.errors.map fun d => .complaint (brief d)) ++
  (if v.warnings.isEmpty then []
    else .plainLine "\n⚠️  Warnings:" :: v.warnings.map fun d => .plainLine (brief d))

end ValidationReport
end Dialogue.Program
