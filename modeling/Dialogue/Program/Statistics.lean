import Dialogue.Body
import Dialogue.Graph
import Dialogue.Number.Shortest
import Dialogue.Program.Basic

/-! Statistics of a script file: what its nodes hold on a first visit. -/
namespace Dialogue.Program
open Terminal Text

/-- Counts over the nodes of a script. -/
structure Statistics where
  speakers : Nat
  nodes : Nat
  lines : Nat
  options : Nat
  commands : Nat
  branching : Nat
  jumps : Nat
  deadEnds : Nat
  examined : Nat
  deriving DecidableEq, Repr

namespace Statistics

def isDeadEnd (c : Compiled) : Bool := c.options.isEmpty && c.jump.isNone && c.command.isNone

def ofScript (s : Script) : Statistics :=
  let compiled := s.nodes.map (·.compile [])
  { speakers := s.speakers.length
    nodes := compiled.length
    lines := compiled.foldl (fun n c => n + c.lines.length) 0
    options := compiled.foldl (fun n c => n + c.options.length) 0
    commands := compiled.countP (·.command.isSome)
    branching := compiled.countP (1 < ·.options.length)
    jumps := compiled.countP (·.jump.isSome)
    deadEnds := compiled.countP isDeadEnd
    examined := compiled.countP (·.tags.contains examineTag) }

/-- The nearest binary number to a count for each node; without nodes it is zero. -/
def perNode (s : Statistics) (count : Nat) : String :=
  (if s.nodes = 0 then Binary64.zero false else .ofRatio false count s.nodes).oneDecimal

def entry (label value : String) : String := s!"  {label}{padStart 6 value}"

def report (name : String) (s : Statistics) : List String :=
  [s!"\n📊 Statistics for {name}", row 50 '=', "\n📝 Content:",
    entry "Speakers:       " (toString s.speakers), entry "Nodes:          " (toString s.nodes),
    entry "Dialogue lines: " (toString s.lines), entry "Options:        " (toString s.options),
    entry "Commands:       " (toString s.commands), "\n📈 Averages:",
    entry "Options per node: " (s.perNode s.options),
    entry "Lines per node:   " (s.perNode s.lines), "\n🌳 Structure:",
    entry "Branching nodes: " (toString s.branching), entry "Jump nodes:      " (toString s.jumps),
    entry "Dead ends:       " (toString s.deadEnds),
    entry "Examine entries: " (toString s.examined), ""]

end Statistics

/-- A failure to get at a script, as most commands take it: an unexpected one is not handled. -/
def refuse (w : World) (f : ScriptFailure) : Outcome :=
  let told := .stop w 1 [.complaint s!"\n❌ Error: {f.message}"]
  match f with
  | .read f => if f.isExpected then told else .crashed w (.read f)
  | .structural _ => told

def statistics (w : World) (p : Path) : Outcome :=
  let log := notes (readScriptLog w p)
  match readScript w p with
  | .error f => (refuse w f).after log
  | .ok script =>
    .stop w 0 (log ++ notes (script.nodes.flatMap Node.compileLog) ++
      ((Statistics.ofScript script).report p.name).map .plainLine)

end Dialogue.Program
