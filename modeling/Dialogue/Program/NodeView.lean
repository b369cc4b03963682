import Dialogue.Program.Statistics

/-! A view of one node of a script file, as it is on a first visit. -/
namespace Dialogue.Program
open Terminal Text

namespace NodeView

def optionText (o : Choice) : String :=
  let arrow := if o.detour then "detour" else "jump"
  let target := o.target.getD "?"
  s!"  -> {o.text}  [{arrow} {target}]"

def commandText (c : Command) : String :=
  trimEnd ("\n⚡ Command: " ++ c.name ++ " " ++ " ".intercalate c.args)

def titled (heading : String) (lines : List String) : List String :=
  if lines.isEmpty then [] else heading :: lines

def lines (c : Compiled) (sourceLine : Nat) : List String :=
  [s!"\n📍 Node: [{c.title}] (line {sourceLine})", row 50 '='] ++
  (if c.tags.isEmpty then []
    else ["\n🏷  Tags: " ++ ", ".intercalate (c.tags.eraseDups.mergeSort (· ≤ ·))]) ++
  titled "\n💬 Dialogue:" (c.lines.map fun l => s!"  {l}") ++
  titled "\n🔀 Options:" (c.options.map optionText) ++
  (c.jump.map fun t => s!"\n↪  Jump: {t}").toList ++ (c.command.map commandText).toList ++ [""]

/-- How many titles are named where one is not found. -/
def maxTitles : Nat := 20

/-- The first titles in order, and how many there are beyond them. -/
def available (titles : List String) : List String :=
  let more := titles.length - maxTitles
  ["\nAvailable nodes:"] ++
  ((titles.mergeSort (· ≤ ·)).take maxTitles).map (fun t => s!"  • {t}") ++
  (if more = 0 then [] else [s!"  ... and {more} more"])

end NodeView

def showNode (w : World) (p : Path) (title : String) : Outcome :=
  let log := notes (readScriptLog w p)
  match readScript w p with
  | .error f => (refuse w f).after log
  | .ok script =>
    match script.node? title with
    | none =>
      .stop w 1 (log ++ [.complaint s!"❌ Node '{title}' not found in {p.name}"] ++
        (NodeView.available script.nodeTable.keys).map .plainLine)
    | some n =>
      .stop w 0 (log ++ notes n.compileLog ++
        (NodeView.lines (n.compile []) n.line).map .plainLine)

end Dialogue.Program
