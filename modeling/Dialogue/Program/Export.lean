import Dialogue.Export
import Dialogue.Program.Basic

/-! Exporting a script file to a JSON file. -/
namespace Dialogue.Program
open Terminal

def exportWarnings (issues : List Issue) : List Output :=
  if issues.isEmpty then []
  else .line "⚠️  Warning: Dialogue has structural issues:" ::
    issues.map fun i => .line s!"  • {i.message}"

/-- What an export shows up to its success, the files after it, and why it failed if it did. The
output goes beside the source unless a place is given. -/
def exportFile (w : World) (source : Path) (target : Option Path) :
    List Output × FileTree × Option ReadFailure :=
  match w.tree.readText w.cwd source with
  | .error f => ([], w.tree, some f)
  | .ok text =>
    let (script, issues) := Script.read text
    let target := target.getD (source.withSuffix ".json")
    let before := notes (Script.readLog text none) ++ exportWarnings issues
    match w.tree.writeText w.cwd target (Export.text script) with
    | .error (tree, e) => (before, tree, some (.file e))
    | .ok tree =>
      (before ++ notes (Export.log script) ++ [.line s!"✅ Exported to: {target.text}",
        .line s!"   • {script.nodes.length} nodes",
        .line s!"   • {script.speakers.length} speakers"], tree, none)

/-- An export that tells of an expected failure by `tell`. -/
def exportTelling (w : World) (source : Path) (target : Option Path)
    (tell : String → Output) : Outcome :=
  match exportFile w source target with
  | (output, tree, none) => { output, tree }
  | (output, tree, some f) =>
    if f.isExpected then { output := output ++ [tell f.message], exit := 1, tree }
    else { output, exit := 1, crash := some (.read f), tree }

def exportScript (w : World) (source : Path) (target : Option Path) : Outcome :=
  exportTelling w source target fun m => .complaint s!"\n❌ Error: {m}"

def exportOrMiss (w : World) (source : Path) (target : Option Path) : Outcome :=
  match w.tree.isThere w.cwd source with
  | .error e => .crashed w (.read (.file e))
  | .ok false => .stop w 1 [.line s!"❌ File not found: {source.text}"]
  | .ok true => exportTelling w source target fun m => .line s!"❌ Export failed: {m}"

end Dialogue.Program
