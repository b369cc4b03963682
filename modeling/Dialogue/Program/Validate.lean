import Dialogue.Program.Basic
import Dialogue.Program.ValidationReport
import Dialogue.Region.Room

/-! Validating a script file, and the regions that open its nodes. -/
namespace Dialogue.Program
open Terminal

/-- The validation of a file, and of regions against the scripts beside it. -/
def validation (w : World) (p : Path) (start : Start) (regions : Option Path) :
    Except RoomFailure Validation :=
  match w.tree.readText w.cwd p with
  | .error f => .error (.read f)
  | .ok text =>
    let v := Validation.run text start defaultTerminating
    match regions with
    | none => .ok v
    | some r => do
      let rooms ← Rooms.load w.tree w.cwd r
      return v.withRegions (← Rooms.check rooms w.tree w.cwd p.parent)

def validationLog (w : World) (p : Path) (regions : Option Path) : List LogRecord :=
  match w.tree.readText w.cwd p with
  | .error _ => []
  | .ok text =>
    Script.readLog text none ++
      match regions.map (Rooms.load w.tree w.cwd) with
      | some (.ok rooms) => Rooms.checkLog rooms w.tree w.cwd p.parent
      | _ => []

def validate (w : World) (p : Path) (start : Start) (regions : Option Path) (detailed : Bool) :
    Outcome :=
  let log := notes (validationLog w p regions)
  match validation w p start regions with
  | .error f =>
    if f.isExpected then .stop w 1 (log ++ [.complaint s!"\n❌ Error: {f.message}"])
    else (Outcome.crashed w (.rooms f)).after log
  | .ok v =>
    let report :=
      if detailed then ValidationReport.full p.name v else ValidationReport.short p.name v
    if v.ok then .stop w 0 (log ++ report ++ [.plainLine "\n✅ Validation passed!"])
    else .stop w 1 (log ++ report ++ [.complaint "\n❌ Validation failed!"])

/-- The full report on a file that may be missing. Nothing is made of other failures. -/
def validateOrMiss (w : World) (p : Path) (start : Start) : Outcome :=
  match w.tree.isThere w.cwd p with
  | .error e => .crashed w (.read (.file e))
  | .ok false => .stop w 1 [.line s!"❌ File not found: {p.text}"]
  | .ok true =>
    match w.tree.readText w.cwd p with
    | .error f => .crashed w (.read f)
    | .ok text =>
      let v := Validation.run text start defaultTerminating
      .stop w (if v.ok then 0 else 1)
        (notes (Script.readLog text none) ++ ValidationReport.full p.name v)

end Dialogue.Program
