import Dialogue.Files.Tree
import Dialogue.Json.Reader
import Dialogue.Region.Basic
import Dialogue.Script.Reader

/-! Rooms: files of regions by room, and the check of all regions against the scripts of their
levels. -/
namespace Dialogue

abbrev Rooms := Table (List Region)

inductive RoomFailure where
  | read (f : ReadFailure)
  | json (f : Json.Fault) (source : String)
  | notRooms (path kind : String)
  | notRegions (path room : String)
  | region (f : Region.Failure)
  deriving DecidableEq, Repr

namespace RoomFailure

def message : RoomFailure → String
  | read f => f.message
  | json f source => f.message source.toList
  | notRooms path kind => s!"{path}: expected an object of rooms, got {kind}"
  | notRegions path room => s!"{path}: room '{room}' must be a list of region objects"
  | region _ => "A level or a node is of a kind that cannot be looked up"

/-- Whether programs expect the failure: not of values that cannot be looked up or sorted, nor of
a file with too many levels. -/
def isExpected : RoomFailure → Bool
  | region _ | json ⟨.nesting, _⟩ _ => false
  | _ => true

end RoomFailure

namespace Rooms

def regions? : Json → Option (List Region)
  | .arr items => items.mapM fun v =>
    match v with
    | .obj _ => some (Region.ofJson v)
    | _ => none
  | _ => none

/-- Lists of regions by room, from an object of lists of objects. -/
def ofJson (path : String) (v : Json) : Except RoomFailure Rooms :=
  match v with
  | .obj ms => ms.mapM fun (room, items) =>
    match regions? items with
    | some rs => .ok (room, rs)
    | none => .error (.notRegions path room)
  | v => .error (.notRooms path v.kindName)

def ofText (path source : String) : Except RoomFailure Rooms :=
  match Json.read source with
  | .error f => .error (.json f source)
  | .ok v => ofJson path v

def load (t : FileTree) (cwd : Place) (p : Path) : Except RoomFailure Rooms :=
  match t.readText cwd p with
  | .error f => .error (.read f)
  | .ok source => ofText p.text source

/-- A level as it is looked up and as it is shown. -/
abbrev Level := Region.Key × String

def levelOf (r : Region) : Except RoomFailure (Option Level) :=
  if Region.isBlank r.level then .ok none
  else match Region.key? r.level with
    | some k => .ok (some (k, r.level.display))
    | none => .error (.region .unhashable)

/-- The levels named by any region, each once and as it was first written. -/
def levels (rooms : Rooms) : Except RoomFailure (List Level) := do
  let named ← (rooms.flatMap (·.2)).mapM levelOf
  return (named.filterMap id).foldl (fun ls l => if ls.any (·.1 == l.1) then ls else ls ++ [l]) []

def isText : Level → Bool
  | (.text _, _) => true
  | _ => false

def levelLe : Level → Level → Bool
  | (.text a, _), (.text b, _) => a ≤ b
  | (.number a, _), (.number b, _) => a.le b
  | _, _ => false

/-- Levels in order; texts and numbers together have none. -/
def sortLevels (ls : List Level) : Except RoomFailure (List Level) :=
  if ls.all isText || ls.all (!isText ·) then .ok (ls.mergeSort levelLe)
  else .error (.region .unordered)

def examineLogger : String := "gab_forge.examine"

/-- The titles in the script of a level, or nothing if there is no script. -/
def levelTitles (t : FileTree) (cwd : Place) (root : Path) (level : String) :
    Except RoomFailure (Option (List String)) :=
  let p := root.child (level ++ ".gab")
  match t.isThere cwd p with
  | .error e => .error (.read (.file e))
  | .ok false => .ok none
  | .ok true =>
    match t.readText cwd p with
    | .error f => .error (.read f)
    | .ok text => .ok (some (Script.read text).1.titles)

def titles (t : FileTree) (cwd : Place) (root : Path) :
    List Level → Except RoomFailure Region.Titles
  | [] => .ok []
  | (k, shown) :: ls =>
    match levelTitles t cwd root shown with
    | .error f => .error f
    | .ok found =>
      match titles t cwd root ls with
      | .error f => .error f
      | .ok rest => .ok ((found.map (k, ·)).toList ++ rest)

def location (room : String) (index : Nat) : String := s!"{room}[{index}]"

def findings (rooms : Rooms) (titles : Region.Titles) : Except RoomFailure (Table (List String)) :=
  do
  let located := rooms.flatMap fun (room, rs) => rs.zipIdx.map fun (r, i) => (location room i, r)
  let found ← located.mapM fun (place, r) =>
    match r.errors titles with
      | .ok es => .ok (place, es)
      | .error f => Except.error (.region f)
  return .ofList (found.filter fun (_, es) => !es.isEmpty)

/-- Checks every region of every room against the scripts below `root`. -/
def check (rooms : Rooms) (t : FileTree) (cwd : Place) (root : Path) :
    Except RoomFailure (Table (List String)) := do
  let ls ← sortLevels (← levels rooms)
  findings rooms (← titles t cwd root ls)

def levelLog (t : FileTree) (cwd : Place) (root : Path) (level : String) : List LogRecord :=
  let p := root.child (level ++ ".gab")
  match t.isThere cwd p with
  | .error _ => []
  | .ok false =>
    [⟨.debug, examineLogger, s!"No script for level '{level}' at {p.text}"⟩]
  | .ok true =>
    match t.readText cwd p with
    | .ok text => Script.readLog text none
    | .error _ => []

/-- What a check notes, up to the first level that fails. -/
def checkLog (rooms : Rooms) (t : FileTree) (cwd : Place) (root : Path) : List LogRecord :=
  match levels rooms >>= sortLevels with
  | .error _ => []
  | .ok ls =>
    let fine := ls.takeWhile fun l => (levelTitles t cwd root l.2).toBool
    fine.flatMap fun l => levelLog t cwd root l.2

end Rooms
end Dialogue
