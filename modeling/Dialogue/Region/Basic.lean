import Dialogue.Json.Literal
import Dialogue.Number.Exact
import Dialogue.Text.Blank

/-! Regions: clickable rectangles of a room, and the check of one region. The fields are whatever
values the region file gives them. -/
namespace Dialogue

structure Region where
  x : Json
  y : Json
  width : Json
  height : Json
  kind : Json
  level : Json
  dialogueNode : Json
  item : Json
  args : Json

namespace Region

/-- What stops a check: a list or an object where a name is looked up, or levels of different
kinds where they are sorted. -/
inductive Failure where
  | unhashable
  | unordered
  deriving DecidableEq, Repr

def ofJson (v : Json) : Region where
  x := (v.member? "x").getD (.int 0)
  y := (v.member? "y").getD (.int 0)
  width := (v.member? "width").getD (.int 0)
  height := (v.member? "height").getD (.int 0)
  kind := (v.member? "type").getD (.str "none")
  level := (v.member? "level").getD .null
  dialogueNode := ((v.member? "dialogueNode").orElse fun _ => v.member? "dialogue_node").getD .null
  item := (v.member? "item").getD .null
  args := (v.member? "args").getD .null

def fields (r : Region) : List Json :=
  [r.x, r.y, r.width, r.height, r.kind, r.level, r.dialogueNode, r.item, r.args]

/-- What a value is looked up by. Numbers that are equal are one key, and true and false are one
and zero. -/
inductive Key where
  | nothing
  | text (s : String)
  | number (x : Exact)
  deriving DecidableEq, Repr

def key? : Json → Option Key
  | .null => some .nothing
  | .bool b => some (.number (.ofInt (if b then 1 else 0)))
  | .int n => some (.number (.ofInt n))
  | .float x => some (.number (.ofBinary x))
  | .str s | .unpaired s _ => some (.text s)
  | .arr _ => none
  | .obj _ => none

/-- The titles of the scripts found, by level. -/
abbrev Titles := List (Key × List String)

/-- Null, or a text of blanks. -/
def isBlank : Json → Bool
  | .null => true
  | .str s => Text.isBlankText s
  | _ => false

/-- The complaint about a coordinate or an extent: not a number, below zero, or zero where an
extent is needed. -/
def numberError (label : String) (allowZero : Bool) (v : Json) : Option String :=
  let complaint := some s!"Invalid {label}: {v.literal}"
  match v with
  | .int n => if n < 0 || (n == 0 && !allowZero) then complaint else none
  | .float x => if x.isNegative || (x.isZero && !allowZero) then complaint else none
  | _ => complaint

def geometryErrors (r : Region) : List String :=
  [numberError "x coordinate" true r.x, numberError "y coordinate" true r.y,
    numberError "width" false r.width, numberError "height" false r.height].filterMap id

def hasKind (r : Region) (kind : String) : Bool :=
  match r.kind with
  | .str s => s == kind
  | _ => false

/-- Whether the node of a region that names both a level and a node can be found. -/
def targetErrors (r : Region) (titles : Titles) : Except Failure (List String) :=
  match key? r.level with
  | none => .error .unhashable
  | some level =>
    match titles.lookup level with
    | none => .ok [s!"No dialogue script for level '{r.level.display}'"]
    | some known =>
      match key? r.dialogueNode with
      | none => .error .unhashable
      | some node =>
        if (known.map Key.text).contains node then .ok []
        else .ok [s!"Dialogue node '{r.dialogueNode.display}' not found in {r.level.display}.gab"]

def dialogueErrors (r : Region) (titles : Titles) : Except Failure (List String) :=
  let missingLevel :=
    if isBlank r.level then ["Missing level parameter for dialogue region"] else []
  if isBlank r.dialogueNode then
    .ok (missingLevel ++ ["Missing dialogueNode parameter for dialogue region"])
  else if isBlank r.level then .ok missingLevel
  else targetErrors r titles

def kindErrors (r : Region) (titles : Titles) : Except Failure (List String) :=
  if r.hasKind "dialogue" then dialogueErrors r titles
  else if r.hasKind "inventory" then
    .ok (if isBlank r.item then ["Missing item parameter for inventory region"] else [])
  else if r.hasKind "none" then
    .ok (if isBlank r.args then ["Missing args parameter for none region"] else [])
  else .ok [s!"Unknown region type '{r.kind.display}', expected one of none, dialogue, inventory"]

/-- The problems of one region, those of its geometry first. -/
def errors (r : Region) (titles : Titles) : Except Failure (List String) :=
  (r.kindErrors titles).map (r.geometryErrors ++ ·)

end Region
end Dialogue
