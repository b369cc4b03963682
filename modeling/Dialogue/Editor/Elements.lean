import Dialogue.Body
import Dialogue.Json.Basic

/-! The graph of a script as elements for drawing: a node for every definition, and an edge for
every link. -/
namespace Dialogue.Editor

structure NodeElement where
  title : String
  line : Nat
  tags : List String
  isStart : Bool
  command : Option String
  deriving DecidableEq, Repr

structure EdgeElement where
  source : String
  target : String
  detour : Bool
  dangling : Bool
  deriving DecidableEq, Repr

namespace NodeElement

def id (e : NodeElement) : String := e.title

def ofNode (start : Option String) (n : Node) : NodeElement where
  title := n.title
  line := n.line
  tags := n.tags
  isStart := start == some n.title
  command := n.skeleton.command?.map (·.name)

def json (e : NodeElement) : Json :=
  .obj [("data", .obj [("id", .str e.id), ("label", .str e.title), ("line", .int e.line),
    ("tags", .strings e.tags), ("is_start", .bool e.isStart),
    ("command", .ofOption .str e.command)])]

end NodeElement

namespace EdgeElement

def id (e : EdgeElement) : String := s!"{e.source}->{e.target}"

def json (e : EdgeElement) : Json :=
  .obj [("data", .obj [("id", .str e.id), ("source", .str e.source), ("target", .str e.target),
    ("detour", .bool e.detour), ("dangling", .bool e.dangling)])]

end EdgeElement

/-- The elements of a script, in the order of its definitions. -/
structure Elements where
  nodes : List NodeElement
  edges : List EdgeElement
  deriving DecidableEq, Repr

namespace Elements

def edgesOf (s : Script) (n : Node) : List EdgeElement :=
  n.skeleton.links.map fun l => ⟨n.title, l.target, l.detour, !s.hasTitle l.target⟩

def ofScript (s : Script) (start : Option String) : Elements where
  nodes := s.nodes.map (.ofNode start)
  edges := s.nodes.flatMap (edgesOf s)

/-- The names of all elements, nodes first. -/
def ids (e : Elements) : List String := e.nodes.map (·.id) ++ e.edges.map (·.id)

def json (e : Elements) : Json :=
  .obj [("nodes", .arr (e.nodes.map (·.json))), ("edges", .arr (e.edges.map (·.json)))]

end Elements
end Dialogue.Editor
