import Dialogue.Body

/-! The graph of a script: which nodes can be reached, which can come to an end, and which links
lead nowhere. -/
namespace Dialogue

def examineTag : String := "examine"
def disabledTag : String := "disabled"
def finalTag : String := "final"

/-- The commands that end a dialogue unless others are named. -/
def defaultTerminating : List String := ["loadPuzzle", "loadLevel"]

namespace Graph

abbrev Edge := String × String

def successors (edges : List Edge) (title : String) : List String :=
  edges.filterMap fun (a, b) => if a == title then some b else none

/-- Titles met from a list of titles still to see. Each step takes one of them, and each was
there at the start or came with an edge that is used once. -/
def walk (edges : List Edge) : Nat → List String → List String → List String
  | 0, _, seen => seen
  | _ + 1, [], seen => seen
  | n + 1, t :: todo, seen =>
    if seen.contains t then walk edges n todo seen
    else walk edges n (todo ++ successors edges t) (seen ++ [t])

def reached (edges : List Edge) (roots : List String) : List String :=
  walk edges (roots.length + edges.length + 1) roots []

/-- The links of every definition, each with the title it starts from. -/
def links (s : Script) : List (String × Link) :=
  s.nodes.flatMap fun n => n.skeleton.links.map fun l => (n.title, l)

/-- Links between existing titles; a detour also leads back. -/
def edges (s : Script) : List Edge :=
  (links s).flatMap fun (source, l) =>
    if s.hasTitle l.target then
      if l.detour then [(source, l.target), (l.target, source)] else [(source, l.target)]
    else []

def dangling (s : Script) : List (String × String) :=
  (links s).filterMap fun (source, l) =>
    if s.hasTitle l.target then none else some (source, l.target)

def roots (s : Script) (start : Option String) : List String :=
  (start.filter s.hasTitle).toList ++
    (s.nodes.filter (·.hasTag examineTag)).map (·.title)

/-- A definition that ends a dialogue: its command does, or it has neither command nor link, or
it is tagged as final. -/
def isTerminal (terminating : List String) (n : Node) : Bool :=
  let k := n.skeleton
  (match k.command? with
    | some c => terminating.contains c.name
    | none => k.links.isEmpty) || n.hasTag finalTag

def terminals (s : Script) (terminating : List String) : List String :=
  (s.nodes.filter (isTerminal terminating)).map (·.title)

/-- The first definition of each title. -/
def firstDefinitions : List Node → List Node
  | [] => []
  | n :: ns => n :: (firstDefinitions ns).filter (·.title != n.title)

structure Report where
  unreachable : List String
  nonterminating : List String
  dangling : List (String × String)
  deriving DecidableEq, Repr

namespace Report

def ok (r : Report) : Bool :=
  r.unreachable.isEmpty && r.nonterminating.isEmpty && r.dangling.isEmpty

end Report

/-- Nodes that cannot be reached from the start or from an examined node, nodes that can be
reached and cannot come to an end, and links without a target. The first definition of a title
decides whether its tags excuse it. -/
def report (s : Script) (start : Option String) (terminating : List String) : Report :=
  let es := edges s
  let reachable := reached es (roots s start)
  let ending := reached (es.map fun (a, b) => (b, a)) (terminals s terminating)
  let firsts := firstDefinitions s.nodes
  { unreachable := (firsts.filter fun n =>
      !reachable.contains n.title && !n.hasTag disabledTag && !n.hasTag examineTag).map (·.title)
    nonterminating := (firsts.filter fun n =>
      reachable.contains n.title && !ending.contains n.title && !n.hasTag examineTag).map (·.title)
    dangling := dangling s }

end Graph
end Dialogue
