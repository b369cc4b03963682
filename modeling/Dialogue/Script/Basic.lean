import Dialogue.Table
import Dialogue.Text.Blank

/-! Scripts: titled nodes, speakers with the animations played while they talk, and the node that is
asked for to start from. -/
namespace Dialogue

/-- A titled block. `line` is the source line of its title and `bodyLine` that of its first body
line; `bodyLine` is zero where the block has no body separator. -/
structure Node where
  title : String
  metadata : Table String := []
  body : List String := []
  line : Nat := 0
  bodyLine : Nat := 0
  deriving DecidableEq, Repr

namespace Node

def bodyText (n : Node) : String := "\n".intercalate n.body

/-- Pieces between commas, trimmed; blank ones are dropped. -/
def splitTags (s : String) : List String :=
  (((s.toList.splitOn ',').map Text.trimChars).filter fun w => !w.isEmpty).map .ofList

def tags (n : Node) : List String := splitTags ((n.metadata.get? "tags").getD "")

def hasTag (n : Node) (tag : String) : Bool := n.tags.contains tag

end Node

structure Speaker where
  name : String
  talk : Option String := none
  line : Nat := 0
  deriving DecidableEq, Repr

namespace Speaker

def noAnimation : List String := ["", "none"]

def animation (s : Speaker) : Option String :=
  s.talk.filter fun t => !noAnimation.contains (Text.lowerAscii (Text.trim t))

end Speaker

structure Script where
  nodes : List Node := []
  speakers : Table Speaker := []
  deriving DecidableEq, Repr

namespace Script

/-- The node that a title stands for: of several definitions the last. -/
def node? (s : Script) (title : String) : Option Node := s.nodes.findRev? (·.title == title)

/-- The last definition of each title, at the place of the first. -/
def nodeTable (s : Script) : Table Node := .ofList (s.nodes.map fun n => (n.title, n))

def titles (s : Script) : List String := s.nodes.map (·.title)

def hasTitle (s : Script) (title : String) : Bool := s.nodes.any (·.title == title)

end Script

/-- Where to start: nowhere in particular, at a title, or at a value that no title equals and of
which only the written form is known. -/
inductive Start where
  | unspecified
  | title (name : String)
  | foreign (shown : String)
  deriving DecidableEq, Repr

namespace Start

/-- An empty title asks for nothing. -/
def ofTitle? (t : Option String) : Start :=
  match t with
  | some name => if name.isEmpty then .unspecified else .title name
  | none => .unspecified

end Start
end Dialogue
