import Dialogue.Line.Directive
import Dialogue.Line.Gate
import Dialogue.Line.Speech
import Dialogue.Log
import Dialogue.Script.Basic

/-! Node bodies: the gated lines, jumps, commands and gated options of a node, and what they
compile to once the visited titles are known. -/
namespace Dialogue

/-- A line to be spoken, `offset` lines below the start of the body. -/
structure GatedLine where
  offset : Nat
  gate : Option Gate
  text : String
  deriving DecidableEq, Repr

/-- A player's choice, with the jump or detour on the line below it. -/
structure GatedOption where
  gate : Option Gate
  text : String
  link : Option Link
  deriving DecidableEq, Repr

/-- All that a body holds, whatever has been visited. -/
structure Skeleton where
  lines : List GatedLine
  jumps : List String
  commands : List Command
  options : List GatedOption
  deriving DecidableEq, Repr

inductive BodyLine where
  | blank
  | jump (title : String)
  | command (c : Command)
  | unknown
  | speech (gate : Option Gate) (text : String)
  deriving DecidableEq, Repr

namespace BodyLine

def ofLine (line : String) : BodyLine :=
  let s := Text.trim line
  if s.isEmpty then blank
  else if Text.startsWith Directive.mark s then
    match Directive.jump? s with
    | some title => jump title
    | none =>
      match Directive.command? s with
      | some c => command c
      | none => unknown
  else
    let (gate, text) := Gate.split s
    speech gate text

def jump? : BodyLine → Option String
  | jump title => some title
  | _ => none

def command? : BodyLine → Option Command
  | command c => some c
  | _ => none

def spoken? (offset : Nat) : BodyLine → Option GatedLine
  | speech gate text => some ⟨offset, gate, text⟩
  | _ => none

end BodyLine

namespace Skeleton

def optionMark : String := "->"

/-- The text of an option line, if the line is one. -/
def optionText? (line : String) : Option String :=
  (Text.after? optionMark (Text.trimChars line.toList)).map fun r => .ofList (Text.trimChars r)

/-- Each option line with the link on the line right below it. -/
def gatedOptions : List String → List GatedOption
  | [] => []
  | l :: ls =>
    match optionText? l with
    | none => gatedOptions ls
    | some s =>
      let (gate, text) := Gate.split s
      ⟨gate, text, Directive.link? (Text.trim (ls.headD ""))⟩ :: gatedOptions ls

def spokenPart (body : List String) : List BodyLine :=
  (body.takeWhile fun l => (optionText? l).isNone).map BodyLine.ofLine

def ofBody (body : List String) : Skeleton where
  lines := (spokenPart body).zipIdx.filterMap fun (l, offset) => l.spoken? offset
  jumps := (spokenPart body).filterMap BodyLine.jump?
  commands := (spokenPart body).filterMap BodyLine.command?
  options := gatedOptions body

/-- Where a node can lead: its jumps, then the links of its options. -/
def links (k : Skeleton) : List Link :=
  k.jumps.map (⟨·, false⟩) ++ k.options.filterMap (·.link)

/-- The command that counts is the last. -/
def command? (k : Skeleton) : Option Command := k.commands.getLast?

end Skeleton

def Node.skeleton (n : Node) : Skeleton := .ofBody n.body

/-- A choice as the player sees it. -/
structure Choice where
  text : String
  target : Option String
  visited : Bool
  detour : Bool
  deriving DecidableEq, Repr

/-- A body resolved against a set of visited titles. -/
structure Compiled where
  title : String
  tags : List String := []
  lines : List String := []
  options : List Choice := []
  jump : Option String := none
  command : Option Command := none
  deriving DecidableEq, Repr

namespace Compiled

def isTerminal (c : Compiled) : Bool :=
  c.lines.isEmpty && c.options.isEmpty && c.jump.isNone && c.command.isNone

end Compiled

def GatedOption.choice (visited : List String) (o : GatedOption) : Choice where
  text := o.text
  target := o.link.map (·.target)
  visited := (o.link.map fun l => visited.contains l.target).getD false
  detour := (o.link.map (·.detour)).getD false

namespace Skeleton

def shownLines (k : Skeleton) (visited : List String) : List String :=
  k.lines.filterMap fun l =>
    if Gate.allows visited l.gate && !l.text.isEmpty then some l.text else none

def shownOptions (k : Skeleton) (visited : List String) : List Choice :=
  k.options.filterMap fun o =>
    if Gate.allows visited o.gate then some (o.choice visited) else none

end Skeleton

namespace Node

def compile (n : Node) (visited : List String) : Compiled where
  title := n.title
  tags := n.tags
  lines := n.skeleton.shownLines visited
  options := n.skeleton.shownOptions visited
  jump := n.skeleton.jumps.getLast?
  command := n.skeleton.command?

def compileLogger : String := "gab_forge.parser.node"

/-- A command below another replaces it, and each replacement is noted. -/
def replacements (title : String) : List Command → List LogRecord
  | c :: d :: r =>
    ⟨.warning, compileLogger,
      s!"Node '{title}' has more than one command; '{d.name}' replaces '{c.name}'"⟩ ::
      replacements title (d :: r)
  | _ => []

def compileLog (n : Node) : List LogRecord := replacements n.title n.skeleton.commands

end Node
end Dialogue
