import Dialogue.Body
import Dialogue.Json.Writer

/-! The interchange form of a script: a JSON object of its speakers, its nodes as compiled on a
first visit, and some counts. -/
namespace Dialogue.Export

def version : String := "1.0"

def ofChoice (c : Choice) : Json :=
  .obj [("text", .str c.text), ("target", .ofOption .str c.target), ("detour", .bool c.detour)]

def ofCommand (c : Command) : Json := .obj [("name", .str c.name), ("args", .strings c.args)]

def ofLink (l : Link) : Json := .obj [("target", .str l.target), ("detour", .bool l.detour)]

def ofNode (n : Node) : Json :=
  let c := n.compile []
  .obj [("title", .str n.title), ("line", .int n.line),
    ("metadata", .obj (n.metadata.map fun (k, v) => (k, .str v))), ("tags", .strings n.tags),
    ("lines", .strings c.lines), ("options", .arr (c.options.map ofChoice)),
    ("jump", .ofOption .str c.jump), ("command", .ofOption ofCommand c.command),
    ("edges", .arr (n.skeleton.links.map ofLink))]

def ofSpeaker (s : Speaker) : Json := .obj [("talkAnim", .ofOption .str s.animation)]

def ofScript (s : Script) : Json :=
  .obj [("speakers", .obj (s.speakers.map fun (name, speaker) => (name, ofSpeaker speaker))),
    ("nodes", .obj (Table.ofList (s.nodes.map fun n => (n.title, ofNode n)))),
    ("metadata", .obj [("version", .str version), ("node_count", .int s.nodes.length),
      ("speaker_count", .int s.speakers.length),
      ("start_node", .ofOption (.str ·.title) s.nodes.head?)])]

def text (s : Script) : String := (ofScript s).render

/-- What exporting notes: each definition is compiled once, also one that is replaced. -/
def log (s : Script) : List LogRecord := s.nodes.flatMap Node.compileLog

end Dialogue.Export
