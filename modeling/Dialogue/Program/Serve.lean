import Dialogue.Program.Basic
import Dialogue.Text.Integer

/-! Announcing the server of the editor: which directory it serves, and where. -/
namespace Dialogue.Program
open Terminal Text

def usualSocket : Int := 5000

/-- The socket that a text names by its number. -/
def socketOf (given : Option String) : Int := (given.bind integer?).getD usualSocket

def servedRoot (w : World) (root : Option String) : Path :=
  (Settings.read w.environment w.cwdPath root).root

def directoryLine (w : World) (root : Option String) : String :=
  s!"📂 Dialogues directory: {(servedRoot w root).text}"

def addressLine (socket : Int) : String := s!"🌐 Server running at: http://localhost:{socket}"

/-- Tells which directory is served, and where. -/
def serve (w : World) (root : Option String) (socket : Int) : Outcome :=
  .stop w 0 [.plainLine (directoryLine w root), .plainLine (addressLine socket)]

/-- The same under a heading. -/
def serveFramed (w : World) (root : Option String) (socket : Int) : Outcome :=
  .stop w 0 (["\n" ++ row 60 '=', "🎭 gab-forge Web Editor API", row 60 '=',
    "\n" ++ directoryLine w root, addressLine socket, "\nPress Ctrl+C to stop\n"].map .line)

end Dialogue.Program
