import Dialogue.Text.Blank
import Dialogue.Text.Word

/-! Matching at the head of a text. Every matcher gives what is left after what it took. -/
namespace Dialogue.Text

def after? (w : String) (cs : List Char) : Option (List Char) :=
  if w.toList.isPrefixOf cs then some (cs.drop w.length) else none

def startsWith (w s : String) : Bool := w.toList.isPrefixOf s.toList

def blanks? : List Char → Option (List Char)
  | c :: r => if isBlank c then some (dropBlank r) else none
  | [] => none

def word? (cs : List Char) : Option (List Char × List Char) :=
  match cs.span isWord with
  | ([], _) => none
  | found => some found

/-- The end of a text, perhaps after one last line feed. -/
def atEnd (cs : List Char) : Bool := cs == [] || cs == ['\n']

/-- What stands before the end, on one line. -/
def lastLine? (cs : List Char) : Option (List Char) :=
  let (line, rest) := cs.span (· ≠ '\n')
  if atEnd rest then some line else none

end Dialogue.Text
