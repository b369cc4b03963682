import Dialogue.Text.LineBreak
import Dialogue.Text.Match

/-! Blocks: the division of a source text into titled and speaker blocks. -/
namespace Dialogue

inductive Head where
  | title (name : String)
  | speaker (name : String)
  deriving DecidableEq, Repr

/-- A block: its head, the source line of the head, and the lines down to the terminator. -/
structure Block where
  head : Head
  line : Nat
  content : List String
  deriving DecidableEq, Repr

namespace Source
open Text

def stripComment (s : String) : String := .ofList (s.toList.takeWhile (· ≠ '#'))

/-- The lines of a text without comments and without blanks at their ends. -/
def lines (text : String) : List String := (splitLines text).map fun l => trimEnd (stripComment l)

def head? (line : String) : Option Head :=
  let cs := trimChars line.toList
  match after? "title:" cs with
  | some rest => some (.title (.ofList (trimChars rest)))
  | none => (after? "speaker:" cs).map fun rest => .speaker (.ofList (trimChars rest))

def isTerminator (line : String) : Bool := trim line == "==="

def isSeparator (line : String) : Bool := trim line == "---"

end Source

/-- The blocks of lines numbered from `n`, the first of them continuing the open block if there
is one. A block without a terminator runs to the end; lines outside of blocks are ignored. -/
def Block.scan (n : Nat) (pending : Option Block) : List String → List Block
  | [] => pending.toList
  | l :: ls =>
    match pending with
    | some b =>
      if Source.isTerminator l then b :: scan (n + 1) none ls
      else scan (n + 1) (some { b with content := b.content ++ [l] }) ls
    | none => scan (n + 1) ((Source.head? l).map fun h => ⟨h, n, []⟩) ls

def Block.ofText (text : String) : List Block := Block.scan 1 none (Source.lines text)

end Dialogue
