import Dialogue.Text.Integer

/-! Replies: what a player can answer to a choice. -/
namespace Dialogue.Player

inductive Reply where
  | quit
  | state
  | number (n : Int)
  | unclear
  deriving DecidableEq, Repr

namespace Reply

def quitWords : List String := ["quit", "exit", "q"]

/-- A word in any case or an integer, with blanks around. -/
def ofLine (line : String) : Reply :=
  let word := Text.lowerAscii (Text.trim line)
  if quitWords.contains word then quit
  else if word = "state" then state
  else match Text.integer? word with
    | some n => number n
    | none => unclear

end Reply
end Dialogue.Player
