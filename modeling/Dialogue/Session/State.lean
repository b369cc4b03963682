import Dialogue.Body
import Dialogue.Text.Integer

/-! Session states, the events a session shows, and the errors of driving it. -/
namespace Dialogue

namespace Session

inductive Phase where
  | idle
  | emitting
  | choicePending
  | commandPending
  | ended
  deriving DecidableEq, Repr

namespace Phase

def text : Phase → String
  | idle => "idle"
  | emitting => "emitting"
  | choicePending => "choice_pending"
  | commandPending => "command_pending"
  | ended => "ended"

def all : List Phase := [idle, emitting, choicePending, commandPending, ended]

def ofText? (s : String) : Option Phase := all.find? (·.text == s)

end Phase

/-- What a session shows, with the node it comes from. -/
inductive Event where
  | line (speaker : Option String) (text : String) (node : Compiled)
  | choice (options : List Choice) (node : Compiled)
  | command (command : Command) (node : Compiled)
  deriving DecidableEq, Repr

namespace Event

def node : Event → Compiled
  | line _ _ node => node
  | choice _ node => node
  | command _ node => node

end Event

/-- The answer to a choice: how it is written, unless it is or holds an integer that is too long for
that, and the option it names if it is an integer. -/
structure Answer where
  shown : Option String
  index? : Option Int
  deriving DecidableEq, Repr

namespace Answer

def ofInt (n : Int) : Answer := ⟨Text.integerText? n, some n⟩

/-- Truth values count as one and zero. -/
def ofBool (b : Bool) : Answer := ⟨some (if b then "True" else "False"), some (if b then 1 else 0)⟩

end Answer

/-- The state of a session. The return stack has its oldest entry first, and the visited titles
stand in the order in which they were first entered. -/
structure State where
  phase : Phase := .idle
  current : Option String := none
  content : Option Compiled := none
  lineIndex : Nat := 0
  visited : List String := []
  returnStack : List String := []
  activeSpeaker : Option String := none
  pending : Option (List Choice) := none
  deriving DecidableEq, Repr

inductive Failure where
  | emptyTitle
  | missingNode (title : String)
  | noTarget (option : String) (node : Option String)
  | notStarted
  | choiceExpected (node : Option String)
  | choiceUnexpected (phase : Phase)
  | nothingPending
  | invalidIndex (answer : String) (node : Option String) (count : Nat)
  | unwritable
  | loop (node : Option String)
  | noContent
  deriving DecidableEq, Repr

namespace Failure

/-- A title as messages show it. -/
def shownTitle (t : Option String) : String := t.getD "None"

def message : Failure → String
  | emptyTitle => "Cannot go to an empty node title"
  | missingNode title => s!"Node '{title}' does not exist"
  | noTarget option node => s!"Option '{option}' in node '{shownTitle node}' has no target"
  | notStarted => "Session has not been started"
  | choiceExpected node =>
    s!"A choice is pending in node '{shownTitle node}'; advance() needs a ChoiceInput"
  | choiceUnexpected phase => s!"No choice is pending (session is {phase.text})"
  | nothingPending => "No choice is pending"
  | invalidIndex answer node count =>
    s!"Invalid option index {answer}; node '{shownTitle node}' has {count} options"
  | unwritable => "Exceeds the limit (4300 digits) for integer string conversion; " ++
      "use sys.set_int_max_str_digits() to increase the limit"
  | loop node => s!"Node '{shownTitle node}' loops without producing any dialogue"
  | noContent => "No node is open"

/-- A reference to something that is not there, a call out of turn, an endless silent run, or none
of the session's own: a state that no session reaches, or an answer that cannot be written. -/
inductive Kind where
  | reference
  | protocol
  | loop
  | corrupt
  deriving DecidableEq, Repr

def kind : Failure → Kind
  | emptyTitle | missingNode _ | noTarget _ _ => .reference
  | notStarted | choiceExpected _ | choiceUnexpected _ | nothingPending | invalidIndex _ _ _ =>
    .protocol
  | loop _ => .loop
  | unwritable | noContent => .corrupt

/-- The title that was looked for and is missing. -/
def title? : Failure → Option String
  | missingNode title => some title
  | _ => none

end Failure
end Session
end Dialogue
