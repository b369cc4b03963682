import Dialogue.Session.State

/-! Steps of a session: a pure function from a state and an answer to the next state and what it
shows. -/
namespace Dialogue.Session

def visit (visited : List String) (title : String) : List String :=
  if visited.contains title then visited else visited ++ [title]

/-- Enters a node. It is compiled before it counts as visited; on a return its lines are passed
over. -/
def goto (script : Script) (s : State) (title : String) (returning : Bool) :
    Except Failure State :=
  if title.isEmpty then .error .emptyTitle
  else match script.node? title with
    | none => .error (.missingNode title)
    | some node =>
      let content := node.compile s.visited
      .ok { s with
        phase := .emitting
        current := some title
        content := some content
        lineIndex := if returning then content.lines.length else 0
        visited := visit s.visited title
        pending := none }

/-- Leaves the current node: along its jump, else back to the last caller, else to the end. -/
def navigate (script : Script) (s : State) : Except Failure State :=
  match s.content.bind (·.jump) with
  | some title => goto script s title false
  | none =>
    match s.returnStack.getLast? with
    | some caller => goto script { s with returnStack := s.returnStack.dropLast } caller true
    | none => .ok { s with phase := .ended, pending := none }

def option? (options : List Choice) (a : Answer) : Option Choice :=
  match a.index? with
  | some i => if 0 ≤ i then options[i.toNat]? else none
  | none => none

/-- An answer that names no option is told of, if it can be written. -/
def wrongAnswer (node : Option String) (count : Nat) (a : Answer) : Failure :=
  match a.shown with
  | some shown => .invalidIndex shown node count
  | none => .unwritable

/-- Follows the chosen option; a detour is noted on the return stack. -/
def resolve (script : Script) (s : State) (a : Answer) : Except Failure State :=
  match s.pending with
  | none => .error .nothingPending
  | some options =>
    match option? options a with
    | none => .error (wrongAnswer s.current options.length a)
    | some o =>
      match o.target with
      | none => .error (.noTarget o.text s.current)
      | some target =>
        if o.detour then
          goto script { s with returnStack := s.returnStack ++ [s.current.getD ""] } target false
        else goto script s target false

def isSilent (s : State) (c : Compiled) : Bool :=
  c.lines.length ≤ s.lineIndex && c.options.isEmpty && c.command.isNone

/-- What distinguishes two states of one silent run. -/
structure Key where
  current : Option String
  lineIndex : Nat
  returnStack : List String
  visited : List String
  deriving DecidableEq

def State.key (s : State) : Key := ⟨s.current, s.lineIndex, s.returnStack, s.visited⟩

/-- Moves on while there is nothing to show. The keys of the states passed are kept, and a state
met again means that the moves lead nowhere. -/
def settle (script : Script) : Nat → List Key → State → Except Failure State
  | 0, _, s => .error (.loop s.current)
  | n + 1, seen, s =>
    if s.phase = .emitting then
      match s.content with
      | none => .error .noContent
      | some c =>
        if isSilent s c then
          if seen.contains s.key then .error (.loop s.current)
          else match navigate script s with
            | .error f => .error f
            | .ok s' => settle script n (s.key :: seen) s'
        else .ok s
    else .ok s

/-- More moves than a silent run can make before a state comes back: between two moves that add
a visited title or pop the return stack there is at most one for each title. -/
def settleBound (script : Script) (s : State) : Nat :=
  (script.nodes.length + s.returnStack.length + 2) * (script.nodes.length + 2) + 1

def show? (s : State) : State × Option Event :=
  if s.phase = .emitting then
    match s.content with
    | none => (s, none)
    | some c =>
      match c.lines[s.lineIndex]? with
      | some line =>
        let speech := Speech.ofLine line
        let speaker := match speech.speaker with
          | some name => if name.isEmpty then s.activeSpeaker else some name
          | none => s.activeSpeaker
        ({ s with lineIndex := s.lineIndex + 1, activeSpeaker := speaker },
          some (.line speech.speaker speech.text c))
      | none =>
        if c.options.isEmpty then
          match c.command with
          | some command => ({ s with phase := .commandPending }, some (.command command c))
          | none => (s, none)
        else
          ({ s with phase := .choicePending, pending := some c.options },
            some (.choice c.options c))
  else (s, none)

def emit (script : Script) (s : State) : Except Failure (State × Option Event) :=
  (settle script (settleBound script s) [] s).map show?

def start (script : Script) (s : State) (title : String) : Except Failure State :=
  goto script { s with returnStack := [], activeSpeaker := none } title false

/-- Where a state goes before it emits: a pending choice needs an answer, and nothing else takes
one. A dialogue that has ended stays where it is. -/
def proceed (script : Script) (s : State) (answer : Option Answer) : Except Failure State :=
  match s.phase, answer with
  | .idle, _ => .error .notStarted
  | .choicePending, none => .error (.choiceExpected s.current)
  | .choicePending, some a => resolve script s a
  | phase, some _ => .error (.choiceUnexpected phase)
  | .ended, none => .ok s
  | .commandPending, none => navigate script s
  | .emitting, none => .ok s

def step (script : Script) (s : State) (answer : Option Answer) :
    Except Failure (State × Option Event) :=
  match proceed script s answer with
  | .error f => .error f
  | .ok s' => emit script s'

end Dialogue.Session
