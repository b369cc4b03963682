import Dialogue.Session.State
import Dialogue.Terminal.Style
import Dialogue.Text.Wrap

/-! What a player sees: boxes of speech, lists of options, and the state of the dialogue. -/
namespace Dialogue.Player
open Terminal Text

/-- Widest text in a box, and the narrowest width that boxes are given. -/
def widestBox : Nat := 60
def narrowestBox : Nat := 20

/-- The width of the text in a box on a terminal of so many columns. -/
def boxWidth (columns : Nat) : Nat := max narrowestBox (min widestBox (columns - 8))

/-- A text in a frame with its speaker above. The frame is as wide as the longest line or the
speaker needs. -/
def box (columns : Nat) (look : Look) (speaker text : String) : String :=
  let lines := match wrap (boxWidth columns) text with
    | [] => [""]
    | ls => ls
  let width := max ((lines.map String.length).foldl max 0) (speaker.length + 2)
  let bar (n : Nat) := row n '─'
  let top := "\n  " ++ paint [look] s!"╭─ {speaker} {bar (width - speaker.length - 1)}╮"
  let bottom := "  " ++ paint [look] s!"╰{bar (width + 2)}╯"
  let side := paint [look] "│"
  "\n".intercalate ([top] ++ lines.map (fun l => s!"  {side} {padEnd width l} {side}") ++ [bottom])

def wideRule : String := paint [.brightCyan] (row 70 '=')
def stateRule : String := paint [.brightBlue] (row 50 '=')
def bullet : String := "  " ++ paint [.cyan] "•" ++ " "

/-- What is shown before a dialogue starts. -/
def banner : List String :=
  ["\n" ++ wideRule, Look.on .brightYellow ++ paint [.bold] "🎭 INTERACTIVE DIALOGUE PLAYER",
    wideRule, "\n" ++ paint [.brightWhite] "Controls:",
    bullet ++ "Enter the number to select a choice",
    bullet ++ "Type " ++ paint [.yellow] "'quit'" ++ " to stop",
    bullet ++ "Type " ++ paint [.yellow] "'state'" ++ " to see visited nodes", "\n" ++ wideRule]

/-- What is shown when a dialogue is over, before its state. -/
def finale : List String :=
  ["\n" ++ wideRule, Look.on .brightYellow ++ paint [.bold] "🎬 THE END", wideRule]

def farewell : String := "\n" ++ paint [.brightYellow] "👋 Thanks for playing!"

def nodeHeader (title : String) : String := "\n" ++ paint [.dim] s!"[{title}]"

/-- A line of narration, or speech in a box with the speaker's animation below. -/
def speechLines (script : Script) (columns : Nat) (speaker : Option String) (text : String) :
    List String :=
  match speaker with
  | none => ["\n  " ++ paint [.italic, .brightBlack] s!"📖 {text}"]
  | some name =>
    let animation := (script.speakers.get? name).bind (·.animation)
    box columns .brightCyan name text ::
      (animation.map fun a => "  " ++ paint [.dim] s!"(anim: {a})").toList

def commandLine (c : Command) : String :=
  "\n  " ++ paint [.brightBlue] s!"▶ {c.name}" ++ " " ++ paint [.cyan] (" ".intercalate c.args)

def optionLine (number : Nat) (o : Choice) : String :=
  let seen := if o.visited then " " ++ paint [.dim] "(seen)" else ""
  "  " ++ paint [.brightYellow] s!"[{number}]" ++ " " ++ paint [.yellow] o.text ++ seen

/-- The options of a choice, numbered from one. -/
def optionLines (options : List Choice) : List String :=
  ("\n" ++ paint [.dim] (row 50 '─')) ::
    (options.zipIdx 1).map fun (o, number) => optionLine number o

/-- The prompt, behind which the answer is typed. -/
def prompt : String := "\n" ++ paint [.brightMagenta] ">" ++ " "

def unclearAnswer : String := paint [.red] "❌ Please enter a valid number or command."

def wrongNumber : String :=
  paint [.red] "❌ Invalid choice. Please enter a number from the list."

/-- The visited titles in order, the depth of detours if there is one, and the commands run. -/
def stateLines (s : Session.State) (commands : List String) : List String :=
  let visited := ", ".intercalate (s.visited.mergeSort (· ≤ ·))
  let depth := s.returnStack.length
  ["\n" ++ stateRule,
    paint [.brightWhite] "Visited:" ++ " " ++ (if visited.isEmpty then "(none)" else visited)] ++
  (if depth = 0 then [] else [paint [.brightWhite] "Detour depth:" ++ s!" {depth}"]) ++
  (if commands.isEmpty then []
    else paint [.brightWhite] "Commands:" :: commands.map fun c => s!"  • {c}") ++
  [stateRule]

end Dialogue.Player
