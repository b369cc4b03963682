import Dialogue.Program.Export
import Dialogue.Program.NodeView
import Dialogue.Program.Play
import Dialogue.Program.Serve
import Dialogue.Program.Synopsis
import Dialogue.Program.Validate

/-! The programs by name: one with a command for every task, and one for each of four tasks. -/
namespace Dialogue.Program
open Terminal

/-- The first record of every program, and what comes after it at a threshold. -/
def opened (level : LogLevel) (o : Outcome) : Outcome :=
  (o.after [.note .opening]).atThreshold level

/-- The commands of the main program. -/
inductive Task where
  | validate
  | statistics
  | showNode
  | play
  | exportScript
  | serve
  deriving DecidableEq, Repr

namespace Task

def all : List Task := [validate, statistics, showNode, play, exportScript, serve]

def name : Task → String
  | validate => "validate"
  | statistics => "stats"
  | showNode => "show-node"
  | play => "play"
  | exportScript => "export"
  | serve => "serve"

def ofName? (s : String) : Option Task := all.find? (·.name == s)

def fileArgument : ArgumentForm := ⟨"FILE_PATH", .existingFile, false⟩

def startOption : OptionForm := { long := "--start", short := some "-s", kind := some .text }

def synopsis (w : World) (t : Task) : Synopsis :=
  let command := s!"gab {t.name}"
  match t with
  | validate =>
    { command, arguments := [fileArgument]
      options := [startOption,
        { long := "--regions", short := some "-r", kind := some .existingFile },
        { long := "--detailed", short := some "-d" }] }
  | statistics => { command, arguments := [fileArgument] }
  | showNode => { command, arguments := [fileArgument, ⟨"TITLE", .text, false⟩] }
  | play => { command, arguments := [fileArgument], options := [startOption] }
  | exportScript => { command, arguments := [fileArgument, ⟨"OUTPUT", .file, true⟩] }
  | serve =>
    { command
      options := [
        { long := "--dialogues", short := some "-d", kind := some .directory
          fallback := Settings.given? w.environment.dialoguesRoot },
        { long := "--port", short := some "-p", kind := some .integer }, { long := "--debug" }] }

/-- Runs a command with its values. -/
def run (w : World) (t : Task) (b : Synopsis.Bound) : Outcome :=
  let file := Path.ofString (b.argument 0)
  match t with
  | validate =>
    Program.validate w file (.ofTitle? (b.option? "--start"))
      ((Settings.given? (b.option? "--regions")).map .ofString) (b.flag "--detailed")
  | statistics => Program.statistics w file
  | showNode => Program.showNode w file (b.argument 1)
  | play => Program.play w file (b.option? "--start")
  | exportScript => Program.exportScript w file ((Settings.given? (b.argument? 1)).map .ofString)
  | serve => Program.serve w (b.option? "--dialogues") (socketOf (b.option? "--port"))

end Task

/-- A call that does not fit a synopsis. What cannot be a path at all is not handled. -/
def misused (w : World) (s : Synopsis) (f : UsageFault) : Outcome :=
  match f with
  | .invalid _ (.noPath text) => .crashed w (.read (.file ⟨.zeroCharacter, text⟩))
  | f => .stop w 2 (s.complaints f)

/-- The first line of a help text. -/
def helped (w : World) (s : Synopsis) : Outcome := .stop w 0 [.plainLine s.usage]

def mainSynopsis : Synopsis where
  command := "gab"
  options := [{ long := "--verbose", short := some "-v" }]
  rest := "COMMAND [ARGS]..."
  mixed := false

def runTask (w : World) (t : Task) (words : List String) : Outcome :=
  let s := t.synopsis w
  match s.bind w words with
  | .error f => misused w s f
  | .ok b => if b.wantsHelp then helped w s else t.run w b

/-- The main program. Any text in the variable, even one that means no, asks for details as the
option does. -/
def gab (w : World) (words : List String) : Outcome :=
  if words.isEmpty then .stop w 2 [.complaint mainSynopsis.usage]
  else match mainSynopsis.bind w words with
    | .error f => misused w mainSynopsis f
    | .ok b =>
      if b.wantsHelp then helped w mainSynopsis
      else match b.rest with
        | [] => misused w mainSynopsis .commandMissing
        | name :: rest =>
          match Task.ofName? name with
          | none =>
            match if Synopsis.isOption name then mainSynopsis.bind w b.rest else .ok b with
            | .error f => misused w mainSynopsis f
            | .ok b' =>
              if b'.wantsHelp then helped w mainSynopsis
              else misused w mainSynopsis (.noSuchCommand name)
          | some t =>
            let verbose :=
              b.flag "--verbose" || (Settings.given? w.environment.verbose).isSome
            opened (Settings.threshold w.environment verbose) (runTask w t rest)

/-- A program without options: what it needs at least, and what it does with its words. -/
def plainProgram (w : World) (usage : List String) (words : List String)
    (run : String → Option String → Outcome) : Outcome :=
  opened (Settings.threshold w.environment false) (match words with
    | [] => .stop w 1 (usage.map .line)
    | first :: rest => run first rest.head?)

def gabValidate (w : World) (words : List String) : Outcome :=
  plainProgram w ["Usage: gab-validate <dialogue_file.gab> [start_node]", "\nExample:",
      "  gab-validate dialogue/cryoroom.gab CryoRoom_Intro"] words
    fun file start => validateOrMiss w (.ofString file) (.ofTitle? start)

def gabPlay (w : World) (words : List String) : Outcome :=
  plainProgram w ["Usage: gab-play <dialogue_file.gab> [start_node]"] words
    fun file start => playOrMiss w (.ofString file) start

def gabExport (w : World) (words : List String) : Outcome :=
  plainProgram w ["Usage: gab-export <dialogue_file.gab> [output.json]", "\nExample:",
      "  gab-export dialogue/cryoroom.gab build/cryoroom.json"] words
    fun file target => exportOrMiss w (.ofString file) (target.map .ofString)

def webSynopsis : Synopsis where
  command := "gab-web"
  options := [{ long := "--dialogues", short := some "-d", kind := some .text },
    { long := "--port", short := some "-p", kind := some .integer }, { long := "--debug" }]

/-- A long option in full for the beginning of just one, and for a short option whose value
stands behind an equals sign. -/
def unabridged (s : Synopsis) (word : String) : String :=
  let (name, tail) := word.toList.span (· ≠ '=')
  let meant := s.allOptions.filter fun o =>
    if Text.startsWith "--" word then name.isPrefixOf o.long.toList
    else !tail.isEmpty && o.short == some (.ofList name)
  match meant with
  | [o] => o.long ++ .ofList tail
  | _ => word

def gabWeb (w : World) (words : List String) : Outcome :=
  match webSynopsis.bind w (words.map (unabridged webSynopsis)) with
  | .error f => misused w webSynopsis f
  | .ok b =>
    if b.wantsHelp then helped w webSynopsis
    else opened (Settings.threshold w.environment (b.flag "--debug"))
      (serveFramed w (b.option? "--dialogues") (socketOf (b.option? "--port")))

/-- A program by its name. -/
def byName? (name : String) : Option (World → List String → Outcome) :=
  [("gab", gab), ("gab-validate", gabValidate), ("gab-play", gabPlay), ("gab-export", gabExport),
    ("gab-web", gabWeb)].lookup name

end Dialogue.Program
