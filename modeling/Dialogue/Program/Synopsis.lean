import Dialogue.Program.Basic
import Dialogue.Text.Integer
import Dialogue.Text.Similar

/-! Synopses: the options and arguments a command takes, how they are read from words, and what
can be wrong with them. -/
namespace Dialogue.Program
open Terminal

inductive ValueKind where
  | text
  | existingFile
  | file
  | directory
  | integer
  deriving DecidableEq, Repr

/-- An option; one without a kind takes no value. A fallback stands in for a value that is not
given. -/
structure OptionForm where
  long : String
  short : Option String := none
  kind : Option ValueKind := none
  fallback : Option String := none
  deriving DecidableEq, Repr

structure ArgumentForm where
  name : String
  kind : ValueKind := .text
  optional : Bool := false
  deriving DecidableEq, Repr

/-- The name of a command, and what it takes. Where `mixed` is false the first word that is no
option ends the options. -/
structure Synopsis where
  command : String
  options : List OptionForm := []
  arguments : List ArgumentForm := []
  rest : String := ""
  mixed : Bool := true
  deriving DecidableEq, Repr

inductive ValueFault where
  | noFile (path : String)
  | directory (path : String)
  | regularFile (path : String)
  | noInteger (text : String)
  | noPath (text : String)
  deriving DecidableEq, Repr

inductive UsageFault where
  | noSuchOption (name : String) (near : List String)
  | valueMissing (name : String)
  | valueUnexpected (name : String)
  | argumentMissing (name : String)
  | invalid (hint : String) (fault : ValueFault)
  | extraArguments (args : List String)
  | commandMissing
  | noSuchCommand (name : String)
  deriving DecidableEq, Repr

def ValueFault.message : ValueFault → String
  | noFile path => s!"File {Text.quoted path} does not exist."
  | directory path => s!"File {Text.quoted path} is a directory."
  | regularFile path => s!"Directory {Text.quoted path} is a file."
  | noInteger text => s!"{Text.quoted text} is not a valid integer."
  | noPath text => s!"{Text.quoted text} is not a path."

namespace UsageFault

/-- The options that may have been meant. -/
def advice : List String → String
  | [] => ""
  | [one] => s!" Did you mean {one}?"
  | several => " (Possible options: " ++ ", ".intercalate (several.mergeSort (· ≤ ·)) ++ ")"

def message : UsageFault → String
  | noSuchOption name near => s!"No such option: {name}{advice near}"
  | valueMissing name => s!"Option {Text.quoted name} requires an argument."
  | valueUnexpected name => s!"Option {Text.quoted name} does not take a value."
  | argumentMissing name => s!"Missing argument '{name}'."
  | invalid hint fault => s!"Invalid value for {hint}: {fault.message}"
  | extraArguments [one] => s!"Got unexpected extra argument ({one})"
  | extraArguments several =>
    "Got unexpected extra arguments (" ++ " ".intercalate several ++ ")"
  | commandMissing => "Missing command."
  | noSuchCommand name => s!"No such command {Text.quoted name}."

/-- A fault in the form of one option alone is told without the synopsis. -/
def isBare : UsageFault → Bool
  | valueMissing _ | valueUnexpected _ => true
  | _ => false

end UsageFault

namespace ArgumentForm

def shown (a : ArgumentForm) : String := if a.optional then s!"[{a.name}]" else a.name

end ArgumentForm

def OptionForm.hint (o : OptionForm) : String :=
  " / ".intercalate ((o.long :: o.short.toList).map Text.quoted)

namespace Synopsis

def helpOption : OptionForm := { long := "--help" }

def allOptions (s : Synopsis) : List OptionForm := s.options ++ [helpOption]

def usage (s : Synopsis) : String :=
  let words := s.arguments.map (·.shown) ++ (if s.rest.isEmpty then [] else [s.rest])
  " ".intercalate ("Usage:" :: s.command :: "[OPTIONS]" :: words)

/-- A fault as it is told: the synopsis, where to find help, and the message. -/
def complaints (s : Synopsis) (f : UsageFault) : List Output :=
  (if f.isBare then []
    else [.complaint s.usage, .complaint s!"Try '{s.command} --help' for help.", .complaint ""]) ++
  [.complaint s!"Error: {f.message}"]

def long? (s : Synopsis) (name : String) : Option OptionForm :=
  s.allOptions.find? (·.long == name)

def short? (s : Synopsis) (name : String) : Option OptionForm :=
  s.allOptions.find? (·.short == some name)

structure Given where
  values : List (String × String)
  usesNext : Bool
  deriving DecidableEq, Repr

/-- An option whose value can only be the next word. -/
def fromNext (o : OptionForm) (name : String) : Option String → Except UsageFault Given
  | some value => .ok ⟨[(o.long, value)], true⟩
  | none => .error (.valueMissing name)

/-- A long option, with its value behind an equals sign or in the next word. -/
def readLong (o : OptionForm) (attached next : Option String) : Except UsageFault Given :=
  match o.kind, attached with
  | none, none => .ok ⟨[(o.long, "")], false⟩
  | none, some _ => .error (.valueUnexpected o.long)
  | some _, some value => .ok ⟨[(o.long, value)], false⟩
  | some _, none => fromNext o o.long next

/-- Short options in one word, of which the last may have its value attached. -/
def readShorts (s : Synopsis) (next : Option String) : List Char → Except UsageFault Given
  | [] => .ok ⟨[], false⟩
  | c :: cs =>
    let name := String.ofList ['-', c]
    match s.short? name with
    | none => .error (.noSuchOption name [])
    | some o =>
      match o.kind, cs with
      | none, _ => (readShorts s next cs).map fun g => { g with values := (o.long, "") :: g.values }
      | some _, [] => fromNext o name next
      | some _, _ => .ok ⟨[(o.long, .ofList cs)], false⟩

/-- The options in a word that starts with a hyphen. -/
def readWord (s : Synopsis) (word : String) (next : Option String) : Except UsageFault Given :=
  let (name, attached) := match Text.cut '=' word.toList with
    | some (name, value) => (String.ofList name, some (String.ofList value))
    | none => (word, none)
  match s.long? name with
  | some o => readLong o attached next
  | none =>
    if Text.startsWith "--" word then
      .error (.noSuchOption name (Text.similar name (s.allOptions.map (·.long))))
    else readShorts s next (word.toList.drop 1)

def isOption (word : String) : Bool := Text.startsWith "-" word && 1 < word.length

/-- The options given, in order, and the other words. With `skip` the first word has been taken
as a value. -/
def scan (s : Synopsis) (skip : Bool) :
    List String → Except UsageFault (List (String × String) × List String)
  | [] => .ok ([], [])
  | word :: words =>
    if skip then scan s false words
    else if word = "--" then .ok ([], words)
    else if isOption word then
      match s.readWord word words.head? with
      | .error f => .error f
      | .ok g => (scan s g.usesNext words).map fun (given, others) => (g.values ++ given, others)
    else if s.mixed then (scan s false words).map fun (given, others) => (given, word :: others)
    else .ok ([], word :: words)

/-- What a value has to be is checked against the files. -/
def checkValue (w : World) (kind : ValueKind) (value : String) : Except ValueFault Unit :=
  match kind, w.tree.stat w.cwd value with
  | .text, _ => .ok ()
  | .integer, _ => if (Text.integer? value).isSome then .ok () else .error (.noInteger value)
  | _, .error .zeroCharacter => .error (.noPath value)
  | .existingFile, .error _ => .error (.noFile value)
  | .existingFile, .ok .directory => .error (.directory value)
  | .file, .ok .directory => .error (.directory value)
  | .directory, .ok (.file _) => .error (.regularFile value)
  | _, _ => .ok ()

def checkOption (w : World) (o : OptionForm) (value : String) : Except UsageFault Unit :=
  match o.kind with
  | none => .ok ()
  | some kind => (checkValue w kind value).mapError (.invalid o.hint)

def checkArgument (w : World) (a : ArgumentForm) (value : Option String) :
    Except UsageFault Unit :=
  match value with
  | none => if a.optional then .ok () else .error (.argumentMissing a.name)
  | some value =>
    (checkValue w a.kind value).mapError (.invalid s!"'{a.shown}'")

/-- The values of a command, and the words beyond its arguments. -/
structure Bound where
  options : Table String
  arguments : List (Option String)
  rest : List String := []
  deriving DecidableEq, Repr

namespace Bound

def option? (b : Bound) (long : String) : Option String := b.options.get? long

def wantsHelp (b : Bound) : Bool := (b.option? "--help").isSome

def flag (b : Bound) (long : String) : Bool := (b.option? long).isSome

def argument (b : Bound) (n : Nat) : String := (b.arguments[n]?.getD none).getD ""

def argument? (b : Bound) (n : Nat) : Option String := b.arguments[n]?.getD none

end Bound

def fallbacks (s : Synopsis) (given : Table String) : List (String × String) :=
  s.options.filterMap fun o =>
    if (given.get? o.long).isSome then none else o.fallback.map (o.long, ·)

def checkOptions (w : World) (s : Synopsis) (values : List (String × String)) :
    Except UsageFault Unit :=
  values.forM fun (long, value) =>
    match s.long? long with
    | some o => checkOption w o value
    | none => .ok ()

/-- The values that words give: the options are checked in the order given, then the arguments,
then the fallbacks, and last that no word is left. A request for help goes before all checks. -/
def bind (w : World) (s : Synopsis) (words : List String) : Except UsageFault Bound := do
  let (given, others) ← s.scan false words
  let options := Table.ofList given
  let arguments := (List.range s.arguments.length).map (others[·]?)
  let rest := others.drop s.arguments.length
  if (options.get? helpOption.long).isSome then return ⟨options, arguments, rest⟩
  checkOptions w s options
  (s.arguments.zip arguments).forM fun (a, value) => checkArgument w a value
  checkOptions w s (s.fallbacks options)
  if rest.isEmpty || !s.rest.isEmpty then
    return ⟨options ++ s.fallbacks options, arguments, rest⟩
  else throw (.extraArguments rest)

end Synopsis
end Dialogue.Program
