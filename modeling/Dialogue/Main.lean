import Dialogue.Program.Launch
import Std.Time

/-! The command line. The first argument names a program, or else the arguments are for the main
one. Files are read before a program runs and written after it, and a program that wants more
input is run again with one more line of it. -/
namespace Dialogue.CommandLine
open Program

def textOf (place : Place) : String := "/" ++ "/".intercalate place

def isData (name : String) : Bool := name.endsWith ".gab" || name.endsWith ".json"

/-- Adds what stands at a place: a file, whose content is left out unless it is `named` or holds
data, or a directory with the levels below it that `depth` counts. What cannot be looked at is
left out. -/
partial def load (t : FileTree) (place : Place) (named : Bool) (depth : Nat) : IO FileTree := do
  try
    let path ← IO.FS.realPath (textOf place)
    if ← path.isDir then
      let mut t := if (t.entry? place).isSome then t else t.put place .directory
      if 0 < depth then
        for e in ← path.readDir do
          t ← load t (place ++ [e.fileName]) false (depth - 1)
      return t
    else if named || isData (place.getLast?.getD "") then
      return t.put place (.file (← IO.FS.readBinFile (textOf place)))
    else return t.put place (.file ⟨#[]⟩)
  catch _ => return t

/-- Adds what stands at a place, after the directories that lead to it. -/
def loadWithParents (t : FileTree) (place : Place) (depth : Nat) : IO FileTree := do
  let mut t := t
  for n in List.range place.length do
    t ← load t (place.take n) true 0
  load t place true depth

def maxDepth : Nat := 2

/-- A word, or what stands behind the equals sign in it. -/
def pathIn (word : String) : Path :=
  .ofString ((Text.cut '=' word.toList).elim word fun (_, value) => .ofList value)

/-- The surroundings of this process: the current directory, and what is at and beside each path
among the arguments. -/
def world (words : List String) : IO World := do
  let cwd := (Path.ofString (toString (← IO.currentDir))).parts
  let mut t ← loadWithParents ⟨[]⟩ cwd 0
  for word in words do
    let place := (pathIn word).resolve cwd
    t ← loadWithParents t place.dropLast maxDepth
    t ← load t place true 0
  return {
    tree := t, cwd
    environment := ⟨← IO.getEnv verboseVariable, ← IO.getEnv dialoguesRootVariable⟩
    columns := (((← IO.getEnv "COLUMNS").bind Text.integer?).getD 0).toNat }

def store (old new : FileTree) : IO Unit := do
  for (place, e) in new.entries do
    let text := textOf place
    match e, old.entry? place with
    | .directory, none => IO.FS.createDirAll text
    | .file content, some (.file before) =>
      if content.data != before.data then IO.FS.writeBinFile text content
    | .file content, _ => IO.FS.writeBinFile text content
    | .directory, some _ => pure ()

def now : IO String := do
  return (← Std.Time.PlainDateTime.now).format "uuuu-MM-dd HH:mm:ss"

/-- Runs a program, with one more line of input each time it wants one. `shown` counts the outputs
that are on the terminal. -/
partial def interact (run : World → Outcome) (w : World) (shown : Nat) : IO Outcome := do
  let o := run w
  let put (os : List Terminal.Output) : IO Unit := do
    IO.print (Terminal.stdout os (← now) o.threshold)
    IO.eprint (Terminal.stderr os)
    (← IO.getStdout).flush
  if o.wantsInput then
    let settled := o.output.dropLast
    put (settled.drop shown)
    let line ← (← IO.getStdin).getLine
    if line.isEmpty then
      put (o.output.drop settled.length)
      return o
    else interact run { w with input := w.input ++ Text.normalizeBreaks line } settled.length
  else
    put (o.output.drop shown)
    return o

def crashText : Crash → String
  | .read f => f.message
  | .rooms f => f.message

def start (words : List String) : IO UInt32 := do
  let (program, words) := match words with
    | name :: rest => (byName? name).elim (gab, words) (·, rest)
    | [] => (gab, [])
  let w ← world words
  let o ← interact (program · words) w 0
  store w.tree o.tree
  match o.crash with
  | some c => IO.eprintln (crashText c)
  | none => pure ()
  return UInt32.ofNat o.exit

end Dialogue.CommandLine

def main (arguments : List String) : IO UInt32 := Dialogue.CommandLine.start arguments
