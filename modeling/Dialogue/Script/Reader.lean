import Dialogue.Log
import Dialogue.Script.Basic
import Dialogue.Script.Block

/-! Reading a script from its blocks. Structural problems are collected beside the script; the
strict reader gives up at the first. -/
namespace Dialogue

inductive MetadataFault where
  | malformed (line : String)
  | unknownField (key : String)
  deriving DecidableEq, Repr

/-- A structural problem on a source line of the node `title`. -/
structure Issue where
  line : Nat
  title : String
  fault : MetadataFault
  deriving DecidableEq, Repr

namespace Issue

def text (i : Issue) : String :=
  match i.fault with
  | .malformed line => s!"Malformed metadata line '{line}' in node '{i.title}'"
  | .unknownField key => s!"Unknown metadata field '{key}' in node '{i.title}'"

def message (i : Issue) : String := s!"Line {i.line}: {i.text}"

end Issue

def knownFields : List String := ["tags", "position"]

def readField (line : String) : Except MetadataFault (String × String) :=
  match Text.cut ':' line.toList with
  | none => .error (.malformed line)
  | some (key, value) =>
    let key := String.ofList (Text.trimChars key)
    if knownFields.contains key then .ok (key, .ofList (Text.trimChars value))
    else .error (.unknownField key)

namespace Block

def header (b : Block) : List String := b.content.takeWhile fun l => !Source.isSeparator l

def rawBody (b : Block) : List String :=
  (b.content.dropWhile fun l => !Source.isSeparator l).drop 1

def hasSeparator (b : Block) : Bool := b.content.any Source.isSeparator

/-- Header lines that are not blank, trimmed, each with its source line and its field. -/
def fields (b : Block) : List (Nat × Except MetadataFault (String × String)) :=
  (b.header.zipIdx (b.line + 1)).filterMap fun (l, n) =>
    let l := Text.trim l
    if l.isEmpty then none else some (n, readField l)

def metadata (b : Block) : Table String := .ofList (b.fields.filterMap (·.2.toOption))

/-- Body lines without the blank ones at both ends. -/
def body (b : Block) : List String :=
  ((b.rawBody.dropWhile Text.isBlankText).reverse.dropWhile Text.isBlankText).reverse

/-- The source line of the first body line that is not blank. -/
def bodyLine (b : Block) : Nat :=
  if b.hasSeparator then
    b.line + b.header.length + 2 + (b.rawBody.takeWhile Text.isBlankText).length
  else 0

def node? (b : Block) : Option Node :=
  match b.head with
  | .title title => some ⟨title, b.metadata, b.body, b.line, b.bodyLine⟩
  | .speaker _ => none

def issues (b : Block) : List Issue :=
  match b.head with
  | .title title => b.fields.filterMap fun (n, f) =>
    match f with
    | .error fault => some ⟨n, title, fault⟩
    | .ok _ => none
  | .speaker _ => []

/-- A word, blanks, perhaps a colon, blanks, and the value. -/
def property? (s : String) : Option (String × String) := do
  let (name, r) ← Text.word? s.toList
  let r := Text.dropBlank r
  let r := match r with
    | ':' :: r' => Text.dropBlank r'
    | _ => r
  let value ← Text.lastLine? r
  return (.ofList name, .ofList value)

def talk (b : Block) : Option String :=
  (b.content.filterMap fun l =>
    match property? (Text.trim l) with
    | some (name, value) => if name = "talkAnim" then some (Text.trim value) else none
    | none => none).getLast?

def speaker? (b : Block) : Option Speaker :=
  match b.head with
  | .title _ => none
  | .speaker name => some ⟨name, b.talk, b.line⟩

end Block

namespace Script

def ofBlocks (bs : List Block) : Script where
  nodes := bs.filterMap Block.node?
  speakers := .ofList ((bs.filterMap Block.speaker?).map fun s => (s.name, s))

def read (text : String) : Script × List Issue :=
  let bs := Block.ofText text
  (ofBlocks bs, bs.flatMap Block.issues)

/-- The script of a text without structural problems, or the first problem. -/
def readStrict (text : String) : Except Issue Script :=
  match read text with
  | (s, []) => .ok s
  | (_, i :: _) => .error i

def readLogger : String := "gab_forge.parser.parser"

/-- Speakers that were defined before. -/
def redefined : List String → List Speaker → List Speaker
  | _, [] => []
  | known, s :: ss =>
    if known.contains s.name then s :: redefined known ss else redefined (s.name :: known) ss

/-- What reading notes: redefined speakers, and at the end the counts. Reading that stops at a
problem has noted the redefinitions before it. -/
def readLog (text : String) (stop : Option Issue) : List LogRecord :=
  let bs := Block.ofText text
  let script := ofBlocks bs
  let again := redefined [] (bs.filterMap Block.speaker?)
  let note (s : Speaker) : LogRecord :=
    ⟨.debug, readLogger, s!"Speaker '{s.name}' redefined on line {s.line}"⟩
  match stop with
  | some i => (again.filter (·.line < i.line)).map note
  | none => again.map note ++ [⟨.debug, readLogger,
      s!"Parsed {script.nodes.length} nodes and {script.speakers.length} speakers"⟩]

def readStrictLog (text : String) : List LogRecord := readLog text (read text).2.head?

end Script
end Dialogue
