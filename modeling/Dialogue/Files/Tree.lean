import Dialogue.Files.Path
import Dialogue.Text.Quoted
import Dialogue.Text.Utf8

/-! File trees: directories and files by their place below the root, and what reading, writing
and making directories does to them. There are no links, so a place has one path. -/
namespace Dialogue

inductive Entry where
  | directory
  | file (content : ByteArray)

/-- A place is the list of names that lead to it from the root. -/
abbrev Place := List String

/-- Places and what is there. The root is a directory and is not listed. -/
structure FileTree where
  entries : List (Place × Entry)

/-- What can be wrong with a path: the first five are told of by the file system, and the others
lie in the path alone. -/
inductive FileFault where
  | noEntry
  | taken
  | notDirectory
  | isDirectory
  | nameTooLong
  | zeroCharacter
  | tooDeep
  deriving DecidableEq, Repr

structure FileError where
  fault : FileFault
  path : String
  deriving DecidableEq, Repr

namespace FileFault

/-- The number by which the file system tells of a fault. -/
def code? : FileFault → Option Nat
  | noEntry => some 2
  | taken => some 17
  | notDirectory => some 20
  | isDirectory => some 21
  | nameTooLong => some 36
  | zeroCharacter | tooDeep => none

/-- Whether programs expect the fault. -/
def isExpected (f : FileFault) : Bool := f.code?.isSome

def text : FileFault → String
  | noEntry => "No such file or directory"
  | taken => "File exists"
  | notDirectory => "Not a directory"
  | isDirectory => "Is a directory"
  | nameTooLong => "File name too long"
  | zeroCharacter => "A path cannot hold a zero character"
  | tooDeep => "Too many directories are missing"

end FileFault

def FileError.message (e : FileError) : String :=
  match e.fault.code? with
  | some n => s!"[Errno {n}] {e.fault.text}: {Text.quoted e.path}"
  | none => e.fault.text

/-- A failure of the device that a file is written on, and what is told of it: before the file is
open, when so many names of its path are there, or later, when it holds so many bytes of its
content. -/
inductive Hitch where
  | onTheWay (names : Nat) (message : String)
  | inTheFile (bytes : Nat) (message : String)
  deriving DecidableEq, Repr

namespace Hitch

def message : Hitch → String
  | onTheWay _ message | inTheFile _ message => message

def isEarly : Hitch → Bool
  | onTheWay _ _ => true
  | inTheFile _ _ => false

end Hitch

inductive ReadFailure where
  | file (e : FileError)
  | encoding (f : Text.Utf8Fault)
  deriving DecidableEq, Repr

namespace ReadFailure

def message : ReadFailure → String
  | file e => e.message
  | encoding f => f.message

/-- Whether programs expect the failure; text that is no text most of them do not. -/
def isExpected : ReadFailure → Bool
  | file e => e.fault.isExpected
  | encoding _ => false

end ReadFailure

namespace FileTree

def entry? (t : FileTree) (place : Place) : Option Entry :=
  if place.isEmpty then some .directory else t.entries.lookup place

def add (t : FileTree) (place : Place) (e : Entry) : FileTree := ⟨t.entries ++ [(place, e)]⟩

def put (t : FileTree) (place : Place) (e : Entry) : FileTree :=
  if t.entries.any (·.1 == place) then
    ⟨t.entries.map fun (p, old) => if p == place then (p, e) else (p, old)⟩
  else t.add place e

def maxName : Nat := 255
def maxPath : Nat := 4096

/-- Follows names from a place; every place passed has to be a directory. -/
def follow (t : FileTree) (place : Place) : List String → Except FileFault Place
  | [] => .ok place
  | name :: names =>
    match t.entry? place with
    | none => .error .noEntry
    | some (.file _) => .error .notDirectory
    | some .directory =>
      if name = "" || name = "." then follow t place names
      else if name = ".." then follow t place.dropLast names
      else if maxName < name.utf8ByteSize then .error .nameTooLong
      else follow t (place ++ [name]) names

/-- The place that a text names for someone who is in the directory `cwd`. -/
def locate (t : FileTree) (cwd : Place) (path : String) : Except FileFault Place :=
  if path.isEmpty then .error .noEntry
  else if path.toList.contains '\x00' then .error .zeroCharacter
  else if maxPath ≤ path.utf8ByteSize then .error .nameTooLong
  else follow t (if Path.anchorOf path == "" then cwd else []) (Path.rawParts path)

def stat (t : FileTree) (cwd : Place) (path : String) : Except FileFault Entry :=
  match t.locate cwd path with
  | .error f => .error f
  | .ok place =>
    match t.entry? place with
    | none => .error .noEntry
    | some e => .ok e

/-- Whether there is anything at a path. A name that is too long is an error of its own. -/
def isThere (t : FileTree) (cwd : Place) (p : Path) : Except FileError Bool :=
  match t.stat cwd p.text with
  | .ok _ => .ok true
  | .error .nameTooLong => .error ⟨.nameTooLong, p.text⟩
  | .error _ => .ok false

def isDirectory (t : FileTree) (cwd : Place) (p : Path) : Bool :=
  match t.stat cwd p.text with
  | .ok .directory => true
  | _ => false

def read (t : FileTree) (cwd : Place) (p : Path) : Except FileError ByteArray :=
  match t.stat cwd p.text with
  | .ok (.file content) => .ok content
  | .ok .directory => .error ⟨.isDirectory, p.text⟩
  | .error f => .error ⟨f, p.text⟩

/-- The text of a file, every line break as a line feed. -/
def readText (t : FileTree) (cwd : Place) (p : Path) : Except ReadFailure String :=
  match t.read cwd p with
  | .error e => .error (.file e)
  | .ok content => (Text.decode content).mapError .encoding

/-- Replaces or creates a file in an existing directory. -/
def write (t : FileTree) (cwd : Place) (p : Path) (content : ByteArray) :
    Except FileError FileTree :=
  match t.locate cwd p.text with
  | .error f => .error ⟨f, p.text⟩
  | .ok place =>
    match t.entry? place with
    | some .directory => .error ⟨.isDirectory, p.text⟩
    | _ => .ok (t.put place (.file content))

/-- Most directories that are made on one way before the stack is used up. -/
def maxMissing : Nat := 980

/-- Follows the last names of a path from a place and makes the directories that are missing; `n`
names come before. An error names the whole path, or once a directory has been made the part of it
that could not be made in turn. -/
def makeAlong (t : FileTree) (p : Path) (n : Nat) (place : Place) (made : Bool) :
    List String → Except (FileTree × FileError) FileTree
  | [] => .ok t
  | name :: names =>
    let fail (f : FileFault) : Except (FileTree × FileError) FileTree :=
      .error (t, ⟨f, (if made then { p with parts := p.parts.take (n + 1) } else p).text⟩)
    let here := place ++ [name]
    if name = ".." then makeAlong t p (n + 1) place.dropLast made names
    else if maxName < name.utf8ByteSize then fail .nameTooLong
    else match t.entry? here with
      | some .directory => makeAlong t p (n + 1) here made names
      | some (.file _) => fail (if made || names.isEmpty then .taken else .notDirectory)
      | none =>
        if !made && maxMissing ≤ names.length then fail .tooDeep
        else makeAlong (t.add here .directory) p (n + 1) here true names

def ensurePath (t : FileTree) (cwd : Place) (p : Path) :
    Except (FileTree × FileError) FileTree :=
  if p.text.toList.contains '\x00' then .error (t, ⟨.zeroCharacter, p.text⟩)
  else if maxPath ≤ p.text.utf8ByteSize then .error (t, ⟨.nameTooLong, p.text⟩)
  else makeAlong t p 0 (if p.isAbsolute then [] else cwd) false p.parts

/-- Writes a file, with the directories that lead to it. What was made before an error stays. -/
def writeBytes (t : FileTree) (cwd : Place) (p : Path) (content : ByteArray) :
    Except (FileTree × FileError) FileTree :=
  match t.ensurePath cwd p.parent with
  | .error e => .error e
  | .ok t' => (t'.write cwd p content).mapError (t', ·)

def writeText (t : FileTree) (cwd : Place) (p : Path) (text : String) :
    Except (FileTree × FileError) FileTree :=
  t.writeBytes cwd p text.toUTF8

/-- What there is of a file that is written on a device when the device fails. -/
def writeUpTo (t : FileTree) (cwd : Place) (p : Path) (content : ByteArray) :
    Hitch → Except (FileTree × FileError) FileTree
  | .onTheWay names _ =>
    t.ensurePath cwd { p.parent with parts := p.parent.parts.take names }
  | .inTheFile bytes _ => t.writeBytes cwd p (content.extract 0 bytes)

/-- The places below a place, seen from there. -/
def below (t : FileTree) (place : Place) : List Place :=
  t.entries.filterMap fun (p, _) =>
    if place.isPrefixOf p && p.length != place.length then some (p.drop place.length) else none

end FileTree
end Dialogue
