import Dialogue.Files.Tree

/-! The store of the editor: the script files below a directory, which are listed, fetched and
saved by their paths from there. -/
namespace Dialogue.Editor

structure Store where
  tree : FileTree
  cwd : Place
  root : Path

namespace Store

def suffix : String := ".gab"

/-- Most names that lead from the root to what is listed. -/
def maxDepth : Nat := 980

/-- Everything below the root whose name ends like a script file, seen from there, in order. No
root is an empty one. -/
def scripts (s : Store) : Except FileError (List Path) :=
  match s.tree.isThere s.cwd s.root with
  | .error e => .error e
  | .ok false => .ok []
  | .ok true =>
    match s.tree.locate s.cwd s.root.text with
    | .error _ => .ok []
    | .ok place =>
      let all := s.tree.below place
      if all.any fun names => maxDepth < names.length then .error ⟨.tooDeep, s.root.text⟩
      else
        let names := all.filter fun names => (names.getLast?.getD "").endsWith suffix
        .ok ((names.map fun names => ⟨"", names⟩).mergeSort Path.le)

/-- The directory a script is in, which for those right below the root is called so. -/
def category (p : Path) : String := if p.parts.length ≤ 1 then "root" else p.parent.name

def locate (s : Store) (name : String) : Path := s.root.child name

/-- Whether a path stays below the root once its double dots are followed. A path with a zero
character leads nowhere. -/
def holds (s : Store) (p : Path) : Bool :=
  [s.root, p].all (fun q => !q.text.toList.contains '\x00') &&
    (s.root.resolve s.cwd).isPrefixOf (p.resolve s.cwd)

inductive Fetched where
  | missing
  | found (p : Path) (content : String)
  | failed (f : ReadFailure)
  deriving DecidableEq, Repr

def fetch (s : Store) (name : String) : Fetched :=
  let p := s.locate name
  if !s.holds p then .missing
  else match s.tree.stat s.cwd p.text with
    | .error .nameTooLong => .failed (.file ⟨.nameTooLong, p.text⟩)
    | .ok (.file _) =>
      match s.tree.readText s.cwd p with
      | .error f => .failed f
      | .ok content => .found p content
    | _ => .missing

inductive Saved where
  | done (p : Path)
  | outside
  | noScript
  | failed (p : Path) (e : FileError)
  | brokenOff (p : Path) (message : String)
  | noText
  deriving DecidableEq, Repr

/-- Writes a script file with the directories that lead to it, on a device that may have a hitch.
The file is emptied before it is known whether there is a text to write. -/
def save (s : Store) (name : String) (content : Option String) (hitch : Option Hitch) :
    Store × Saved :=
  let p := s.locate name
  let text := content.getD ""
  if !s.holds p then (s, .outside)
  else if p.suffix ≠ suffix then (s, .noScript)
  else match hitch with
    | some h =>
      match s.tree.writeUpTo s.cwd p text.toUTF8 h with
      | .error (tree, e) => ({ s with tree }, .failed p e)
      | .ok tree => ({ s with tree }, .brokenOff p h.message)
    | none =>
      match s.tree.writeText s.cwd p text with
      | .error (tree, e) => ({ s with tree }, .failed p e)
      | .ok tree => ({ s with tree }, if content.isSome then .done p else .noText)

end Store
end Dialogue.Editor
