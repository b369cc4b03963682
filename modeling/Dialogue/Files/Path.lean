/-! Paths: names between slashes, kept in a form without empty names and single dots. -/
namespace Dialogue

/-- `anchor` is empty for a relative path, and one or two slashes for an absolute one. -/
structure Path where
  anchor : String
  parts : List String
  deriving DecidableEq, Repr

namespace Path

/-- What stands between the slashes of a text. -/
def rawParts (s : String) : List String := (s.toList.splitOn '/').map .ofList

/-- Exactly two leading slashes are kept, any other number of them counts as one. -/
def anchorOf (s : String) : String :=
  match (s.toList.takeWhile (· == '/')).length with
  | 0 => ""
  | 2 => "//"
  | _ => "/"

def ofString (s : String) : Path where
  anchor := anchorOf s
  parts := (rawParts s).filter fun p => p != "" && p != "."

def isAbsolute (p : Path) : Bool := p.anchor != ""

def text (p : Path) : String :=
  if p.anchor == "" && p.parts.isEmpty then "." else p.anchor ++ "/".intercalate p.parts

/-- The path `b` seen from `a`; an absolute path stays what it is. -/
def join (a b : Path) : Path := if b.isAbsolute then b else { a with parts := a.parts ++ b.parts }

def child (a : Path) (name : String) : Path := join a (ofString name)

def parent (p : Path) : Path := { p with parts := p.parts.dropLast }

def name (p : Path) : String := p.parts.getLast?.getD ""

/-- A name before and after its last dot; a dot at either end divides nothing. -/
def splitName (name : String) : String × String :=
  let tail := name.toList.reverse.takeWhile (· ≠ '.')
  let stem := name.toList.take (name.length - tail.length - 1)
  if tail.isEmpty || stem.isEmpty then (name, "") else (.ofList stem, .ofList ('.' :: tail.reverse))

def stem (p : Path) : String := (splitName p.name).1

/-- The last dot of the name and what follows it. -/
def suffix (p : Path) : String := (splitName p.name).2

def withSuffix (p : Path) (suffix : String) : Path :=
  { p with parts := p.parts.dropLast ++ [p.stem ++ suffix] }

/-- The names that lead to a path from the root, for someone in the directory `cwd`: a double dot
takes back the name before it. -/
def resolve (cwd : List String) (p : Path) : List String :=
  p.parts.foldl (fun names n => if n = ".." then names.dropLast else names ++ [n])
    (if p.isAbsolute then [] else cwd)

/-- The first names that differ decide, and a list comes before one that it begins. -/
def namesLe : List String → List String → Bool
  | [], _ => true
  | _ :: _, [] => false
  | a :: as, b :: bs => a < b || (a == b && namesLe as bs)

def le (a b : Path) : Bool := namesLe a.parts b.parts

end Path
end Dialogue
