import Dialogue.Text.Composed
import Dialogue.Text.Direction
import Dialogue.Text.Plain
import Dialogue.Text.Punycode

/-! Names of hosts: labels between points, each of which has a form in ASCII. -/
namespace Dialogue.Web.HostName
open Text

/-- Points of several scripts divide labels. -/
def isPoint (c : Char) : Bool := c = '.' || c = '。' || c = '．' || c = '｡'

/-- Hyphens, joiners and marks that are as good as not there, as closed ranges. -/
def droppedRanges : List (Nat × Nat) := [
  (0xad, 0xad), (0x34f, 0x34f), (0x1806, 0x1806), (0x180b, 0x180d), (0x200b, 0x200d),
  (0x2060, 0x2060), (0xfe00, 0xfe0f), (0xfeff, 0xfeff)]

/-- Blanks, controls, marks of direction, private use and what is no character. -/
def refusedRanges : List (Nat × Nat) := [
  (0x80, 0x9f), (0x6dd, 0x6dd), (0x70f, 0x70f), (0x1680, 0x1680), (0x180e, 0x180e),
  (0x200e, 0x200f), (0x2028, 0x202e), (0x2061, 0x2063), (0x206a, 0x206f), (0x2ff0, 0x2ffb),
  (0xe000, 0xf8ff), (0xfdd0, 0xfdef), (0xfff9, 0xffff), (0x1d173, 0x1d17a), (0x1fffe, 0x1ffff),
  (0x2fffe, 0x2ffff), (0x3fffe, 0x3ffff), (0x4fffe, 0x4ffff), (0x5fffe, 0x5ffff),
  (0x6fffe, 0x6ffff), (0x7fffe, 0x7ffff), (0x8fffe, 0x8ffff), (0x9fffe, 0x9ffff),
  (0xafffe, 0xaffff), (0xbfffe, 0xbffff), (0xcfffe, 0xcffff), (0xdfffe, 0xdffff),
  (0xe0001, 0xe0001), (0xe0020, 0xe007f), (0xefffe, 0x10ffff)]

/-- A label with letters from right to left has one at each end, and none from left to right. -/
def hasOneDirection (label : List Char) : Bool :=
  !label.any isLeftward ||
    (label.head?.any isLeftward && label.getLast?.any isLeftward && !label.any isRightward)

def prepare? (label : List Char) : Option (List Char) :=
  let plain := compose ((label.filter fun c => !inRanges droppedRanges c).flatMap Text.plain)
  if plain.any (inRanges refusedRanges) || !hasOneDirection plain then none else some plain

def formPrefix : List Char := "xn--".toList

def maxLabel : Nat := 63

def sized? (label : List Char) : Option (List Char) :=
  if label.isEmpty || maxLabel < label.length then none else some label

def isAscii (cs : List Char) : Bool := cs.all fun c => c.toNat < 0x80

def labelForm? (label : List Char) : Option (List Char) :=
  if isAscii label then sized? label
  else match prepare? label with
    | none => none
    | some plain =>
      if isAscii plain then sized? plain
      else if formPrefix.isPrefixOf plain then none
      else sized? (formPrefix ++ Punycode.encode plain)

/-- The labels of a name, without an empty one behind a last point. -/
def labels (name : List Char) : List (List Char) :=
  let all := name.splitOnP isPoint
  if all.getLast? = some [] then all.dropLast else all

/-- The form of a name in ASCII. The empty name is its own. -/
def form? (name : List Char) : Option (List Char) :=
  if name.isEmpty then some []
  else
    ((labels name).mapM labelForm?).map fun forms =>
      ['.'].intercalate forms ++ if name.getLast?.any isPoint then ['.'] else []

def isSound (label : List Char) : Bool :=
  !formPrefix.isPrefixOf label ||
    (Punycode.decode? (label.drop formPrefix.length)).bind labelForm? == some label

def isReadable (name : List Char) : Bool := (labels name).all isSound

end Dialogue.Web.HostName
