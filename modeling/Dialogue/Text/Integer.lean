import Dialogue.Text.Word

/-! Integers as people write them: a sign, and digits of any script with single underscores
between them. -/
namespace Dialogue.Text

/-- The digits of a text in which single underscores stand between digits only. -/
def digits? : List Char → Option (List Nat)
  | [] => none
  | [c] => (digitValue? c).map fun d => [d]
  | c :: '_' :: cs => do return (← digitValue? c) :: (← digits? cs)
  | c :: cs => do return (← digitValue? c) :: (← digits? cs)

/-- Most digits that are read or written. -/
def maxIntegerDigits : Nat := 4300

def natural? (cs : List Char) : Option Nat := do
  let ds ← digits? cs
  if ds.length ≤ maxIntegerDigits then some (ds.foldl (fun n d => 10 * n + d) 0) else none

/-- Blanks that may stand around an integer: all but the information separators. -/
def isPadding (c : Char) : Bool := isBlank c && !(28 ≤ c.toNat && c.toNat ≤ 31)

def trimPadding (cs : List Char) : List Char :=
  ((cs.dropWhile isPadding).reverse.dropWhile isPadding).reverse

def integer? (s : String) : Option Int :=
  match trimPadding s.toList with
  | '-' :: cs => (natural? cs).map fun n => -(n : Int)
  | '+' :: cs => (natural? cs).map Int.ofNat
  | cs => (natural? cs).map Int.ofNat

/-- An integer as it is written, if it has no more digits than that. -/
def integerText? (n : Int) : Option String :=
  if n.natAbs.repr.length ≤ maxIntegerDigits then some (toString n) else none

end Dialogue.Text
