/-! Punycode: text of any characters as letters, digits and hyphens. What is ASCII comes first, and
numbers after it say where which of the other characters go, in the order of their code points. -/
namespace Dialogue.Text.Punycode

def delimiter : Char := '-'

/-- Letters are the digits below 26, and figures the ten above. -/
def digit (n : Nat) : Char := Char.ofNat (if n < 26 then n + 97 else n + 22)

def digitOf? (c : Char) : Option Nat :=
  if c.isAlpha then some (c.toLower.toNat - 97)
  else if c.isDigit then some (c.toNat - 22)
  else none

/-- Where the digits of a place end: one that is smaller is the last of its number. -/
def bound (bias place : Nat) : Nat := min 26 (max 1 (place - bias))

theorem bound_pos (bias place : Nat) : 0 < bound bias place := by unfold bound; omega

def placeStep : Nat := 36

def digits (bias place n : Nat) : List Char :=
  let t := bound bias place
  if n < t then [digit n]
  else digit (t + (n - t) % (36 - t)) :: digits bias (place + placeStep) ((n - t) / (36 - t))
termination_by n
decreasing_by
  have := bound_pos bias place
  exact Nat.lt_of_le_of_lt (Nat.div_le_self _ _) (by omega)

/-- The bias after numbers of some size; a large one takes away places at once. -/
def biasOf (size places : Nat) : Nat :=
  if 455 < size then biasOf (size / 35) (places + placeStep)
  else places + placeStep * size / (size + 38)
termination_by size
decreasing_by exact Nat.div_lt_self (by omega) (by omega)

/-- The bias after a number that leaves `count` characters in place. The first one says little of
those to come. -/
def adapted (n count : Nat) (first : Bool) : Nat :=
  let size := if first then n / 700 else n / 2
  biasOf (size + size / count) 0

def firstBias : Nat := 72
def firstPoint : Nat := 0x80

def isBasic (c : Char) : Bool := c.toNat < firstPoint

/-- A text on its way to its numbers: the next number, the bias, how many characters are in place,
and the digits so far. -/
structure Writing where
  number : Nat := 0
  bias : Nat := firstBias
  placed : Nat
  out : List Char := []

namespace Writing

/-- Passes a character while those of the code point `p` are being placed. -/
def pass (basics p : Nat) (w : Writing) (c : Char) : Writing :=
  if c.toNat < p then { w with number := w.number + 1 }
  else if c.toNat = p then
    { number := 0
      bias := adapted w.number (w.placed + 1) (w.placed == basics)
      placed := w.placed + 1
      out := w.out ++ digits w.bias placeStep w.number }
  else w

/-- Places the characters of each of the code points, which increase; `p` is the next that could
be. -/
def placeAll (text : List Char) (basics p : Nat) (w : Writing) : List Nat → Writing
  | [] => w
  | q :: qs =>
    let skipped := { w with number := w.number + (q - p) * (w.placed + 1) }
    let w := text.foldl (pass basics q) skipped
    placeAll text basics (q + 1) { w with number := w.number + 1 } qs

end Writing

def encode (text : List Char) : List Char :=
  let basics := text.filter isBasic
  let points := ((text.filter fun c => !isBasic c).map Char.toNat).mergeSort.eraseReps
  let written := Writing.placeAll text basics.length firstPoint { placed := basics.length } points
  (if basics.isEmpty then [] else basics ++ [delimiter]) ++ written.out

/-- Numbers on their way to a text: the code point and the place of the last character, what the
digits of the number at hand amount to, the weight and the place of the next one, and the text. -/
structure Reading where
  point : Nat := firstPoint
  position : Nat := 0
  bias : Nat := firstBias
  sum : Nat := 0
  weight : Nat := 1
  place : Nat := placeStep
  first : Bool := true
  text : List Char

namespace Reading

/-- Puts the character of a whole number into the text, if there is one. -/
def insert? (r : Reading) : Option Reading :=
  let i := r.position + r.sum
  let count := r.text.length + 1
  let point := r.point + i / count
  if point.isValidChar then
    some { point
           position := i % count + 1
           bias := adapted r.sum count r.first
           first := false
           text := r.text.take (i % count) ++ Char.ofNat point :: r.text.drop (i % count) }
  else none

def read? (r : Reading) : List Char → Option (List Char)
  | [] => if r.place = placeStep then some r.text else none
  | c :: cs =>
    match digitOf? c with
    | none => none
    | some d =>
      let t := bound r.bias r.place
      let r := { r with sum := r.sum + d * r.weight }
      if d < t then
        match r.insert? with
        | some r => r.read? cs
        | none => none
      else { r with weight := r.weight * (36 - t), place := r.place + placeStep }.read? cs

end Reading

def decode? (cs : List Char) : Option (List Char) :=
  let numbers := (cs.reverse.takeWhile (· ≠ delimiter)).reverse
  let basics := cs.take (cs.length - numbers.length - 1)
  Reading.read? { text := basics } numbers

end Dialogue.Text.Punycode
