/-! Sets of characters, blanks, trimming, and the words between blanks. -/
namespace Dialogue.Text

/-- Whether a character lies in one of some closed ranges of code points. -/
def inRanges (ranges : List (Nat × Nat)) (c : Char) : Bool :=
  ranges.any fun r => r.1 ≤ c.toNat && c.toNat ≤ r.2

/-- White space of Unicode, with the four information separators. -/
def isBlank (c : Char) : Bool :=
  let n := c.toNat
  (9 ≤ n && n ≤ 13) || (28 ≤ n && n ≤ 32) || n == 0x85 || n == 0xA0 || n == 0x1680 ||
    (0x2000 ≤ n && n ≤ 0x200A) || n == 0x2028 || n == 0x2029 || n == 0x202F || n == 0x205F ||
    n == 0x3000

def dropBlank (cs : List Char) : List Char := cs.dropWhile isBlank

def dropBlankEnd (cs : List Char) : List Char := (dropBlank cs.reverse).reverse

def trimChars (cs : List Char) : List Char := dropBlankEnd (dropBlank cs)

def trim (s : String) : String := .ofList (trimChars s.toList)

def trimEnd (s : String) : String := .ofList (dropBlankEnd s.toList)

def isBlankText (s : String) : Bool := s.toList.all isBlank

/-- Maximal runs of characters that are not blank. -/
def words (cs : List Char) : List (List Char) :=
  (cs.splitOnP isBlank).filter fun w => !w.isEmpty

/-- Capital letters of ASCII made small. It loses nothing where the result is compared with
small ASCII words without a k: no other capital becomes one of their letters. -/
def lowerAscii (s : String) : String := .ofList (s.toList.map Char.toLower)

/-- The text before and after the first `mark`, if there is one. -/
def cut (mark : Char) : List Char → Option (List Char × List Char)
  | [] => none
  | c :: r => if c = mark then some ([], r) else (cut mark r).map fun (a, b) => (c :: a, b)

end Dialogue.Text
