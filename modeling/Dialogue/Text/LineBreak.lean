/-! Line breaks: the lines of a text, and breaks brought to one form. -/
namespace Dialogue.Text

/-- Line feed, vertical tab, form feed, carriage return, the file, group and record separators,
next line, and the line and paragraph separators. -/
def isLineBreak (c : Char) : Bool :=
  let n := c.toNat
  (10 ≤ n && n ≤ 13) || (28 ≤ n && n ≤ 30) || n == 0x85 || n == 0x2028 || n == 0x2029

/-- A break ends the line before it, and a carriage return with its line feed is one break. -/
def lines : List Char → List (List Char)
  | [] => []
  | '\r' :: '\n' :: r => [] :: lines r
  | c :: r =>
    if isLineBreak c then [] :: lines r
    else match lines r with
      | [] => [[c]]
      | l :: ls => (c :: l) :: ls

def splitLines (s : String) : List String := (lines s.toList).map .ofList

/-- Every carriage return, alone or with its line feed, becomes a line feed. -/
def lineFeeds : List Char → List Char
  | [] => []
  | '\r' :: '\n' :: r => '\n' :: lineFeeds r
  | c :: r => (if c = '\r' then '\n' else c) :: lineFeeds r

def normalizeBreaks (s : String) : String := .ofList (lineFeeds s.toList)

def pieces (s : String) : List String :=
  if s = "" then [] else (s.toList.splitOn '\n').map .ofList

/-- The pieces that line feeds end, and what stands behind the last of them unless it is empty. -/
def linesEnded (s : String) : List String :=
  let ps := pieces s
  if ps.getLast? = some "" then ps.dropLast else ps

end Dialogue.Text
