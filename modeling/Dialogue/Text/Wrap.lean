import Dialogue.Text.Word

/-! Wrapping: a text divided into lines of a given width, at blanks, after hyphens within words
and around dashes, and within a word only if it fills a line of its own. -/
namespace Dialogue.Text

def isSpacing (c : Char) : Bool :=
  c = ' ' || c = '\t' || c = '\n' || c = '\r' || c = '\x0b' || c = '\x0c'

/-- Tabs as spaces up to the next column that is a multiple of eight, and every other spacing
character as one space. -/
def levelSpacing (column : Nat) : List Char → List Char
  | [] => []
  | c :: cs =>
    if c = '\t' then
      let width := 8 - column % 8
      List.replicate width ' ' ++ levelSpacing (column + width) cs
    else if c = '\n' || c = '\r' then ' ' :: levelSpacing 0 cs
    else (if isSpacing c then ' ' else c) :: levelSpacing (column + 1) cs

def isWordPunctuation (c : Char) : Bool :=
  isWord c || c = '!' || c = '"' || c = '\'' || c = '&' || c = '.' || c = ',' || c = '?'

def startsDash (cs : List Char) : Bool :=
  let run := (cs.takeWhile (· == '-')).length
  2 ≤ run && (cs[run]?).any isWord

/-- What can stand before a hyphen that a word may be divided after; the last character comes
first. -/
def hyphenAfter : List Char → Bool
  | a :: b :: r => (isLetter a && isLetter b) ||
    (isLetter a && b = '-' && (r.head?).any isLetter)
  | _ => false

/-- What can stand behind such a hyphen: two letters, perhaps with a hyphen between them. -/
def hyphenBefore : List Char → Bool
  | a :: b :: r => isLetter a && (isLetter b || (b = '-' && (r.head?).any isLetter))
  | _ => false

/-- The rest of a word after at least one of its characters, and what follows the word. `before`
holds all that came before, the last character first. -/
def wordRest (before : List Char) : List Char → List Char × List Char
  | [] => ([], [])
  | c :: cs =>
    if c = '-' && hyphenAfter before && hyphenBefore cs then ([c], cs)
    else if isSpacing c then ([], c :: cs)
    else if (before.head?).any isWordPunctuation && startsDash (c :: cs) then ([], c :: cs)
    else
      let (word, rest) := wordRest (c :: before) cs
      (c :: word, rest)

def firstPiece (before : List Char) : List Char → List Char × List Char
  | [] => ([], [])
  | c :: cs =>
    if isSpacing c then (c :: cs).span isSpacing
    else if (before.head?).any isWordPunctuation && startsDash (c :: cs) then
      (c :: cs).span (· == '-')
    else
      let (word, rest) := wordRest (c :: before) cs
      (c :: word, rest)

/-- All pieces of a text; no piece is empty, so there are no more than characters. -/
def wrapPieces : Nat → List Char → List Char → List (List Char)
  | 0, _, _ => []
  | _ + 1, _, [] => []
  | n + 1, before, cs =>
    let (piece, rest) := firstPiece before cs
    piece :: wrapPieces n (piece.reverse ++ before) rest

def fill (width : Nat) : Nat → List (List Char) → List (List Char) × List (List Char)
  | _, [] => ([], [])
  | used, p :: ps =>
    if used + p.length ≤ width then
      let (line, rest) := fill width (used + p.length) ps
      (p :: line, rest)
    else ([], p :: ps)

/-- Where a piece that is too long is divided if `room` columns are left: behind its last hyphen
there that has something else before it, or at the end of the room. -/
def divideAt (room : Nat) (piece : List Char) : Nat :=
  let behind := ((piece.take room).reverse.dropWhile (· ≠ '-')).length
  let head := piece.take (behind - 1)
  if 1 < behind && head.any (· ≠ '-') then behind else room

def dropLastBlank (line : List (List Char)) : List (List Char) :=
  if (line.getLast?).any (·.all isBlank) then line.dropLast else line

/-- Lines from pieces; every line takes at least one character, which `fuel` counts. -/
def wrapLines (width : Nat) : Nat → Bool → List (List Char) → List (List Char)
  | 0, _, _ => []
  | _ + 1, _, [] => []
  | fuel + 1, first, p :: ps =>
    let pieces := if !first && p.all isBlank then ps else p :: ps
    let (line, rest) := fill width 0 pieces
    let (line, rest) := match rest with
      | long :: rest' =>
        if width < long.length then
          let cut := divideAt (width - (line.map List.length).sum) long
          (line ++ [long.take cut], long.drop cut :: rest')
        else (line, rest)
      | [] => (line, rest)
    let line := dropLastBlank line
    if line.isEmpty then wrapLines width fuel first rest
    else line.flatten :: wrapLines width fuel false rest

def wrap (width : Nat) (s : String) : List String :=
  let cs := levelSpacing 0 s.toList
  (wrapLines width (cs.length + 1) true (wrapPieces cs.length [] cs)).map .ofList

end Dialogue.Text
