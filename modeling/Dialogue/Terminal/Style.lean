/-! Looks of text on a terminal: control sequences that switch them on and off, text without such
sequences, and text brought to a width. -/
namespace Dialogue.Terminal

inductive Look where
  | bold
  | dim
  | italic
  | red
  | yellow
  | cyan
  | brightBlack
  | brightRed
  | brightGreen
  | brightYellow
  | brightBlue
  | brightMagenta
  | brightCyan
  | brightWhite
  deriving DecidableEq, Repr

namespace Look

def code : Look → Nat
  | bold => 1
  | dim => 2
  | italic => 3
  | red => 31
  | yellow => 33
  | cyan => 36
  | brightBlack => 90
  | brightRed => 91
  | brightGreen => 92
  | brightYellow => 93
  | brightBlue => 94
  | brightMagenta => 95
  | brightCyan => 96
  | brightWhite => 97

def on (l : Look) : String := s!"\x1b[{l.code}m"

end Look

def reset : String := "\x1b[0m"

/-- A text in some looks, switched on in order and all off behind it. -/
def paint (looks : List Look) (s : String) : String := String.join (looks.map Look.on) ++ s ++ reset

def isParameter (c : Char) : Bool := c.isDigit || c = ';' || c = '?'

/-- The number of characters of the control sequence at the head of a text: the escape, a
bracket, parameters and a letter. -/
def sequenceLength? : List Char → Option Nat
  | '\x1b' :: '[' :: cs =>
    let (parameters, rest) := cs.span isParameter
    match rest with
    | c :: _ => if c.isAlpha then some (parameters.length + 3) else none
    | [] => none
  | _ => none

/-- Drops the next `skip` characters, and then every control sequence. -/
def plainChars (skip : Nat) : List Char → List Char
  | [] => []
  | c :: cs =>
    match skip with
    | skip + 1 => plainChars skip cs
    | 0 =>
      match sequenceLength? (c :: cs) with
      | some n => plainChars (n - 1) cs
      | none => c :: plainChars 0 cs

def plain (s : String) : String := .ofList (plainChars 0 s.toList)

def row (n : Nat) (c : Char) : String := .ofList (List.replicate n c)

def padStart (width : Nat) (s : String) : String := row (width - s.length) ' ' ++ s

def padEnd (width : Nat) (s : String) : String := s ++ row (width - s.length) ' '

end Dialogue.Terminal
