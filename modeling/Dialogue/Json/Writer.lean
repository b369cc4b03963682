import Dialogue.Json.Basic
import Dialogue.Number.Shortest
import Dialogue.Text.Quoted

/-! The written form of JSON: two spaces of indentation for each level, and escapes only for
quotes, backslashes and controls. -/
namespace Dialogue.Json

/-- The letter of a short escape. -/
def shortEscape? (c : Char) : Option Char :=
  if c = '"' then some '"'
  else if c = '\\' then some '\\'
  else if c = '\n' then some 'n'
  else if c = '\r' then some 'r'
  else if c = '\t' then some 't'
  else if c = '\x0c' then some 'f'
  else if c = '\x08' then some 'b'
  else none

def escaped (c : Char) : List Char :=
  match shortEscape? c with
  | some e => ['\\', e]
  | none => if c.toNat < 0x20 then '\\' :: 'u' :: Text.hex 4 c.toNat else [c]

def writeString (s : String) : List Char := '"' :: (s.toList.flatMap escaped ++ ['"'])

def writeInt (n : Int) : List Char :=
  if n < 0 then '-' :: Nat.toDigits 10 n.natAbs else Nat.toDigits 10 n.natAbs

def writeFloat : Binary64 → List Char
  | .nan => "NaN".toList
  | .infinity negative => (if negative then "-Infinity" else "Infinity").toList
  | x => x.text.toList

def newLine (depth : Nat) : List Char := '\n' :: List.replicate (2 * depth) ' '

mutual
/-- The text of a value that stands `depth` levels deep. -/
def write (depth : Nat) : Json → List Char
  | null => "null".toList
  | bool b => (if b then "true" else "false").toList
  | int n => writeInt n
  | float x => writeFloat x
  | str s | unpaired s _ => writeString s
  | arr [] => ['[', ']']
  | arr (v :: vs) => '[' :: (newLine (depth + 1) ++ write (depth + 1) v ++
      writeItems (depth + 1) vs ++ newLine depth ++ [']'])
  | obj [] => ['\x7b', '\x7d']
  | obj (m :: ms) => '\x7b' :: (newLine (depth + 1) ++ writeMember (depth + 1) m ++
      writeMembers (depth + 1) ms ++ newLine depth ++ ['\x7d'])

def writeItems (depth : Nat) : List Json → List Char
  | [] => []
  | v :: vs => ',' :: (newLine depth ++ write depth v ++ writeItems depth vs)

def writeMember (depth : Nat) : String × Json → List Char
  | (k, v) => writeString k ++ ':' :: ' ' :: write depth v

def writeMembers (depth : Nat) : List (String × Json) → List Char
  | [] => []
  | m :: ms => ',' :: (newLine depth ++ writeMember depth m ++ writeMembers depth ms)
end

def render (v : Json) : String := .ofList (write 0 v)

end Dialogue.Json
