import Dialogue.Text.Quoted
import Dialogue.Text.Utf8

/-! Encodings of text that starts with two ASCII characters: the zeros among its first bytes show
which one it is in. Half of a pair of code units is no character. -/
namespace Dialogue.Text

def isHighSurrogate (n : Nat) : Bool := 0xD800 ≤ n && n < 0xDC00
def isLowSurrogate (n : Nat) : Bool := 0xDC00 ≤ n && n < 0xE000

def pairChar (high low : Nat) : Char :=
  Char.ofNat (0x10000 + (high - 0xD800) * 0x400 + (low - 0xDC00))

/-- The character of a code unit, which half of a pair has none of. -/
def unitChar (n : Nat) : Except Nat Char :=
  if isHighSurrogate n || isLowSurrogate n then .error n else .ok (Char.ofNat n)

/-- A code unit in a text of JSON, where half of a pair can be written as an escape. -/
def unitChars (n : Nat) : List Char :=
  match unitChar n with
  | .ok c => [c]
  | .error half => '\\' :: 'u' :: hex 4 half

/-- Two code units that are halves of a pair make one character. -/
def joinUnits : List Nat → List Char
  | [] => []
  | n :: m :: r =>
    if isHighSurrogate n && isLowSurrogate m then pairChar n m :: joinUnits r
    else unitChars n ++ joinUnits (m :: r)
  | [n] => unitChars n

inductive Encoding where
  | utf8
  | utf16 (bigEndian : Bool)
  | utf32 (bigEndian : Bool)
  deriving DecidableEq, Repr

namespace Encoding

def ofBytes : List Nat → Encoding
  | a :: b :: c :: d :: _ =>
    if a = 0 then if b = 0 then utf32 true else utf16 true
    else if b = 0 then if c = 0 && d = 0 then utf32 false else utf16 false
    else utf8
  | [a, b] => if a = 0 then utf16 true else if b = 0 then utf16 false else utf8
  | _ => utf8

/-- A number from its bytes, the most significant first. -/
def number (bytes : List Nat) : Nat := bytes.foldl (fun n b => 256 * n + b) 0

def pairs? (bigEndian : Bool) : List Nat → Option (List Nat)
  | [] => some []
  | a :: b :: r =>
    (pairs? bigEndian r).map (number (if bigEndian then [a, b] else [b, a]) :: ·)
  | _ => none

def quadruples? (bigEndian : Bool) : List Nat → Option (List Nat)
  | [] => some []
  | a :: b :: c :: d :: r =>
    (quadruples? bigEndian r).map (number (if bigEndian then [a, b, c, d] else [d, c, b, a]) :: ·)
  | _ => none

/-- The characters that bytes spell, a mark at the head of UTF-8 left out. -/
def decode? (bytes : List Nat) : Encoding → Option (List Char)
  | utf8 =>
    if (utf8Fault? 0 0 bytes).isSome then none
    else match decodeLossy 0 bytes with
      | '\uFEFF' :: cs => some cs
      | cs => some cs
  | utf16 bigEndian => (pairs? bigEndian bytes).map joinUnits
  | utf32 bigEndian => do
    let points ← quadruples? bigEndian bytes
    if points.all (· < 0x110000) then some (points.flatMap unitChars) else none

end Encoding

/-- The characters of a text in the encoding that it shows, if it is sound in that. -/
def decodeShown? (bytes : List Nat) : Option (List Char) :=
  (Encoding.ofBytes bytes).decode? bytes

end Dialogue.Text
