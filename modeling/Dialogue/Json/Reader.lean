import Dialogue.Json.Basic
import Dialogue.Text.Encoding

/-! A reader of JSON that also takes `NaN` and the infinities, keeps the last of two members of
one name at the place of the first, and says where a text stops being JSON. -/
namespace Dialogue.Json
open Text

inductive FaultKind where
  | value
  | name
  | colon
  | comma
  | extra
  | unterminated
  | control
  | escape
  | unicodeEscape
  | byteOrderMark
  | digits (count : Nat)
  | nesting
  deriving DecidableEq, Repr

/-- A fault and the number of characters that were left where it was found. -/
structure Fault where
  kind : FaultKind
  left : Nat
  deriving DecidableEq, Repr

namespace FaultKind

def text : FaultKind → String
  | value => "Expecting value"
  | name => "Expecting property name enclosed in double quotes"
  | colon => "Expecting ':' delimiter"
  | comma => "Expecting ',' delimiter"
  | extra => "Extra data"
  | unterminated => "Unterminated string starting at"
  | control => "Invalid control character at"
  | escape => "Invalid \\escape"
  | unicodeEscape => "Invalid \\uXXXX escape"
  | byteOrderMark => "Unexpected UTF-8 BOM (decode using utf-8-sig)"
  | digits count => "Exceeds the limit (4300 digits) for integer string conversion: " ++
      s!"value has {count} digits; use sys.set_int_max_str_digits() to increase the limit"
  | nesting => "Too many levels of nesting"

end FaultKind

/-- The fault with its place: line, column within the line, and offset. -/
def Fault.message (f : Fault) (source : List Char) : String :=
  match f.kind with
  | .digits _ => f.kind.text
  | kind =>
    let offset := source.length - f.left
    let before := source.take offset
    let line := before.count '\n' + 1
    let column := (before.reverse.takeWhile (· != '\n')).length + 1
    s!"{kind.text}: line {line} column {column} (char {offset})"

abbrev Reading (α : Type) := Except Fault (α × List Char)

def faultAt {α : Type} (kind : FaultKind) (rest : List Char) : Except Fault α :=
  .error ⟨kind, rest.length⟩

def isSpace (c : Char) : Bool := c = ' ' || c = '\t' || c = '\n' || c = '\r'

def skipSpace (cs : List Char) : List Char := cs.dropWhile isSpace

def hexValue? (c : Char) : Option Nat :=
  if c.isDigit then some (c.toNat - 48)
  else if 'a' ≤ c && c ≤ 'f' then some (c.toNat - 87)
  else if 'A' ≤ c && c ≤ 'F' then some (c.toNat - 55)
  else none

def unicodeValue? (a b c d : Char) : Option Nat := do
  let a ← hexValue? a
  let b ← hexValue? b
  let c ← hexValue? c
  let d ← hexValue? d
  return ((a * 16 + b) * 16 + c) * 16 + d

def shortValue? (e : Char) : Option Char :=
  if e = '"' then some '"'
  else if e = '\\' then some '\\'
  else if e = '/' then some '/'
  else if e = 'b' then some '\x08'
  else if e = 'f' then some '\x0c'
  else if e = 'n' then some '\n'
  else if e = 'r' then some '\r'
  else if e = 't' then some '\t'
  else none

/-- A piece of a string: a character, or a code unit written as an escape. -/
inductive Piece where
  | char (c : Char)
  | unit (n : Nat)

/-- Two code units that are halves of a pair make one character, and half of a pair stays what it
is. -/
def join : List Piece → List (Except Nat Char)
  | [] => []
  | .char c :: r => .ok c :: join r
  | .unit n :: .unit m :: r =>
    if isHighSurrogate n && isLowSurrogate m then .ok (pairChar n m) :: join r
    else unitChar n :: join (.unit m :: r)
  | .unit n :: r => unitChar n :: join r

def charOf : Except Nat Char → Char
  | .ok c => c
  | .error _ => '\uFFFD'

def half? : Except Nat Char → Option Nat
  | .ok _ => none
  | .error half => some half

def textOf (cs : List (Except Nat Char)) : String := .ofList (cs.map charOf)

def ofChars (cs : List (Except Nat Char)) : Json :=
  match cs.filterMap half? with
  | [] => str (textOf cs)
  | halves => unpaired (textOf cs) halves

def consPiece (p : Piece) : Reading (List Piece) → Reading (List Piece)
  | .ok (ps, rest) => .ok (p :: ps, rest)
  | .error f => .error f

/-- The rest of a string after its opening quote; `opening` starts at that quote. -/
def readPieces (opening : List Char) : List Char → Reading (List Piece)
  | [] => faultAt .unterminated opening
  | c :: r =>
    if c = '"' then .ok ([], r)
    else if c = '\\' then
      match r with
      | [] => faultAt .unterminated opening
      | e :: r₁ =>
        if e = 'u' then
          match r₁ with
          | a :: b :: c :: d :: r₂ =>
            match unicodeValue? a b c d with
            | some n =>
              if r₂.isEmpty then faultAt .unicodeEscape r
              else consPiece (.unit n) (readPieces opening r₂)
            | none => faultAt .unicodeEscape r
          | _ => faultAt .unicodeEscape r
        else
          match shortValue? e with
          | some v => consPiece (.char v) (readPieces opening r₁)
          | none => faultAt .escape (c :: r)
    else if c.toNat < 0x20 then faultAt .control (c :: r)
    else consPiece (.char c) (readPieces opening r)

/-- The string whose opening quote has been read. -/
def readString (r : List Char) : Reading (List (Except Nat Char)) :=
  match readPieces ('"' :: r) r with
  | .ok (ps, rest) => .ok (join ps, rest)
  | .error f => .error f

def natOf (ds : List Char) : Nat := ds.foldl (fun n c => 10 * n + (c.toNat - 48)) 0

/-- Digits without a leading zero. -/
def spanInteger? : List Char → Option (List Char × List Char)
  | '0' :: r => some (['0'], r)
  | cs => if (cs.takeWhile Char.isDigit).isEmpty then none else some (cs.span Char.isDigit)

/-- A point and the digits after it, if there is at least one. -/
def spanFraction (cs : List Char) : List Char × List Char :=
  match cs with
  | '.' :: r => if (r.takeWhile Char.isDigit).isEmpty then ([], cs) else r.span Char.isDigit
  | _ => ([], cs)

/-- The value of an exponent, if there is one. -/
def spanExponent? (cs : List Char) : Option (Int × List Char) :=
  match cs with
  | e :: r =>
    if e = 'e' || e = 'E' then
      let (negative, ds) := match r with
        | '-' :: r' => (true, r')
        | '+' :: r' => (false, r')
        | _ => (false, r)
      let (digits, rest) := ds.span Char.isDigit
      if digits.isEmpty then none
      else some (if negative then -(natOf digits : Int) else natOf digits, rest)
    else none
  | [] => none

/-- Most digits an integer may be written with. -/
def maxDigits : Nat := 4300

def readNumber (cs : List Char) : Reading Json :=
  let (negative, body) := match cs with
    | '-' :: r => (true, r)
    | _ => (false, cs)
  match spanInteger? body with
  | none => faultAt .value cs
  | some (whole, r) =>
    let (fraction, r) := spanFraction r
    match fraction, spanExponent? r with
    | [], none =>
      if whole.length > maxDigits then faultAt (.digits whole.length) cs
      else .ok (int (if negative then -(natOf whole : Int) else natOf whole), r)
    | _, power =>
      let (exponent, r) := power.getD (0, r)
      .ok (float (.ofDecimal negative (natOf (whole ++ fraction)) (exponent - fraction.length)), r)

/-- The words that stand for values. -/
def keywords : List (String × Json) :=
  [("null", null), ("true", bool true), ("false", bool false), ("NaN", float .nan),
    ("Infinity", float (.infinity false)), ("-Infinity", float (.infinity true))]

def readScalar (cs : List Char) : Reading Json :=
  match keywords.find? fun (w, _) => w.toList.isPrefixOf cs with
  | some (w, v) => .ok (v, cs.drop w.length)
  | none => readNumber cs

mutual
/-- A value at the head of the text, with at most `room` levels of nesting; `fuel` bounds the
calls. -/
def readValue (room : Nat) : Nat → List Char → Reading Json
  | 0, cs => faultAt .value cs
  | fuel + 1, cs =>
    match cs with
    | '"' :: r =>
      match readString r with
      | .ok (s, rest) => .ok (ofChars s, rest)
      | .error f => .error f
    | '[' :: r =>
      if room = 0 then faultAt .nesting cs
      else match skipSpace r with
        | ']' :: rest => .ok (arr [], rest)
        | r =>
          match readItems (room - 1) fuel r with
          | .ok (vs, rest) => .ok (arr vs, rest)
          | .error f => .error f
    | '\x7b' :: r =>
      if room = 0 then faultAt .nesting cs
      else match skipSpace r with
        | '\x7d' :: rest => .ok (obj [], rest)
        | r =>
          match readMembers (room - 1) fuel r with
          | .ok (ms, rest) => .ok (obj (Table.ofList ms), rest)
          | .error f => .error f
    | cs => readScalar cs

/-- Items up to the closing bracket. -/
def readItems (room : Nat) : Nat → List Char → Reading (List Json)
  | 0, cs => faultAt .value cs
  | fuel + 1, cs =>
    match readValue room fuel cs with
    | .error f => .error f
    | .ok (v, rest) =>
      match skipSpace rest with
      | ']' :: rest => .ok ([v], rest)
      | ',' :: rest =>
        match readItems room fuel (skipSpace rest) with
        | .ok (vs, rest) => .ok (v :: vs, rest)
        | .error f => .error f
      | rest => faultAt .comma rest

/-- Members up to the closing brace. -/
def readMembers (room : Nat) : Nat → List Char → Reading (List (String × Json))
  | 0, cs => faultAt .value cs
  | fuel + 1, cs =>
    match cs with
    | '"' :: r =>
      match readString r with
      | .error f => .error f
      | .ok (k, rest) =>
        match skipSpace rest with
        | ':' :: rest =>
          match readValue room fuel (skipSpace rest) with
          | .error f => .error f
          | .ok (v, rest) =>
            match skipSpace rest with
            | '\x7d' :: rest => .ok ([(textOf k, v)], rest)
            | ',' :: rest =>
              match readMembers room fuel (skipSpace rest) with
              | .ok (ms, rest) => .ok ((textOf k, v) :: ms, rest)
              | .error f => .error f
            | rest => faultAt .comma rest
        | rest => faultAt .colon rest
    | cs => faultAt .name cs
end

/-- One value with blanks around it, of at most `room` levels. Two calls at most are made at each
character. -/
def readDocument (room : Nat) (cs : List Char) : Except Fault Json :=
  match cs with
  | '\uFEFF' :: _ => faultAt .byteOrderMark cs
  | _ =>
    match readValue room (2 * cs.length + 2) (skipSpace cs) with
    | .error f => .error f
    | .ok (v, rest) =>
      match skipSpace rest with
      | [] => .ok v
      | rest => faultAt .extra rest

/-- Most levels of nesting that are read. -/
def maxNesting : Nat := 980

def read (s : String) : Except Fault Json := readDocument maxNesting s.toList

end Dialogue.Json
