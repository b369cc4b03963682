import Dialogue.Text.LineBreak

/-! Bytes read as UTF-8, and where they stop being it. -/
namespace Dialogue.Text

/-- The bytes from `start` up to `stop` that are no character, the first of them, and why. -/
structure Utf8Fault where
  start : Nat
  stop : Nat
  first : Nat
  reason : String
  deriving DecidableEq, Repr

def Utf8Fault.message (f : Utf8Fault) : String :=
  let place :=
    if f.stop = f.start + 1 then
      let digits := String.ofList [Nat.digitChar (f.first / 16), Nat.digitChar (f.first % 16)]
      s!"byte 0x{digits} in position {f.start}"
    else s!"bytes in position {f.start}-{f.stop - 1}"
  s!"'utf-8' codec can't decode {place}: {f.reason}"

def isContinuation (b : Nat) : Bool := 0x80 ≤ b && b < 0xC0

/-- How many bytes a first byte announces; none if no character starts with it. -/
def announced (b : Nat) : Nat :=
  if b < 0x80 then 1
  else if b < 0xC2 then 0
  else if b < 0xE0 then 2
  else if b < 0xF0 then 3
  else if b < 0xF5 then 4
  else 0

/-- Whether a second byte can follow the first: no overlong form, no half of a pair, and nothing
beyond the last code point. -/
def fitsSecond (first second : Nat) : Bool :=
  isContinuation second &&
    (if first = 0xE0 then 0xA0 ≤ second
    else if first = 0xED then second < 0xA0
    else if first = 0xF0 then 0x90 ≤ second
    else if first = 0xF4 then second < 0x90
    else true)

def fitting (first : Nat) : List Nat → Nat
  | [] => 0
  | b :: bs => if fitsSecond first b then 1 + (bs.takeWhile isContinuation).length else 0

/-- The first fault at or after `n`, the place of the byte at the head. `skip` bytes belong to a
character that is known to be sound. -/
def utf8Fault? (n skip : Nat) : List Nat → Option Utf8Fault
  | [] => none
  | b :: bs =>
    match skip with
    | skip + 1 => utf8Fault? (n + 1) skip bs
    | 0 =>
      let size := announced b
      let present := min (fitting b bs) (size - 1)
      if size = 0 then some ⟨n, n + 1, b, "invalid start byte"⟩
      else if present + 1 = size then utf8Fault? (n + 1) (size - 1) bs
      else if present = bs.length then some ⟨n, n + 1 + present, b, "unexpected end of data"⟩
      else some ⟨n, n + 1 + present, b, "invalid continuation byte"⟩

def charOfBytes (first : Nat) (rest : List Nat) : Char :=
  let lead := match rest.length with
    | 0 => first
    | 1 => first - 0xC0
    | 2 => first - 0xE0
    | _ => first - 0xF0
  .ofNat (rest.foldl (fun n b => 64 * n + (b - 0x80)) lead)

/-- Bytes as characters, with a replacement character for each fault. The next `skip` bytes have
been dealt with. -/
def decodeLossy (skip : Nat) : List Nat → List Char
  | [] => []
  | b :: bs =>
    match skip with
    | skip + 1 => decodeLossy skip bs
    | 0 =>
      let size := announced b
      let present := min (fitting b bs) (size - 1)
      let c := if size ≠ 0 && present + 1 = size then charOfBytes b (bs.take present) else '\uFFFD'
      c :: decodeLossy present bs

/-- The text of a file: its bytes as UTF-8, every line break as a line feed. -/
def decode (content : ByteArray) : Except Utf8Fault String :=
  match String.fromUTF8? content with
  | some s => .ok (normalizeBreaks s)
  | none =>
    .error ((utf8Fault? 0 0 (content.toList.map UInt8.toNat)).getD
      ⟨0, content.size, 0, "invalid bytes"⟩)

end Dialogue.Text
