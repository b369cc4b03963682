import Dialogue.Number.Binary64

/-! The shortest decimal that reads back as a given number, and the written form of numbers. -/
namespace Dialogue.Binary64

def shifted (num den : Nat) (p : Int) : Nat × Nat :=
  if p < 0 then (num * Nat.pow 10 (-p).toNat, den) else (num, den * Nat.pow 10 p.toNat)

def ratio (m : Nat) (e : Int) : Nat × Nat := scaled m 1 (-e)

/-- Whether `c * 10 ^ p` lies among the reals that round to `m * 2 ^ e`: half a unit on each
side, a quarter below a power of two, the ends included when `m` is even. -/
def roundsTo (m : Nat) (e : Int) (c : Nat) (p : Int) : Bool :=
  let low := if m = Nat.pow 2 52 && e > minExponent then 4 * m - 1 else 4 * m - 2
  let high := 4 * m + 2
  let (x, d) := shifted c 1 (-p)
  let (x, d) := scaled x d (e - 2)
  if m % 2 = 0 then low * d ≤ x && x ≤ high * d else low * d < x && x < high * d

/-- The place of the decimal point: the least `p` with `num / den < 10 ^ p`. -/
def pointOf (num den : Nat) : Int :=
  let p : Int := ((Nat.toDigits 10 num).length : Int) - (Nat.toDigits 10 den).length
  let (n, d) := shifted num den p
  if n < d then p else p + 1

/-- Of the two multiples of `10 ^ p` next to `m * 2 ^ e`, the nearest that rounds to it, and the
even one of two equally near. -/
def neighbour? (m : Nat) (e p : Int) : Option (Nat × Int) :=
  let (n, d) := ratio m e
  let (n, d) := shifted n d p
  let c := n / d
  let r := n % d
  match roundsTo m e c p, roundsTo m e (c + 1) p with
  | true, true => some (if 2 * r < d || (2 * r == d && c % 2 == 0) then c else c + 1, p)
  | true, false => some (c, p)
  | false, true => some (c + 1, p)
  | false, false => none

/-- The digits and exponent of the decimal with fewest digits that reads back; 17 suffice. -/
def shortest (m : Nat) (e : Int) : Nat × Int :=
  let (n, d) := ratio m e
  let point := pointOf n d
  let found := (List.range 17).findSome? fun k => neighbour? m e (point - (k + 1 : Nat))
  found.getD (m, 0)

/-- Positional from `0.0001` to below `10 ^ 16`, else with an exponent of two digits at least; a
whole number keeps one zero after its point. -/
def layout (digits : List Char) (point : Int) : String :=
  let size := digits.length
  if point ≤ -4 || point > 16 then
    let e := point - 1
    let power := Nat.repr e.natAbs
    let power := if power.length < 2 then "0" ++ power else power
    let tail := digits.drop 1
    String.ofList (digits.take 1) ++ (if tail.isEmpty then "" else "." ++ String.ofList tail) ++
      (if e < 0 then "e-" else "e+") ++ power
  else if point ≤ 0 then
    "0." ++ String.ofList (List.replicate (-point).toNat '0' ++ digits)
  else if size ≤ point.toNat then
    String.ofList (digits ++ List.replicate (point.toNat - size) '0') ++ ".0"
  else String.ofList (digits.take point.toNat) ++ "." ++ String.ofList (digits.drop point.toNat)

def magnitude (m : Nat) (e : Int) : String :=
  if m = 0 then "0.0"
  else
    let (c, p) := shortest m e
    let all := Nat.toDigits 10 c
    layout (all.reverse.dropWhile (· == '0')).reverse (all.length + p)

def text : Binary64 → String
  | .nan => "nan"
  | .infinity negative => if negative then "-inf" else "inf"
  | .finite negative m e => (if negative then "-" else "") ++ magnitude m e

/-- A finite number with one place after the point, a half going to the even neighbour. -/
def oneDecimal : Binary64 → String
  | .finite negative m e =>
    let (n, d) := ratio m e
    let tenths := roundQuotient (n * 10) d
    (if negative then "-" else "") ++ Nat.repr (tenths / 10) ++ "." ++ Nat.repr (tenths % 10)
  | x => x.text

end Dialogue.Binary64
