import Dialogue.Number.Shortest

/-! Exact comparison of integers and binary floating point. -/
namespace Dialogue

/-- A value on the number line, a ratio in lowest terms, or a value off it. -/
inductive Exact where
  | undefined
  | infinity (negative : Bool)
  | ratio (num : Int) (den : Nat)
  deriving DecidableEq, Repr

namespace Exact

def ofRatio (negative : Bool) (num den : Nat) : Exact :=
  let g := Nat.gcd num den
  ratio (if negative then -((num / g : Nat) : Int) else (num / g : Nat)) (den / g)

def ofInt (n : Int) : Exact := ratio n 1

def ofBinary : Binary64 → Exact
  | .nan => undefined
  | .infinity negative => infinity negative
  | .finite negative m e =>
    let (n, d) := Binary64.ratio m e
    ofRatio negative n d

/-- The order of the line; what is off the line is ordered before nothing. -/
def le : Exact → Exact → Bool
  | undefined, _ => false
  | _, undefined => false
  | infinity negative, b => negative || b == infinity false
  | _, infinity negative => !negative
  | ratio a b, ratio c d => a * d ≤ c * b

end Exact
end Dialogue
