import Dialogue.Number.Binary64
import Dialogue.Table

/-! Values of JSON. Integers and binary floating point are kept apart, and members keep the order
of their names. -/
namespace Dialogue

/-- A string with halves of surrogate pairs in it is no text, and is unpaired: it has replacement
characters in their places. -/
inductive Json where
  | null
  | bool (b : Bool)
  | int (n : Int)
  | float (x : Binary64)
  | str (s : String)
  | unpaired (s : String) (halves : List Nat)
  | arr (items : List Json)
  | obj (members : List (String × Json))

namespace Json

/-- A member of an object, and nothing of any other value. -/
def member? (v : Json) (k : String) : Option Json :=
  match v with
  | obj ms => Table.get? ms k
  | _ => none

def string? : Json → Option String
  | str s | unpaired s _ => some s
  | _ => none

/-- A string that can be written, since it is a text. -/
def text? : Json → Option String
  | str s => some s
  | _ => none

def int? : Json → Option Int
  | int n => some n
  | _ => none

def list? : Json → Option (List Json)
  | arr items => some items
  | _ => none

def members? : Json → Option (List (String × Json))
  | obj ms => some ms
  | _ => none

/-- Null, false, zero and whatever is empty. -/
def isEmpty : Json → Bool
  | null => true
  | bool b => !b
  | int n => n == 0
  | float x => x.isZero
  | str s | unpaired s _ => s.isEmpty
  | arr items => items.isEmpty
  | obj ms => ms.isEmpty

def ofOption {α : Type} (f : α → Json) : Option α → Json
  | none => null
  | some a => f a

def strings (xs : List String) : Json := arr (xs.map str)

end Json
end Dialogue
