import Dialogue.Json.Basic
import Dialogue.Number.Shortest
import Dialogue.Text.Quoted

/-! Values as literals, the form in which messages show them. -/
namespace Dialogue.Json

mutual
def literal : Json → String
  | null => "None"
  | bool b => if b then "True" else "False"
  | int n => toString n
  | float x => x.text
  | str s | unpaired s _ => Text.quoted s
  | arr vs => "[" ++ ", ".intercalate (literals vs) ++ "]"
  | obj ms => "\x7b" ++ ", ".intercalate (memberLiterals ms) ++ "\x7d"

def literals : List Json → List String
  | [] => []
  | v :: vs => literal v :: literals vs

def memberLiterals : List (String × Json) → List String
  | [] => []
  | (k, v) :: ms => (Text.quoted k ++ ": " ++ literal v) :: memberLiterals ms
end

/-- The literal of a value, without the quotes of a text. -/
def display : Json → String
  | str s | unpaired s _ => s
  | v => v.literal

/-- The name of a value's kind. -/
def kindName : Json → String
  | null => "NoneType"
  | bool _ => "bool"
  | int _ => "int"
  | float _ => "float"
  | str _ | unpaired _ _ => "str"
  | arr _ => "list"
  | obj _ => "dict"

end Dialogue.Json
