import Dialogue.Text.Match

/-! Gates: a title in braces before a line, which shows the line only if the title was visited,
or with an exclamation mark only if it was not. -/
namespace Dialogue

structure Gate where
  negated : Bool
  title : String
  deriving DecidableEq, Repr

namespace Gate
open Text

def passes (visited : List String) (g : Gate) : Bool :=
  if g.negated then !visited.contains g.title else visited.contains g.title

/-- The inside of a gate: an exclamation mark negates if a title stands behind it. -/
def ofInside (cs : List Char) : Gate :=
  match cs with
  | '!' :: c :: r => ⟨true, .ofList (trimChars (c :: r))⟩
  | _ => ⟨false, .ofList (trimChars cs)⟩

def parts? (s : String) : Option (List Char × List Char) := do
  let r ← after? "\x7b" s.toList
  let (inside, rest) ← cut '\x7d' r
  let rest ← lastLine? (dropBlank rest)
  if inside.isEmpty then none else some (inside, rest)

/-- The gate of a line, if it has one, and the line without it. -/
def split (s : String) : Option Gate × String :=
  match parts? s with
  | some (inside, rest) => (some (ofInside inside), .ofList (trimChars rest))
  | none => (none, s)

/-- A line without a gate is always shown. -/
def allows (visited : List String) : Option Gate → Bool
  | none => true
  | some g => g.passes visited

end Gate
end Dialogue
