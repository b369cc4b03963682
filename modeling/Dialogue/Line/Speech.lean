import Dialogue.Text.Match

/-! Spoken lines: a speaker before the first colon, or bare narration. -/
namespace Dialogue

structure Speech where
  speaker : Option String
  text : String
  deriving DecidableEq, Repr

namespace Speech
open Text

/-- The text before the first colon and the rest of the line after it. -/
def parts? (s : String) : Option (List Char × List Char) := do
  let (name, rest) ← cut ':' s.toList
  let text ← lastLine? (dropBlank rest)
  if name.isEmpty then none else some (name, text)

def ofLine (s : String) : Speech :=
  match parts? s with
  | some (name, text) => ⟨some (.ofList (trimChars name)), .ofList text⟩
  | none => ⟨none, s⟩

end Speech
end Dialogue
