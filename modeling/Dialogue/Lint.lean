import Dialogue.Body

/-! Lints: speakers without a definition, and nodes with more than one command. -/
namespace Dialogue

/-- A line whose speaker has no definition. -/
structure SpeakerIssue where
  node : String
  speaker : String
  line : Nat
  deriving DecidableEq, Repr

namespace Script

def undefinedSpeakers (s : Script) : List SpeakerIssue :=
  s.nodes.flatMap fun n => n.skeleton.lines.filterMap fun l =>
    match (Speech.ofLine l.text).speaker with
    | some name =>
      if (s.speakers.get? name).isNone then some ⟨n.title, name, n.bodyLine + l.offset⟩ else none
    | none => none

def multipleCommands (s : Script) : List String :=
  (s.nodes.filter fun n => 1 < n.skeleton.commands.length).map (·.title)

end Script
end Dialogue
