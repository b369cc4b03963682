import Dialogue.Proofs.Script.Placement
import Dialogue.Proofs.Table

/-! Sizes: a text is at least as long as the number of every line, node and speaker that is read of
it. -/
namespace Dialogue

theorem Source.length_lines_le (text : String) : (lines text).length ≤ text.length := by
  rw [length_lines, Text.splitLines, List.length_map]
  exact Text.length_lines_le text.toList

/-- There are no more blocks than lines. -/
theorem Block.length_scan_le (n : Nat) (ls : List String) :
    (scan n none ls).length ≤ ls.length := by
  apply scan_induction (P := fun _ ls bs => bs.length ≤ ls.length)
  · simp
  · intro n l ls _ ih
    exact ih.trans (Nat.le_succ _)
  · intro n l ls h _ ih
    rw [List.length_drop] at ih
    rw [List.length_cons, List.length_cons]
    omega

namespace Script
variable {text : String}

theorem length_nodes_le (text : String) : (read text).1.nodes.length ≤ text.length :=
  calc (read text).1.nodes.length
      ≤ (Block.ofText text).length := List.length_filterMap_le _ _
    _ ≤ (Source.lines text).length := Block.length_scan_le 1 _
    _ ≤ text.length := Source.length_lines_le text

theorem length_speakers_le (text : String) : (read text).1.speakers.length ≤ text.length :=
  calc (read text).1.speakers.length
      ≤ (((Block.ofText text).filterMap Block.speaker?).map fun s => (s.name, s)).length :=
        Table.length_ofList_le _
    _ = ((Block.ofText text).filterMap Block.speaker?).length := List.length_map _
    _ ≤ (Block.ofText text).length := List.length_filterMap_le _ _
    _ ≤ (Source.lines text).length := Block.length_scan_le 1 _
    _ ≤ text.length := Source.length_lines_le text

theorem line_le {n : Node} (hn : n ∈ (read text).1.nodes) : n.line ≤ text.length := by
  obtain ⟨b, hb, hnode⟩ := List.mem_filterMap.mp hn
  obtain ⟨i, hline, hlies⟩ := Block.scan_liesAt 1 (Source.lines text) b hb
  have hlength := Source.length_lines_le text
  have hi := hlies.lt_length
  rw [(Block.node?_eq_some hnode).2]
  dsimp only
  omega

end Script
end Dialogue
