import Dialogue.Proofs.Table
import Dialogue.Script.Basic

/-! Titles and the nodes that they stand for, also after some nodes were taken out of a script. -/
namespace Dialogue.Script

theorem hasTitle_iff (s : Script) (title : String) :
    s.hasTitle title = true ↔ ∃ n ∈ s.nodes, n.title = title := by
  simp [hasTitle]

theorem mem_of_node?_eq_some {s : Script} {title : String} {n : Node}
    (h : s.node? title = some n) : n ∈ s.nodes ∧ n.title = title := by
  rw [node?, List.findRev?_eq_find?_reverse] at h
  refine ⟨List.mem_reverse.mp (List.mem_of_find?_eq_some h), ?_⟩
  simpa using List.find?_some h

theorem node?_isSome_iff (s : Script) (title : String) :
    (∃ n, s.node? title = some n) ↔ s.hasTitle title = true := by
  rw [hasTitle_iff, node?, List.findRev?_eq_find?_reverse, ← Option.isSome_iff_exists,
    List.find?_isSome]
  simp

theorem keys_nodeTable (s : Script) : s.nodeTable.keys = s.titles.eraseDups := by
  rw [nodeTable, Table.keys_ofList, List.map_map]
  rfl

/-- The table of nodes knows under a title what the title stands for. -/
theorem get?_nodeTable (s : Script) (title : String) : s.nodeTable.get? title = s.node? title := by
  rw [nodeTable, Table.get?_ofList, node?]
  simp only [List.findRev?_eq_find?_reverse, ← List.map_reverse, List.find?_map, Option.map_map]
  exact Option.map_id'

/-- The script without the nodes of the given titles. -/
def without (s : Script) (titles : List String) : Script :=
  { s with nodes := s.nodes.filter fun n => !titles.contains n.title }

/-- A title that stays keeps its node: all definitions of a title go together or not at all. -/
theorem node?_without (s : Script) (titles : List String) {title : String}
    (h : title ∉ titles) : (s.without titles).node? title = s.node? title := by
  simp only [node?, without, List.findRev?_eq_find?_reverse, ← List.filter_reverse,
    List.find?_filter]
  congr 1
  funext n
  by_cases hn : n.title = title
  · simp [hn, h]
  · simp [hn]

end Dialogue.Script
