import Dialogue.Proofs.Body.Compile

/-! Marks: what was visited shows in a compiled node by the marks of its options, and otherwise only
through the titles that its gates name. -/
namespace Dialogue

namespace Skeleton

def gates (k : Skeleton) : List Gate :=
  k.lines.filterMap (·.gate) ++ k.options.filterMap (·.gate)

theorem mem_gates_of_line {k : Skeleton} {l : GatedLine} (hl : l ∈ k.lines) {g : Gate}
    (hg : l.gate = some g) : g ∈ k.gates :=
  List.mem_append_left _ (List.mem_filterMap.mpr ⟨l, hl, hg⟩)

theorem mem_gates_of_option {k : Skeleton} {o : GatedOption} (ho : o ∈ k.options) {g : Gate}
    (hg : o.gate = some g) : g ∈ k.gates :=
  List.mem_append_right _ (List.mem_filterMap.mpr ⟨o, ho, hg⟩)

end Skeleton

/-- The titles that the gates of a script name. -/
def Script.gatedTitles (s : Script) : List String :=
  s.nodes.flatMap fun n => n.skeleton.gates.map (·.title)

theorem Script.mem_gatedTitles {s : Script} {n : Node} {g : Gate} (hn : n ∈ s.nodes)
    (hg : g ∈ n.skeleton.gates) : g.title ∈ s.gatedTitles :=
  List.mem_flatMap.mpr ⟨n, hn, List.mem_map_of_mem hg⟩

/-- A choice without its mark. -/
def Choice.unmark (o : Choice) : Choice := { o with visited := false }

theorem Choice.unmark_detour (o : Choice) : o.unmark.detour = o.detour := rfl

/-- A compiled node without the marks of its options. -/
def Compiled.unmark (c : Compiled) : Compiled := { c with options := c.options.map Choice.unmark }

@[simp] theorem Compiled.unmark_lines (c : Compiled) : c.unmark.lines = c.lines := rfl
@[simp] theorem Compiled.unmark_options (c : Compiled) :
    c.unmark.options = c.options.map Choice.unmark := rfl
@[simp] theorem Compiled.unmark_jump (c : Compiled) : c.unmark.jump = c.jump := rfl
@[simp] theorem Compiled.unmark_command (c : Compiled) : c.unmark.command = c.command := rfl

namespace Skeleton
variable {k : Skeleton} {v w : List String}
  (h : ∀ g ∈ k.gates, (g.title ∈ v ↔ g.title ∈ w))
include h

theorem allows_congr {g : Option Gate} (hg : ∀ g' ∈ g, g' ∈ k.gates) :
    Gate.allows v g = Gate.allows w g := by
  cases g with
  | none => rfl
  | some g =>
    have htitle : v.contains g.title = w.contains g.title := by
      rw [Bool.eq_iff_iff, List.contains_iff_mem, List.contains_iff_mem]
      exact h g (hg g rfl)
    simp only [Gate.allows, Gate.passes, htitle]

theorem shownLines_congr : k.shownLines v = k.shownLines w := by
  refine List.filterMap_congr fun l hl => ?_
  rw [allows_congr h fun g hg => mem_gates_of_line hl hg]

theorem shownOptions_unmark_congr :
    (k.shownOptions v).map Choice.unmark = (k.shownOptions w).map Choice.unmark := by
  simp only [shownOptions, List.map_filterMap]
  refine List.filterMap_congr fun o ho => ?_
  rw [allows_congr h fun g hg => mem_gates_of_option ho hg]
  split_ifs <;> rfl

end Skeleton

/-- Beside the marks only the titles in the gates of a node decide what it compiles to. -/
theorem Node.compile_unmark_congr {n : Node} {v w : List String}
    (h : ∀ g ∈ n.skeleton.gates, (g.title ∈ v ↔ g.title ∈ w)) :
    (n.compile v).unmark = (n.compile w).unmark := by
  simp only [Compiled.unmark, compile, Skeleton.shownLines_congr h,
    Skeleton.shownOptions_unmark_congr h]

end Dialogue
