import Dialogue.Proofs.Graph.Findings
import Dialogue.Proofs.Script.Placement
import Dialogue.Validation

/-! Pointing: a complaint about a node stands on the title line of the first definition of its
title, whichever definition it is about. -/
namespace Dialogue

namespace Script
variable {text : String} {s : Script} {m n : Node}

/-- The links that lead nowhere, each with the definition it is in. -/
def lostLinks (s : Script) : List (Node × Link) :=
  s.nodes.flatMap fun n => (n.skeleton.links.filter fun l => l.target ∉ s.titles).map (n, ·)

/-- The definitions with more than one command. -/
def crowded (s : Script) : List Node := s.nodes.filter fun n => 1 < n.skeleton.commands.length

/-- Definitions on the same line are one. -/
theorem eq_of_line (hm : m ∈ (read text).1.nodes) (hn : n ∈ (read text).1.nodes)
    (h : m.line = n.line) : m = n := by
  obtain ⟨b, hb, hbm⟩ := List.mem_filterMap.mp hm
  obtain ⟨c, hc, hcn⟩ := List.mem_filterMap.mp hn
  by_cases hbc : b = c
  · subst hbc
    exact Option.some.inj (hbm.symm.trans hcn)
  · rcases Block.apart_of_mem hb hc hbc with habove | hbelow
    · exact absurd h (Block.node_above hb hbm hcn habove).1.ne
    · exact absurd h.symm (Block.node_above hc hcn hbm hbelow).1.ne

end Script

namespace Validation
open Script
variable {text : String} {start : Start} {terminating : List String}

/-- Whether a message begins like those about one node. -/
def isAboutNode (message : String) : Bool := Text.startsWith "Node '" message

/-- How a message begins tells what it is about. -/
theorem not_isAboutNode {s : String} (hs : isAboutNode s = false) (hlength : 6 ≤ s.length)
    (t : String) : isAboutNode (s ++ t) = false := by
  have hle : "Node '".toList.length ≤ s.toList.length := by rwa [String.length_toList]
  rw [isAboutNode, Text.startsWith, ← Bool.not_eq_true, List.isPrefixOf_iff_prefix] at hs ⊢
  rw [String.toList_append]
  exact fun h => hs (List.prefix_of_prefix_length_le h (List.prefix_append _ _) hle)

theorem isAboutNode_node (t : String) : isAboutNode ("Node '" ++ t) = true := by
  rw [isAboutNode, Text.startsWith, List.isPrefixOf_iff_prefix, String.toList_append]
  exact List.prefix_append _ _

theorem not_isAboutNode_issue (i : Issue) : isAboutNode i.text = false := by
  rw [Issue.text]
  split
  all_goals
    simp only [toString, String.append_assoc]
    exact not_isAboutNode rfl (by decide) _

section
variable (s : Script) (report : Graph.Report)

theorem filter_titleErrors : (titleErrors s start).filter (isAboutNode ·.2.1) = [] := by
  refine List.filter_eq_nil_iff.mpr fun x hx => ?_
  rw [Bool.not_eq_true]
  rcases List.mem_append.mp hx with hx | hx
  · obtain ⟨n, -, rfl⟩ := List.mem_map.mp hx
    simp only [toString, String.append_assoc]
    exact not_isAboutNode rfl (by decide) _
  · split at hx
    · cases hx
    · rw [List.mem_singleton.mp hx]
      simp only [toString, String.append_assoc]
      exact not_isAboutNode rfl (by decide) _

theorem filter_graphErrors :
    (graphErrors s report).filter (isAboutNode ·.2.1) = graphErrors s report := by
  refine List.filter_eq_self.mpr fun x hx => ?_
  obtain ⟨⟨source, target⟩, -, rfl⟩ := List.mem_map.mp hx
  simp only [toString, String.append_assoc]
  exact isAboutNode_node _

theorem filter_graphWarnings : (graphWarnings s report).filter (isAboutNode ·.2.1) = [] := by
  refine List.filter_eq_nil_iff.mpr fun x hx => ?_
  rw [Bool.not_eq_true]
  rcases List.mem_append.mp hx with hx | hx
  all_goals
    obtain ⟨t, -, rfl⟩ := List.mem_map.mp hx
    exact not_isAboutNode rfl (by decide) _

theorem filter_lintWarnings : (lintWarnings s).filter (isAboutNode ·.2.1) =
    (crowded s).map fun n => (nodeLine s n.title,
      s!"Node '{n.title}' has more than one command; only the last one runs",
      some commandAdvice) := by
  rw [lintWarnings, List.filter_append, multipleCommands, ← crowded, List.map_map]
  have hspeakers : ∀ is : List SpeakerIssue, (is.map fun i => (i.line,
      s!"Speaker '{i.speaker}' is not defined (node '{i.node}')", (none : Option String))).filter
        (isAboutNode ·.2.1) = [] := by
    intro is
    refine List.filter_eq_nil_iff.mpr fun x hx => ?_
    rw [Bool.not_eq_true]
    obtain ⟨i, -, rfl⟩ := List.mem_map.mp hx
    simp only [toString, String.append_assoc]
    exact not_isAboutNode rfl (by decide) _
  rw [hspeakers, List.nil_append]
  refine List.filter_eq_self.mpr fun x hx => ?_
  obtain ⟨n, -, rfl⟩ := List.mem_map.mp hx
  simp only [Function.comp_apply, toString, String.append_assoc]
  exact isAboutNode_node _

theorem dangling_eq_map_lostLinks :
    Graph.dangling s = (lostLinks s).map fun x => (x.1.title, x.2.target) := by
  simp only [Graph.dangling_eq, lostLinks, List.map_flatMap, List.filter_map, List.map_map]
  rfl

end

theorem filter_place (lines : List String) (found : List (Nat × String × Option String)) :
    (found.map fun x => diagnostic lines x.1 x.2.1 x.2.2).filter (isAboutNode ·.message) =
      (found.filter (isAboutNode ·.2.1)).map fun x => diagnostic lines x.1 x.2.1 x.2.2 :=
  List.filter_map

theorem run_errors : (run text start terminating).errors =
    List.map (fun x => diagnostic (Text.splitLines text) x.1 x.2.1 x.2.2)
      ((Script.read text).2.map (fun i => (i.line, i.text, none)) ++
        titleErrors (Script.read text).1 start ++
        graphErrors (Script.read text).1 (Graph.report (Script.read text).1
          (startNode? (Script.read text).1 start) terminating)) := rfl

theorem run_warnings : (run text start terminating).warnings =
    List.map (fun x => diagnostic (Text.splitLines text) x.1 x.2.1 x.2.2)
      ((if (Script.read text).1.nodes.isEmpty then [(1, "File defines no nodes", none)] else []) ++
        graphWarnings (Script.read text).1 (Graph.report (Script.read text).1
          (startNode? (Script.read text).1 start) terminating) ++
        lintWarnings (Script.read text).1) := rfl

theorem filter_errors : (run text start terminating).errors.filter (isAboutNode ·.message) =
    (lostLinks (Script.read text).1).map fun x => diagnostic (Text.splitLines text)
      (nodeLine (Script.read text).1 x.1.title)
      s!"Node '{x.1.title}' references missing node '{x.2.target}'" none := by
  have hissues : ((Script.read text).2.map fun i => (i.line, i.text, (none : Option String))).filter
      (isAboutNode ·.2.1) = [] := by
    refine List.filter_eq_nil_iff.mpr fun x hx => ?_
    obtain ⟨i, -, rfl⟩ := List.mem_map.mp hx
    exact ne_true_of_eq_false (not_isAboutNode_issue i)
  rw [run_errors, filter_place, List.filter_append, List.filter_append, hissues,
    filter_titleErrors, filter_graphErrors, graphErrors, Graph.report, dangling_eq_map_lostLinks]
  simp only [List.nil_append, List.map_map]
  rfl

theorem filter_warnings : (run text start terminating).warnings.filter (isAboutNode ·.message) =
    (crowded (Script.read text).1).map fun n => diagnostic (Text.splitLines text)
      (nodeLine (Script.read text).1 n.title)
      s!"Node '{n.title}' has more than one command; only the last one runs"
      (some commandAdvice) := by
  have hempty : (if (Script.read text).1.nodes.isEmpty then
      [(1, "File defines no nodes", (none : Option String))] else []).filter
        (isAboutNode ·.2.1) = [] := by
    split <;> rfl
  rw [run_warnings, filter_place, List.filter_append, List.filter_append, hempty,
    filter_graphWarnings, filter_lintWarnings]
  simp only [List.nil_append, List.map_map]
  rfl

/-- Where a complaint about a title stands: on the title line of the first definition. So a
definition that offends is there exactly if the first one does. -/
structure PointsAt (text title : String) (offends : Node → Prop) (d : Diagnostic) : Prop where
  head : ∃ l, (Text.splitLines text)[d.line - 1]? = some l ∧ Source.Opens "title:" title l ∧
    d.context = some (Text.trimEnd l)
  first : ∃ m, (Script.read text).1.nodes.find? (·.title == title) = some m ∧ d.line = m.line
  offends_iff : (∃ m ∈ (Script.read text).1.nodes, m.title = title ∧ m.line = d.line ∧ offends m) ↔
    ∃ m, (Script.read text).1.nodes.find? (·.title == title) = some m ∧ offends m

theorem pointsAt_diagnostic {n : Node} (hn : n ∈ (Script.read text).1.nodes) (message : String)
    (advice : Option String) (offends : Node → Prop) :
    PointsAt text n.title offends (diagnostic (Text.splitLines text)
      (nodeLine (Script.read text).1 n.title) message advice) := by
  obtain ⟨m, hm⟩ : ∃ m, (Script.read text).1.nodes.find? (·.title == n.title) = some m :=
    Option.isSome_iff_exists.mp (List.find?_isSome.mpr ⟨n, hn, beq_self_eq_true _⟩)
  have htitle : m.title = n.title := beq_iff_eq.mp (List.find?_some hm :)
  have hmem := List.mem_of_find?_eq_some hm
  have hline : nodeLine (Script.read text).1 n.title = m.line := by rw [nodeLine, hm]
  obtain ⟨b, hb, hbm⟩ := List.mem_filterMap.mp hmem
  have hplaced := Block.node_placed hb hbm
  obtain ⟨l, hl, hopens⟩ := hplaced.head
  rw [hline]
  refine ⟨⟨l, hl, htitle ▸ hopens, ?_⟩, ⟨m, hm, rfl⟩, ?_, ?_⟩
  · have hfirst : 0 < m.line := hplaced.first_le
    simp [diagnostic, hfirst, hl]
  · rintro ⟨m', hm', -, hline', hoffends⟩
    obtain rfl := eq_of_line hm' hmem hline'
    exact ⟨m', hm, hoffends⟩
  · rintro ⟨m', hm', hoffends⟩
    obtain rfl := Option.some.inj (hm.symm.trans hm')
    exact ⟨m, hmem, htitle, rfl, hoffends⟩

/-- Of all errors and warnings, those about one node are one for each link that leads nowhere and
one for each definition with more than one command, and they point at the first definition of the
title. -/
theorem complaints_point_at_first (text : String) (start : Start) (terminating : List String) :
    List.Forall₂ (fun (n, l) d =>
        d.message = s!"Node '{n.title}' references missing node '{l.target}'" ∧
        PointsAt text n.title (fun m => l.target ∈ m.skeleton.links.map (·.target)) d)
      (lostLinks (Script.read text).1)
      ((run text start terminating).errors.filter (isAboutNode ·.message)) ∧
    List.Forall₂ (fun n d =>
        d.message = s!"Node '{n.title}' has more than one command; only the last one runs" ∧
        PointsAt text n.title (fun m => 1 < m.skeleton.commands.length) d)
      (crowded (Script.read text).1)
      ((run text start terminating).warnings.filter (isAboutNode ·.message)) := by
  rw [filter_errors, filter_warnings, List.forall₂_map_right_iff, List.forall₂_map_right_iff,
    List.forall₂_same, List.forall₂_same]
  constructor
  · rintro ⟨n, l⟩ hlost
    obtain ⟨m, hm, hl⟩ := List.mem_flatMap.mp hlost
    obtain ⟨l, -, heq⟩ := List.mem_map.mp hl
    obtain ⟨rfl, rfl⟩ := Prod.mk.inj heq
    exact ⟨rfl, pointsAt_diagnostic hm _ _ _⟩
  · intro n hn
    exact ⟨rfl, pointsAt_diagnostic (List.mem_of_mem_filter hn) _ _ _⟩

/-- Two nodes of one name. The first only greets; the second has two commands and a jump to a node
that is missing. -/
private def namesakesText : String :=
  "title: A\n---\nHi.\n===\n" ++
    "title: A\n---\n<<loadLevel X>>\n<<loadLevel Y>>\n<<jump Nowhere>>\n===\n"

/-- Both complaints about the second point at the first, which links to nothing and has no
command. -/
theorem namesake_blamed :
    (∃ d ∈ (run namesakesText .unspecified defaultTerminating).errors,
      d.message = "Node 'A' references missing node 'Nowhere'" ∧
      ∀ n ∈ (Script.read namesakesText).1.nodes, n.line = d.line → n.skeleton.links = []) ∧
    ∃ d ∈ (run namesakesText .unspecified defaultTerminating).warnings,
      d.message = "Node 'A' has more than one command; only the last one runs" ∧
      ∀ n ∈ (Script.read namesakesText).1.nodes, n.line = d.line → n.skeleton.commands = [] := by
  decide +kernel

end Validation
end Dialogue
