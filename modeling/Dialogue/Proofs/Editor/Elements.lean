import Dialogue.Editor.Elements
import Dialogue.Proofs.Body.Compile
import Dialogue.Proofs.Text.Match
import Dialogue.Script.Reader

/-! Elements: which elements of a drawing go by one name. Edges do if they join the same nodes, and
an edge and a node do if the title reads like the edge. -/
namespace Dialogue.Editor
open Directive

theorem not_isWord_bracket : Text.isWord '>' = false := by decide

theorem Names.not_mem_bracket {title : String} (h : Names title) : '>' ∉ title.toList := by
  intro hmem
  exact Bool.false_ne_true (not_isWord_bracket.symm.trans (h.word '>' hmem))

namespace EdgeElement

theorem toList_id (e : EdgeElement) :
    e.id.toList = (e.source.toList ++ ['-']) ++ '>' :: e.target.toList := by
  have htext : e.id = e.source ++ "->" ++ e.target := rfl
  simp [htext]

/-- Titles may hold arrows, but targets do not, so the last arrow parts the two ends of an edge. -/
theorem id_inj {e e' : EdgeElement} (h : Names e.target) (h' : Names e'.target) :
    e.id = e'.id ↔ e.source = e'.source ∧ e.target = e'.target := by
  constructor
  · intro hid
    have hchars : (e.source.toList ++ ['-']) ++ '>' :: e.target.toList =
        (e'.source.toList ++ ['-']) ++ '>' :: e'.target.toList := by
      rw [← toList_id, ← toList_id, hid]
    obtain ⟨hsource, htarget⟩ :=
      Text.eq_of_append_mark (Names.not_mem_bracket h) (Names.not_mem_bracket h') hchars
    have hsource := List.append_cancel_right hsource
    exact ⟨String.toList_injective hsource, String.toList_injective htarget⟩
  · rintro ⟨hsource, htarget⟩
    rw [id, id, hsource, htarget]

end EdgeElement

namespace Elements
variable {s : Script} {start : Option String} {n n' : Node} {e e' : EdgeElement}

theorem mem_edgesOf_iff : e ∈ edgesOf s n ↔
    ∃ l ∈ n.skeleton.links, e = ⟨n.title, l.target, l.detour, !s.hasTitle l.target⟩ := by
  simp only [edgesOf, List.mem_map, eq_comm]

theorem names_of_mem_edgesOf (h : e ∈ edgesOf s n) : Names e.target := by
  obtain ⟨l, hl, rfl⟩ := mem_edgesOf_iff.mp h
  exact Skeleton.names_of_mem_links hl

theorem source_of_mem_edgesOf (h : e ∈ edgesOf s n) : e.source = n.title := by
  obtain ⟨l, -, rfl⟩ := mem_edgesOf_iff.mp h
  rfl

theorem names_of_mem_edges (h : e ∈ (ofScript s start).edges) : Names e.target := by
  obtain ⟨n, -, hn⟩ := List.mem_flatMap.mp h
  exact names_of_mem_edgesOf hn

theorem ids_ofScript :
    (ofScript s start).ids = s.titles ++ s.nodes.flatMap fun n => (edgesOf s n).map (·.id) := by
  have hnodes : (ofScript s start).nodes.map (·.id) = s.titles := List.map_map
  have hedges : (ofScript s start).edges.map (·.id) =
      s.nodes.flatMap fun n => (edgesOf s n).map (·.id) := List.map_flatMap
  rw [ids, hnodes, hedges]

/-- The edges of one node have names of their own unless two of them lead to one place. -/
theorem nodup_edgesOf_iff :
    ((edgesOf s n).map (·.id)).Nodup ↔ (n.skeleton.links.map (·.target)).Nodup := by
  have htargets : n.skeleton.links.map (·.target) = (edgesOf s n).map (·.target) := by
    rw [edgesOf, List.map_map]
    rfl
  rw [htargets]
  unfold List.Nodup
  rw [List.pairwise_map, List.pairwise_map]
  apply List.Pairwise.iff_of_mem
  intro e e' he he'
  have hsource : e.source = e'.source :=
    (source_of_mem_edgesOf he).trans (source_of_mem_edgesOf he').symm
  rw [ne_eq, EdgeElement.id_inj (names_of_mem_edgesOf he) (names_of_mem_edgesOf he'),
    and_iff_right hsource]

/-- Edges of nodes with different titles never share a name. -/
theorem disjoint_edgesOf (h : n.title ≠ n'.title) :
    ((edgesOf s n).map (·.id)).Disjoint ((edgesOf s n').map (·.id)) := by
  intro name hn hn'
  obtain ⟨e, he, rfl⟩ := List.mem_map.mp hn
  obtain ⟨e', he', hid⟩ := List.mem_map.mp hn'
  have hsource := ((EdgeElement.id_inj (names_of_mem_edgesOf he')
    (names_of_mem_edgesOf he)).mp hid).1
  rw [source_of_mem_edgesOf he, source_of_mem_edgesOf he'] at hsource
  exact h hsource.symm

theorem nodup_edges_iff (h : s.titles.Nodup) :
    (s.nodes.flatMap fun n => (edgesOf s n).map (·.id)).Nodup ↔
      ∀ n ∈ s.nodes, (n.skeleton.links.map (·.target)).Nodup := by
  have hpairs : s.nodes.Pairwise (Function.onFun List.Disjoint fun n =>
      (edgesOf s n).map (·.id)) :=
    (List.pairwise_map.mp h).imp fun hne => disjoint_edgesOf hne
  rw [List.nodup_flatMap, and_iff_left hpairs]
  simp only [nodup_edgesOf_iff]

/-- Two edges go by one name if they join the same nodes, and else not. So where titles differ, all
elements have names of their own if no node has two links to one place and no title reads like an
edge, and else not. -/
theorem ids_nodup_iff (s : Script) (start : Option String) (h : s.titles.Nodup) :
    (∀ e ∈ (ofScript s start).edges, ∀ e' ∈ (ofScript s start).edges,
      e.id = e'.id ↔ e.source = e'.source ∧ e.target = e'.target) ∧
    ((ofScript s start).ids.Nodup ↔
      (∀ n ∈ s.nodes, (n.skeleton.links.map (·.target)).Nodup) ∧
      ∀ e ∈ (ofScript s start).edges, e.id ∉ s.titles) := by
  constructor
  · intro e he e' he'
    exact EdgeElement.id_inj (names_of_mem_edges he) (names_of_mem_edges he')
  · have hedges : (ofScript s start).edges = s.nodes.flatMap (edgesOf s) := rfl
    rw [ids_ofScript, List.nodup_append', nodup_edges_iff h, and_iff_right h, hedges]
    apply and_congr_right'
    constructor
    · intro hdisjoint e he htitle
      obtain ⟨n, hn, hmem⟩ := List.mem_flatMap.mp he
      exact hdisjoint htitle (List.mem_flatMap.mpr ⟨n, hn, List.mem_map_of_mem hmem⟩)
    · intro hfree name htitle hname
      obtain ⟨n, hn, hmem⟩ := List.mem_flatMap.mp hname
      obtain ⟨e, he, rfl⟩ := List.mem_map.mp hmem
      exact hfree e (List.mem_flatMap.mpr ⟨n, hn, he⟩) htitle

/-- An inn with ways to two rooms, and a third that is called like a way that it does not have. -/
private def innText : String :=
  "title: Inn\n---\n-> Up\n<<jump Attic>>\n-> Down\n<<detour Cellar>>\n===\n" ++
    "title: Attic\n===\ntitle: Cellar\n===\ntitle: Inn->Yard\n===\n"

theorem ids_nodup_inn : (Script.read innText).1.titles.Nodup ∧
    (ofScript (Script.read innText).1 (some "Inn")).ids.Nodup := by
  have htitles : (Script.read innText).1.titles.Nodup := by decide +kernel
  have hlinks : ∀ n ∈ (Script.read innText).1.nodes,
      (n.skeleton.links.map (·.target)).Nodup := by decide +kernel
  have hfree : ∀ e ∈ (ofScript (Script.read innText).1 (some "Inn")).edges,
      e.id ∉ (Script.read innText).1.titles := by decide +kernel
  exact ⟨htitles, (ids_nodup_iff _ (some "Inn") htitles).2.mpr ⟨hlinks, hfree⟩⟩

/-- Two choices that lead to one place. -/
private def twinsText : String :=
  "title: A\n---\n-> One\n<<jump B>>\n-> Two\n<<jump B>>\n===\ntitle: B\n---\nHi.\n===\n"

/-- A title that reads like an edge. -/
private def arrowText : String :=
  "title: A\n---\n<<jump B>>\n===\ntitle: B\n---\nHi.\n===\ntitle: A->B\n---\nHo.\n===\n"

/-- Their titles differ, and yet two edges go by one name, or an edge and a node. -/
theorem twins_share_name :
    ((Script.read twinsText).1.titles.Nodup ∧
      ¬ (ofScript (Script.read twinsText).1 (some "A")).ids.Nodup) ∧
    (Script.read arrowText).1.titles.Nodup ∧
      ¬ (ofScript (Script.read arrowText).1 (some "A")).ids.Nodup := by
  decide +kernel

end Elements
end Dialogue.Editor
