import Dialogue.Proofs.Graph.Report
import Dialogue.Proofs.Script.Spacing

/-! Comments: a line that holds nothing else means nothing, unless it parts an option from its
link. -/
namespace Dialogue

section Forall₂
variable {α β γ : Type} {R : α → β → Prop} {f : α → γ} {g : β → γ} {xs : List α} {ys : List β}
  (h : List.Forall₂ R xs ys)
include h

theorem map_eq_of_forall₂ (hfg : ∀ x y, R x y → g y = f x) : ys.map g = xs.map f := by
  induction h with
  | nil => rfl
  | cons hxy _ ih => rw [List.map_cons, List.map_cons, hfg _ _ hxy, ih]

theorem filterMap_eq_of_forall₂ {f : α → Option γ} {g : β → Option γ}
    (hfg : ∀ x y, R x y → g y = f x) : ys.filterMap g = xs.filterMap f := by
  induction h with
  | nil => rfl
  | cons hxy _ ih => rw [List.filterMap_cons, List.filterMap_cons, hfg _ _ hxy, ih]

end Forall₂

/-- Nothing but white space and a comment. -/
def Source.IsComment (line : String) : Prop :=
  ∃ gap text, Text.isBlankText gap = true ∧ line = gap ++ "#" ++ text

namespace Script

/-- An option and its link stand on the source line `k` and the line right below it. -/
def CouplesAt (s : Script) (k : Nat) : Prop := ∃ n ∈ s.nodes, n.CouplesAt k

instance (s : Script) (k : Nat) : Decidable (s.CouplesAt k) := List.decidableBEx _ s.nodes

/-- Scripts that differ at most in where things stand in their texts: the titles, the metadata, the
animations of the speakers, whatever the nodes compile to, and the reports of the graph are the
same. -/
structure SameMeaning (s s' : Script) : Prop where
  nodes : List.Forall₂ (fun n n' : Node => n'.title = n.title ∧ n'.metadata = n.metadata ∧
    ∀ visited, n'.compile visited = n.compile visited) s.nodes s'.nodes
  animations : s'.speakers.map (fun (name, sp) => (name, sp.animation)) =
    s.speakers.map fun (name, sp) => (name, sp.animation)
  report : ∀ start terminating,
    Graph.report s' start terminating = Graph.report s start terminating

end Script

namespace Graph

/-- The titles of the nodes that meet a condition. -/
theorem filtered_congr {ns ns' : List Node} (h : List.Forall₂ Node.Alike ns ns')
    {p p' : Node → Bool} (hp : ∀ n n', n.Alike n' → p' n' = p n) :
    (ns'.filter p').map (·.title) = (ns.filter p).map (·.title) := by
  rw [← filterMap_if, ← filterMap_if]
  refine filterMap_eq_of_forall₂ h fun n n' halike => ?_
  rw [hp n n' halike, halike.title]

theorem isTerminal_congr {n n' : Node} (h : n.Alike n') (terminating : List String) :
    isTerminal terminating n' = isTerminal terminating n := by
  rw [isTerminal, isTerminal, Skeleton.command?, Skeleton.command?, h.skeleton.commands,
    h.skeleton.links, h.hasTag]

theorem firstDefinitions_congr {ns ns' : List Node} (h : List.Forall₂ Node.Alike ns ns') :
    List.Forall₂ Node.Alike (firstDefinitions ns) (firstDefinitions ns') := by
  induction h with
  | nil => exact .nil
  | @cons m m' _ _ hm _ ih =>
    refine .cons hm (List.rel_filter (fun n n' hn => ?_) ih)
    have htitles : (n'.title != m'.title) = (n.title != m.title) := by rw [hn.title, hm.title]
    exact Iff.of_eq (congrArg (· = true) htitles.symm)

section Alike
variable {s s' : Script} (h : List.Forall₂ Node.Alike s.nodes s'.nodes)
include h

theorem links_congr : links s' = links s := by
  rw [links, links, List.flatMap_def, List.flatMap_def]
  refine congrArg _ (map_eq_of_forall₂ h fun n n' halike => ?_)
  rw [halike.title, halike.skeleton.links]

theorem hasTitle_congr : s'.hasTitle = s.hasTitle := by
  funext t
  have htitles : s'.titles = s.titles := map_eq_of_forall₂ h fun _ _ halike => halike.title
  have hany (u : Script) : u.hasTitle t = u.titles.any (· == t) := by
    rw [Script.titles, List.any_map]
    rfl
  rw [hany, hany, htitles]

/-- The report sees no more of the nodes than what they mean. -/
theorem report_congr (start : Option String) (terminating : List String) :
    report s' start terminating = report s start terminating := by
  have hedges : edges s' = edges s := by rw [edges, edges, links_congr h, hasTitle_congr h]
  have hdangling : dangling s' = dangling s := by
    rw [dangling, dangling, links_congr h, hasTitle_congr h]
  have hroots : roots s' start = roots s start := by
    have hexamined := filtered_congr h fun n n' halike => halike.hasTag examineTag
    rw [roots, roots, hasTitle_congr h, hexamined]
  have hterminals : terminals s' terminating = terminals s terminating :=
    filtered_congr h fun n n' halike => isTerminal_congr halike terminating
  have hfirsts := firstDefinitions_congr h
  rw [report, report, hedges, hdangling, hroots, hterminals]
  congr 1
  · refine filtered_congr hfirsts fun n n' halike => ?_
    rw [halike.title, halike.hasTag, halike.hasTag]
  · refine filtered_congr hfirsts fun n n' halike => ?_
    rw [halike.title, halike.hasTag]

end Alike
end Graph

namespace Source

/-- Without its comment the line is blank. -/
theorem IsComment.line {line : String} (h : IsComment line) :
    Text.trimEnd (stripComment line) = "" := by
  obtain ⟨gap, text, hgap, rfl⟩ := h
  have hblank : Text.AllBlank gap.toList := Text.isBlankText_iff.mp hgap
  have hmark : ∀ c ∈ gap.toList, (c ≠ '#') := by
    rintro c hc rfl
    exact absurd (hblank _ hc) (by decide)
  have hstrip : stripComment (gap ++ "#" ++ text) = gap := by
    have hsplit : (gap ++ "#" ++ text).toList = gap.toList ++ '#' :: text.toList := by simp
    rw [stripComment, hsplit, List.takeWhile_append_of_pos (by simpa using hmark)]
    simp
  rw [hstrip, Text.trimEnd, Text.dropBlankEnd_eq_nil_iff.mpr hblank, String.ofList_nil]

end Source

namespace Block

/-- The blocks of a text before and after a comment is put between its lines. -/
theorem ofText_spaced {text text' line : String} {above below : List String}
    (hline : Source.IsComment line) (htext : Text.splitLines text = above ++ below)
    (htext' : Text.splitLines text' = above ++ line :: below) :
    List.Forall₂ (Spaced above.length) (ofText text) (ofText text') := by
  rw [ofText, ofText, Source.lines, Source.lines, htext, htext', List.map_append, List.map_append,
    List.map_cons, hline.line]
  exact scan_spaced (by rw [List.length_map, Nat.add_comm]) (by simp) _

end Block

namespace Script

theorem animations_congr {k : Nat} {bs bs' : List Block}
    (h : List.Forall₂ (Block.Spaced k) bs bs') :
    (ofBlocks bs').speakers.map (fun (name, sp) => (name, sp.animation)) =
      (ofBlocks bs).speakers.map fun (name, sp) => (name, sp.animation) := by
  have hspeakers : (bs'.filterMap Block.speaker?).map (fun sp => (sp.name, sp.talk)) =
      (bs.filterMap Block.speaker?).map fun sp => (sp.name, sp.talk) := by
    rw [List.map_filterMap, List.map_filterMap]
    exact filterMap_eq_of_forall₂ h fun b b' hspaced => hspaced.speaker?
  have hanimations (cs : List Block) :
      (ofBlocks cs).speakers.map (fun (name, sp) => (name, sp.animation)) =
        Table.ofList (((cs.filterMap Block.speaker?).map fun sp => (sp.name, sp.talk)).map
          fun (name, talk) => (name, (Speaker.mk name talk 0).animation)) := by
    rw [ofBlocks, ← Table.ofList_map, List.map_map, List.map_map]
    rfl
  rw [hanimations, hanimations, hspeakers]

/-- A comment between the lines of a text changes nothing that the text means, except where it
parts an option from the jump or the detour right below it; there the option is without its link.
Wherever it stands, the problems of the text stay the same but for their lines. -/
theorem read_comment {text text' line : String} {above below : List String}
    (hline : Source.IsComment line) (htext : Text.splitLines text = above ++ below)
    (htext' : Text.splitLines text' = above ++ line :: below) :
    ((read text).1.SameMeaning (read text').1 ↔ ¬ (read text).1.CouplesAt above.length) ∧
    (read text').2.map (fun i => (i.title, i.fault)) =
      (read text).2.map fun i => (i.title, i.fault) := by
  have hblocks := Block.ofText_spaced hline htext htext'
  have hnodes :
      List.Forall₂ (Node.Respaced above.length) (read text).1.nodes (read text').1.nodes :=
    List.rel_filterMap (fun _ _ hspaced => hspaced.node?) hblocks
  refine ⟨⟨?_, fun hcouple => ?_⟩, ?_⟩
  · rintro hsame ⟨n, hn, hcouple⟩
    obtain ⟨i, hi, rfl⟩ := List.getElem_of_mem hn
    have hi' : i < (read text').1.nodes.length := hnodes.length_eq ▸ hi
    obtain ⟨visited, hvisited⟩ := (hnodes.get hi hi').apart hcouple
    exact hvisited ((hsame.nodes.get hi hi').2.2 visited)
  · have halike : List.Forall₂ Node.Alike (read text).1.nodes (read text').1.nodes := by
      rw [List.forall₂_iff_get] at hnodes ⊢
      refine ⟨hnodes.1, fun i hi hi' => (hnodes.2 i hi hi').alike fun hn => ?_⟩
      exact hcouple ⟨_, List.get_mem _ _, hn⟩
    refine ⟨halike.imp fun n n' h => ⟨h.title, h.metadata, h.compile⟩, ?_,
      Graph.report_congr halike⟩
    exact animations_congr hblocks
  · have hissues := map_eq_of_forall₂ hblocks fun b b' hspaced => hspaced.issues
    rw [read, read, List.map_flatMap, List.map_flatMap, List.flatMap_def, List.flatMap_def, hissues]

private def larderTop : List String := ["title: Larder", "tags: cold", "---"]

private def larderRest : List String :=
  ["-> Leave", "<<jump Yard>>", "===", "title: Yard", "---", "Air.", "==="]

private def remark : String := "  # out into the yard"

/-- Above the option the comment is no more than a blank line. -/
theorem read_comment_larder :
    Source.IsComment remark ∧
    Text.splitLines (Text.unlines (larderTop ++ larderRest)) = larderTop ++ larderRest ∧
    Text.splitLines (Text.unlines (larderTop ++ remark :: larderRest)) =
      larderTop ++ remark :: larderRest ∧
    (read (Text.unlines (larderTop ++ larderRest))).1.SameMeaning
      (read (Text.unlines (larderTop ++ remark :: larderRest))).1 := by
  have hline : Source.IsComment remark := ⟨"  ", " out into the yard", by decide, by decide⟩
  have htext : Text.splitLines (Text.unlines (larderTop ++ larderRest)) =
      larderTop ++ larderRest := Text.splitLines_unlines (by decide)
  have htext' : Text.splitLines (Text.unlines (larderTop ++ remark :: larderRest)) =
      larderTop ++ remark :: larderRest := Text.splitLines_unlines (by decide)
  have hsame := (read_comment hline htext htext').1.mpr (by decide +kernel)
  exact ⟨hline, htext, htext', hsame⟩

/-- Between an option and its jump a comment leaves the option without a target, and the node that
it led to cannot be reached any more. -/
theorem comment_parts_link : ¬ ∀ (text text' line : String) (above below : List String),
    Source.IsComment line → Text.splitLines text = above ++ below →
    Text.splitLines text' = above ++ line :: below →
    (read text).1.SameMeaning (read text').1 := by
  intro h
  have hsame := h (Text.unlines (larderTop ++ larderRest))
    (Text.unlines (larderTop ++ "-> Leave" :: remark :: larderRest.tail)) remark
    (larderTop ++ ["-> Leave"]) larderRest.tail ⟨"  ", " out into the yard", by decide, by decide⟩
    (Text.splitLines_unlines (by decide)) (Text.splitLines_unlines (by decide))
  have hreport := congrArg Graph.Report.unreachable (hsame.report (some "Larder") [])
  have hwithout : (Graph.report (read (Text.unlines (larderTop ++ larderRest))).1
      (some "Larder") []).unreachable = [] := by decide +kernel
  have hwith : (Graph.report
      (read (Text.unlines (larderTop ++ "-> Leave" :: remark :: larderRest.tail))).1
      (some "Larder") []).unreachable = ["Yard"] := by decide +kernel
  rw [hwithout, hwith] at hreport
  exact absurd hreport (by decide)

end Script
end Dialogue
