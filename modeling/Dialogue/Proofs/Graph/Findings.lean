import Dialogue.Proofs.Graph.Report

/-! Findings: the report of a graph names exactly the titles that paths of links leave out, each
once and in the order of their first definitions, and every link without a target. -/
namespace Dialogue

namespace Script

/-- Titles that are listed once each, in the order of their first definitions: those whose first
definition is of a kind. -/
structure Lists (s : Script) (ts : List String) (kind : Node → Prop) : Prop where
  order : ts.Pairwise fun t u => s.titles.idxOf t < s.titles.idxOf u
  mem : ∀ t, t ∈ ts ↔ ∃ n, s.nodes.find? (·.title == t) = some n ∧ kind n

end Script

namespace Graph
variable {s : Script} {start : Option String} {terminating : List String} {title : String}

/-- Titles that are joined by a link of any definition. A detour joins its target back to it. -/
inductive Joined (s : Script) : String → String → Prop
  | along {n : Node} {l : Link} (hn : n ∈ s.nodes) (hl : l ∈ n.skeleton.links)
      (ht : l.target ∈ s.titles) : Joined s n.title l.target
  | back {n : Node} {l : Link} (hn : n ∈ s.nodes) (hl : l ∈ n.skeleton.links)
      (ht : l.target ∈ s.titles) (hd : l.detour = true) : Joined s l.target n.title

/-- Where a dialogue can be entered: at the start, if there is such a title, and at every title with
an examined definition. -/
inductive Root (s : Script) (start : Option String) : String → Prop
  | start {title : String} (h : start = some title) (ht : title ∈ s.titles) : Root s start title
  | examined {n : Node} (hn : n ∈ s.nodes) (ht : examineTag ∈ n.tags) : Root s start n.title

/-- The titles with a definition that ends a dialogue: its last command does, or it has neither
command nor link, or it is tagged as final. -/
inductive Terminal (s : Script) (terminating : List String) : String → Prop
  | command {n : Node} {c : Command} (hn : n ∈ s.nodes)
      (hc : n.skeleton.commands.getLast? = some c) (ht : c.name ∈ terminating) :
      Terminal s terminating n.title
  | deadEnd {n : Node} (hn : n ∈ s.nodes) (hc : n.skeleton.commands = [])
      (hl : n.skeleton.links = []) : Terminal s terminating n.title
  | final {n : Node} (hn : n ∈ s.nodes) (ht : finalTag ∈ n.tags) : Terminal s terminating n.title

/-- Some root is joined to the title by a path. -/
def Attained (s : Script) (start : Option String) (title : String) : Prop :=
  ∃ root, Root s start root ∧ Relation.ReflTransGen (Joined s) root title

/-- The title is joined to a terminal one by a path. -/
def Concludes (s : Script) (terminating : List String) (title : String) : Prop :=
  ∃ ending, Terminal s terminating ending ∧ Relation.ReflTransGen (Joined s) title ending

theorem mem_titles_iff : title ∈ s.titles ↔ s.hasTitle title = true := by
  rw [Script.hasTitle_iff, Script.titles, List.mem_map]

theorem joined_iff {a b : String} : Joined s a b ↔ (a, b) ∈ edges s := by
  constructor
  · rintro (⟨hn, hl, ht⟩ | ⟨hn, hl, ht, hd⟩)
    · exact mem_edges_of_link hn hl (mem_titles_iff.mp ht)
    · exact mem_edges_of_detour hn hl (mem_titles_iff.mp ht) hd
  · intro h
    obtain ⟨n, hn, l, hl, ht, ⟨rfl, rfl⟩ | ⟨hd, rfl, rfl⟩⟩ := exists_link_of_mem_edges h
    · exact .along hn hl (mem_titles_iff.mpr ht)
    · exact .back hn hl (mem_titles_iff.mpr ht) hd

theorem path_iff {a b : String} : Relation.ReflTransGen (Joined s) a b ↔ Leads (edges s) a b := by
  have hedge : Joined s = fun a b => (a, b) ∈ edges s := by
    ext a b
    exact joined_iff
  rw [hedge, Leads]

theorem root_iff : Root s start title ↔ title ∈ roots s start := by
  simp only [roots, List.mem_append, Option.mem_toList, Option.filter_eq_some_iff,
    List.mem_map, List.mem_filter]
  constructor
  · rintro (⟨h, ht⟩ | ⟨hn, ht⟩)
    · exact .inl ⟨h, mem_titles_iff.mp ht⟩
    · exact .inr ⟨_, ⟨hn, List.contains_iff_mem.mpr ht⟩, rfl⟩
  · rintro (⟨h, ht⟩ | ⟨n, ⟨hn, ht⟩, rfl⟩)
    · exact .start h (mem_titles_iff.mpr ht)
    · exact .examined hn (List.contains_iff_mem.mp ht)

theorem attained_iff : Attained s start title ↔ Reachable s start title := by
  simp only [Attained, Reachable, root_iff, path_iff]

theorem terminal_iff :
    Terminal s terminating title ↔
      ∃ n ∈ s.nodes, isTerminal terminating n = true ∧ n.title = title := by
  constructor
  · rintro (⟨hn, hc, ht⟩ | ⟨hn, hc, hl⟩ | ⟨hn, ht⟩)
    · exact ⟨_, hn, isTerminal_iff.mpr (.inl ⟨_, hc, ht⟩), rfl⟩
    · exact ⟨_, hn, isTerminal_iff.mpr (.inr (.inl ⟨List.getLast?_eq_none_iff.mpr hc, hl⟩)), rfl⟩
    · exact ⟨_, hn, isTerminal_iff.mpr (.inr (.inr (List.contains_iff_mem.mpr ht))), rfl⟩
  · rintro ⟨n, hn, hend, rfl⟩
    rcases isTerminal_iff.mp hend with ⟨c, hc, ht⟩ | ⟨hc, hl⟩ | ht
    · exact .command hn hc ht
    · exact .deadEnd hn (List.getLast?_eq_none_iff.mp hc) hl
    · exact .final hn (List.contains_iff_mem.mp ht)

theorem concludes_iff : Concludes s terminating title ↔ CanEnd s terminating title := by
  simp only [Concludes, CanEnd, terminal_iff, path_iff]
  constructor
  · rintro ⟨_, ⟨n, hn, hend, rfl⟩, hp⟩
    exact ⟨n, hn, hend, hp⟩
  · rintro ⟨n, hn, hend, hp⟩
    exact ⟨n.title, ⟨n, hn, hend, rfl⟩, hp⟩

/-- The first definition of a title is the one that a search from the front finds. -/
theorem mem_firstDefinitions_iff {n : Node} {ns : List Node} :
    n ∈ firstDefinitions ns ↔ ns.find? (·.title == n.title) = some n := by
  induction ns with
  | nil => simp [firstDefinitions]
  | cons m ns ih =>
    rw [firstDefinitions, List.mem_cons, List.mem_filter, ih, List.find?_cons]
    by_cases hm : m.title = n.title
    · simp [hm, eq_comm]
    · have hne : n ≠ m := fun h => hm (h ▸ rfl)
      simp [beq_eq_false_iff_ne.mpr hm, hne, Ne.symm hm]

theorem firstDefinitions_pairwise (ns : List Node) :
    (firstDefinitions ns).Pairwise fun m n =>
      (ns.map (·.title)).idxOf m.title < (ns.map (·.title)).idxOf n.title := by
  induction ns with
  | nil => exact .nil
  | cons k ns ih =>
    have hlater : ∀ n ∈ (firstDefinitions ns).filter (·.title != k.title), k.title ≠ n.title := by
      intro n hn
      exact (bne_iff_ne.mp (List.mem_filter.mp hn).2).symm
    rw [firstDefinitions, List.pairwise_cons, List.map_cons]
    refine ⟨fun n hn => ?_, (ih.filter _).imp_of_mem fun {m n} hm hn h => ?_⟩
    · rw [List.idxOf_cons_self, List.idxOf_cons_ne _ (hlater n hn)]
      exact Nat.succ_pos _
    · rw [List.idxOf_cons_ne _ (hlater m hm), List.idxOf_cons_ne _ (hlater n hn)]
      exact Nat.succ_lt_succ h

/-- What is kept of the first definitions is listed by its titles. -/
theorem lists_filter {kind : Node → Prop} {p : Node → Bool} (hp : ∀ n, p n = true ↔ kind n) :
    s.Lists (((firstDefinitions s.nodes).filter p).map (·.title)) kind where
  order := List.pairwise_map.mpr ((firstDefinitions_pairwise s.nodes).filter p)
  mem t := by
    simp only [List.mem_map, List.mem_filter, mem_firstDefinitions_iff, hp]
    constructor
    · rintro ⟨n, ⟨hn, hkind⟩, rfl⟩
      exact ⟨n, hn, hkind⟩
    · rintro ⟨n, hn, hkind⟩
      have ht : n.title = t := by simpa using List.find?_some hn
      exact ⟨n, ⟨ht ▸ hn, hkind⟩, ht⟩

theorem dangling_eq (s : Script) : dangling s = s.nodes.flatMap fun n =>
    ((n.skeleton.links.map (·.target)).filter (· ∉ s.titles)).map (n.title, ·) := by
  simp only [dangling, links, List.filterMap_flatMap, List.filterMap_map]
  congr 1
  funext n
  rw [List.filter_map, List.map_map, ← List.filterMap_eq_map, List.filterMap_filter]
  refine List.filterMap_congr fun l _ => ?_
  cases ht : s.hasTitle l.target <;> simp [mem_titles_iff, ht]

/-- The report against the graph of links: unreachable are the titles that no path attains and whose
first definition is neither disabled nor examined, non-terminating those that are attained, come to
no terminal title, and are not examined by their first definition, and dangling all links without a
target, in the order of their definitions and in these. -/
theorem report_exact (s : Script) (start : Option String) (terminating : List String) :
    s.Lists (report s start terminating).unreachable (fun n =>
      ¬ Attained s start n.title ∧ disabledTag ∉ n.tags ∧ examineTag ∉ n.tags) ∧
    s.Lists (report s start terminating).nonterminating (fun n =>
      Attained s start n.title ∧ ¬ Concludes s terminating n.title ∧ examineTag ∉ n.tags) ∧
    (report s start terminating).dangling = s.nodes.flatMap fun n =>
      ((n.skeleton.links.map (·.target)).filter (· ∉ s.titles)).map (n.title, ·) := by
  refine ⟨lists_filter fun n => ?_, lists_filter fun n => ?_, dangling_eq s⟩
  · simp only [attained_iff, Reachable, ← mem_reached_iff, Node.hasTag, Bool.and_eq_true,
      Bool.not_eq_true', List.contains_eq_mem, decide_eq_false_iff_not, and_assoc]
  · simp only [attained_iff, Reachable, concludes_iff, ← mem_reached_iff, ← mem_reached_turned_iff,
      Node.hasTag, Bool.and_eq_true, Bool.not_eq_true', List.contains_eq_mem, decide_eq_true_eq,
      decide_eq_false_iff_not, and_assoc]

end Graph
end Dialogue
