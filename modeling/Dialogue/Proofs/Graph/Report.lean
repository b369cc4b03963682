import Dialogue.Proofs.Graph.Walk
import Dialogue.Proofs.Script.Titles

/-! What the report of a graph says of titles, links and the start. -/
namespace Dialogue.Graph

theorem mem_links {s : Script} {n : Node} {l : Link} (hn : n ∈ s.nodes)
    (hl : l ∈ n.skeleton.links) : (n.title, l) ∈ links s :=
  List.mem_flatMap.mpr ⟨n, hn, List.mem_map_of_mem hl⟩

theorem mem_edges_of_link {s : Script} {n : Node} {l : Link} (hn : n ∈ s.nodes)
    (hl : l ∈ n.skeleton.links) (ht : s.hasTitle l.target = true) :
    (n.title, l.target) ∈ edges s := by
  refine List.mem_flatMap.mpr ⟨_, mem_links hn hl, ?_⟩
  simp only [ht, if_true]
  split_ifs <;> simp

theorem mem_edges_of_detour {s : Script} {n : Node} {l : Link} (hn : n ∈ s.nodes)
    (hl : l ∈ n.skeleton.links) (ht : s.hasTitle l.target = true) (hd : l.detour = true) :
    (l.target, n.title) ∈ edges s := by
  refine List.mem_flatMap.mpr ⟨_, mem_links hn hl, ?_⟩
  simp [ht, hd]

/-- Each edge comes from a link between titles, and runs against it only for a detour. -/
theorem exists_link_of_mem_edges {s : Script} {a b : String} (h : (a, b) ∈ edges s) :
    ∃ n ∈ s.nodes, ∃ l ∈ n.skeleton.links, s.hasTitle l.target = true ∧
      (n.title = a ∧ l.target = b ∨ l.detour = true ∧ l.target = a ∧ n.title = b) := by
  obtain ⟨⟨source, l⟩, hlink, h⟩ := List.mem_flatMap.mp h
  obtain ⟨n, hn, hl⟩ := List.mem_flatMap.mp hlink
  obtain ⟨l', hmem, heq⟩ := List.mem_map.mp hl
  obtain ⟨rfl, rfl⟩ := Prod.mk.inj heq
  dsimp only at h
  split_ifs at h with ht hd
  · rcases List.mem_cons.mp h with h | h
    · obtain ⟨rfl, rfl⟩ := Prod.mk.inj h
      exact ⟨n, hn, l', hmem, ht, .inl ⟨rfl, rfl⟩⟩
    · obtain ⟨rfl, rfl⟩ := Prod.mk.inj (List.mem_singleton.mp h)
      exact ⟨n, hn, l', hmem, ht, .inr ⟨hd, rfl, rfl⟩⟩
  · obtain ⟨rfl, rfl⟩ := Prod.mk.inj (List.mem_singleton.mp h)
    exact ⟨n, hn, l', hmem, ht, .inl ⟨rfl, rfl⟩⟩
  · simp at h

theorem hasTitle_of_mem_edges {s : Script} {a b : String} (h : (a, b) ∈ edges s) :
    s.hasTitle b = true := by
  obtain ⟨n, hn, l, -, ht, ⟨-, rfl⟩ | ⟨-, -, rfl⟩⟩ := exists_link_of_mem_edges h
  · exact ht
  · exact (s.hasTitle_iff n.title).mpr ⟨n, hn, rfl⟩

theorem dangling_eq_nil_iff (s : Script) :
    dangling s = [] ↔ ∀ n ∈ s.nodes, ∀ l ∈ n.skeleton.links, s.hasTitle l.target = true := by
  simp only [dangling, links, List.filterMap_eq_nil_iff, List.mem_flatMap, List.mem_map,
    ite_eq_left_iff, reduceCtorEq, imp_false, Bool.not_eq_true, Bool.not_eq_false]
  constructor
  · exact fun h n hn l hl => h (n.title, l) ⟨n, hn, l, hl, rfl⟩
  · rintro h _ ⟨n, hn, l, hl, rfl⟩
    exact h n hn l hl

theorem mem_of_mem_firstDefinitions {n : Node} {ns : List Node} (h : n ∈ firstDefinitions ns) :
    n ∈ ns := by
  induction ns with
  | nil => exact h
  | cons m ns ih =>
    rcases List.mem_cons.mp h with rfl | h
    · exact List.mem_cons_self
    · exact List.mem_cons_of_mem m (ih (List.mem_of_mem_filter h))

/-- The titles that a path of links joins to the start or to an examined node. -/
def Reachable (s : Script) (start : Option String) (title : String) : Prop :=
  ∃ r ∈ roots s start, Leads (edges s) r title

theorem not_reachable_of_mem_unreachable {s : Script} {start : Option String}
    {terminating : List String} {title : String}
    (h : title ∈ (report s start terminating).unreachable) :
    s.hasTitle title = true ∧ ¬ Reachable s start title := by
  obtain ⟨n, hn, rfl⟩ := List.mem_map.mp h
  obtain ⟨hf, hr⟩ := List.mem_filter.mp hn
  simp only [Bool.and_eq_true, Bool.not_eq_true', List.contains_eq_mem, decide_eq_false_iff_not,
    mem_reached_iff] at hr
  exact ⟨(s.hasTitle_iff n.title).mpr ⟨n, mem_of_mem_firstDefinitions hf, rfl⟩, hr.1.1⟩

theorem reachable_start {s : Script} {start : String} (h : s.hasTitle start = true) :
    Reachable s (some start) start :=
  ⟨start, List.mem_append_left _ (by simp [h]), .refl⟩

theorem reachable_examined {s : Script} {start : Option String} {n : Node} (hn : n ∈ s.nodes)
    (ht : n.hasTag examineTag = true) : Reachable s start n.title :=
  ⟨n.title, List.mem_append_right _
    (List.mem_map_of_mem (List.mem_filter.mpr ⟨hn, ht⟩)), .refl⟩

theorem Reachable.link {s : Script} {start : Option String} {n : Node} {l : Link}
    (h : Reachable s start n.title) (hn : n ∈ s.nodes) (hl : l ∈ n.skeleton.links)
    (ht : s.hasTitle l.target = true) : Reachable s start l.target := by
  obtain ⟨r, hr, hp⟩ := h
  exact ⟨r, hr, hp.tail (mem_edges_of_link hn hl ht)⟩

theorem Reachable.hasTitle {s : Script} {start : Option String} {title : String}
    (h : Reachable s start title) : s.hasTitle title = true := by
  obtain ⟨r, hr, hp⟩ := h
  cases hp with
  | refl =>
    rcases List.mem_append.mp hr with hr | hr
    · obtain ⟨-, ht⟩ : start = some title ∧ s.hasTitle title = true := by simpa using hr
      exact ht
    · obtain ⟨n, hn, rfl⟩ := List.mem_map.mp hr
      exact (s.hasTitle_iff n.title).mpr ⟨n, (List.mem_filter.mp hn).1, rfl⟩
  | tail _ hb => exact hasTitle_of_mem_edges hb

theorem isTerminal_iff {terminating : List String} {n : Node} :
    isTerminal terminating n = true ↔
      (∃ c, n.skeleton.command? = some c ∧ c.name ∈ terminating) ∨
      (n.skeleton.command? = none ∧ n.skeleton.links = []) ∨ n.hasTag finalTag = true := by
  simp only [isTerminal, Bool.or_eq_true]
  cases n.skeleton.command? <;> simp

/-- A path of links leads from a title to a definition that ends a dialogue. -/
def CanEnd (s : Script) (terminating : List String) (title : String) : Prop :=
  ∃ n ∈ s.nodes, isTerminal terminating n = true ∧ Leads (edges s) title n.title

section CanEnd
variable {s : Script} {start : Option String} {terminating : List String} {title : String}
  {n : Node}

theorem canEnd_of_isTerminal (hn : n ∈ s.nodes) (h : isTerminal terminating n = true) :
    CanEnd s terminating n.title := ⟨n, hn, h, .refl⟩

theorem CanEnd.of_link {l : Link} (h : CanEnd s terminating l.target) (hn : n ∈ s.nodes)
    (hl : l ∈ n.skeleton.links) (ht : s.hasTitle l.target = true) :
    CanEnd s terminating n.title := by
  obtain ⟨m, hm, hend, hp⟩ := h
  exact ⟨m, hm, hend, .head (mem_edges_of_link hn hl ht) hp⟩

theorem mem_reached_turned_iff : title ∈
    reached ((edges s).map fun (a, b) => (b, a)) (terminals s terminating) ↔
      CanEnd s terminating title := by
  simp only [mem_reached_iff, leads_turned, terminals, List.mem_map, List.mem_filter, CanEnd]
  constructor
  · rintro ⟨_, ⟨n, ⟨hn, hend⟩, rfl⟩, hp⟩
    exact ⟨n, hn, hend, hp⟩
  · rintro ⟨n, hn, hend, hp⟩
    exact ⟨_, ⟨n, ⟨hn, hend⟩, rfl⟩, hp⟩

theorem not_canEnd_of_mem_nonterminating
    (h : title ∈ (report s start terminating).nonterminating) : ¬ CanEnd s terminating title := by
  obtain ⟨n, hn, rfl⟩ := List.mem_map.mp h
  have hend := (List.mem_filter.mp hn).2
  simp only [Bool.and_eq_true, Bool.not_eq_true', List.contains_eq_mem, decide_eq_false_iff_not,
    mem_reached_turned_iff] at hend
  exact hend.1.2

theorem exists_mem_firstDefinitions {ns : List Node} (h : n ∈ ns) :
    ∃ m ∈ firstDefinitions ns, m.title = n.title := by
  induction ns with
  | nil => simp at h
  | cons k ns ih =>
    by_cases hk : k.title = n.title
    · exact ⟨k, List.mem_cons_self, hk⟩
    · rcases List.mem_cons.mp h with rfl | h
      · exact absurd rfl hk
      · obtain ⟨m, hm, ht⟩ := ih h
        refine ⟨m, List.mem_cons_of_mem k (List.mem_filter.mpr ⟨hm, ?_⟩), ht⟩
        simpa [ht] using Ne.symm hk

/-- What can be reached and is not examined comes to an end, or the report names it. -/
theorem canEnd_of_not_mem_nonterminating (hr : Reachable s start title)
    (hx : ∀ n ∈ s.nodes, n.title = title → n.hasTag examineTag = false)
    (h : title ∉ (report s start terminating).nonterminating) : CanEnd s terminating title := by
  obtain ⟨m, hm, rfl⟩ := (s.hasTitle_iff title).mp hr.hasTitle
  obtain ⟨n, hn, ht⟩ := exists_mem_firstDefinitions hm
  rw [← ht] at hr hx h ⊢
  by_contra hend
  refine h (List.mem_map.mpr ⟨n, List.mem_filter.mpr ⟨hn, ?_⟩, rfl⟩)
  simp only [Bool.and_eq_true, Bool.not_eq_true', List.contains_eq_mem, decide_eq_true_eq,
    decide_eq_false_iff_not, mem_reached_turned_iff]
  exact ⟨⟨(mem_reached_iff _ _ _).mpr hr, hend⟩, hx n (mem_of_mem_firstDefinitions hn) rfl⟩

end CanEnd

end Dialogue.Graph
