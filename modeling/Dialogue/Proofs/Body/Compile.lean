import Dialogue.Body
import Mathlib.Data.List.TakeWhile
import Mathlib.Tactic

/-! Compiled nodes: where they lead does not depend on what was visited, every target is a link of
the body, and of the visited titles only membership counts. -/
namespace Dialogue

namespace Directive

/-- What a directive can name: word characters, and at least one. -/
structure Names (title : String) : Prop where
  ne_empty : title ≠ ""
  word : ∀ c ∈ title.toList, Text.isWord c = true

theorem names_of_target? {keyword s title : String} (h : target? keyword s = some title) :
    Names title := by
  simp only [target?, Option.bind_eq_bind, Option.bind_eq_some_iff] at h
  obtain ⟨r₁, -, r₂, -, r₃, -, ⟨w, r₄⟩, hw, h⟩ := h
  split_ifs at h with hc
  obtain rfl := Option.some.inj h
  unfold Text.word? at hw
  split at hw
  · simp at hw
  · next hsome =>
    have hspan := Option.some.inj hw
    have hword : w = r₃.takeWhile Text.isWord := by
      rw [List.span_eq_takeWhile_dropWhile] at hspan
      exact (congrArg Prod.fst hspan).symm
    have hne : w ≠ [] := fun hnil => hsome r₄ (hnil ▸ hspan)
    refine ⟨by simpa using hne, ?_⟩
    rw [String.toList_ofList, hword]
    exact fun c hmem => List.mem_takeWhile_imp hmem

theorem names_of_jump? {s title : String} (h : jump? s = some title) : Names title :=
  names_of_target? h

theorem names_of_link? {s : String} {l : Link} (h : link? s = some l) : Names l.target := by
  unfold link? at h
  split at h
  · next title hj =>
    obtain rfl := Option.some.inj h
    exact names_of_jump? hj
  · obtain ⟨title, ht, rfl⟩ := Option.map_eq_some_iff.mp h
    exact names_of_target? ht

end Directive

theorem Gate.split_eq_of_fst {s : String} (h : (split s).1 = none) : split s = (none, s) := by
  unfold split at h ⊢
  cases hp : parts? s with
  | none => rfl
  | some p => simp [hp] at h

namespace Skeleton

theorem names_of_mem_jumps {body : List String} {title : String}
    (h : title ∈ (ofBody body).jumps) : Directive.Names title := by
  simp only [ofBody, spokenPart, List.filterMap_map, List.mem_filterMap, Function.comp] at h
  obtain ⟨l, -, hj⟩ := h
  simp only [BodyLine.ofLine] at hj
  split_ifs at hj with he hm
  · simp [BodyLine.jump?] at hj
  · cases hd : Directive.jump? (Text.trim l) with
    | some t =>
      simp only [hd, BodyLine.jump?, Option.some.injEq] at hj
      exact hj ▸ Directive.names_of_jump? hd
    | none =>
      rw [hd] at hj
      cases hc : Directive.command? (Text.trim l) <;> simp [hc, BodyLine.jump?] at hj
  · simp [BodyLine.jump?] at hj

theorem link_of_mem_gatedOptions {body : List String} {o : GatedOption}
    (h : o ∈ gatedOptions body) : ∃ s, o.link = Directive.link? s := by
  induction body with
  | nil => simp [gatedOptions] at h
  | cons l ls ih =>
    unfold gatedOptions at h
    split at h
    · exact ih h
    · rcases List.mem_cons.mp h with rfl | h
      · use Text.trim (ls.headD "")
      · exact ih h

/-- Directives name the targets of all links. -/
theorem names_of_mem_links {body : List String} {l : Link} (h : l ∈ (ofBody body).links) :
    Directive.Names l.target := by
  rcases List.mem_append.mp h with h | h
  · obtain ⟨t, ht, rfl⟩ := List.mem_map.mp h
    exact names_of_mem_jumps ht
  · obtain ⟨o, ho, hl⟩ := List.mem_filterMap.mp h
    obtain ⟨s, hs⟩ := link_of_mem_gatedOptions ho
    exact Directive.names_of_link? (hs ▸ hl)

theorem jump_mem_links {k : Skeleton} {title : String} (h : title ∈ k.jumps) :
    ⟨title, false⟩ ∈ k.links :=
  List.mem_append_left _ (List.mem_map_of_mem h)

theorem shownOption_mem_links {k : Skeleton} {visited : List String} {c : Choice} {title : String}
    (h : c ∈ k.shownOptions visited) (ht : c.target = some title) :
    ⟨title, c.detour⟩ ∈ k.links := by
  obtain ⟨o, ho, hc⟩ := List.mem_filterMap.mp h
  split_ifs at hc with hg
  obtain rfl := Option.some.inj hc
  obtain ⟨l, hl, rfl⟩ := Option.map_eq_some_iff.mp ht
  refine List.mem_append_right _ (List.mem_filterMap.mpr ⟨o, ho, ?_⟩)
  simp [GatedOption.choice, hl]

theorem shownOptions_of_ungated {k : Skeleton} (h : ∀ o ∈ k.options, o.gate = none)
    (visited : List String) : k.shownOptions visited = k.options.map (·.choice visited) := by
  unfold shownOptions
  rw [← List.filterMap_eq_map]
  refine List.filterMap_congr fun o ho => ?_
  simp [h o ho, Gate.allows]

/-- A line without a gate has a text, for blank lines are not spoken. -/
theorem text_ne_empty_of_ungated {body : List String} {l : GatedLine}
    (h : l ∈ (ofBody body).lines) (hg : l.gate = none) : l.text ≠ "" := by
  obtain ⟨⟨b, offset⟩, hb, hl⟩ := List.mem_filterMap.mp h
  obtain ⟨line, -, rfl⟩ := List.mem_map.mp (List.fst_mem_of_mem_zipIdx hb)
  simp only [BodyLine.ofLine] at hl
  split_ifs at hl with he hm
  · simp [BodyLine.spoken?] at hl
  · cases hj : Directive.jump? (Text.trim line) <;>
      cases hc : Directive.command? (Text.trim line) <;> simp [hj, hc, BodyLine.spoken?] at hl
  · obtain rfl := Option.some.inj hl
    rw [Gate.split_eq_of_fst hg]
    simpa using he

theorem shownLines_ne_nil_of_ungated {body : List String} (hl : (ofBody body).lines ≠ [])
    (h : ∀ l ∈ (ofBody body).lines, l.gate = none) (visited : List String) :
    (ofBody body).shownLines visited ≠ [] := by
  obtain ⟨l, hmem⟩ := List.exists_mem_of_ne_nil _ hl
  have hshown : l.text ∈ (ofBody body).shownLines visited := by
    refine List.mem_filterMap.mpr ⟨l, hmem, ?_⟩
    simp [h l hmem, Gate.allows, text_ne_empty_of_ungated hmem (h l hmem)]
  exact List.ne_nil_of_mem hshown

theorem links_eq_nil_iff {k : Skeleton} :
    k.links = [] ↔ k.jumps = [] ∧ ∀ o ∈ k.options, o.link = none := by
  simp [links]

end Skeleton

namespace Node

@[simp] theorem compile_title (n : Node) (visited : List String) :
    (n.compile visited).title = n.title := rfl

theorem jump_mem_links {n : Node} {visited : List String} {title : String}
    (h : (n.compile visited).jump = some title) : ⟨title, false⟩ ∈ n.skeleton.links :=
  Skeleton.jump_mem_links (List.mem_of_getLast? h)

theorem option_mem_links {n : Node} {visited : List String} {c : Choice} {title : String}
    (h : c ∈ (n.compile visited).options) (ht : c.target = some title) :
    ⟨title, c.detour⟩ ∈ n.skeleton.links :=
  Skeleton.shownOption_mem_links h ht

/-- An option is marked as visited by what had been visited when its node was compiled. -/
theorem option_visited_iff {n : Node} {visited : List String} {c : Choice}
    (h : c ∈ (n.compile visited).options) :
    c.visited = true ↔ ∃ t, c.target = some t ∧ t ∈ visited := by
  obtain ⟨o, -, hc⟩ := List.mem_filterMap.mp h
  split_ifs at hc
  obtain rfl := Option.some.inj hc
  cases hl : o.link <;> simp [GatedOption.choice, hl]

theorem link_target_ne_empty {n : Node} {l : Link} (h : l ∈ n.skeleton.links) : l.target ≠ "" :=
  (Skeleton.names_of_mem_links h).ne_empty

/-- Of the visited titles only membership counts. -/
theorem compile_congr (n : Node) {v w : List String} (h : ∀ t, t ∈ v ↔ t ∈ w) :
    n.compile v = n.compile w := by
  have hc : ∀ t, v.contains t = w.contains t := by
    intro t
    rw [Bool.eq_iff_iff, List.contains_iff_mem, List.contains_iff_mem]
    exact h t
  have hg : ∀ g, Gate.allows v g = Gate.allows w g := by
    intro g
    cases g <;> simp only [Gate.allows, Gate.passes, hc]
  simp only [compile, Skeleton.shownLines, Skeleton.shownOptions, GatedOption.choice, hg, hc]

end Node
end Dialogue
