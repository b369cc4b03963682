import Dialogue.Proofs.Graph.Report
import Dialogue.Proofs.Session.Calls

/-! Following links: calls that lead from a node to any node it links to, by its jump, by an option
or by a detour. -/
namespace Dialogue.Session
open Dialogue.Graph

/-- A state in a node that was compiled against some titles. -/
structure Within (n : Node) (before : List String) (s : State) : Prop where
  phase : s.phase = .emitting
  current : s.current = some n.title
  content : s.content = some (n.compile before)

theorem within_entering (s : State) (n : Node) : Within n s.visited (s.entering n false) :=
  ⟨rfl, rfl, rfl⟩

/-- A node whose links can all be followed: no option is hidden, its jumps agree, and beside options
it has none. -/
structure Followable (n : Node) : Prop where
  ungated : ∀ o ∈ n.skeleton.options, o.gate = none
  jumps : ∀ a ∈ n.skeleton.jumps, ∀ b ∈ n.skeleton.jumps, a = b
  options : n.skeleton.options ≠ [] → n.skeleton.jumps = []

theorem exists_openNode_of_link {script : Script} (hd : dangling script = []) {n : Node}
    {l : Link} (hn : n ∈ script.nodes) (hl : l ∈ n.skeleton.links) :
    ∃ m, openNode script l.target = .ok m :=
  exists_openNode_iff.mpr
    ⟨Node.link_target_ne_empty hl, (dangling_eq_nil_iff script).mp hd n hn l hl⟩

section Within
variable {script : Script} {s u v : State} {choices : List Nat} {n : Node} {before : List String}

/-- Calls deliver the lines of a node one after the other. -/
theorem Passes.exists_delivered (h : Passes script s choices u) (hu : Within n before u) :
    ∃ v, Passes script s choices v ∧ Within n before v ∧ v.returnStack = u.returnStack ∧
      (n.compile before).lines.length ≤ v.lineIndex := by
  induction hk : (n.compile before).lines.length - u.lineIndex generalizing u with
  | zero => exact ⟨u, h, hu, rfl, by omega⟩
  | succ k ih =>
    have hlt : u.lineIndex < (n.compile before).lines.length := by omega
    have hshow := Shows.line hu.phase hu.content (List.getElem?_eq_getElem hlt)
    have hnext := h.shown hshow (proceed_reply_none (.inl hu.phase))
    rw [Option.toList_none, List.append_nil] at hnext
    obtain ⟨v, hv, hin, hstack, hdone⟩ :=
      ih hnext ⟨hu.phase, hu.current, hu.content⟩ (by dsimp only; omega)
    exact ⟨v, hv, hin, hstack, hdone⟩

/-- A node without options is left in the same way whether its command is shown before or it has
none. -/
theorem Passes.leave (h : Passes script s choices u) (hu : Within n before u)
    (hl : (n.compile before).lines.length ≤ u.lineIndex) (ho : (n.compile before).options = [])
    (hn : navigate script u = .ok v) : Passes script s choices v := by
  cases hk : (n.compile before).command with
  | none => exact h.quiet ((State.quiet_iff hu.content).mpr ⟨hu.phase, hl, ho, hk⟩) hn
  | some k =>
    have hshow := Shows.command hu.phase hu.content hl ho hk
    have hnext := h.shown (i := none) hshow (show proceed script _ none = .ok v from hn)
    rwa [Option.toList_none, List.append_nil] at hnext

/-- A jump is followed where no options are shown before it. -/
theorem Passes.jump (h : Passes script s choices u) (hu : Within n before u)
    (hl : (n.compile before).lines.length ≤ u.lineIndex) (ho : (n.compile before).options = [])
    {title : String} {m : Node} (hj : (n.compile before).jump = some title)
    (hm : openNode script title = .ok m) : Passes script s choices (u.entering m false) := by
  refine h.leave hu hl ho ?_
  rw [navigate_eq, State.jump?, hu.content, Option.bind_some, hj]
  exact goto_eq_ok_iff.mpr ⟨m, hm, rfl⟩

/-- An option is followed once it is chosen. -/
theorem Passes.choose (h : Passes script s choices u) (hu : Within n before u)
    (hl : (n.compile before).lines.length ≤ u.lineIndex) {i : Nat} {o : Choice} {title : String}
    {m : Node} (hi : (n.compile before).options[i]? = some o) (ht : o.target = some title)
    (hm : openNode script title = .ok m) :
    Passes script s (choices ++ [i]) ((u.leaving o).entering m false) := by
  have hshow := Shows.choice hu.phase hu.content hl (List.ne_nil_of_mem (List.mem_of_getElem? hi))
  have hnamed : option? (n.compile before).options (.ofInt i) = some o :=
    option?_eq_some_iff.mpr ⟨i, rfl, hi⟩
  have hresolve : resolve script { u with
      phase := .choicePending, pending := some (n.compile before).options } (.ofInt i) =
      .ok ((u.leaving o).entering m false) := by
    rw [resolve_eq]
    simp only [hnamed, ht]
    refine goto_eq_ok_iff.mpr ⟨m, hm, ?_⟩
    unfold State.leaving
    split_ifs <;> rfl
  exact h.shown (i := some i) hshow hresolve

/-- Some calls follow a link, whichever of the links of its node it is. Only a detour leaves a
caller behind. -/
theorem Passes.follow (hf : Followable n) (hd : dangling script = []) (hn : n ∈ script.nodes)
    {l : Link} (hl : l ∈ n.skeleton.links) (h : Passes script s choices u)
    (hu : Within n before u) : ∃ (choices' : List Nat) (v : State) (m : Node),
      Passes script s choices' (v.entering m false) ∧ openNode script l.target = .ok m ∧
      (l.detour = false → v.returnStack = u.returnStack) := by
  obtain ⟨v, hv, hin, hstack, hdone⟩ := h.exists_delivered hu
  obtain ⟨m, hm⟩ := exists_openNode_of_link hd hn hl
  have hshown : (n.compile before).options = n.skeleton.options.map (·.choice before) :=
    Skeleton.shownOptions_of_ungated hf.ungated before
  rcases List.mem_append.mp hl with hjump | hoption
  · obtain ⟨t, ht, rfl⟩ := List.mem_map.mp hjump
    have hnone : n.skeleton.options = [] := by
      by_contra hne
      simp [hf.options hne] at ht
    have hlast : (n.compile before).jump = some t := by
      obtain ⟨t', ht'⟩ := Option.ne_none_iff_exists'.mp
        (mt List.getLast?_eq_none_iff.mp (List.ne_nil_of_mem ht))
      rw [hf.jumps t ht t' (List.mem_of_getLast? ht')]
      exact ht'
    have hoptions : (n.compile before).options = [] := by simp [hshown, hnone]
    exact ⟨choices, v, m, hv.jump hin hdone hoptions hlast hm, hm, fun _ => hstack⟩
  · obtain ⟨o, ho, hlink⟩ := List.mem_filterMap.mp hoption
    obtain ⟨i, hi⟩ := List.getElem?_of_mem ho
    have hchoice : (n.compile before).options[i]? = some (o.choice before) := by simp [hshown, hi]
    have htarget : (o.choice before).target = some l.target := by
      simp [GatedOption.choice, hlink]
    refine ⟨_, _, m, hv.choose hin hdone hchoice htarget hm, hm, fun hdirect => ?_⟩
    have hkeep : (o.choice before).detour = false := by simp [GatedOption.choice, hlink, hdirect]
    simp [State.leaving_returnStack, hkeep, hstack]

end Within
end Dialogue.Session
