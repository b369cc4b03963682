import Dialogue.Proofs.Session.Coherence

/-! The fields of a state: which of them are set in which phase, and how they fit together. -/
namespace Dialogue.Session

/-- What holds of the fields of every state of a session. The node at hand was compiled against the
titles visited now, its own being the only one that may have come since. -/
structure WellFormed (script : Script) (s : State) : Prop where
  pending_iff : s.pending ≠ none ↔ s.phase = .choicePending
  node : s.phase ≠ .idle → ∃ title node before, s.current = some title ∧
    script.node? title = some node ∧ title ∈ s.visited ∧ s.content = some (node.compile before) ∧
    (node.compile before).title = title ∧ ∀ t, t ∈ s.visited ↔ t ∈ before ∨ t = title
  cursor : ∀ c, s.content = some c → s.lineIndex ≤ c.lines.length
  delivered : ∀ c, s.content = some c →
    s.phase = .choicePending ∨ s.phase = .commandPending ∨ s.phase = .ended →
    s.lineIndex = c.lines.length
  choice : ∀ c, s.content = some c → s.phase = .choicePending →
    s.pending = some c.options ∧ c.options ≠ []
  command : ∀ c, s.content = some c → s.phase = .commandPending →
    c.command ≠ none ∧ c.options = []
  ended : ∀ c, s.content = some c → s.phase = .ended →
    c.options = [] ∧ c.jump = none ∧ s.returnStack = []
  callers : ∀ title ∈ s.returnStack, (∃ node, script.node? title = some node) ∧ title ∈ s.visited
  marked : ∀ options, s.pending = some options → ∀ o ∈ options, o.target ≠ s.current →
    (o.visited = true ↔ ∃ t, o.target = some t ∧ t ∈ s.visited)

section Opened
variable {script : Script} {s : State} {node : Node} {before : List String}

theorem Opened.mem_visited_iff (h : Opened script s node before) (t : String) :
    t ∈ s.visited ↔ t ∈ before ∨ t = node.title := by
  rw [h.visited]
  exact mem_visit

theorem Opened.delivered (h : Opened script s node before)
    (hp : s.phase = .choicePending ∨ s.phase = .commandPending ∨ s.phase = .ended) :
    s.lineIndex = (node.compile before).lines.length := by
  have hst := h.stands
  rcases hp with hp | hp | hp <;> simp only [Stands, hp] at hst
  · exact hst.2.2
  · exact hst.2.2.2
  · exact hst.2.2.2.2

/-- An option is marked with what had been visited before its node, and entering the node added no
other title than its own. -/
theorem Opened.marked (h : Opened script s node before) {o : Choice}
    (ho : o ∈ (node.compile before).options) (ht : o.target ≠ some node.title) :
    o.visited = true ↔ ∃ t, o.target = some t ∧ t ∈ s.visited := by
  rw [Node.option_visited_iff ho]
  constructor
  · rintro ⟨t, htarget, hb⟩
    exact ⟨t, htarget, (h.mem_visited_iff t).mpr (.inl hb)⟩
  · rintro ⟨t, htarget, hv⟩
    rcases (h.mem_visited_iff t).mp hv with hb | rfl
    · exact ⟨t, htarget, hb⟩
    · exact absurd htarget ht

end Opened

/-- Starts and steps in any order, restarts in the middle of a choice or after the end among them,
lead to well-formed states only. -/
theorem Reached.wellFormed {script : Script} {seed : List String} {s : State}
    (h : Reached script seed s) : WellFormed script s where
  pending_iff := by rw [ne_eq, h.coherent.pending_eq_none_iff, not_not]
  node hp := by
    obtain ⟨node, before, ho⟩ := h.coherent.opened_of_phase hp
    exact ⟨node.title, node, before, ho.current, (openNode_eq_ok_iff.mp ho.opens).2,
      ho.current_mem_visited, ho.content, node.compile_title before, ho.mem_visited_iff⟩
  cursor c hc := by
    obtain ⟨node, before, ho, rfl⟩ := h.coherent.exists_opened hc
    exact ho.cursor
  delivered c hc hp := by
    obtain ⟨node, before, ho, rfl⟩ := h.coherent.exists_opened hc
    exact ho.delivered hp
  choice c hc hp := by
    obtain ⟨node, before, ho, rfl⟩ := h.coherent.exists_opened hc
    have hst := ho.stands
    simp only [Stands, hp] at hst
    exact ⟨hst.1, hst.2.1⟩
  command c hc hp := by
    obtain ⟨node, before, ho, rfl⟩ := h.coherent.exists_opened hc
    have hst := ho.stands
    simp only [Stands, hp] at hst
    exact ⟨hst.2.2.1, hst.2.1⟩
  ended c hc hp := by
    obtain ⟨node, before, ho, rfl⟩ := h.coherent.exists_opened hc
    have hst := ho.stands
    simp only [Stands, hp] at hst
    exact ⟨hst.2.1, hst.2.2.1, hst.2.2.2.1⟩
  callers title ht := by
    obtain ⟨hv, node, ho⟩ := h.coherent.callers title ht
    exact ⟨⟨node, (openNode_eq_ok_iff.mp ho).2⟩, hv⟩
  marked options hp o hmem ht := by
    obtain ⟨node, before, ho, -, rfl⟩ := h.coherent.pending_eq_some hp
    rw [ho.current] at ht
    exact ho.marked hmem ht

/-- A node with a detour to a silent one. -/
private def porch : Script where
  nodes := [
    { title := "Porch", body := ["-> Peek in", "<<detour Hall>>", "-> Wait", "<<jump Porch>>"] },
    { title := "Hall" }]

/-- The options of the first node, the detour marked as visited or not. -/
private def porchNode (seen again : Bool) : Compiled where
  title := "Porch"
  options := [⟨"Peek in", some "Hall", seen, true⟩, ⟨"Wait", some "Porch", again, false⟩]

private def porchStart : State where
  phase := .emitting
  current := some "Porch"
  content := some (porchNode false false)
  visited := ["Porch"]

private def porchChoice : State :=
  { porchStart with phase := .choicePending, pending := some (porchNode false false).options }

/-- Back from the detour, with both options recompiled. -/
private def porchAgain : State where
  phase := .choicePending
  current := some "Porch"
  content := some (porchNode true true)
  visited := ["Porch", "Hall"]
  pending := some (porchNode true true).options

/-- The first option is marked after its detour; the second leads to its own node, and its mark may
lag behind. -/
theorem wellFormed_porch :
    Reached porch [] porchAgain ∧ Reached porch [] porchChoice ∧
    WellFormed porch porchAgain ∧ WellFormed porch porchChoice := by
  have hstart : Reached porch [] porchStart :=
    .start .fresh (rfl : start porch {} "Porch" = .ok porchStart)
  have hchoice : Reached porch [] porchChoice :=
    .step hstart (by decide +kernel : step porch porchStart none =
      .ok (porchChoice, some (.choice (porchNode false false).options (porchNode false false))))
  have hagain : Reached porch [] porchAgain :=
    .step hchoice (by decide +kernel : step porch porchChoice (some (.ofInt 0)) =
      .ok (porchAgain, some (.choice (porchNode true true).options (porchNode true true))))
  exact ⟨hagain, hchoice, hagain.wellFormed, hchoice.wellFormed⟩

end Dialogue.Session
