import Dialogue.Proofs.Session.Move

/-! What every state of a session keeps to, whatever was called before: the node at hand is the one
that its title opens, compiled against what had been visited before it, and the return stack holds
titles that open nodes. -/
namespace Dialogue.Session

/-- The states of a session that starts with some titles visited. -/
inductive Reached (script : Script) (seed : List String) : State → Prop
  | fresh : Reached script seed { visited := seed }
  | start {s s' : State} {title : String} (hs : Reached script seed s)
      (h : start script s title = .ok s') : Reached script seed s'
  | step {s s' : State} {answer : Option Answer} {e : Option Event} (hs : Reached script seed s)
      (h : step script s answer = .ok (s', e)) : Reached script seed s'

/-- Every caller has been visited and opens a node. -/
def Callers (script : Script) (s : State) : Prop :=
  ∀ title ∈ s.returnStack, title ∈ s.visited ∧ ∃ node, openNode script title = .ok node

/-- How a session stands in a compiled node, by its phase. -/
def Stands (s : State) (c : Compiled) : Prop :=
  match s.phase with
  | .idle => False
  | .emitting => s.pending = none
  | .choicePending =>
    s.pending = some c.options ∧ c.options ≠ [] ∧ s.lineIndex = c.lines.length
  | .commandPending =>
    s.pending = none ∧ c.options = [] ∧ c.command ≠ none ∧ s.lineIndex = c.lines.length
  | .ended =>
    s.pending = none ∧ c.options = [] ∧ c.jump = none ∧ s.returnStack = [] ∧
      s.lineIndex = c.lines.length

/-- The node at hand, and the titles that had been visited before it was entered. -/
structure Opened (script : Script) (s : State) (node : Node) (before : List String) : Prop where
  opens : openNode script node.title = .ok node
  current : s.current = some node.title
  content : s.content = some (node.compile before)
  visited : s.visited = visit before node.title
  cursor : s.lineIndex ≤ (node.compile before).lines.length
  stands : Stands s (node.compile before)
  callers : Callers script s

/-- A session that was not started yet, or one with a node at hand. -/
inductive Coherent (script : Script) (s : State) : Prop
  | idle (h : s = { visited := s.visited })
  | opened {node : Node} {before : List String} (h : Opened script s node before)

theorem Opened.current_mem_visited {script : Script} {s : State} {node : Node}
    {before : List String} (h : Opened script s node before) : node.title ∈ s.visited := by
  rw [h.visited]
  exact mem_visit.mpr (.inr rfl)

theorem Opened.jump? {script : Script} {s : State} {node : Node} {before : List String}
    (h : Opened script s node before) : s.jump? = (node.compile before).jump := by
  rw [State.jump?, h.content]
  rfl

theorem Coherent.callers {script : Script} {s : State} (h : Coherent script s) :
    Callers script s := by
  cases h with
  | idle h =>
    rw [h]
    intro title ht
    simp at ht
  | opened h => exact h.callers

theorem Coherent.opened_of_phase {script : Script} {s : State} (h : Coherent script s)
    (hp : s.phase ≠ .idle) : ∃ node before, Opened script s node before := by
  cases h with
  | idle h => exact absurd (congrArg State.phase h) hp
  | opened h => exact ⟨_, _, h⟩

theorem Coherent.mem_visited_of_current {script : Script} {s : State} (h : Coherent script s)
    {title : String} (hc : s.current = some title) : title ∈ s.visited := by
  cases h with
  | idle h =>
    rw [h] at hc
    simp at hc
  | opened h =>
    obtain rfl := Option.some.inj (h.current.symm.trans hc)
    exact h.current_mem_visited

theorem Coherent.exists_opened {script : Script} {s : State} (h : Coherent script s)
    {c : Compiled} (hc : s.content = some c) :
    ∃ node before, Opened script s node before ∧ node.compile before = c := by
  cases h with
  | idle hidle =>
    rw [hidle] at hc
    simp at hc
  | @opened node before ho =>
    exact ⟨node, before, ho, Option.some.inj (ho.content.symm.trans hc)⟩

section Phases
variable {script : Script} {s : State} (h : Coherent script s)
include h

theorem Coherent.opened_emitting (hp : s.phase = .emitting) :
    ∃ node before, Opened script s node before ∧ s.pending = none := by
  obtain ⟨node, before, ho⟩ := h.opened_of_phase (by simp [hp])
  have hst := ho.stands
  simp only [Stands, hp] at hst
  exact ⟨node, before, ho, hst⟩

theorem Coherent.opened_choicePending (hp : s.phase = .choicePending) :
    ∃ node before, Opened script s node before ∧ s.pending = some (node.compile before).options ∧
      (node.compile before).options ≠ [] ∧
      s.lineIndex = (node.compile before).lines.length := by
  obtain ⟨node, before, ho⟩ := h.opened_of_phase (by simp [hp])
  have hst := ho.stands
  simp only [Stands, hp] at hst
  exact ⟨node, before, ho, hst⟩

theorem Coherent.opened_commandPending (hp : s.phase = .commandPending) :
    ∃ node before, Opened script s node before ∧ s.pending = none ∧
      (node.compile before).options = [] ∧ (node.compile before).command ≠ none ∧
      s.lineIndex = (node.compile before).lines.length := by
  obtain ⟨node, before, ho⟩ := h.opened_of_phase (by simp [hp])
  have hst := ho.stands
  simp only [Stands, hp] at hst
  exact ⟨node, before, ho, hst⟩

theorem Coherent.opened_ended (hp : s.phase = .ended) :
    ∃ node before, Opened script s node before ∧ s.pending = none ∧
      (node.compile before).options = [] ∧ (node.compile before).jump = none ∧
      s.returnStack = [] ∧ s.lineIndex = (node.compile before).lines.length := by
  obtain ⟨node, before, ho⟩ := h.opened_of_phase (by simp [hp])
  have hst := ho.stands
  simp only [Stands, hp] at hst
  exact ⟨node, before, ho, hst⟩

theorem Coherent.content_ne_none (hp : s.phase = .emitting) : s.content ≠ none := by
  obtain ⟨node, before, ho, -⟩ := h.opened_emitting hp
  rw [ho.content]
  exact Option.some_ne_none _

theorem Coherent.opened_of_content (hp : s.phase = .emitting) {c : Compiled}
    (hc : s.content = some c) :
    ∃ node before, Opened script s node before ∧ s.pending = none ∧ node.compile before = c := by
  obtain ⟨node, before, ho, hpend⟩ := h.opened_emitting hp
  exact ⟨node, before, ho, hpend, Option.some.inj (ho.content.symm.trans hc)⟩

/-- A pending choice is the one of the node at hand. -/
theorem Coherent.pending_eq_some {options : List Choice} (hp : s.pending = some options) :
    ∃ node before, Opened script s node before ∧ s.phase = .choicePending ∧
      options = (node.compile before).options := by
  cases h with
  | idle hidle =>
    rw [hidle] at hp
    simp at hp
  | @opened node before ho =>
    have hst := ho.stands
    cases hphase : s.phase <;> simp only [Stands, hphase, hp, reduceCtorEq, false_and] at hst
    exact ⟨node, before, ho, rfl, Option.some.inj hst.1⟩

theorem Coherent.pending_eq_none_iff : s.pending = none ↔ s.phase ≠ .choicePending := by
  constructor
  · intro hp hphase
    obtain ⟨node, before, -, hpend, -⟩ := h.opened_choicePending hphase
    simp [hp] at hpend
  · intro hphase
    by_contra hp
    obtain ⟨options, hoptions⟩ := Option.ne_none_iff_exists'.mp hp
    obtain ⟨-, -, -, hchoice, -⟩ := h.pending_eq_some hoptions
    exact hphase hchoice

end Phases

theorem Callers.entering {script : Script} {s : State} (h : Callers script s) (node : Node)
    (returning : Bool) : Callers script (s.entering node returning) := by
  intro title ht
  obtain ⟨hv, ho⟩ := h title ht
  exact ⟨mem_visit.mpr (.inl hv), ho⟩

theorem Callers.popped {script : Script} {s : State} (h : Callers script s) :
    Callers script s.popped :=
  fun title ht => h title (List.mem_of_mem_dropLast ht)

theorem Callers.leaving {script : Script} {s : State} {node : Node} {before : List String}
    (h : Opened script s node before) (o : Choice) : Callers script (s.leaving o) := by
  intro title ht
  rw [State.leaving_returnStack] at ht
  split_ifs at ht with hd
  · rcases List.mem_append.mp ht with ht | ht
    · simpa using h.callers title ht
    · obtain rfl : title = node.title := by simpa [h.current] using ht
      exact ⟨by simpa using h.current_mem_visited, node, h.opens⟩
  · simpa using h.callers title ht

theorem opened_entering {script : Script} {s : State} {title : String} {node : Node}
    (hs : Callers script s) (ho : openNode script title = .ok node) (returning : Bool) :
    Opened script (s.entering node returning) node s.visited where
  opens := by
    rw [title_of_openNode ho]
    exact ho
  current := rfl
  content := rfl
  visited := rfl
  cursor := by
    unfold State.entering
    dsimp only
    split_ifs <;> omega
  stands := rfl
  callers := hs.entering node returning

theorem coherent_start {script : Script} {s s' : State} {title : String}
    (h : start script s title = .ok s') : Coherent script s' := by
  obtain ⟨node, ho, rfl⟩ := start_eq_ok_iff.mp h
  exact .opened (opened_entering (by intro t ht; simp at ht) ho false)

/-- Where a node jumps to does not depend on what was visited when it was compiled. -/
theorem Coherent.jump?_congr {script : Script} {s u : State} (hs : Coherent script s)
    (hu : Coherent script u) (hps : s.phase = .emitting) (hpu : u.phase = .emitting)
    (hcur : s.current = u.current) : s.jump? = u.jump? := by
  obtain ⟨m, b, hos, -⟩ := hs.opened_emitting hps
  obtain ⟨n, d, hou, -⟩ := hu.opened_emitting hpu
  have htitle : m.title = n.title :=
    Option.some.inj (hos.current.symm.trans (hcur.trans hou.current))
  obtain rfl : m = n := Except.ok.inj (hos.opens.symm.trans (htitle ▸ hou.opens))
  exact hos.jump?.trans hou.jump?.symm

/-- A node is left only with its lines delivered and without a visible option. -/
theorem Opened.leave {script : Script} {s s' : State} {node : Node} {before : List String}
    (h : Opened script s node before) (hl : (node.compile before).lines.length ≤ s.lineIndex)
    (ho : (node.compile before).options = []) (hn : navigate script s = .ok s') :
    Coherent script s' ∧ (s'.phase = .emitting ∨ s'.phase = .ended) := by
  cases leaves_of_navigate hn with
  | jump hj hopen => exact ⟨.opened (opened_entering h.callers hopen false), .inl rfl⟩
  | back hj hr hopen =>
    exact ⟨.opened (opened_entering h.callers.popped hopen true), .inl rfl⟩
  | finish hj hr =>
    have hjump := h.jump?.symm.trans hj
    exact ⟨.opened { h with stands := ⟨rfl, ho, hjump, hr, le_antisymm h.cursor hl⟩ }, .inr rfl⟩

/-- Scripts in which a node that can be opened links only to nodes that can. -/
def Unbroken (script : Script) : Prop :=
  ∀ n, openNode script n.title = .ok n → ∀ l ∈ n.skeleton.links,
    ∃ m, openNode script l.target = .ok m

theorem Coherent.exists_navigate {script : Script} {s : State} (h : Coherent script s)
    (hu : Unbroken script) : ∃ s', navigate script s = .ok s' := by
  cases hn : navigate script s with
  | ok s' => exact ⟨s', rfl⟩
  | error f =>
    obtain ⟨title, hfail, hcause⟩ := navigate_failure hn
    have hopen : ∃ node, openNode script title = .ok node := by
      rcases hcause with hj | ⟨-, hr⟩
      · obtain ⟨c, hc, hjump⟩ := Option.bind_eq_some_iff.mp hj
        obtain ⟨node, before, ho, rfl⟩ := h.exists_opened hc
        exact hu node ho.opens _ (Node.jump_mem_links hjump)
      · exact (h.callers title (List.mem_of_getLast? hr)).2
    obtain ⟨node, ho⟩ := hopen
    simp [ho] at hfail

theorem Coherent.quiet {script : Script} {s : State} (h : Coherent script s) (hq : s.Quiet) :
    ∃ node before, Opened script s node before ∧
      (node.compile before).lines.length ≤ s.lineIndex ∧ (node.compile before).options = [] ∧
      (node.compile before).command = none := by
  obtain ⟨hp, c, hc, hs⟩ := hq
  obtain ⟨node, before, ho, -, rfl⟩ := h.opened_of_content hp hc
  exact ⟨node, before, ho, isSilent_iff.mp hs⟩

theorem Coherent.navigate_quiet {script : Script} {s s' : State} (h : Coherent script s)
    (hq : s.Quiet) (hn : navigate script s = .ok s') :
    Coherent script s' ∧ (s'.phase = .emitting ∨ s'.phase = .ended) := by
  obtain ⟨node, before, ho, hl, hopt, -⟩ := h.quiet hq
  exact ho.leave hl hopt hn

theorem Coherent.proceed {script : Script} {s s' : State} {answer : Option Answer}
    (h : Coherent script s) (hp : Proceeds script s answer s') :
    Coherent script s' ∧ (s'.phase = .emitting ∨ s'.phase = .ended) := by
  cases hp with
  | resolve hphase hr =>
    obtain ⟨options, o, title, node, -, -, -, hopen, rfl⟩ := resolve_eq_ok hr
    obtain ⟨caller, before, ho, -⟩ := h.opened_choicePending hphase
    exact ⟨.opened (opened_entering (.leaving ho o) hopen false), .inl rfl⟩
  | navigate hphase hn =>
    obtain ⟨node, before, ho, -, hopt, -, hl⟩ := h.opened_commandPending hphase
    exact ho.leave hl.ge hopt hn
  | stay hphase => exact ⟨h, hphase⟩

theorem Coherent.shows {script : Script} {s s' : State} {e : Option Event}
    (h : Coherent script s) (hs : Shows s s' e) : Coherent script s' := by
  cases hs with
  | @line c line hp hc hl =>
    obtain ⟨node, before, ho, hpend, rfl⟩ := h.opened_of_content hp hc
    exact .opened { ho with
      cursor := (List.getElem?_eq_some_iff.mp hl).1
      stands := by simpa only [Stands, hp] using hpend
      callers := ho.callers }
  | @choice c hp hc hl hopt =>
    obtain ⟨node, before, ho, -, rfl⟩ := h.opened_of_content hp hc
    exact .opened { ho with stands := ⟨rfl, hopt, le_antisymm ho.cursor hl⟩, callers := ho.callers }
  | @command c k hp hc hl hopt hk =>
    obtain ⟨node, before, ho, hpend, rfl⟩ := h.opened_of_content hp hc
    have hcommand : (node.compile before).command ≠ none := by
      rw [hk]
      exact Option.some_ne_none k
    exact .opened { ho with
      stands := ⟨hpend, hopt, hcommand, le_antisymm ho.cursor hl⟩
      callers := ho.callers }
  | nothing => exact h

theorem Coherent.step {script : Script} {s s' : State} {answer : Option Answer}
    {e : Option Event} (h : Coherent script s)
    (hs : Session.step script s answer = .ok (s', e)) : Coherent script s' :=
  step_preserves (P := Coherent script) (fun _ _ _ h hp => (h.proceed hp).1)
    (fun _ _ h hq hn => (h.navigate_quiet hq hn).1) (fun _ _ _ h hsh => h.shows hsh) hs h

theorem Reached.coherent {script : Script} {seed : List String} {s : State}
    (h : Reached script seed s) : Coherent script s := by
  induction h with
  | fresh => exact .idle rfl
  | start _ h _ => exact coherent_start h
  | step _ h ih => exact ih.step h

end Dialogue.Session
