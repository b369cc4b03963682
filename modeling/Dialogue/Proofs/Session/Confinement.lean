import Dialogue.Proofs.Session.Silence

/-! Confinement: a session that is only started at some titles never leaves a set of titles closed
under links, and of the script only the nodes of those titles count. -/
namespace Dialogue.Session

/-- Titles that the links of their own nodes do not lead out of. -/
def Closed (script : Script) (P : String → Prop) : Prop :=
  ∀ n ∈ script.nodes, P n.title → ∀ l ∈ n.skeleton.links, P l.target

/-- A state that has to do with some titles only, apart from those visited beforehand. -/
structure Confined (P : String → Prop) (seed : List String) (s : State) : Prop where
  current : ∀ t, s.current = some t → P t
  callers : ∀ t ∈ s.returnStack, P t
  visited : ∀ t ∈ s.visited, t ∈ seed ∨ P t

/-- The states that a session passes from a state on, also between the moves of one call, where it
is started at allowed titles only. -/
inductive Moment (script : Script) (allowed : String → Prop) (s : State) : State → Prop
  | here : Moment script allowed s s
  | start {u u' : State} {title : String} (hu : Moment script allowed s u) (ha : allowed title)
      (h : start script u title = .ok u') : Moment script allowed s u'
  | proceed {u u' : State} {answer : Option Answer} (hu : Moment script allowed s u)
      (h : proceed script u answer = .ok u') : Moment script allowed s u'
  | quiet {u u' : State} (hu : Moment script allowed s u) (hq : u.Quiet)
      (h : navigate script u = .ok u') : Moment script allowed s u'
  | shown {u : State} (hu : Moment script allowed s u) : Moment script allowed s (show? u).1

section Moment
variable {script : Script} {allowed : String → Prop} {s u u' : State}

theorem Moment.coherent (h : Moment script allowed s u) (hs : Coherent script s) :
    Coherent script u := by
  induction h with
  | here => exact hs
  | start _ _ h => exact coherent_start h
  | proceed _ h ih => exact (ih.proceed (proceeds_of_proceed h)).1
  | quiet _ hq h ih => exact (ih.navigate_quiet hq h).1
  | shown _ ih => exact ih.shows (shows_show? _)

/-- A call passes a moment at which it shows what it returns. -/
theorem Moment.exists_shows {answer : Option Answer} {e : Option Event}
    (h : Moment script allowed s u) (hs : Session.step script u answer = .ok (u', e)) :
    ∃ v, Moment script allowed s v ∧ show? v = (u', e) := by
  obtain ⟨t, v, hp, hv, hshow⟩ := step_eq_ok hs
  have hquiet := (settle_preserves (P := Moment script allowed s)
    (fun _ _ hm hq hn => hm.quiet hq hn) hv (h.proceed hp)).1
  exact ⟨v, hquiet, hshow⟩

theorem Moment.step {answer : Option Answer} {e : Option Event} (h : Moment script allowed s u)
    (hs : Session.step script u answer = .ok (u', e)) : Moment script allowed s u' := by
  obtain ⟨v, hv, hshow⟩ := h.exists_shows hs
  have hshown := hv.shown
  rw [hshow] at hshown
  exact hshown

end Moment

section Confined
variable {script : Script} {P : String → Prop} {seed : List String} {s s' : State} {node : Node}
  {title : String}

theorem Confined.entering (hr : ∀ t ∈ s.returnStack, P t)
    (hv : ∀ t ∈ s.visited, t ∈ seed ∨ P t) (ho : openNode script title = .ok node) (hp : P title)
    (returning : Bool) : Confined P seed (s.entering node returning) where
  current t ht := by
    rw [State.entering_current, title_of_openNode ho] at ht
    obtain rfl := Option.some.inj ht
    exact hp
  callers := hr
  visited t ht := by
    rw [State.entering_visited, mem_visit, title_of_openNode ho] at ht
    rcases ht with ht | rfl
    · exact hv t ht
    · exact .inr hp

theorem Confined.start (h : Confined P seed s) (hp : P title)
    (hs : Session.start script s title = .ok s') : Confined P seed s' := by
  obtain ⟨node, ho, rfl⟩ := start_eq_ok_iff.mp hs
  have hr : ∀ t ∈ ([] : List String), P t := by
    intro t ht
    simp at ht
  exact .entering (s := { s with returnStack := [], activeSpeaker := none }) hr h.visited ho hp
    false

theorem Confined.jump (hP : Closed script P) (hc : Coherent script s) (h : Confined P seed s)
    (hj : s.jump? = some title) : P title := by
  cases hc with
  | idle hidle =>
    rw [hidle] at hj
    simp [State.jump?] at hj
  | opened ho =>
    have hlink := Node.jump_mem_links (ho.jump?.symm.trans hj)
    exact hP _ (mem_of_openNode ho.opens) (h.current _ ho.current) _ hlink

theorem Confined.option (hP : Closed script P) (hc : Coherent script s) (h : Confined P seed s)
    {options : List Choice} (hp : s.pending = some options) {o : Choice} (hm : o ∈ options)
    (ht : o.target = some title) : P title := by
  obtain ⟨node, before, ho, -, rfl⟩ := hc.pending_eq_some hp
  have hlink := Node.option_mem_links hm ht
  exact hP _ (mem_of_openNode ho.opens) (h.current _ ho.current) _ hlink

theorem Confined.leaves (hP : Closed script P) (hc : Coherent script s) (h : Confined P seed s)
    (hl : Leaves script s s') : Confined P seed s' := by
  cases hl with
  | jump hj ho => exact .entering h.callers h.visited ho (h.jump hP hc hj) false
  | back hj hr ho =>
    refine .entering (s := s.popped) (fun t ht => ?_) h.visited ho ?_ true
    · exact h.callers t (List.mem_of_mem_dropLast ht)
    · exact h.callers _ (List.mem_of_getLast? hr)
  | finish => exact ⟨h.current, h.callers, h.visited⟩

theorem Confined.leaving (hc : Coherent script s) (h : Confined P seed s) {options : List Choice}
    (hp : s.pending = some options) (o : Choice) : ∀ t ∈ (s.leaving o).returnStack, P t := by
  obtain ⟨node, before, ho, -⟩ := hc.pending_eq_some hp
  intro t ht
  rw [State.leaving_returnStack] at ht
  split_ifs at ht
  · rcases List.mem_append.mp ht with ht | ht
    · exact h.callers t ht
    · obtain rfl : t = node.title := by simpa [ho.current] using ht
      exact h.current _ ho.current
  · exact h.callers t ht

theorem Confined.proceed (hP : Closed script P) (hc : Coherent script s) (h : Confined P seed s)
    {answer : Option Answer} (hp : Proceeds script s answer s') : Confined P seed s' := by
  cases hp with
  | resolve _ hr =>
    obtain ⟨options, o, title, node, hpend, hopt, ht, ho, rfl⟩ := resolve_eq_ok hr
    have htitle := h.option hP hc hpend (mem_of_option?_eq_some hopt) ht
    exact .entering (h.leaving hc hpend o) (by simpa using h.visited) ho htitle false
  | navigate _ hn => exact h.leaves hP hc (leaves_of_navigate hn)
  | stay => exact h

theorem Confined.shows {e : Option Event} (h : Confined P seed s) (hs : Shows s s' e) :
    Confined P seed s' := by
  cases hs <;> exact ⟨h.current, h.callers, h.visited⟩

theorem Moment.confined {allowed : String → Prop} {u : State} (hP : Closed script P)
    (ha : ∀ t, allowed t → P t) (hc : Coherent script s) (hs : Confined P seed s)
    (h : Moment script allowed s u) : Confined P seed u := by
  induction h with
  | here => exact hs
  | start _ hallowed h ih => exact ih.start (ha _ hallowed) h
  | proceed hu h ih => exact ih.proceed hP (hu.coherent hc) (proceeds_of_proceed h)
  | quiet hu _ h ih => exact ih.leaves hP (hu.coherent hc) (leaves_of_navigate h)
  | shown _ ih => exact ih.shows (shows_show? _)

/-- A fresh session that is started in a closed set stays in it. -/
theorem Moment.of_fresh {allowed : String → Prop} (hP : Closed script P)
    (ha : ∀ t, allowed t → P t) {visited : List String}
    (h : Moment script allowed { visited := visited } s) :
    Coherent script s ∧ Confined P visited s := by
  have hcoh : Coherent script { visited := visited } := .idle rfl
  have hconf : Confined P visited { visited := visited } :=
    ⟨by simp, by simp, fun t ht => .inl ht⟩
  exact ⟨h.coherent hcoh, h.confined hP ha hcoh hconf⟩

end Confined

section Congr
variable {script other : Script} {P : String → Prop} {seed : List String} {s : State}

theorem openNode_congr {title : String} (h : other.node? title = script.node? title) :
    openNode other title = openNode script title := by
  unfold openNode
  rw [h]

theorem start_congr {title : String} (h : other.node? title = script.node? title) (s : State) :
    start other s title = start script s title := by
  unfold start
  rw [goto_eq, goto_eq, openNode_congr h]

variable (hother : ∀ t, P t → other.node? t = script.node? t) (hP : Closed script P)
include hother

theorem Coherent.congr (hc : Coherent script s) (h : Confined P seed s) : Coherent other s := by
  cases hc with
  | idle hidle => exact .idle hidle
  | opened ho =>
    refine .opened { ho with opens := ?_, callers := fun t ht => ?_ }
    · rw [openNode_congr (hother _ (h.current _ ho.current))]
      exact ho.opens
    · rw [openNode_congr (hother t (h.callers t ht))]
      exact ho.callers t ht

include hP

theorem navigate_congr (hc : Coherent script s) (h : Confined P seed s) :
    navigate other s = navigate script s := by
  rw [navigate_eq, navigate_eq]
  cases hj : s.jump? with
  | some title =>
    dsimp only
    rw [goto_eq, goto_eq, openNode_congr (hother _ (h.jump hP hc hj))]
  | none =>
    cases hr : s.returnStack.getLast? with
    | none => rfl
    | some caller =>
      have hcaller := h.callers caller (List.mem_of_getLast? hr)
      dsimp only
      rw [goto_eq, goto_eq, openNode_congr (hother _ hcaller)]

theorem resolve_congr (hc : Coherent script s) (h : Confined P seed s) (a : Answer) :
    resolve other s a = resolve script s a := by
  rw [resolve_eq, resolve_eq]
  cases hpend : s.pending with
  | none => rfl
  | some options =>
    cases hopt : option? options a with
    | none => simp only [hopt]
    | some o =>
      cases ht : o.target with
      | none => simp only [hopt, ht]
      | some title =>
        have htitle := h.option hP hc hpend (mem_of_option?_eq_some hopt) ht
        simp only [hopt, ht]
        rw [goto_eq, goto_eq, openNode_congr (hother _ htitle)]

theorem proceed_congr (hc : Coherent script s) (h : Confined P seed s) (answer : Option Answer) :
    proceed other s answer = proceed script s answer := by
  unfold proceed
  rw [navigate_congr hother hP hc h]
  split
  · rfl
  · rfl
  · exact resolve_congr hother hP hc h _
  · rfl
  · rfl
  · rfl
  · rfl

theorem Settles.congr {seen : List Key} {r : Except Failure State}
    (hs : Settles script seen s r) (hc : Coherent script s) (h : Confined P seed s) :
    Settles other seen s r := by
  induction hs with
  | rest hcontent hq => exact .rest hcontent hq
  | again hq hk => exact .again hq hk
  | stuck hq hk hn =>
    rw [← navigate_congr hother hP hc h] at hn
    exact .stuck hq hk hn
  | move hq hk hn _ ih =>
    have hconf := h.leaves hP hc (leaves_of_navigate hn)
    have hcoh := (hc.navigate_quiet hq hn).1
    rw [← navigate_congr hother hP hc h] at hn
    exact .move hq hk hn (ih hcoh hconf)

theorem emit_congr (hc : Coherent script s) (h : Confined P seed s) :
    emit other s = emit script s := by
  -- The bounds differ with the numbers of nodes, so the loops are compared without any bound.
  have hs := (settles_settleBound hc).congr hother hP hc h
  have ho := settles_settleBound (hc.congr hother h)
  unfold emit
  rw [ho.unique hs]

theorem step_congr (hc : Coherent script s) (h : Confined P seed s) (answer : Option Answer) :
    step other s answer = step script s answer := by
  unfold step
  rw [proceed_congr hother hP hc h]
  cases hp : proceed script s answer with
  | error f => rfl
  | ok t =>
    have hpt := proceeds_of_proceed hp
    exact emit_congr hother hP (hc.proceed hpt).1 (h.proceed hP hc hpt)

end Congr
end Dialogue.Session
