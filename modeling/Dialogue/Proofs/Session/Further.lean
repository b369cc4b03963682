import Dialogue.Proofs.Session.Silence

/-! Going on: what a step without an answer leaves to visit and to return to, and that it does not
matter for it who talks. -/
namespace Dialogue.Session

/-- A state without the speaker that lines fall back on. -/
def State.hushed (s : State) : State := { s with activeSpeaker := none }

section Hushed
variable {script : Script} {s v : State}

theorem goto_hushed (s : State) (title : String) (returning : Bool) :
    goto script s.hushed title returning =
      (goto script s title returning).map State.hushed := by
  rw [goto_eq, goto_eq]
  cases openNode script title <;> rfl

theorem navigate_hushed (s : State) :
    navigate script s.hushed = (navigate script s).map State.hushed := by
  have hjump : s.hushed.jump? = s.jump? := rfl
  have hstack : s.hushed.returnStack = s.returnStack := rfl
  rw [navigate_eq, navigate_eq, hjump, hstack]
  cases s.jump? with
  | some title => exact goto_hushed s title false
  | none =>
    cases s.returnStack.getLast? with
    | some caller => exact goto_hushed s.popped caller true
    | none => rfl

theorem resolve_hushed (s : State) (a : Answer) :
    resolve script s.hushed a = (resolve script s a).map State.hushed := by
  have hpending : s.hushed.pending = s.pending := rfl
  rw [resolve_eq, resolve_eq, hpending]
  cases s.pending with
  | none => rfl
  | some options =>
    dsimp only
    cases option? options a with
    | none => rfl
    | some o =>
      dsimp only
      cases o.target with
      | none => rfl
      | some target =>
        have hleaving : s.hushed.leaving o = (s.leaving o).hushed := by
          unfold State.leaving
          split_ifs <;> rfl
        dsimp only
        rw [hleaving]
        exact goto_hushed (s.leaving o) target false

theorem proceed_hushed (s : State) (answer : Option Answer) :
    proceed script s.hushed answer = (proceed script s answer).map State.hushed := by
  have hphase : s.hushed.phase = s.phase := rfl
  unfold proceed
  rw [hphase]
  cases s.phase with
  | idle | emitting | ended => cases answer <;> rfl
  | choicePending =>
    cases answer with
    | none => rfl
    | some a => exact resolve_hushed s a
  | commandPending =>
    cases answer with
    | none => exact navigate_hushed s
    | some a => rfl

theorem settle_hushed (n : Nat) (seen : List Key) (s : State) :
    settle script n seen s.hushed = (settle script n seen s).map State.hushed := by
  have hphase : s.hushed.phase = s.phase := rfl
  have hcontent : s.hushed.content = s.content := rfl
  have hkey : s.hushed.key = s.key := rfl
  induction n generalizing seen s with
  | zero => rfl
  | succ n ih =>
    rw [settle, settle, hphase, hcontent, hkey]
    by_cases hp : s.phase = .emitting
    · rw [if_pos hp, if_pos hp]
      cases s.content with
      | none => rfl
      | some c =>
        have hsilent : isSilent s.hushed c = isSilent s c := rfl
        dsimp only
        rw [hsilent, navigate_hushed]
        split_ifs
        · rfl
        · cases navigate script s with
          | error f => rfl
          | ok t => exact ih (s.key :: seen) t rfl rfl rfl
        · rfl
    · rw [if_neg hp, if_neg hp]
      rfl

/-- What is shown is the same, and the states after it differ in who talks at most. -/
theorem show?_hushed (s : State) :
    (show? s.hushed).1.hushed = (show? s).1.hushed ∧ (show? s.hushed).2 = (show? s).2 := by
  have hphase : s.hushed.phase = s.phase := rfl
  have hcontent : s.hushed.content = s.content := rfl
  have hindex : s.hushed.lineIndex = s.lineIndex := rfl
  unfold show?
  rw [hphase, hcontent, hindex]
  split_ifs
  · cases s.content with
    | none => exact ⟨rfl, rfl⟩
    | some c =>
      dsimp only
      cases c.lines[s.lineIndex]? with
      | some line => exact ⟨rfl, rfl⟩
      | none =>
        dsimp only
        split_ifs
        · cases c.command <;> exact ⟨rfl, rfl⟩
        · exact ⟨rfl, rfl⟩
  · exact ⟨rfl, rfl⟩

theorem exists_ok_of_hushed_eq {a b : Except Failure State} {t : State}
    (hab : a.map State.hushed = b.map State.hushed) (ha : a = .ok t) :
    ∃ t', b = .ok t' ∧ t.hushed = t'.hushed := by
  cases b with
  | error f => simp [ha, Except.map] at hab
  | ok t' =>
    have hsame : t.hushed = t'.hushed := by simpa [ha, Except.map] using hab
    exact ⟨t', rfl, hsame⟩

/-- States that differ in who talks at most make the same steps. -/
theorem exists_step_of_hushed_eq (h : s.hushed = v.hushed) {answer : Option Answer} {s' : State}
    {e : Option Event} (hs : step script s answer = .ok (s', e)) :
    ∃ v', step script v answer = .ok (v', e) ∧ s'.hushed = v'.hushed := by
  obtain ⟨t, u, hp, hu, hshow⟩ := step_eq_ok hs
  obtain ⟨t', hp', ht⟩ := exists_ok_of_hushed_eq (b := proceed script v answer)
    (by rw [← proceed_hushed, ← proceed_hushed, h]) hp
  have hbound : settleBound script t' = settleBound script t := by
    have hstack : t.hushed.returnStack = t'.hushed.returnStack := by rw [ht]
    have hlength : t'.returnStack.length = t.returnStack.length :=
      (congrArg List.length hstack).symm
    rw [settleBound, settleBound, hlength]
  obtain ⟨u', hu', hsettled⟩ := exists_ok_of_hushed_eq
    (b := settle script (settleBound script t) [] t')
    (by rw [← settle_hushed, ← settle_hushed, ht]) hu
  have hshown := show?_hushed u
  rw [hsettled, hshow] at hshown
  obtain ⟨hstate, hevent⟩ := show?_hushed u'
  refine ⟨(show? u').1, ?_, hshown.1.symm.trans hstate⟩
  rw [step, hp']
  dsimp only
  rw [emit, hbound, hu']
  exact congrArg (fun e => Except.ok ((show? u').1, e)) (hevent.symm.trans hshown.2)

end Hushed

/-- A node at hand that was compiled against all that is visited. -/
structure Fresh (script : Script) (s : State) (node : Node) : Prop where
  opens : openNode script node.title = .ok node
  current : s.current = some node.title
  content : s.content = some (node.compile s.visited)

theorem Fresh.congr {script : Script} {s u : State} {node : Node} (h : Fresh script s node)
    (hcurrent : u.current = s.current) (hcontent : u.content = s.content)
    (hvisited : u.visited = s.visited) : Fresh script u node :=
  ⟨h.opens, hcurrent.trans h.current, by rw [hcontent, hvisited, h.content]⟩

/-- What is shown leaves the node at hand, the visited titles and the callers as they are. -/
theorem Shows.keeps {s s' : State} {e : Option Event} (h : Shows s s' e) :
    s'.current = s.current ∧ s'.content = s.content ∧ s'.visited = s.visited ∧
      s'.returnStack = s.returnStack := by
  cases h <;> exact ⟨rfl, rfl, rfl, rfl⟩

/-- Where a session comes while it visits nothing new and returns nowhere: it stays, or it goes around
to a node that it had visited before. -/
inductive Lingers (script : Script) (s : State) : State → Prop
  | stay : Lingers script s s
  | around {u : State} (hv : u.visited = s.visited) (hr : u.returnStack = s.returnStack)
      {node : Node} (hf : Fresh script u node) : Lingers script s u

/-- Where a session comes without an answer. It lingers, or it has less left to visit and to return
to, or it is over. -/
inductive Further (script : Script) (s : State) : State → Prop
  | lingers {u : State} (h : Lingers script s u) : Further script s u
  | less {u : State} (h : outlook script u < outlook script s) : Further script s u
  | finished {u : State} (h : u.phase = .ended) : Further script s u

section Further
variable {script : Script} {s u v : State}

theorem outlook_congr (hv : u.visited = s.visited) (hr : u.returnStack = s.returnStack) :
    outlook script u = outlook script s := by
  rw [outlook, outlook, unvisited, unvisited, hv, hr]

theorem Lingers.keeps (h : Lingers script s u) :
    u.visited = s.visited ∧ u.returnStack = s.returnStack := by
  cases h with
  | stay => exact ⟨rfl, rfl⟩
  | around hv hr => exact ⟨hv, hr⟩

theorem Lingers.outlook_eq (h : Lingers script s u) : outlook script u = outlook script s := by
  obtain ⟨hv, hr⟩ := h.keeps
  exact outlook_congr hv hr

theorem Lingers.trans (h : Lingers script s v) (h' : Lingers script v u) :
    Lingers script s u := by
  cases h' with
  | stay => exact h
  | around hv hr hf =>
    obtain ⟨hvisited, hstack⟩ := h.keeps
    exact .around (hv.trans hvisited) (hr.trans hstack) hf

theorem Further.trans (h : Further script s v) (hv : v.phase ≠ .ended) (h' : Further script v u) :
    Further script s u := by
  cases h' with
  | finished hended => exact .finished hended
  | lingers hsame =>
    cases h with
    | finished hended => exact absurd hended hv
    | lingers hbefore => exact .lingers (hbefore.trans hsame)
    | less hless =>
      rw [← hsame.outlook_eq] at hless
      exact .less hless
  | less hless =>
    cases h with
    | finished hended => exact absurd hended hv
    | lingers hbefore =>
      rw [hbefore.outlook_eq] at hless
      exact .less hless
    | less hbefore => exact .less (hless.trans hbefore)

theorem Further.outlook_le (h : Further script s u) (hu : u.phase ≠ .ended) :
    outlook script u ≤ outlook script s := by
  cases h with
  | lingers hsame => exact hsame.outlook_eq.le
  | less hless => exact hless.le
  | finished hended => exact absurd hended hu

theorem further_navigate (hn : navigate script s = .ok u) :
    Further script s u := by
  cases leaves_of_navigate hn with
  | @jump _ next hj hopen =>
    by_cases hv : next.title ∈ s.visited
    · have hvisited : (s.entering next false).visited = s.visited := visit_of_mem hv
      have hopens : openNode script next.title = .ok next := by rwa [title_of_openNode hopen]
      exact .lingers (.around hvisited rfl ⟨hopens, rfl, by rw [hvisited]; rfl⟩)
    · exact .less (outlook_lt_of_jump hopen hv)
  | back hj hr hopen => exact .less (outlook_lt_of_back hr)
  | finish hj hr => exact .finished rfl

theorem further_settle {n : Nat} {seen : List Key} (h : Coherent script s)
    (hu : settle script n seen s = .ok u) : Coherent script u ∧ Further script s u := by
  refine (settle_preserves (P := fun v => Coherent script v ∧ Further script s v) ?_ hu
    ⟨h, .lingers .stay⟩).1
  intro v w hv hq hn
  have hnext := further_navigate hn
  exact ⟨(hv.1.navigate_quiet hq hn).1, hv.2.trans (by simp [hq.1]) hnext⟩

/-- What has ended shows nothing more. -/
theorem phase_of_settle {n : Nat} {seen : List Key} {s' : State} {e : Event}
    (hu : settle script n seen s = .ok u) (h : Shows u s' (some e)) :
    s.phase = .emitting ∧ u.phase = .emitting := by
  have hphase : u.phase = .emitting := by
    cases h <;> assumption
  cases n with
  | zero => cases hu
  | succ n =>
    refine ⟨?_, hphase⟩
    by_contra hp
    rw [settle, if_neg hp] at hu
    obtain rfl := Except.ok.inj hu
    exact hp hphase

/-- A step without an answer goes on, and then shows. -/
theorem further_of_step {s' : State} {e : Event} (h : Coherent script s)
    (hs : step script s none = .ok (s', some e)) :
    (s.phase = .emitting ∨ s.phase = .commandPending) ∧
      ∃ u, Coherent script u ∧ u.phase = .emitting ∧ Further script s u ∧
        Shows u s' (some e) := by
  obtain ⟨t, u, hp, hu, hshow⟩ := step_eq_ok hs
  have hproceeds := proceeds_of_proceed hp
  have ht := (h.proceed hproceeds).1
  obtain ⟨hcoherent, hfurther⟩ := further_settle ht hu
  have hshown := shows_show? u
  rw [hshow] at hshown
  obtain ⟨hemits, hemits'⟩ := phase_of_settle hu hshown
  cases hproceeds with
  | stay => exact ⟨.inl hemits, u, hcoherent, hemits', hfurther, hshown⟩
  | navigate hphase hn =>
    have hfirst := further_navigate hn
    exact ⟨.inr hphase, u, hcoherent, hemits', hfirst.trans (by simp [hemits]) hfurther, hshown⟩

/-- An answer takes the session to a node. If that is a detour, there is one caller more to return
to. -/
theorem outlook_of_answer {a : Answer} {s' : State} {e : Event} (h : Coherent script s)
    (hs : step script s (some a) = .ok (s', some e)) :
    ∃ u, Coherent script u ∧ outlook script u ≤ outlook script s + 1 ∧ Shows u s' (some e) := by
  obtain ⟨t, u, hp, hu, hshow⟩ := step_eq_ok hs
  have hproceeds := proceeds_of_proceed hp
  have ht := (h.proceed hproceeds).1
  obtain ⟨hcoherent, hfurther⟩ := further_settle ht hu
  have hshown := shows_show? u
  rw [hshow] at hshown
  obtain ⟨-, hemits⟩ := phase_of_settle hu hshown
  refine ⟨u, hcoherent, (hfurther.outlook_le (by simp [hemits])).trans ?_, hshown⟩
  cases hproceeds with
  | resolve hphase hr =>
    obtain ⟨options, o, title, node, -, -, -, -, rfl⟩ := resolve_eq_ok hr
    have hvisited : unvisited script ((s.leaving o).entering node false) ≤ unvisited script s :=
      unvisited_le_of_subset fun x hx => mem_visit.mpr (.inl (by simpa using hx))
    have hstack : (s.leaving o).returnStack.length ≤ s.returnStack.length + 1 := by
      rw [State.leaving_returnStack]
      split_ifs <;> simp
    simp only [outlook, State.entering_returnStack]
    omega

end Further
end Dialogue.Session
