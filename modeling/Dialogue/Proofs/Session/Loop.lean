import Dialogue.Proofs.Session.Silence

/-! Loops. A key that comes back closes a circle of silent states, so a loop is reported exactly
where silent moves would go on for ever. -/
namespace Dialogue.Session

theorem entering_congr {s u : State} (hv : s.visited = u.visited)
    (hr : s.returnStack = u.returnStack) (ha : s.activeSpeaker = u.activeSpeaker) (node : Node)
    (returning : Bool) : s.entering node returning = u.entering node returning := by
  simp only [State.entering, hv, hr, ha]

/-- Of two states in nodes with one key, both move to the same node: jumps do not depend on what
was visited when the node was compiled. -/
theorem navigate_of_key_eq {script : Script} {s u u' : State} (hs : Coherent script s)
    (hu : Coherent script u) (hps : s.phase = .emitting) (hpu : u.phase = .emitting)
    (hk : s.key = u.key) (ha : s.activeSpeaker = u.activeSpeaker)
    (hn : navigate script u = .ok u') (hpu' : u'.phase = .emitting) :
    navigate script s = .ok u' := by
  have hret : s.returnStack = u.returnStack := congrArg Key.returnStack hk
  have hvis : s.visited = u.visited := congrArg Key.visited hk
  have hj : s.jump? = u.jump? := hs.jump?_congr hu hps hpu (congrArg Key.current hk)
  rw [navigate_eq, hj, hret]
  cases leaves_of_navigate hn with
  | jump hju hopen =>
    simp only [hju]
    exact goto_eq_ok_iff.mpr ⟨_, hopen, (entering_congr hvis hret ha _ _).symm⟩
  | back hju hr hopen =>
    simp only [hju, hr]
    refine goto_eq_ok_iff.mpr ⟨_, hopen, (entering_congr ?_ ?_ ?_ _ _).symm⟩
    · exact hvis
    · simp only [State.popped_returnStack, hret]
    · exact ha
  | finish => simp at hpu'

theorem activeSpeaker_navigate {script : Script} {s s' : State}
    (h : navigate script s = .ok s') : s'.activeSpeaker = s.activeSpeaker := by
  cases leaves_of_navigate h <;> rfl

/-- A reported loop is a closed circle of quiet states. `past` holds the states that gave the keys
seen so far, each followed by one of them or by the state at hand. -/
theorem Settles.circle {script : Script} {seen : List Key} {s : State}
    {r : Except Failure State} (h : Settles script seen s r) {t : Option String}
    (hr : r = .error (.loop t)) (past : List State) (hseen : seen = past.map State.key)
    (hs : Running script s)
    (hpast : ∀ u ∈ past, Running script u ∧ u.Quiet ∧ u.activeSpeaker = s.activeSpeaker ∧
      ∃ u', navigate script u = .ok u' ∧ (u' = s ∨ u' ∈ past)) :
    ∃ circle : List State, s ∈ circle ∧ ∀ u ∈ circle, Running script u ∧ u.Quiet ∧
      ∃ u' ∈ circle, navigate script u = .ok u' := by
  induction h generalizing past with
  | rest => simp at hr
  | @again seen s hq hk =>
    rw [hseen] at hk
    obtain ⟨u, hu, hkey⟩ := List.mem_map.mp hk
    have hquiet : ∀ v, v = s ∨ v ∈ past → v.Quiet := by
      rintro v (rfl | hv)
      · exact hq
      · exact (hpast v hv).2.1
    refine ⟨s :: past, List.mem_cons_self, fun v hv => ?_⟩
    rcases List.mem_cons.mp hv with rfl | hv
    -- The state at hand moves where the earlier state with its key moved, which closes the circle.
    · obtain ⟨hru, hqu, ha, u', hn, hu'⟩ := hpast u hu
      refine ⟨hs, hq, u', List.mem_cons.mpr hu', ?_⟩
      exact navigate_of_key_eq hs.coherent hru.coherent hq.1 hqu.1 hkey.symm ha.symm hn
        (hquiet u' hu').1
    · obtain ⟨hrv, hqv, -, v', hn, hv'⟩ := hpast v hv
      exact ⟨hrv, hqv, v', List.mem_cons.mpr hv', hn⟩
  | stuck hq hk hn =>
    obtain rfl := Except.error.inj hr
    have hkind := kind_of_navigate_error hn
    simp [Failure.kind] at hkind
  | @move seen s s' r hq hk hn _ ih =>
    have hspeaker := activeSpeaker_navigate hn
    obtain ⟨circle, hmem, hall⟩ := ih hr (s :: past) (by rw [hseen]; rfl)
      (hs.navigate hq hn) (by
        intro u hu
        rcases List.mem_cons.mp hu with rfl | hu
        · exact ⟨hs, hq, hspeaker.symm, s', hn, .inl rfl⟩
        · obtain ⟨hru, hqu, ha, u', hnu, hu'⟩ := hpast u hu
          refine ⟨hru, hqu, ha.trans hspeaker.symm, u', hnu, .inr (List.mem_cons.mpr hu')⟩)
    refine ⟨s :: circle, List.mem_cons_self, fun u hu => ?_⟩
    rcases List.mem_cons.mp hu with rfl | hu
    · exact ⟨hs, hq, s', List.mem_cons_of_mem _ hmem, hn⟩
    · obtain ⟨hru, hqu, u', hu', hnu⟩ := hall u hu
      exact ⟨hru, hqu, u', List.mem_cons_of_mem _ hu', hnu⟩

theorem endless_of_circle {script : Script} {circle : List State}
    (hc : ∀ u ∈ circle, Running script u ∧ u.Quiet ∧ ∃ u' ∈ circle, navigate script u = .ok u')
    {s : State} (hs : s ∈ circle) : Endless script s := by
  intro n
  induction n generalizing s with
  | zero =>
    intro u hu
    obtain rfl := Except.ok.inj hu
    obtain ⟨hr, hq, u', -, hn⟩ := hc s hs
    exact hr.not_rests_iff.mpr ⟨hq, u', hn⟩
  | succ n ih =>
    intro u hu
    obtain ⟨-, -, s', hs', hn⟩ := hc s hs
    simp only [drift, hn] at hu
    exact ih hs' u hu

theorem Endless.navigate {script : Script} {s s' : State} (h : Endless script s)
    (hn : navigate script s = .ok s') : Endless script s' := by
  intro n u hu
  refine h (n + 1) u ?_
  simpa only [drift, hn] using hu

/-- Moves that never rest end the loop by a key that comes back. -/
theorem Settles.eq_loop_of_endless {script : Script} {seen : List Key} {s : State}
    {r : Except Failure State} (h : Settles script seen s r) (hs : Running script s)
    (he : Endless script s) : ∃ t, r = .error (.loop t) := by
  induction h with
  | rest _ hq => exact absurd (hs.not_rests_iff.mp (he 0 _ rfl)).1 hq
  | again => exact ⟨_, rfl⟩
  | stuck _ _ hn =>
    obtain ⟨-, s', hn'⟩ := hs.not_rests_iff.mp (he 0 _ rfl)
    simp [hn] at hn'
  | move hq _ hn _ ih => exact ih (hs.navigate hq hn) (he.navigate hn)

/-- Only settling reports a loop. -/
theorem exists_step_loop_iff {script : Script} {s : State} {answer : Option Answer} :
    (∃ t, step script s answer = .error (.loop t)) ↔ ∃ s', proceed script s answer = .ok s' ∧
      ∃ t, settle script (settleBound script s') [] s' = .error (.loop t) := by
  unfold step emit
  cases hp : proceed script s answer with
  | error f =>
    simp only [Except.error.injEq, reduceCtorEq, false_and, exists_false, iff_false, not_exists]
    rintro t rfl
    exact kind_of_proceed_error hp rfl
  | ok s' =>
    cases hs : settle script (settleBound script s') [] s' <;> simp [hs, Except.map]

theorem settle_loop_iff {script : Script} {s : State} (h : Running script s) :
    (∃ t, settle script (settleBound script s) [] s = .error (.loop t)) ↔ Endless script s := by
  have hs := settles_settleBound h.coherent
  constructor
  · rintro ⟨t, ht⟩
    obtain ⟨circle, hmem, hall⟩ := hs.circle ht [] rfl h (by simp)
    exact endless_of_circle hall hmem
  · exact hs.eq_loop_of_endless h

/-- A step settles after finitely many moves, and it reports a loop exactly where the moves would
never come to rest. A line or an option that a later lap unlocks is always reached. -/
theorem step_loop_iff {script : Script} {seed : List String} {s : State}
    (h : Reached script seed s) (answer : Option Answer) :
    (∀ s', proceed script s answer = .ok s' →
      Settles script [] s' (settle script (settleBound script s') [] s')) ∧
    ((∃ t, step script s answer = .error (.loop t)) ↔
      ∃ s', proceed script s answer = .ok s' ∧ Endless script s') ∧
    ∀ s' n u c, proceed script s answer = .ok s' → drift script n s' = .ok u →
      u.content = some c → (u.lineIndex < c.lines.length ∨ c.options ≠ []) →
      ∀ t, step script s answer ≠ .error (.loop t) := by
  have hiff : (∃ t, step script s answer = .error (.loop t)) ↔
      ∃ s', proceed script s answer = .ok s' ∧ Endless script s' := by
    rw [exists_step_loop_iff]
    constructor
    · rintro ⟨s', hp, ht⟩
      exact ⟨s', hp, (settle_loop_iff (running_of_proceed h.coherent hp)).mp ht⟩
    · rintro ⟨s', hp, he⟩
      exact ⟨s', hp, (settle_loop_iff (running_of_proceed h.coherent hp)).mpr he⟩
  refine ⟨fun s' hp => settles_settleBound (running_of_proceed h.coherent hp).coherent, hiff, ?_⟩
  intro s' n u c hp hu hc hshow t ht
  obtain ⟨s'', hp', he⟩ := hiff.mp ⟨t, ht⟩
  obtain rfl := Except.ok.inj (hp.symm.trans hp')
  rcases hshow with hl | ho
  · exact he n u hu (.line hc hl)
  · exact he n u hu (.option hc ho)

/-- Two nodes that jump to each other; the first unlocks an option by its own visit. -/
private def lap : Script where
  nodes := [
    { title := "A", body := ["<<jump B>>", "-> {A} Leave", "<<jump End>>"] },
    { title := "B", body := ["<<jump A>>"] },
    { title := "End", body := ["Bye"] }]

/-- The first node, entered with the second one visited. -/
private def lapStart : State where
  phase := .emitting
  current := some "A"
  content := some { title := "A", jump := some "B" }
  visited := ["B", "A"]

/-- After two silent moves the key is the same and the content is not: no loop. -/
theorem step_loop_iff_lap :
    Reached lap ["B"] lapStart ∧ proceed lap lapStart none = .ok lapStart ∧
    (∃ u c, drift lap 2 lapStart = .ok u ∧ u.key = lapStart.key ∧ u.content = some c ∧
      c.options ≠ []) ∧
    ∀ t, step lap lapStart none ≠ .error (.loop t) := by
  have hr : Reached lap ["B"] lapStart :=
    .start .fresh (rfl : start lap { visited := ["B"] } "A" = .ok lapStart)
  refine ⟨hr, rfl, ⟨_, _, rfl, rfl, rfl, by decide +kernel⟩, ?_⟩
  exact (step_loop_iff hr none).2.2 lapStart 2 _ _ rfl rfl rfl (.inr (by decide +kernel))

end Dialogue.Session
