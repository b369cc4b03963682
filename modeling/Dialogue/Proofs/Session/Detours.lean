import Dialogue.Proofs.Session.Coherence
import Dialogue.Proofs.Session.Nesting

/-! Runs after a start, move by move: the return stack holds the nodes of the detours that are still
open, and a node that is done goes back to the latest of them. -/
namespace Dialogue.Session

/-- A node that is done: its lines are delivered, it shows no option, and its command was run if it
has one. -/
def State.Done (s : State) : Prop :=
  ∃ c, s.content = some c ∧ c.lines.length ≤ s.lineIndex ∧ c.options = [] ∧
    (s.phase = .emitting ∧ c.command = none ∨ s.phase = .commandPending)

/-- The moves of a session once it is started, several of them in one call if some are silent. -/
inductive Move (script : Script) (s : State) : Act → State → Prop
  | shown (hp : s.phase = .emitting) (hq : ¬ s.Quiet) : Move script s .onward (show? s).1
  | detour {c : Compiled} {options : List Choice} {a : Answer} {o : Choice} {s' : State}
      (hc : s.content = some c) (hp : s.pending = some options) (ho : option? options a = some o)
      (hd : o.detour = true) (h : proceed script s (some a) = .ok s') :
      Move script s (.detour c.title) s'
  | option {options : List Choice} {a : Answer} {o : Choice} {s' : State}
      (hp : s.pending = some options) (ho : option? options a = some o) (hd : o.detour = false)
      (h : proceed script s (some a) = .ok s') : Move script s .onward s'
  | jump {title : String} {s' : State} (hs : s.Done) (hj : s.jump? = some title)
      (h : navigate script s = .ok s') : Move script s .onward s'
  | back {caller : String} {s' : State} (hs : s.Done) (hj : s.jump? = none)
      (h : navigate script s = .ok s') (hp : s'.phase = .emitting)
      (hc : s'.current = some caller) : Move script s (.back caller) s'
  | finish {s' : State} (hs : s.Done) (hj : s.jump? = none) (h : navigate script s = .ok s')
      (hp : s'.phase = .ended) : Move script s .onward s'

/-- What a session has done from one state to another, without a restart. -/
inductive Run (script : Script) (s : State) : List Act → State → Prop
  | here : Run script s [] s
  | move {acts : List Act} {u v : State} {a : Act} (h : Run script s acts u)
      (hm : Move script u a v) : Run script s (acts ++ [a]) v

/-- How far the loop of silent moves has come: the keys it has met, and the state at hand. -/
inductive Underway (script : Script) (s : State) : List Key → State → Prop
  | here : Underway script s [] s
  | move {seen : List Key} {u v : State} (h : Underway script s seen u) (hq : u.Quiet)
      (hk : u.key ∉ seen) (hn : navigate script u = .ok v) :
      Underway script s (u.key :: seen) v

/-- The node of a caller, entered again: compiled against all that was visited by then, and with
none of its lines to deliver. -/
structure Resumed (script : Script) (s : State) (caller : String) (s' : State) : Prop where
  node : ∃ node, openNode script caller = .ok node ∧ s'.current = some caller ∧
    s'.content = some (node.compile s.visited) ∧
    s'.lineIndex = (node.compile s.visited).lines.length
  no_line : ∀ speaker text c, (show? s').2 ≠ some (.line speaker text c)

/-- What an act does to the return stack. -/
def Effect (script : Script) (s s' : State) : Act → Prop
  | .detour caller =>
    (∃ c, s.content = some c ∧ s.pending = some c.options ∧ c.title = caller) ∧
      s'.returnStack = s.returnStack ++ [caller]
  | .back caller => s.returnStack = s'.returnStack ++ [caller] ∧ Resumed script s caller s'
  | .onward => s'.returnStack = s.returnStack

section Moves
variable {script : Script} {s s' : State} {a : Act} {caller : String}

theorem State.Done.quiet_or_command (h : s.Done) : s.Quiet ∨ s.phase = .commandPending := by
  obtain ⟨c, hc, hl, ho, ⟨hp, hk⟩ | hp⟩ := h
  · exact .inl ⟨hp, c, hc, isSilent_iff.mpr ⟨hl, ho, hk⟩⟩
  · exact .inr hp

theorem State.Quiet.done (h : s.Quiet) : s.Done := by
  obtain ⟨hp, c, hc, hs⟩ := h
  obtain ⟨hl, ho, hk⟩ := isSilent_iff.mp hs
  exact ⟨c, hc, hl, ho, .inl ⟨hp, hk⟩⟩

theorem Coherent.done_of_command (h : Coherent script s) (hp : s.phase = .commandPending) :
    s.Done := by
  obtain ⟨node, before, ho, -, hopt, -, hl⟩ := h.opened_commandPending hp
  exact ⟨_, ho.content, hl.ge, hopt, .inr hp⟩

theorem Coherent.navigate_done (h : Coherent script s) (hd : s.Done)
    (hn : navigate script s = .ok s') : Coherent script s' := by
  rcases hd.quiet_or_command with hq | hp
  · exact (h.navigate_quiet hq hn).1
  · exact (h.proceed (.navigate hp hn)).1

theorem phase_of_proceed_some {answer : Answer} (h : proceed script s (some answer) = .ok s') :
    s.phase = .choicePending := by
  cases proceeds_of_proceed h with
  | resolve hp _ => exact hp

theorem Move.coherent (h : Coherent script s) (hm : Move script s a s') : Coherent script s' := by
  cases hm with
  | shown => exact h.shows (shows_show? s)
  | detour _ _ _ _ hp => exact (h.proceed (proceeds_of_proceed hp)).1
  | option _ _ _ hp => exact (h.proceed (proceeds_of_proceed hp)).1
  | jump hd _ hn => exact h.navigate_done hd hn
  | back hd _ hn => exact h.navigate_done hd hn
  | finish hd _ hn => exact h.navigate_done hd hn

theorem Shows.returnStack {e : Option Event} (h : Shows s s' e) :
    s'.returnStack = s.returnStack := by
  cases h <;> rfl

theorem Shows.lt_of_line {speaker : Option String} {text : String} {c : Compiled}
    (h : Shows s s' (some (.line speaker text c))) :
    ∃ c, s.content = some c ∧ s.lineIndex < c.lines.length := by
  cases h with
  | line _ hc hl => exact ⟨_, hc, (List.getElem?_eq_some_iff.mp hl).1⟩

/-- An answer leaves by the option it names. -/
theorem returnStack_of_proceed {options : List Choice} {answer : Answer} {o : Choice}
    (hp : s.pending = some options) (ho : option? options answer = some o)
    (h : proceed script s (some answer) = .ok s') :
    s'.returnStack = (s.leaving o).returnStack := by
  cases proceeds_of_proceed h with
  | resolve _ hr =>
    obtain ⟨options', o', title, node, hp', ho', -, -, rfl⟩ := resolve_eq_ok hr
    obtain rfl := Option.some.inj (hp.symm.trans hp')
    obtain rfl := Option.some.inj (ho.symm.trans ho')
    rfl

theorem resumed_entering {node : Node} (ho : openNode script caller = .ok node) :
    Resumed script s caller (s.popped.entering node true) where
  node := by
    refine ⟨node, ho, ?_, rfl, rfl⟩
    rw [State.entering_current, title_of_openNode ho]
  no_line speaker text c hline := by
    have hshows := shows_show? (s.popped.entering node true)
    rw [hline] at hshows
    obtain ⟨c', hc, hlt⟩ := hshows.lt_of_line
    obtain rfl := Option.some.inj hc
    simp [State.entering] at hlt

theorem Move.effect (h : Coherent script s) (hm : Move script s a s') : Effect script s s' a := by
  cases hm with
  | shown => exact (shows_show? s).returnStack
  | @detour c options _ o _ hc hp ho hd hpr =>
    obtain ⟨node, before, hopen, -, rfl⟩ := h.pending_eq_some hp
    obtain rfl := Option.some.inj (hopen.content.symm.trans hc)
    refine ⟨⟨_, hc, hp, rfl⟩, ?_⟩
    rw [returnStack_of_proceed hp ho hpr, State.leaving_returnStack, if_pos hd, hopen.current]
    rfl
  | option hp ho hd hpr =>
    show s'.returnStack = s.returnStack
    rw [returnStack_of_proceed hp ho hpr, State.leaving_returnStack, if_neg (by simp [hd])]
  | jump hs hj hn =>
    cases leaves_of_navigate hn with
    | jump => rfl
    | back hj' => simp [hj'] at hj
    | finish hj' => simp [hj'] at hj
  | @back caller _ hs hj hn hp hc =>
    cases leaves_of_navigate hn with
    | jump hj' => simp [hj'] at hj
    | @back latest node _ hr ho =>
      obtain rfl : node.title = caller := Option.some.inj hc
      obtain rfl := title_of_openNode ho
      exact ⟨(List.dropLast_append_getLast? _ hr).symm, resumed_entering ho⟩
    | finish => simp at hp
  | finish hs hj hn hp =>
    cases leaves_of_navigate hn with
    | jump => simp at hp
    | back => simp at hp
    | finish => rfl

/-- A return is due exactly where a node is done that jumps nowhere while a detour is open. -/
theorem Move.back_iff (h : Coherent script s) (hm : Move script s a s') :
    (∃ caller, a = .back caller) ↔ s.Done ∧ s.jump? = none ∧ s.returnStack ≠ [] := by
  constructor
  · rintro ⟨caller, rfl⟩
    have heffect := hm.effect h
    cases hm with
    | back hs hj =>
      refine ⟨hs, hj, ?_⟩
      rw [heffect.1]
      simp
  · rintro ⟨hd, hj, hr⟩
    have hchoice : s.phase ≠ .choicePending := by
      rcases hd.quiet_or_command with hq | hp
      · simp [hq.1]
      · simp [hp]
    cases hm with
    | shown hp hq =>
      rcases hd.quiet_or_command with hquiet | hcommand
      · exact absurd hquiet hq
      · simp [hp] at hcommand
    | detour _ _ _ _ hpr => exact absurd (phase_of_proceed_some hpr) hchoice
    | option _ _ _ hpr => exact absurd (phase_of_proceed_some hpr) hchoice
    | jump _ hj' => simp [hj] at hj'
    | back => exact ⟨_, rfl⟩
    | finish _ _ hn hp =>
      cases leaves_of_navigate hn with
      | jump => simp at hp
      | back => simp at hp
      | finish _ hr' => exact absurd hr' hr

/-- A return that is due can be made: the callers of open detours open nodes. -/
theorem Coherent.exists_back (h : Coherent script s) (hd : s.Done) (hj : s.jump? = none)
    (hr : s.returnStack ≠ []) : ∃ caller s', Move script s (.back caller) s' := by
  obtain ⟨caller, hlast⟩ := Option.ne_none_iff_exists'.mp (mt List.getLast?_eq_none_iff.mp hr)
  obtain ⟨-, node, ho⟩ := h.callers caller (List.mem_of_getLast? hlast)
  have hn : navigate script s = .ok (s.popped.entering node true) := by
    rw [navigate_eq, hj, hlast]
    exact goto_eq_ok_iff.mpr ⟨node, ho, rfl⟩
  exact ⟨node.title, _, .back hd hj hn rfl rfl⟩

end Moves

section Underway
variable {script : Script} {s u v : State} {seen : List Key}

theorem length_returnStack_navigate (h : navigate script s = .ok u) :
    u.returnStack.length ≤ s.returnStack.length ∧
      (s.jump? = none → s.returnStack ≠ [] → u.returnStack.length < s.returnStack.length) := by
  cases leaves_of_navigate h with
  | jump hj => exact ⟨le_rfl, fun hnone => by simp [hnone] at hj⟩
  | back hj hr =>
    simp only [State.entering_returnStack, State.popped_returnStack, List.length_dropLast]
    refine ⟨by omega, fun _ hne => ?_⟩
    have hpos := List.length_pos_iff.mpr hne
    omega
  | finish hj hr => exact ⟨le_rfl, fun _ hne => absurd hr hne⟩

/-- Behind each key stands a state whose move left a return stack no smaller than the one at hand.
-/
theorem Underway.past (h : Underway script s seen u) (hs : Coherent script s) :
    Coherent script u ∧ ∀ k ∈ seen, ∃ x x', Coherent script x ∧ x.Quiet ∧ x.key = k ∧
      navigate script x = .ok x' ∧ u.returnStack.length ≤ x'.returnStack.length := by
  induction h with
  | here => exact ⟨hs, by simp⟩
  | @move seen u v _ hq _ hn ih =>
    obtain ⟨hu, hpast⟩ := ih
    refine ⟨(hu.navigate_quiet hq hn).1, fun k hk => ?_⟩
    rcases List.mem_cons.mp hk with rfl | hk
    · exact ⟨u, v, hu, hq, rfl, hn, le_rfl⟩
    · obtain ⟨x, x', hx, hqx, hkey, hnx, hle⟩ := hpast k hk
      exact ⟨x, x', hx, hqx, hkey, hnx, (length_returnStack_navigate hn).1.trans hle⟩

/-- No loop is reported where a return is due: an earlier state with the same key would have
returned, too, and the return stack would be smaller since. -/
theorem Underway.key_not_mem (h : Underway script s seen u) (hs : Coherent script s)
    (hd : u.Quiet) (hj : u.jump? = none) (hr : u.returnStack ≠ []) : u.key ∉ seen := by
  intro hk
  obtain ⟨hu, hpast⟩ := h.past hs
  obtain ⟨x, x', hx, hqx, hkey, hnx, hle⟩ := hpast u.key hk
  have hret : x.returnStack = u.returnStack := congrArg Key.returnStack hkey
  have hjx : x.jump? = none :=
    (hx.jump?_congr hu hqx.1 hd.1 (congrArg Key.current hkey)).trans hj
  have hlt := (length_returnStack_navigate hnx).2 hjx (by rwa [hret])
  rw [hret] at hlt
  omega

end Underway

section Runs
variable {script : Script} {s u : State} {acts : List Act}

theorem Run.coherent (h : Run script s acts u) (hs : Coherent script s) : Coherent script u := by
  induction h with
  | here => exact hs
  | move _ hm ih => exact hm.coherent ih

theorem Run.awaiting (h : Run script s acts u) (hs : Coherent script s)
    (hr : s.returnStack = []) : Awaiting acts u.returnStack := by
  induction h with
  | here =>
    rw [hr]
    exact .balanced .nil
  | @move acts u v a hrun hm ih =>
    have heffect := hm.effect (hrun.coherent hs)
    cases a with
    | detour caller =>
      rw [heffect.2]
      exact ih.detour .nil
    | back caller =>
      rw [heffect.1] at ih
      exact ih.back
    | onward =>
      rw [show v.returnStack = u.returnStack from heffect]
      exact ih.onward

theorem Run.navigate {v : State} (h : Run script s acts u) (hd : u.Done)
    (hn : navigate script u = .ok v) : ∃ acts', Run script s (acts ++ acts') v := by
  cases leaves_of_navigate hn with
  | jump hj _ => exact ⟨_, h.move (.jump hd hj hn)⟩
  | back hj _ _ => exact ⟨_, h.move (.back hd hj hn rfl rfl)⟩
  | finish hj _ => exact ⟨_, h.move (.finish hd hj hn rfl)⟩

theorem Run.proceed {v : State} {answer : Option Answer} (h : Run script s acts u)
    (hu : Coherent script u) (hp : Session.proceed script u answer = .ok v) :
    ∃ acts', Run script s (acts ++ acts') v := by
  cases proceeds_of_proceed hp with
  | @resolve answer _ hphase hr =>
    obtain ⟨options, o, -, -, hpend, hopt, -, -, -⟩ := resolve_eq_ok hr
    obtain ⟨node, before, hopen, -, -⟩ := hu.pending_eq_some hpend
    cases hd : o.detour with
    | true => exact ⟨_, h.move (.detour hopen.content hpend hopt hd hp)⟩
    | false => exact ⟨_, h.move (.option hpend hopt hd hp)⟩
  | navigate hphase hn => exact h.navigate (hu.done_of_command hphase) hn
  | stay => exact ⟨[], by simpa using h⟩

/-- A call makes moves of the run. -/
theorem Run.step {v : State} {answer : Option Answer} {e : Option Event}
    (h : Run script s acts u) (hu : Coherent script u)
    (hs : Session.step script u answer = .ok (v, e)) : ∃ acts', Run script s (acts ++ acts') v := by
  obtain ⟨t, w, hp, hw, hshow⟩ := step_eq_ok hs
  have hquiet : ∀ x y, (∃ acts', Run script s (acts ++ acts') x) → x.Quiet →
      Session.navigate script x = .ok y → ∃ acts', Run script s (acts ++ acts') y := by
    rintro x y ⟨acts', hx⟩ hq hn
    obtain ⟨acts'', hy⟩ := hx.navigate hq.done hn
    exact ⟨acts' ++ acts'', by rwa [← List.append_assoc]⟩
  obtain ⟨⟨acts', hrun⟩, hrest⟩ := settle_preserves hquiet hw (h.proceed hu hp)
  by_cases hphase : w.phase = .emitting
  · have hmove := hrun.move (.shown hphase hrest)
    rw [hshow, List.append_assoc] at hmove
    exact ⟨_, hmove⟩
  · have hstay : show? w = (w, none) := by simp [show?, hphase]
    obtain rfl : w = v := congrArg Prod.fst (hstay.symm.trans hshow)
    exact ⟨acts', hrun⟩

end Runs

/-- What detours come to at a moment of a run: which of them are open, what each next move does to
them, and that none is open at the end. -/
structure Disciplined (script : Script) (s : State) (acts : List Act) (u : State) : Prop where
  outstanding : Outstanding acts u.returnStack
  effect : ∀ a v, Move script u a v → Effect script u v a
  back_iff : ∀ a v, Move script u a v →
    ((∃ caller, a = .back caller) ↔ u.Done ∧ u.jump? = none ∧ u.returnStack ≠ [])
  exists_back : u.Done → u.jump? = none → u.returnStack ≠ [] →
    (∃ caller v, Move script u (.back caller) v) ∧
      (u.Quiet → ∀ w seen, Coherent script w → Underway script w seen u → u.key ∉ seen)
  ended : u.phase = .ended →
    ∀ i caller, acts[i]? = some (.detour caller) → ∃! j, Returned acts i j
  call : ∀ answer v e, step script u answer = .ok (v, e) →
    ∃ acts', Run script s (acts ++ acts') v

/-- At every moment after a start, the return stack holds exactly the nodes of the detours taken and
not yet returned from. -/
theorem Run.disciplined {script : Script} {s₀ s u : State} {title : String} {acts : List Act}
    (hs : start script s₀ title = .ok s) (h : Run script s acts u) :
    Disciplined script s acts u := by
  have hcoh := coherent_start hs
  have hstack : s.returnStack = [] := by
    obtain ⟨node, -, rfl⟩ := start_eq_ok_iff.mp hs
    rfl
  have hu := h.coherent hcoh
  have houtstanding := (h.awaiting hcoh hstack).outstanding
  refine ⟨houtstanding, fun a v hm => hm.effect hu, fun a v hm => hm.back_iff hu, ?_, ?_, ?_⟩
  · intro hd hj hr
    exact ⟨hu.exists_back hd hj hr, fun hq w seen hw hway => hway.key_not_mem hw hq hj hr⟩
  · intro hp i caller hi
    obtain ⟨-, -, -, -, -, -, hnil, -⟩ := hu.opened_ended hp
    rw [hnil] at houtstanding
    exact houtstanding.existsUnique_returned hi
  · exact fun answer v e hstep => h.step hu hstep

/-- A node with a detour to itself, and a silent one that it jumps to. -/
private def mirror : Script where
  nodes := [
    { title := "Mirror", body := ["-> Look in", "<<detour Mirror>>", "-> Turn", "<<jump Dark>>"] },
    { title := "Dark" }]

private def mirrorNode (again : Bool) : Compiled where
  title := "Mirror"
  options := [⟨"Look in", some "Mirror", again, true⟩, ⟨"Turn", some "Dark", false, false⟩]

/-- The first node as it is entered from some callers, for the first time or again. -/
private def mirrorAt (again : Bool) (callers : List String) : State where
  phase := .emitting
  current := some "Mirror"
  content := some (mirrorNode again)
  visited := ["Mirror"]
  returnStack := callers

private def darkAt (callers : List String) : State where
  phase := .emitting
  current := some "Dark"
  content := some { title := "Dark" }
  visited := ["Mirror", "Dark"]
  returnStack := callers

private def darkActs : List Act := [.onward, .detour "Mirror", .onward, .onward]

/-- In the dark, a return to the node of the detour is due. -/
theorem disciplined_mirror :
    start mirror {} "Mirror" = .ok (mirrorAt false []) ∧
    Run mirror (mirrorAt false []) darkActs (darkAt ["Mirror"]) ∧
    Outstanding darkActs ["Mirror"] ∧
    ∃ caller v, Move mirror (darkAt ["Mirror"]) (.back caller) v := by
  have hstart : start mirror {} "Mirror" = .ok (mirrorAt false []) := by decide +kernel
  have hshown : ∀ again callers, Move mirror (mirrorAt again callers) .onward
      { mirrorAt again callers with
        phase := .choicePending, pending := some (mirrorNode again).options } :=
    fun again callers => .shown rfl (mt (State.quiet_iff rfl).mp (by simp [mirrorNode]))
  have hrun : Run mirror (mirrorAt false []) darkActs (darkAt ["Mirror"]) :=
    .move (.move (.move (.move .here (hshown false []))
      (.detour (a := .ofInt 0) (c := mirrorNode false) rfl rfl rfl rfl
        (by decide +kernel : _ = Except.ok (mirrorAt true ["Mirror"]))))
      (hshown true ["Mirror"]))
      (.option (a := .ofInt 1) rfl rfl rfl (by decide +kernel))
  have hdone : (darkAt ["Mirror"]).Done :=
    ⟨_, rfl, le_rfl, rfl, .inl ⟨rfl, rfl⟩⟩
  have hd := hrun.disciplined hstart
  exact ⟨hstart, hrun, hd.outstanding, (hd.exists_back hdone rfl (by decide)).1⟩

end Dialogue.Session
