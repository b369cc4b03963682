import Dialogue.Proofs.Session.Loop
import Dialogue.Proofs.Session.Story

/-! What is left to tell from a state of a session, and how each move of the session takes its part
of it away. -/
namespace Dialogue.Session

/-- A started session whose visited titles are the seed and the titles entered so far. -/
structure Tracks (script : Script) (seed entered : List String) (s : State) : Prop where
  coherent : Coherent script s
  started : s.phase ≠ .idle
  visited : ∀ t, t ∈ s.visited ↔ t ∈ seed ++ entered

theorem Tracks.toFinset {script : Script} {seed entered : List String} {s : State}
    (h : Tracks script seed entered s) : s.visited.toFinset = (seed ++ entered).toFinset := by
  ext t
  rw [List.mem_toFinset, List.mem_toFinset]
  exact h.visited t

/-- The events of the visit at hand that are still to come. -/
def unsaid (s : State) (c : Compiled) : List Event :=
  if s.phase = .emitting then (c.lines.drop s.lineIndex).map (lineEvent c) ++ closing c else []

/-- The telling from a state on: what is unsaid of its visit, and `n` further visits. -/
def remainder (script : Script) (seed : List String) (n : Nat) (entered : List String) (s : State)
    (choices : List Nat) : Story :=
  match s.content with
  | none => ⟨[], .unfinished⟩
  | some c =>
    ((sequel c s.returnStack choices).story (seed ++ entered).toFinset
      (tell script seed n entered)).prepend
      ((unsaid s c).map (·, (seed ++ entered).toFinset))

section Entering
variable {script : Script} {seed entered : List String} {s : State} {node : Node} {title : String}

/-- A visit begins in the state that has entered its node. -/
theorem tell_succ (hv : ∀ t, t ∈ s.visited ↔ t ∈ seed ++ entered)
    (ho : openNode script title = .ok node) (n : Nat) (returning : Bool) (choices : List Nat) :
    tell script seed (n + 1) entered ⟨title, returning, s.returnStack⟩ choices =
      remainder script seed n (entered ++ [title]) (s.entering node returning) choices := by
  have hc : node.compile s.visited = node.compile (seed ++ entered) := node.compile_congr hv
  have hu : unsaid (s.entering node returning) (node.compile s.visited) =
      visitEvents (node.compile s.visited) returning := by
    cases returning <;> simp [unsaid, visitEvents, State.entering]
  rw [hc] at hu
  simp only [tell, ho, remainder, State.entering_content, State.entering_returnStack, hu, hc]

theorem tell_succ_of_error {f : Failure} (ho : openNode script title = .error f) (n : Nat)
    (returning : Bool) (callers : List String) (choices : List Nat) :
    tell script seed (n + 1) entered ⟨title, returning, callers⟩ choices =
      ⟨[], .failed f⟩ := by
  simp only [tell, ho]

theorem tracks_entering (hs : Callers script s)
    (hv : ∀ t, t ∈ s.visited ↔ t ∈ seed ++ entered) (ho : openNode script title = .ok node)
    (returning : Bool) :
    Tracks script seed (entered ++ [title]) (s.entering node returning) where
  coherent := .opened (opened_entering hs ho returning)
  started := by simp
  visited t := by
    rw [State.entering_visited, mem_visit, hv t, title_of_openNode ho]
    simp [or_assoc]

end Entering

/-- What a move from a state means for the telling: after `m` more visits it goes on from the state
that the move leads to, with the choices left, or it fails as the move does. -/
def Follows (script : Script) (seed : List String) (m : Nat) (entered : List String) (s : State)
    (choices : List Nat) (r : Except Failure State) (rest : List Nat) : Prop :=
  match r with
  | .ok s' => ∃ entered', Tracks script seed entered' s' ∧ ∀ n,
      remainder script seed (n + m) entered s choices = remainder script seed n entered' s' rest
  | .error f => ∀ n, remainder script seed (n + m) entered s choices = ⟨[], .failed f⟩

section Moving
variable {script : Script} {seed entered : List String} {s : State} {node : Node}
  {before : List String}

theorem Tracks.stay (h : Tracks script seed entered s) (choices : List Nat) :
    Follows script seed 0 entered s choices (.ok s) choices :=
  ⟨entered, h, fun _ => rfl⟩

theorem Follows.trans {m : Nat} {choices : List Nat} {s' : State} {r : Except Failure State}
    {rest last : List Nat} (h : Follows script seed m entered s choices (.ok s') rest)
    (h' : ∀ entered', Tracks script seed entered' s' →
      ∃ m', Follows script seed m' entered' s' rest r last) :
    ∃ m', Follows script seed m' entered s choices r last := by
  obtain ⟨entered', ht, hm⟩ := h
  obtain ⟨m', hf⟩ := h' entered' ht
  refine ⟨m' + m, ?_⟩
  cases r with
  | error f =>
    intro n
    rw [← Nat.add_assoc, hm]
    exact hf n
  | ok u =>
    obtain ⟨entered'', hu, hn⟩ := hf
    refine ⟨entered'', hu, fun n => ?_⟩
    rw [← Nat.add_assoc, hm]
    exact hn n

theorem remainder_of_silent (ho : Opened script s node before)
    (hu : unsaid s (node.compile before) = []) (n : Nat) (choices : List Nat) :
    remainder script seed n entered s choices =
      (sequel (node.compile before) s.returnStack choices).story (seed ++ entered).toFinset
        (tell script seed n entered) := by
  simp only [remainder, ho.content, hu, List.map_nil, Story.prepend_nil]

theorem Tracks.navigate (h : Tracks script seed entered s) (ho : Opened script s node before)
    (hl : (node.compile before).lines.length ≤ s.lineIndex)
    (hopt : (node.compile before).options = []) (hu : unsaid s (node.compile before) = [])
    (choices : List Nat) :
    Follows script seed 1 entered s choices (Session.navigate script s) choices := by
  cases hn : Session.navigate script s with
  | error f =>
    intro n
    obtain ⟨title, hopen, hj | ⟨hj, hr⟩⟩ := navigate_failure hn
    · rw [remainder_of_silent ho hu, sequel_of_jump hopt (ho.jump?.symm.trans hj)]
      exact tell_succ_of_error hopen n false _ choices
    · rw [remainder_of_silent ho hu, sequel_of_caller hopt (ho.jump?.symm.trans hj) hr]
      exact tell_succ_of_error hopen n true _ choices
  | ok s' =>
    cases leaves_of_navigate hn with
    | @jump title next hj hopen =>
      refine ⟨_, tracks_entering ho.callers h.visited hopen false, fun n => ?_⟩
      rw [remainder_of_silent ho hu, sequel_of_jump hopt (ho.jump?.symm.trans hj)]
      exact tell_succ h.visited hopen n false choices
    | @back caller next hj hr hopen =>
      refine ⟨_, tracks_entering ho.callers.popped h.visited hopen true, fun n => ?_⟩
      rw [remainder_of_silent ho hu, sequel_of_caller hopt (ho.jump?.symm.trans hj) hr]
      exact tell_succ (s := s.popped) h.visited hopen n true choices
    | finish hj hr =>
      have hjump := ho.jump?.symm.trans hj
      refine ⟨entered, ⟨(ho.leave hl hopt hn).1, by simp, h.visited⟩, fun n => ?_⟩
      rw [remainder_of_silent ho hu, hr, sequel_of_nothing hopt hjump]
      simp only [remainder, ho.content, sequel_of_nothing hopt hjump, Sequel.story, unsaid,
        reduceCtorEq, if_false, List.map_nil, Story.prepend_nil]

theorem Tracks.resolve (h : Tracks script seed entered s) (hp : s.phase = .choicePending)
    (i : Nat) (choices : List Nat) :
    Follows script seed 1 entered s (i :: choices) (Session.resolve script s (.ofInt i))
      choices := by
  obtain ⟨node, before, ho, hpend, hopt, -⟩ := h.coherent.opened_choicePending hp
  have hu : unsaid s (node.compile before) = [] := by simp [unsaid, hp]
  have hrem : ∀ n, remainder script seed n entered s (i :: choices) =
      (sequel (node.compile before) s.returnStack (i :: choices)).story (seed ++ entered).toFinset
        (tell script seed n entered) := fun n => remainder_of_silent ho hu n _
  simp only [sequel_of_choice hopt] at hrem
  rw [resolve_eq, hpend]
  dsimp only
  rw [option?_ofInt]
  cases hi : (node.compile before).options[i]? with
  | none =>
    intro n
    rw [hrem, hi, ho.current]
    rfl
  | some o =>
    cases htarget : o.target with
    | none =>
      simp only [hi, htarget] at hrem ⊢
      intro n
      rw [hrem, ho.current]
      rfl
    | some title =>
      have hcallers : (if o.detour = true then s.returnStack ++ [(node.compile before).title]
          else s.returnStack) = (s.leaving o).returnStack := by
        rw [State.leaving_returnStack, ho.current]
        rfl
      simp only [hi, htarget, hcallers, Sequel.story] at hrem ⊢
      rw [goto_eq]
      cases hopen : openNode script title with
      | error f =>
        intro n
        rw [hrem]
        exact tell_succ_of_error hopen n false _ choices
      | ok next =>
        have hv : ∀ t, t ∈ (s.leaving o).visited ↔ t ∈ seed ++ entered := by
          simpa using h.visited
        refine ⟨_, tracks_entering (.leaving ho o) hv hopen false, fun n => ?_⟩
        rw [hrem]
        exact tell_succ hv hopen n false choices

theorem Tracks.answer (h : Tracks script seed entered s) (hp : s.phase = .choicePending) (i : Nat)
    (choices : List Nat) :
    Follows script seed 1 entered s (i :: choices)
      (Session.proceed script s (some (.ofInt i))) choices := by
  have heq : Session.proceed script s (some (.ofInt i)) = Session.resolve script s (.ofInt i) := by
    simp only [Session.proceed, hp]
  rw [heq]
  exact h.resolve hp i choices

/-- A pending choice is all there is to tell without an answer. -/
theorem Tracks.remainder_of_waiting (h : Tracks script seed entered s)
    (hp : s.phase = .choicePending) (n : Nat) :
    remainder script seed n entered s [] = ⟨[], .waiting⟩ := by
  obtain ⟨node, before, ho, -, hopt, -⟩ := h.coherent.opened_choicePending hp
  rw [remainder_of_silent ho (by simp [unsaid, hp]), sequel_of_no_choice hopt]
  rfl

theorem unsaid_of_quiet {c : Compiled} (hp : s.phase = .emitting)
    (hl : c.lines.length ≤ s.lineIndex) (ho : c.options = []) (hk : c.command = none) :
    unsaid s c = [] := by
  rw [unsaid, if_pos hp, List.drop_eq_nil_of_le hl, closing, if_pos ho, hk]
  rfl

theorem Tracks.navigate_quiet (h : Tracks script seed entered s) (hq : s.Quiet)
    (choices : List Nat) :
    Follows script seed 1 entered s choices (Session.navigate script s) choices := by
  obtain ⟨node, before, ho, hl, hopt, hk⟩ := h.coherent.quiet hq
  exact h.navigate ho hl hopt (unsaid_of_quiet hq.1 hl hopt hk) choices

theorem Tracks.proceed (h : Tracks script seed entered s) (hp : s.phase ≠ .choicePending)
    (choices : List Nat) :
    ∃ m, Follows script seed m entered s choices (Session.proceed script s none) choices := by
  unfold Session.proceed
  cases hphase : s.phase with
  | idle => exact absurd hphase h.started
  | choicePending => exact absurd hphase hp
  | emitting => exact ⟨0, h.stay choices⟩
  | ended => exact ⟨0, h.stay choices⟩
  | commandPending =>
    obtain ⟨node, before, ho, -, hopt, -, hl⟩ := h.coherent.opened_commandPending hphase
    have hu : unsaid s (node.compile before) = [] := by simp [unsaid, hphase]
    exact ⟨1, h.navigate ho hl.ge hopt hu choices⟩

/-- Silent moves are visits that tell nothing. -/
theorem Tracks.settles {seen : List Key} {r : Except Failure State}
    (h : Tracks script seed entered s) (hs : Settles script seen s r)
    (hr : ∀ t, r ≠ .error (.loop t)) (choices : List Nat) :
    ∃ m, Follows script seed m entered s choices r choices := by
  induction hs generalizing entered with
  | rest => exact ⟨0, h.stay choices⟩
  | again => exact absurd rfl (hr _)
  | stuck hq _ hn => exact ⟨1, hn ▸ h.navigate_quiet hq choices⟩
  | move hq _ hn _ ih =>
    have hmove := h.navigate_quiet hq choices
    rw [hn] at hmove
    exact hmove.trans fun entered' ht => ih ht hr

/-- The rest of the lines and the closing event, one by one. -/
theorem Tracks.shows {s' : State} {e : Event} (h : Tracks script seed entered s)
    (hs : Shows s s' (some e)) : Tracks script seed entered s' ∧ ∀ n choices,
      remainder script seed n entered s choices =
        (remainder script seed n entered s' choices).prepend [(e, s'.visited.toFinset)] := by
  have hcoh := h.coherent.shows hs
  have hfin := h.toFinset
  cases hs with
  | @line c line hp hc hl =>
    refine ⟨⟨hcoh, by simp [hp], h.visited⟩, fun n choices => ?_⟩
    have hdrop := List.drop_eq_getElem_cons (List.getElem?_eq_some_iff.mp hl).1
    rw [(List.getElem?_eq_some_iff.mp hl).2] at hdrop
    simp only [remainder, hc, unsaid, hp, if_true, hdrop, List.map_cons, List.cons_append,
      Story.prepend_prepend, hfin, List.nil_append]
  | @choice c hp hc hl ho =>
    refine ⟨⟨hcoh, by simp, h.visited⟩, fun n choices => ?_⟩
    simp only [remainder, hc, unsaid, hp, if_true, reduceCtorEq, if_false,
      List.drop_eq_nil_of_le hl, closing, ho, List.map_nil, List.nil_append, List.map_cons,
      Story.prepend_nil, hfin]
  | @command c k hp hc hl ho hk =>
    refine ⟨⟨hcoh, by simp, h.visited⟩, fun n choices => ?_⟩
    simp only [remainder, hc, unsaid, hp, if_true, reduceCtorEq, if_false,
      List.drop_eq_nil_of_le hl, closing, ho, hk, Option.toList_some, List.map_nil,
      List.nil_append, List.map_cons, Story.prepend_nil, hfin]

/-- An endless silent run tells nothing, however many visits of it are told. -/
theorem remainder_of_endless (h : Tracks script seed entered s) (hs : Running script s)
    (he : Endless script s) (n : Nat) (choices : List Nat) :
    remainder script seed n entered s choices = ⟨[], .unfinished⟩ := by
  induction n generalizing entered s with
  | zero =>
    obtain ⟨hq, s', hn⟩ := hs.not_rests_iff.mp (he 0 s rfl)
    obtain ⟨node, before, ho, hl, hopt, hk⟩ := h.coherent.quiet hq
    rw [remainder_of_silent ho (unsaid_of_quiet hq.1 hl hopt hk)]
    cases leaves_of_navigate hn with
    | jump hj => rw [sequel_of_jump hopt (ho.jump?.symm.trans hj)]; rfl
    | back hj hr => rw [sequel_of_caller hopt (ho.jump?.symm.trans hj) hr]; rfl
    | finish => exact absurd (.ended rfl) (he.navigate hn 0 _ rfl)
  | succ n ih =>
    obtain ⟨hq, s', hn⟩ := hs.not_rests_iff.mp (he 0 s rfl)
    have hmove := h.navigate_quiet hq choices
    rw [hn] at hmove
    obtain ⟨entered', ht, hm⟩ := hmove
    rw [hm]
    exact ih ht (hs.navigate hq hn) (he.navigate hn)

theorem remainder_of_ended (h : Tracks script seed entered s) (hp : s.phase = .ended) (n : Nat)
    (choices : List Nat) :
    remainder script seed n entered s choices = ⟨[], .ended s.visited.toFinset⟩ := by
  obtain ⟨node, before, ho, -, hopt, hjump, hr, -⟩ := h.coherent.opened_ended hp
  rw [remainder_of_silent ho (by simp [unsaid, hp]), hr, sequel_of_nothing hopt hjump,
    h.toFinset]
  rfl

end Moving

end Dialogue.Session
