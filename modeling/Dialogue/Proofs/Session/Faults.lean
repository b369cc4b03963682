import Dialogue.Proofs.Graph.Report
import Dialogue.Proofs.Session.Loop
import Dialogue.Proofs.Session.Turns
import Dialogue.Proofs.Text.Integer

/-! Faults: how a call can fail in a script without dangling links, and when it does. -/
namespace Dialogue.Session
open Dialogue.Graph

/-- A title that opens a node. -/
def Present (script : Script) (title : String) : Prop :=
  title ≠ "" ∧ script.hasTitle title = true

/-- A call out of turn: before the start, without an answer to a pending choice or with one that is
not the index of an option, or with an answer where no choice is pending. -/
def OutOfTurn (started : Prop) (pending : Option (List Choice)) (answer : Option Answer) : Prop :=
  ¬ started ∨
    match pending, answer with
    | none, none => False
    | none, some _ => True
    | some _, none => True
    | some options, some a => ∀ i : Int, a.index? = some i → ¬ (0 ≤ i ∧ i < options.length)

/-- The answer to a pending choice names no option and cannot be written. -/
def Unwritable (pending : Option (List Choice)) (answer : Option Answer) : Prop :=
  ∃ options a, pending = some options ∧ answer = some a ∧ a.shown = none ∧
    ∀ i : Int, a.index? = some i → ¬ (0 ≤ i ∧ i < options.length)

/-- The answer to a pending choice names an option that leads nowhere. -/
def Targetless (pending : Option (List Choice)) (answer : Option Answer) : Prop :=
  ∃ options a o, ∃ i : Nat, pending = some options ∧ answer = some a ∧
    a.index? = some (i : Int) ∧ options[i]? = some o ∧ o.target = none

/-- The failures that there are, each with all that causes it. -/
inductive Fault (started : Prop) (pending : Option (List Choice)) (answer : Option Answer) :
    Failure → Prop
  | turn {f : Failure} (hk : f.kind = .protocol) (h : OutOfTurn started pending answer)
      (hw : ¬ Unwritable pending answer) (ht : ¬ Targetless pending answer) :
      Fault started pending answer f
  | unwritable (h : Unwritable pending answer) (ht : ¬ Targetless pending answer) :
      Fault started pending answer .unwritable
  | target {option : String} {node : Option String} (h : ¬ OutOfTurn started pending answer)
      (ht : Targetless pending answer) : Fault started pending answer (.noTarget option node)
  | loop {node : Option String} (h : ¬ OutOfTurn started pending answer)
      (ht : ¬ Targetless pending answer) : Fault started pending answer (.loop node)

/-- A call fails for its cause, and without any cause it succeeds or loops. -/
def Judged {α : Type} (started : Prop) (pending : Option (List Choice)) (answer : Option Answer)
    (r : Except Failure α) : Prop :=
  match r with
  | .ok _ => ¬ OutOfTurn started pending answer ∧ ¬ Targetless pending answer
  | .error f => Fault started pending answer f

section Present
variable {script : Script} {title : String}

theorem exists_node_of_present (h : Present script title) :
    ∃ node, openNode script title = .ok node :=
  exists_openNode_iff.mpr h

theorem closed_present {start : Option String} {terminating : List String}
    (h : (report script start terminating).dangling = []) : Closed script (Present script) := by
  intro n hn _ l hl
  have htitle := (dangling_eq_nil_iff script).mp h n hn l hl
  exact ⟨Node.link_target_ne_empty hl, htitle⟩

theorem unbroken_of_closed (hP : Closed script (Present script)) : Unbroken script := by
  intro n hn l hl
  have htitle : Present script n.title := exists_openNode_iff.mp ⟨n, hn⟩
  exact exists_node_of_present (hP n (mem_of_openNode hn) htitle l hl)

theorem exists_start_of_present (h : Present script title) (s : State) :
    ∃ s', start script s title = .ok s' := by
  obtain ⟨node, ho⟩ := exists_node_of_present h
  exact ⟨_, start_eq_ok_iff.mpr ⟨node, ho, rfl⟩⟩

end Present

theorem option?_eq_none_iff {options : List Choice} {a : Answer} :
    option? options a = none ↔
      ∀ i : Int, a.index? = some i → ¬ (0 ≤ i ∧ i < options.length) := by
  unfold option?
  cases a.index? with
  | none => simp
  | some i =>
    simp only [Option.some.injEq, forall_eq']
    split_ifs with hi
    · rw [List.getElem?_eq_none_iff]
      omega
    · simp [hi]

section Causes
variable {started : Prop} {pending : Option (List Choice)} {options : List Choice} {a : Answer}

theorem outOfTurn_answer_iff (hs : started) :
    OutOfTurn started (some options) (some a) ↔ option? options a = none := by
  rw [option?_eq_none_iff]
  constructor
  · rintro (hn | hi)
    · exact absurd hs hn
    · exact hi
  · exact .inr

theorem unwritable_answer_iff :
    Unwritable (some options) (some a) ↔ option? options a = none ∧ a.shown = none := by
  rw [option?_eq_none_iff, and_comm]
  constructor
  · rintro ⟨_, _, ho, ha, h⟩
    obtain rfl := Option.some.inj ho
    obtain rfl := Option.some.inj ha
    exact h
  · exact fun h => ⟨options, a, rfl, rfl, h⟩

/-- An answer that cannot be written is out of turn all the same. -/
theorem outOfTurn_of_unwritable {answer : Option Answer} (h : Unwritable pending answer) :
    OutOfTurn started pending answer := by
  obtain ⟨options, a, rfl, rfl, -, hindex⟩ := h
  exact .inr hindex

theorem targetless_answer_iff :
    Targetless (some options) (some a) ↔ ∃ o, option? options a = some o ∧ o.target = none := by
  constructor
  · rintro ⟨_, _, o, i, ho, ha, hi, hget, ht⟩
    obtain rfl := Option.some.inj ho
    obtain rfl := Option.some.inj ha
    exact ⟨o, option?_eq_some_iff.mpr ⟨i, hi, hget⟩, ht⟩
  · rintro ⟨o, hopt, ht⟩
    obtain ⟨i, hi, hget⟩ := option?_eq_some_iff.mp hopt
    exact ⟨options, a, o, i, rfl, rfl, hi, hget, ht⟩

theorem not_outOfTurn_advance (hs : started) : ¬ OutOfTurn started none none := by
  rintro (hn | hf)
  · exact hn hs
  · exact hf

theorem not_targetless_advance : ¬ Targetless pending none := by
  rintro ⟨_, _, _, _, _, ha, _⟩
  simp at ha

theorem not_unwritable_advance : ¬ Unwritable pending none := by
  rintro ⟨_, _, _, ha, _⟩
  simp at ha

theorem not_targetless_of_none {answer : Option Answer} : ¬ Targetless none answer := by
  rintro ⟨_, _, _, _, ho, _⟩
  simp at ho

theorem not_unwritable_of_none {answer : Option Answer} : ¬ Unwritable none answer := by
  rintro ⟨_, _, ho, _⟩
  simp at ho

theorem fault_wrongAnswer (hs : started) (h : option? options a = none) (node : Option String) :
    Fault started (some options) (some a) (wrongAnswer node options.length a) := by
  have hnone : ¬ Targetless (some options) (some a) := by
    rw [targetless_answer_iff, h]
    simp
  unfold wrongAnswer
  cases hshown : a.shown with
  | none => exact .unwritable (unwritable_answer_iff.mpr ⟨h, hshown⟩) hnone
  | some shown =>
    refine .turn rfl ((outOfTurn_answer_iff hs).mpr h) ?_ hnone
    rw [unwritable_answer_iff, hshown]
    simp

end Causes

section Judged
variable {script : Script} {seed : List String} {s : State}
  (hP : Closed script (Present script)) (hc : Coherent script s)
  (h : Confined (Present script) seed s)
include hP hc h

theorem resolve_judged {started : Prop} (hs : started) {options : List Choice}
    (hp : s.pending = some options) (a : Answer) :
    Judged started (some options) (some a) (resolve script s a) := by
  rw [resolve_eq, hp]
  dsimp only
  cases hopt : option? options a with
  | none => exact fault_wrongAnswer hs hopt s.current
  | some o =>
    have hturn : ¬ OutOfTurn started (some options) (some a) := by
      rw [outOfTurn_answer_iff hs, hopt]
      simp
    dsimp only
    cases ht : o.target with
    | none => exact .target hturn (targetless_answer_iff.mpr ⟨o, hopt, ht⟩)
    | some title =>
      have htitle := h.option hP hc hp (mem_of_option?_eq_some hopt) ht
      obtain ⟨node, hnode⟩ := exists_node_of_present htitle
      dsimp only
      rw [goto_eq, hnode]
      refine ⟨hturn, ?_⟩
      rw [targetless_answer_iff, hopt]
      simp [ht]

theorem proceed_judged (answer : Option Answer) :
    Judged (s.phase ≠ .idle) s.pending answer (proceed script s answer) := by
  by_cases hchoice : s.phase = .choicePending
  · have hstarted : s.phase ≠ .idle := by
      rw [hchoice]
      decide
    obtain ⟨node, before, -, hp, -⟩ := hc.opened_choicePending hchoice
    rw [hp]
    cases answer with
    | none =>
      simp only [proceed, hchoice]
      exact .turn rfl (.inr trivial) not_unwritable_advance not_targetless_advance
    | some a =>
      have heq : proceed script s (some a) = resolve script s a := by simp only [proceed, hchoice]
      rw [heq]
      exact resolve_judged hP hc h hstarted hp a
  · rw [hc.pending_eq_none_iff.mpr hchoice]
    obtain ⟨next, hnext⟩ := hc.exists_navigate (unbroken_of_closed hP)
    cases hphase : s.phase <;> cases answer <;> simp only [proceed, hphase, hnext]
    case idle.none =>
      exact .turn rfl (.inl (by simp)) not_unwritable_of_none not_targetless_of_none
    case choicePending.none => exact absurd hphase hchoice
    case choicePending.some => exact absurd hphase hchoice
    case emitting.none | commandPending.none | ended.none =>
      exact ⟨not_outOfTurn_advance (by simp), not_targetless_of_none⟩
    all_goals exact .turn rfl (.inr trivial) not_unwritable_of_none not_targetless_of_none

theorem step_judged (answer : Option Answer) :
    Judged (s.phase ≠ .idle) s.pending answer (step script s answer) := by
  have hjudged := proceed_judged hP hc h answer
  unfold step
  cases hp : proceed script s answer with
  | error f =>
    rw [hp] at hjudged
    exact hjudged
  | ok t =>
    rw [hp] at hjudged
    obtain ⟨hturn, htarget⟩ := hjudged
    have hcoh := (hc.proceed (proceeds_of_proceed hp)).1
    dsimp only
    cases he : emit script t with
    | error f =>
      obtain ⟨node, rfl⟩ := exists_loop_of_emit_error (unbroken_of_closed hP) hcoh he
      exact .loop hturn htarget
    | ok u => exact ⟨hturn, htarget⟩

end Judged

def Outcome.FailsAs (o : Outcome) (k : Failure.Kind) : Prop :=
  ∃ f, o.result = .error (.session f) ∧ f.kind = k

namespace Turn

def OutOfTurn (started : Prop) (pending : Option (List Choice)) : Turn → Prop
  | .start _ => False
  | .advance => Session.OutOfTurn started pending none
  | .choose a => Session.OutOfTurn started pending (some a)

def Unwritable (pending : Option (List Choice)) : Turn → Prop
  | .choose a => Session.Unwritable pending (some a)
  | _ => False

def Targetless (pending : Option (List Choice)) : Turn → Prop
  | .choose a => Session.Targetless pending (some a)
  | _ => False

end Turn

theorem phase_of_leaves {script : Script} {s s' : State} (h : Leaves script s s') :
    s'.phase ≠ .idle := by
  cases h <;> simp

/-- A session that has taken a step is under way or over, and not before its start. -/
theorem phase_of_step {script : Script} {s s' : State} {answer : Option Answer} {e : Option Event}
    (h : step script s answer = .ok (s', e)) : s'.phase ≠ .idle := by
  obtain ⟨t, u, hp, hu, hshow⟩ := step_eq_ok h
  have ht : t.phase ≠ .idle := by
    cases proceeds_of_proceed hp with
    | resolve _ hr =>
      obtain ⟨_, _, _, _, _, _, _, _, rfl⟩ := resolve_eq_ok hr
      simp
    | navigate _ hn => exact phase_of_leaves (leaves_of_navigate hn)
    | stay hphase => rcases hphase with hphase | hphase <;> simp [hphase]
  have hrest := (settle_preserves (P := fun s => s.phase ≠ .idle)
    (fun _ _ _ _ hn => phase_of_leaves (leaves_of_navigate hn)) hu ht).1
  have hshown := shows_show? u
  rw [hshow] at hshown
  cases hshown with
  | line hphase => simp [hphase]
  | choice => simp
  | command => simp
  | nothing => exact hrest

section Host
variable {h : Host} {answer : Option Answer} {started : Prop}

theorem next_of_step_error {f : Failure} (hs : step h.script h.state answer = .error f) :
    (h.next answer).host = h ∧ (h.next answer).result = .error (.session f) := by
  unfold Host.next Host.maxNesting
  rw [Host.advance_succ, hs]
  exact ⟨rfl, rfl⟩

theorem next_of_step_ok (hh : h.handlers = []) {s : State} {e : Option Event}
    (hs : step h.script h.state answer = .ok (s, e)) :
    (h.next answer).host = { h with state := s } ∧ (h.next answer).result = .ok e := by
  unfold Host.next Host.maxNesting
  rw [Host.advance_succ, hs]
  dsimp only
  rw [Host.respond_of_no_handlers _ _ (h := { h with state := s }) hh]
  exact ⟨rfl, rfl⟩

/-- A start is all that takes a session out of its first phase. -/
theorem phase_of_turn (hh : h.handlers = []) {t : Turn} (ht : t.Allowed (Present h.script)) :
    (h.turn t).host.state.phase = .idle ↔ h.state.phase = .idle ∧ ∀ title, t ≠ .start title := by
  have hcall : ∀ answer, (h.next answer).host.state.phase = .idle ↔ h.state.phase = .idle := by
    intro answer
    cases hs : step h.script h.state answer with
    | error f => rw [(next_of_step_error hs).1]
    | ok r =>
      obtain ⟨s, e⟩ := r
      rw [(next_of_step_ok hh hs).1]
      have hidle : h.state.phase ≠ .idle := by
        intro hidle
        simp [step, proceed, hidle] at hs
      simp [phase_of_step hs, hidle]
  cases t with
  | start title =>
    obtain ⟨s, hs⟩ := exists_start_of_present ht h.state
    have hphase : s.phase ≠ .idle := by
      obtain ⟨node, -, rfl⟩ := start_eq_ok_iff.mp hs
      simp
    simp [Host.turn, Host.start, hs, hphase]
  | advance => simpa [Host.turn] using hcall none
  | choose a => simpa [Host.turn] using hcall (some a)

theorem phase_after (hh : h.handlers = []) {turns : List Turn}
    (ht : ∀ t ∈ turns, t.Allowed (Present h.script)) :
    (h.after turns).state.phase = .idle ↔
      h.state.phase = .idle ∧ ∀ title, .start title ∉ turns := by
  induction turns generalizing h with
  | nil => simp
  | cons t turns ih =>
    have hturn := phase_of_turn hh (ht t List.mem_cons_self)
    have hrest := ih (h := (h.turn t).host) (by rw [Host.turn_handlers, hh])
      (fun t' ht' => by
        rw [Host.turn_script]
        exact ht t' (List.mem_cons_of_mem t ht'))
    rw [Host.after_cons, hrest, hturn, and_assoc, ← forall_and]
    simp [not_or, eq_comm]

/-- A call out of turn and an option without a target are told by the kind of the failure, and so is
an answer that is wrong and cannot be written. Any other failure is a loop, and none changes the
host. -/
structure Accounted (o : Outcome) (h : Host) (turn unwritable target : Prop) : Prop where
  turn_iff : o.FailsAs .protocol ↔ turn ∧ ¬ unwritable
  unwritable_iff : o.result = .error (.session .unwritable) ↔ unwritable
  target_iff : o.FailsAs .reference ↔ target
  other : ∀ e, o.result = .error e → o.host = h ∧ ∃ f, e = .session f ∧
    (f.kind = .protocol ∨ f = .unwritable ∨ f.kind = .reference ∨ f.kind = .loop) ∧
    f ≠ .emptyTitle ∧ ∀ title, f ≠ .missingNode title

theorem accounted_of_ok {o : Outcome} {turn unwritable target : Prop} {e : Option Event}
    (hok : o.result = .ok e) (hturn : ¬ turn) (hwritable : ¬ unwritable) (htarget : ¬ target) :
    Accounted o h turn unwritable target := by
  refine ⟨?_, ?_, ?_, fun e he => ?_⟩
  · simp [Outcome.FailsAs, hok, hturn]
  · simp [hok, hwritable]
  · simp [Outcome.FailsAs, hok, htarget]
  · simp [hok] at he

theorem accounted_of_fault {o : Outcome} {pending : Option (List Choice)} {f : Failure}
    (hhost : o.host = h) (herror : o.result = .error (.session f))
    (hf : Fault started pending answer f) :
    Accounted o h (OutOfTurn started pending answer) (Unwritable pending answer)
      (Targetless pending answer) := by
  have hkind : ∀ k, o.FailsAs k ↔ f.kind = k := by
    intro k
    simp [Outcome.FailsAs, herror]
  have hfailure : o.result = .error (.session .unwritable) ↔ f = .unwritable := by simp [herror]
  have hother : ∀ e, o.result = .error e → e = .session f := by
    intro e he
    exact Except.error.inj (he.symm.trans herror)
  have hwritable (hturn : ¬ OutOfTurn started pending answer) : ¬ Unwritable pending answer :=
    mt outOfTurn_of_unwritable hturn
  cases hf with
  | turn hk hturn hwritable htarget =>
    have hne : f ≠ .unwritable := by
      rintro rfl
      simp [Failure.kind] at hk
    refine ⟨by simp [hkind, hk, hturn, hwritable], by simp [hfailure, hne, hwritable],
      by simp [hkind, hk, htarget], fun e he => ⟨hhost, f, hother e he, .inl hk, ?_, ?_⟩⟩
    · rintro rfl
      simp [Failure.kind] at hk
    · rintro title rfl
      simp [Failure.kind] at hk
  | unwritable h htarget =>
    refine ⟨by simp [hkind, Failure.kind, h], by simp [hfailure, h],
      by simp [hkind, Failure.kind, htarget], fun e he => ?_⟩
    exact ⟨hhost, _, hother e he, .inr (.inl rfl), by simp, by simp⟩
  | target hturn htarget =>
    refine ⟨by simp [hkind, Failure.kind, hturn], by simp [hfailure, hwritable hturn],
      by simp [hkind, Failure.kind, htarget], fun e he => ?_⟩
    exact ⟨hhost, _, hother e he, .inr (.inr (.inl rfl)), by simp, by simp⟩
  | loop hturn htarget =>
    refine ⟨by simp [hkind, Failure.kind, hturn], by simp [hfailure, hwritable hturn],
      by simp [hkind, Failure.kind, htarget], fun e he => ?_⟩
    exact ⟨hhost, _, hother e he, .inr (.inr (.inr rfl)), by simp, by simp⟩

theorem accounted_of_judged (hh : h.handlers = [])
    (hj : Judged started h.state.pending answer (step h.script h.state answer)) :
    Accounted (h.next answer) h (OutOfTurn started h.state.pending answer)
      (Unwritable h.state.pending answer) (Targetless h.state.pending answer) := by
  cases hs : step h.script h.state answer with
  | ok r =>
    obtain ⟨s, e⟩ := r
    rw [hs] at hj
    exact accounted_of_ok (next_of_step_ok hh hs).2 hj.1 (mt outOfTurn_of_unwritable hj.1) hj.2
  | error f =>
    rw [hs] at hj
    obtain ⟨hhost, herror⟩ := next_of_step_error hs
    exact accounted_of_fault hhost herror hj

theorem accounted_start {title : String} (ht : Present h.script title) :
    Accounted (h.turn (.start title)) h False False False := by
  obtain ⟨s, hs⟩ := exists_start_of_present ht h.state
  have hok : (h.turn (.start title)).result = .ok none := by simp [Host.turn, Host.start, hs]
  exact accounted_of_ok hok id id id

end Host

/-- In a script without dangling links, a session started at present titles fails out of turn, at an
option without a target or in a loop, for these causes only, and a failed call changes nothing. A
wrong answer has to be written to be told of, and where it cannot be, the call fails for that. -/
theorem turn_accounted {script : Script} {start : Option String} {terminating : List String}
    (hd : (report script start terminating).dangling = []) {seed : List String} {h : Host}
    (hh : Host.create script [] seed = .ok h) {turns : List Turn}
    (hturns : ∀ t ∈ turns, t.Allowed (Present script)) {t : Turn}
    (ht : t.Allowed (Present script)) :
    Accounted ((h.after turns).turn t) (h.after turns)
      (t.OutOfTurn (∃ title, .start title ∈ turns) (h.after turns).state.pending)
      (t.Unwritable (h.after turns).state.pending)
      (t.Targetless (h.after turns).state.pending) := by
  have hcreate := Host.create_eq_ok hh
  obtain rfl : h.script = script := congrArg Host.script hcreate
  have hhandlers : h.handlers = [] := congrArg Host.handlers hcreate
  have hstate : h.state = { visited := seed.foldl visit [] } := congrArg Host.state hcreate
  have hmoment := Host.after_moment hturns (.here (s := h.state))
  rw [hstate] at hmoment
  have hclosed := closed_present hd
  obtain ⟨hcoh, hconf⟩ := hmoment.of_fresh hclosed fun _ => id
  have hstarted : (h.after turns).state.phase ≠ .idle ↔ ∃ title, .start title ∈ turns := by
    rw [not_iff_comm, phase_after hhandlers hturns, hstate]
    simp
  have hcall : ∀ answer, Accounted ((h.after turns).next answer) (h.after turns)
      (OutOfTurn (∃ title, .start title ∈ turns) (h.after turns).state.pending answer)
      (Unwritable (h.after turns).state.pending answer)
      (Targetless (h.after turns).state.pending answer) := by
    intro answer
    refine accounted_of_judged (by rw [Host.after_handlers, hhandlers]) ?_
    rw [← hstarted, Host.after_script]
    exact step_judged hclosed hcoh hconf answer
  cases t with
  | start title =>
    refine accounted_start ?_
    rw [Host.after_script]
    exact ht
  | advance =>
    have hcalled := hcall none
    rwa [iff_false_intro not_targetless_advance, iff_false_intro not_unwritable_advance] at hcalled
  | choose a => exact hcall (some a)

/-- A node with an option that has no link below it, and one that has. -/
private def corner : Script where
  nodes := [{ title := "Corner", body := ["Stuck.", "-> Go on", "-> Stay", "<<jump Corner>>"] }]

private def cornered : Host :=
  Host.after ⟨corner, [], {}⟩ [.start "Corner", .advance, .advance]

private def cornerOptions : List Choice :=
  [⟨"Go on", none, false, false⟩, ⟨"Stay", some "Corner", false, false⟩]

private theorem cornered_pending : cornered.state.pending = some cornerOptions := by decide +kernel

private theorem create_corner :
    (report corner (some "Corner") []).dangling = [] ∧
    Host.create corner [] [] = .ok ⟨corner, [], {}⟩ :=
  ⟨by decide +kernel, Host.create_without_handlers corner []⟩

private theorem cornered_long {n : Nat} (h : 10 ^ Text.maxIntegerDigits ≤ n) :
    (cornered.turn (.choose (.ofInt n))).result = .error (.session .unwritable) := by
  have hphase : cornered.state.phase = .choicePending := by decide +kernel
  have hshown : (Answer.ofInt n).shown = none :=
    Text.integerText?_eq_none_iff.mpr (by rwa [Int.natAbs_natCast])
  have hmany : cornerOptions.length ≤ n :=
    ((by decide : 2 ≤ 10).trans (Nat.le_self_pow (by decide) 10)).trans h
  have hnone : option? cornerOptions (.ofInt n) = none := by
    rw [option?_ofInt]
    exact List.getElem?_eq_none hmany
  have hstep : step cornered.script cornered.state (some (.ofInt n)) = .error .unwritable := by
    simp only [step, proceed, hphase, resolve_eq, cornered_pending, hnone, wrongAnswer, hshown]
  exact (next_of_step_error hstep).2

/-- Two answers to the choice there that break the rule for indices: an integer that is too long to
be written is not told of as a wrong index, and a truth value is taken for an index. -/
theorem answers_beyond_indices :
    (report corner (some "Corner") []).dangling = [] ∧
    Host.create corner [] [] = .ok ⟨corner, [], {}⟩ ∧
    (cornered.turn (.choose (.ofInt (10 ^ Text.maxIntegerDigits : Nat)))).result =
      .error (.session .unwritable) ∧
    ∃ e, (cornered.turn (.choose (.ofBool true))).result = .ok e := by
  refine ⟨create_corner.1, create_corner.2, cornered_long le_rfl, ?_⟩
  have hstay : (cornered.turn (.choose (.ofBool true))).result.toBool = true := by decide +kernel
  cases hresult : (cornered.turn (.choose (.ofBool true))).result with
  | error f => simp [hresult, Except.toBool] at hstay
  | ok e => exact ⟨e, rfl⟩

/-- Of the indices there the first is of an option that leads nowhere, and the third is of none. -/
theorem turn_accounted_corner :
    (report corner (some "Corner") []).dangling = [] ∧
    Host.create corner [] [] = .ok ⟨corner, [], {}⟩ ∧
    (cornered.turn (.choose (.ofInt 0))).FailsAs .reference ∧
    (cornered.turn (.choose (.ofInt 2))).FailsAs .protocol := by
  obtain ⟨hd, hh⟩ := create_corner
  have hturns : ∀ t ∈ [Turn.start "Corner", .advance, .advance], t.Allowed (Present corner) := by
    intro t ht
    rcases List.mem_cons.mp ht with rfl | ht
    · exact ⟨by decide, by decide +kernel⟩
    · obtain rfl : t = .advance := by simpa using ht
      trivial
  refine ⟨hd, hh, ?_, ?_⟩
  · refine (turn_accounted (t := .choose (.ofInt 0)) hd hh hturns trivial).target_iff.mpr ?_
    exact ⟨_, _, _, 0, cornered_pending, rfl, rfl, rfl, rfl⟩
  · have hstarted : ∃ title, Turn.start title ∈ [Turn.start "Corner", .advance, .advance] :=
      ⟨"Corner", List.mem_cons_self⟩
    have hnone : option? cornerOptions (.ofInt 2) = none := rfl
    have hturn := (outOfTurn_answer_iff hstarted).mpr hnone
    have hwritable : ¬ Unwritable (some cornerOptions) (some (.ofInt 2)) := by
      rw [unwritable_answer_iff]
      decide +kernel
    rw [← cornered_pending] at hturn hwritable
    exact (turn_accounted (t := .choose (.ofInt 2)) hd hh hturns trivial).turn_iff.mpr
      ⟨hturn, hwritable⟩

end Dialogue.Session
