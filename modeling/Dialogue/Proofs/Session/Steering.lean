import Dialogue.Proofs.Session.Abreast
import Dialogue.Proofs.Session.Faults

/-! Steering: sessions whose visited titles agree on those that gates name go the same way, whatever
else was visited. -/
namespace Dialogue.Session

def Call.unmark : Call → Call
  | .handled name args => .handled name args
  | .nested event => .nested (event.map Event.unmark)

def HostFailure.unplace : HostFailure → HostFailure
  | .session f => .session f.unplace
  | f => f

/-- What a call returns, up to marks and to where a loop is found. -/
def Outcome.flow (o : Outcome) : Except HostFailure (Option Event) :=
  (o.result.map (·.map Event.unmark)).mapError HostFailure.unplace

theorem Outcome.failsAs_iff (o : Outcome) (k : Failure.Kind) :
    o.FailsAs k ↔ ∃ f, o.flow = .error (.session f) ∧ f.kind = k := by
  unfold FailsAs flow
  cases o.result with
  | ok e => simp [Except.map, Except.mapError]
  | error f =>
    cases f with
    | session f =>
      simp only [Except.map, Except.mapError, HostFailure.unplace, Except.error.injEq,
        HostFailure.session.injEq]
      constructor
      · rintro ⟨_, rfl, hk⟩
        exact ⟨_, rfl, f.kind_unplace.trans hk⟩
      · rintro ⟨_, rfl, hk⟩
        exact ⟨f, rfl, f.kind_unplace.symm.trans hk⟩
    | handler name => simp [Except.map, Except.mapError, HostFailure.unplace]
    | nesting => simp [Except.map, Except.mapError, HostFailure.unplace]

/-- Hosts of one script with the same handlers, in states abreast. -/
structure Host.Abreast (h h' : Host) : Prop where
  script : h.script = h'.script
  handlers : h.handlers = h'.handlers
  state : Session.Abreast h.script h.state h'.state
  coherent : Coherent h.script h.state
  coherent' : Coherent h'.script h'.state

/-- Outcomes that have their results and calls in common, up to marks and to where a loop is found.
-/
structure Outcome.Abreast (o o' : Outcome) : Prop where
  result : o.flow = o'.flow
  calls : o.calls.map Call.unmark = o'.calls.map Call.unmark
  host : o.host.Abreast o'.host

/-- Hosts that no turns tell apart, up to marks and to where a loop is found. -/
def Host.Indistinct (h h' : Host) : Prop :=
  ∀ turns t, ((h.after turns).turn t).Abreast ((h'.after turns).turn t) ∧
    ∀ k, ((h.after turns).turn t).FailsAs k ↔ ((h'.after turns).turn t).FailsAs k

namespace Outcome
variable {o o' : Outcome}

/-- Outcomes that return events alike up to marks. -/
theorem abreast_of_ok {h h' : Host} (hh : h.Abreast h') {e e' : Option Event}
    (he : e.map Event.unmark = e'.map Event.unmark) {calls calls' : List Call}
    (hcalls : calls.map Call.unmark = calls'.map Call.unmark) (log log' : List LogRecord) :
    Abreast { host := h, calls, log, result := .ok e }
      { host := h', calls := calls', log := log', result := .ok e' } where
  result := congrArg Except.ok he
  calls := hcalls
  host := hh

theorem Abreast.failsAs_iff (h : o.Abreast o') (k : Failure.Kind) :
    o.FailsAs k ↔ o'.FailsAs k := by
  rw [o.failsAs_iff, o'.failsAs_iff, h.result]

theorem Abreast.exists_ok (h : o.Abreast o') {e : Option Event} (ho : o.result = .ok e) :
    ∃ e', o'.result = .ok e' ∧ e.map Event.unmark = e'.map Event.unmark := by
  have hflow := h.result
  unfold flow at hflow
  rw [ho] at hflow
  cases hr : o'.result with
  | ok e' =>
    rw [hr] at hflow
    exact ⟨e', rfl, Except.ok.inj hflow⟩
  | error f => simp [hr, Except.map, Except.mapError] at hflow

theorem Abreast.exists_error (h : o.Abreast o') {f : HostFailure} (ho : o.result = .error f) :
    ∃ f', o'.result = .error f' ∧ f.unplace = f'.unplace := by
  have hflow := h.result
  unfold flow at hflow
  rw [ho] at hflow
  cases hr : o'.result with
  | ok e => simp [hr, Except.map, Except.mapError] at hflow
  | error f' =>
    rw [hr] at hflow
    exact ⟨f', rfl, Except.error.inj hflow⟩

end Outcome

theorem exists_command_of_unmark {k : Command} {c : Compiled} {e : Option Event}
    (h : (some (Event.command k c)).map Event.unmark = e.map Event.unmark) :
    ∃ c', e = some (.command k c') := by
  obtain ⟨e, rfl, he⟩ := Option.map_eq_some_iff.mp h.symm
  cases e with
  | command k' c' =>
    obtain ⟨rfl, -⟩ := Event.command.inj he
    exact ⟨c', rfl⟩
  | line => simp [Event.unmark] at he
  | choice => simp [Event.unmark] at he

namespace Host
variable {h h' : Host}

theorem respond_of_no_command (again : Host → Outcome) (log : List LogRecord) (h : Host)
    {e : Option Event} (he : ∀ k c, e ≠ some (.command k c)) :
    respond again log h e = { host := h, log, result := .ok e } := by
  unfold respond
  split
  · exact absurd rfl (he _ _)
  · rfl

theorem Abreast.respond (ha : Abreast h h') {again again' : Host → Outcome}
    (hagain : (again h).Abreast (again' h')) (log log' : List LogRecord) {e e' : Option Event}
    (he : e.map Event.unmark = e'.map Event.unmark) :
    (respond again log h e).Abreast (respond again' log' h' e') := by
  by_cases hcommand : ∃ k c, e = some (.command k c)
  · obtain ⟨k, c, rfl⟩ := hcommand
    obtain ⟨c', rfl⟩ := exists_command_of_unmark he
    unfold Host.respond
    dsimp only
    rw [← ha.handlers]
    cases h.handlers.get? k.name with
    | none => exact Outcome.abreast_of_ok ha he rfl _ _
    | some handler =>
      cases handler with
      | record => exact Outcome.abreast_of_ok ha he rfl _ _
      | fail => exact ⟨rfl, rfl, ha⟩
      | advance =>
        have hcalls := hagain.calls
        dsimp only
        cases hr : (again h).result with
        | error f =>
          obtain ⟨f', hr', hf⟩ := hagain.exists_error hr
          rw [hr']
          exact ⟨congrArg Except.error hf, by simp [hcalls], hagain.host⟩
        | ok inner =>
          obtain ⟨inner', hr', hinner⟩ := hagain.exists_ok hr
          rw [hr']
          exact Outcome.abreast_of_ok hagain.host he (by simp [hcalls, Call.unmark, hinner]) _ _
  · have hplain : ∀ k c, e ≠ some (.command k c) := fun k c hk => hcommand ⟨k, c, hk⟩
    have hplain' : ∀ k c, e' ≠ some (.command k c) := by
      rintro k c rfl
      obtain ⟨c', hc'⟩ := exists_command_of_unmark he.symm
      exact hplain k c' hc'
    rw [respond_of_no_command _ _ _ hplain, respond_of_no_command _ _ _ hplain']
    exact Outcome.abreast_of_ok ha he rfl _ _

theorem Abreast.fails (ha : Abreast h h') {f f' : Failure} (hf : f.unplace = f'.unplace)
    (log log' : List LogRecord) :
    Outcome.Abreast { host := h, log, result := .error (.session f) }
      { host := h', log := log', result := .error (.session f') } where
  result := congrArg (fun f => Except.error (HostFailure.session f)) hf
  calls := rfl
  host := ha

theorem Abreast.advance (ha : Abreast h h') (depth : Nat) (answer : Option Answer) :
    (advance depth h answer).Abreast (advance depth h' answer) := by
  induction depth generalizing h h' answer with
  | zero => exact ⟨rfl, rfl, ha⟩
  | succ depth ih =>
    have hpair : Paired (ShownAbreast h.script) (step h.script h.state answer)
        (step h'.script h'.state answer) := by
      rw [← ha.script]
      exact step_paired ha.state ha.coherent (ha.script ▸ ha.coherent') answer
    rw [advance_succ, advance_succ]
    generalize hr : step h.script h.state answer = r, hr' : step h'.script h'.state answer = r'
      at hpair
    cases hpair with
    | error hf => exact ha.fails hf _ _
    | @ok a b hab =>
      obtain ⟨s, e⟩ := a
      obtain ⟨s', e'⟩ := b
      have hnext : Abreast { h with state := s } { h' with state := s' } :=
        { ha with
          state := hab.1
          coherent := ha.coherent.step hr
          coherent' := ha.coherent'.step hr' }
      exact hnext.respond (ih hnext none) _ _ hab.2

theorem Abreast.turn (ha : Abreast h h') (t : Turn) : (h.turn t).Abreast (h'.turn t) := by
  cases t with
  | start title =>
    have hpair : Paired (Session.Abreast h.script) (Session.start h.script h.state title)
        (Session.start h'.script h'.state title) := by
      rw [← ha.script]
      exact start_paired ha.state title
    simp only [Host.turn, Host.start]
    generalize hr : Session.start h.script h.state title = r,
      hr' : Session.start h'.script h'.state title = r' at hpair
    cases hpair with
    | error hf => exact ha.fails hf _ _
    | @ok s s' hab =>
      have hnext : Abreast { h with state := s } { h' with state := s' } :=
        { ha with
          state := hab
          coherent := coherent_start hr
          coherent' := coherent_start hr' }
      exact Outcome.abreast_of_ok hnext rfl rfl _ _
  | advance => exact ha.advance _ none
  | choose a => exact ha.advance _ (some a)

theorem Abreast.after (ha : Abreast h h') (turns : List Turn) :
    Abreast (h.after turns) (h'.after turns) := by
  induction turns generalizing h h' with
  | nil => exact ha
  | cons t turns ih => exact ih (ha.turn t).host

theorem Abreast.indistinct (ha : Abreast h h') : Indistinct h h' := fun turns t =>
  have hturn := (ha.after turns).turn t
  ⟨hturn, hturn.failsAs_iff⟩

end Host

/-- Only gated titles steer a dialogue: sessions whose seeds agree on them go through the same turns
to the same results, and without gates so do sessions of any two seeds. -/
theorem steered_by_gated_titles {script : Script} {handlers : Table Handler} {seed : List String}
    {h : Host} (hh : Host.create script handlers seed = .ok h) (seed' : List String) :
    ∃ h', Host.create script handlers seed' = .ok h' ∧
      ((∀ t ∈ script.gatedTitles, (t ∈ seed ↔ t ∈ seed')) → h.Indistinct h') ∧
      (script.gatedTitles = [] → h.Indistinct h') := by
  have hcreate := Host.create_congr hh script seed'
  obtain rfl := Host.create_eq_ok hh
  have hagree : (∀ t ∈ script.gatedTitles, (t ∈ seed ↔ t ∈ seed')) → Host.Indistinct
      ⟨script, handlers, { visited := seed.foldl visit [] }⟩
      ⟨script, handlers, { visited := seed'.foldl visit [] }⟩ := by
    intro hseed
    refine Host.Abreast.indistinct ⟨rfl, rfl, ⟨rfl, fun t ht => ?_⟩, .idle rfl, .idle rfl⟩
    simpa [Host.mem_foldl_visit] using hseed t ht
  exact ⟨_, hcreate, hagree, fun hnone => hagree (by simp [hnone])⟩

/-- Two nodes that jump to each other, one with a line behind a gate. -/
private def circle : Script where
  nodes := [
    { title := "Gate", body := ["{Key} It opens.", "<<jump Path>>"] },
    { title := "Path", body := ["<<jump Gate>>"] }]

/-- Whether both nodes were visited before decides where the loop is found, and not whether. -/
theorem steered_circle :
    Host.create circle [] [] = .ok ⟨circle, [], {}⟩ ∧ circle.gatedTitles = ["Key"] ∧
    (Host.turn (Host.after ⟨circle, [], {}⟩ [.start "Gate"]) .advance).result =
      .error (.session (.loop (some "Path"))) ∧
    ∃ h', Host.create circle [] ["Gate", "Path"] = .ok h' ∧
      ((h'.after [.start "Gate"]).turn .advance).FailsAs .loop ∧
      ((h'.after [.start "Gate"]).turn .advance).result =
        .error (.session (.loop (some "Gate"))) := by
  have hh : Host.create circle [] [] = .ok ⟨circle, [], {}⟩ :=
    Host.create_without_handlers circle []
  have hgates : circle.gatedTitles = ["Key"] := by decide +kernel
  have hloop : (Host.turn (Host.after ⟨circle, [], {}⟩ [.start "Gate"]) .advance).result =
      .error (.session (.loop (some "Path"))) := by decide +kernel
  obtain ⟨h', hh', hagree, -⟩ := steered_by_gated_titles hh ["Gate", "Path"]
  have hsame := (hagree (by simp [hgates]) [.start "Gate"] .advance).2 .loop
  refine ⟨hh, hgates, hloop, h', hh', hsame.mp ⟨_, hloop, rfl⟩, ?_⟩
  obtain rfl := Host.create_eq_ok hh'
  decide +kernel

end Dialogue.Session
