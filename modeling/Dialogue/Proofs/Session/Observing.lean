import Dialogue.Proofs.Session.Turns
import Dialogue.Proofs.Table

/-! Observing handlers: they note what the session shows, or fail, and the session goes on as if
there were none. -/
namespace Dialogue.Session

/-- Handlers of which none makes a step of its own. -/
def Observing (handlers : Table Handler) : Prop :=
  ∀ name, handlers.get? name ≠ some .advance

/-- The command that an event shows, with its handler. -/
def handled? (handlers : Table Handler) : Option Event → Option (Command × Handler)
  | some (.command c _) => (handlers.get? c.name).map (c, ·)
  | _ => none

theorem command_of_handled {handlers : Table Handler} {event : Option Event} {c : Command}
    {kind : Handler} (h : handled? handlers event = some (c, kind)) :
    ∃ node, event = some (.command c node) := by
  unfold handled? at h
  split at h
  · obtain ⟨_, -, hc⟩ := Option.map_eq_some_iff.mp h
    cases hc
    exact ⟨_, rfl⟩
  · cases h

/-- A command has been shown, and the next step begins with leaving its node. -/
structure Past (script : Script) (s : State) (c : Command) : Prop where
  phase : s.phase = .commandPending
  command : s.content.bind (·.command) = some c
  step : step script s none = (navigate script s).bind (emit script)
  leaves : ∀ s', navigate script s = .ok s' → Leaves script s s'

/-- What comes of a turn under handlers, beside what comes of it without any. -/
structure Observed (script : Script) (handlers : Table Handler) (plain o : Outcome) : Prop where
  state : o.host.state = plain.host.state
  /-- No handler is called but for the command that is shown. -/
  quiet : (∀ event, plain.result = .ok event → handled? handlers event = none) →
    o.calls = [] ∧ o.result = plain.result
  called : ∀ event c kind, plain.result = .ok event → handled? handlers event = some (c, kind) →
    o.calls = [.handled c.name c.args] ∧ Past script o.host.state c ∧
    o.result = if kind = .fail then .error (.handler c.name) else plain.result

theorem step_of_commandPending {script : Script} {s : State} (h : s.phase = .commandPending) :
    step script s none = (navigate script s).bind (emit script) := by
  unfold step proceed
  rw [h]
  cases navigate script s <;> rfl

theorem past_of_step {script : Script} {s s' : State} {answer : Option Answer} {c : Command}
    {node : Compiled} (h : step script s answer = .ok (s', some (.command c node))) :
    Past script s' c := by
  obtain ⟨_, u, -, -, hshow⟩ := step_eq_ok h
  have hshows := shows_show? u
  rw [hshow] at hshows
  cases hshows with
  | command _ hc _ _ hk =>
    have hcommand : u.content.bind (·.command) = some c := by
      rw [hc]
      exact hk
    exact ⟨rfl, hcommand, step_of_commandPending rfl, fun _ => leaves_of_navigate⟩

namespace Host

/-- The host without its handlers. -/
def plain (h : Host) : Host := { h with handlers := [] }

/-- A turn in which the handlers are as given. -/
def turnWith (h : Host) (handlers : Table Handler) (t : Turn) : Outcome :=
  turn { h with handlers } t

/-- The host after some turns, with handlers that can be others at every turn. -/
def afterWith (h : Host) (turns : List (Table Handler × Turn)) : Host :=
  turns.foldl (fun h (handlers, t) => (h.turnWith handlers t).host) h

variable {h : Host}

/-- What observing handlers do with an event: nothing, or one call, which can fail. -/
theorem respond_of_observing (hobs : Observing h.handlers) (again : Host → Outcome)
    (log : List LogRecord) (event : Option Event) :
    let o := respond again log h event
    o.host = h ∧
    (handled? h.handlers event = none → o.calls = [] ∧ o.result = .ok event) ∧
    ∀ c kind, handled? h.handlers event = some (c, kind) →
      o.calls = [.handled c.name c.args] ∧
      o.result = if kind = .fail then .error (.handler c.name) else .ok event := by
  cases event with
  | none => exact ⟨rfl, fun _ => ⟨rfl, rfl⟩, fun _ _ hnone => by cases hnone⟩
  | some e =>
    cases e with
    | line | choice => exact ⟨rfl, fun _ => ⟨rfl, rfl⟩, fun _ _ hnone => by cases hnone⟩
    | command c node =>
      unfold respond handled?
      dsimp only
      cases hget : h.handlers.get? c.name with
      | none => simp
      | some kind =>
        cases kind with
        | record => simp
        | fail => simp
        | advance => exact absurd hget (hobs c.name)

/-- A step under observing handlers beside the same step without any. -/
theorem next_observed (hobs : Observing h.handlers) (answer : Option Answer) :
    Observed h.script h.handlers (h.plain.next answer) (h.next answer) := by
  have hroom : maxNesting = maxNesting - 1 + 1 := rfl
  rw [next, next, hroom, advance_succ, advance_succ, plain]
  dsimp only
  cases hstep : step h.script h.state answer with
  | error f => exact ⟨rfl, fun _ => ⟨rfl, rfl⟩, fun _ _ _ hok => by cases hok⟩
  | ok r =>
    obtain ⟨s, event⟩ := r
    dsimp only
    rw [respond_of_no_handlers _ _ (h := ⟨h.script, [], s⟩) rfl]
    obtain ⟨hhost, hquiet, hcalled⟩ := respond_of_observing (h := { h with state := s }) hobs
      (advance (maxNesting - 1) · none) (stepLog h.script h.state answer) event
    refine ⟨by rw [hhost], fun hnone => hquiet (hnone event rfl), ?_⟩
    intro event' c kind hevent hhandled
    obtain rfl := Except.ok.inj hevent
    obtain ⟨hcalls, hresult⟩ := hcalled c kind hhandled
    refine ⟨hcalls, ?_, hresult⟩
    obtain ⟨node, rfl⟩ := command_of_handled hhandled
    rw [hhost]
    exact past_of_step hstep

theorem turn_observed (hobs : Observing h.handlers) (t : Turn) :
    Observed h.script h.handlers (h.plain.turn t) (h.turn t) := by
  cases t with
  | advance => exact next_observed hobs none
  | choose a => exact next_observed hobs (some a)
  | start title =>
    simp only [turn, start, plain]
    cases Session.start h.script h.state title with
    | error f => exact ⟨rfl, fun _ => ⟨rfl, rfl⟩, fun _ _ _ hok => by cases hok⟩
    | ok s =>
      refine ⟨rfl, fun _ => ⟨rfl, rfl⟩, fun event c kind hok hhandled => ?_⟩
      obtain rfl := Except.ok.inj hok
      cases hhandled

/-- Step by step the host is the one without handlers, but for the handlers. -/
theorem plain_afterWith {turns : List (Table Handler × Turn)}
    (hobs : ∀ p ∈ turns, Observing p.1) :
    (h.afterWith turns).plain = h.plain.after (turns.map (·.2)) := by
  induction turns generalizing h with
  | nil => rfl
  | cons p turns ih =>
    obtain ⟨handlers, t⟩ := p
    have hobserved := turn_observed (h := { h with handlers }) (hobs _ List.mem_cons_self) t
    have hnext : (h.turnWith handlers t).host.plain = (h.plain.turn t).host := by
      have hhost := turn_host { h with handlers } t
      have hhost' := turn_host h.plain t
      rw [turnWith, hhost, hhost', hobserved.state]
      rfl
    rw [List.map_cons, after_cons, ← hnext, ← ih fun p hp => hobs p (List.mem_cons_of_mem _ hp)]
    rfl

/-- A host whose handlers stay as they are. -/
theorem afterWith_handlers (h : Host) (turns : List Turn) :
    h.afterWith (turns.map (h.handlers, ·)) = h.after turns := by
  induction turns generalizing h with
  | nil => rfl
  | cons t turns ih =>
    have hnext := ih (h.turn t).host
    rw [turn_handlers] at hnext
    exact hnext

theorem turnWith_observed {turns : List (Table Handler × Turn)}
    (hobs : ∀ p ∈ turns, Observing p.1) {now : Table Handler} (hnow : Observing now) (t : Turn) :
    Observed h.script now ((h.plain.after (turns.map (·.2))).turn t)
      ((h.afterWith turns).turnWith now t) := by
  have hplain := plain_afterWith (h := h) hobs
  have hscript : (h.afterWith turns).script = h.script := by
    have hscripts := congrArg Host.script hplain
    rw [after_script] at hscripts
    exact hscripts
  rw [← hplain, ← hscript]
  exact turn_observed (h := { h.afterWith turns with handlers := now }) hnow t

theorem after_observed (hobs : Observing h.handlers) (turns : List Turn) (t : Turn) :
    Observed h.script h.handlers ((h.plain.after turns).turn t) ((h.after turns).turn t) := by
  have hall : ∀ p ∈ turns.map (h.handlers, ·), Observing p.1 := by
    simpa using fun _ _ => hobs
  have hobserved := turnWith_observed (h := h) hall hobs t
  have hturns : (turns.map (h.handlers, ·)).map (·.2) = turns := by
    rw [List.map_map]
    exact List.map_id turns
  have hkept : { h.after turns with handlers := h.handlers } = h.after turns := by
    rw [after_host]
  rw [hturns, afterWith_handlers, turnWith, hkept] at hobserved
  exact hobserved

/-- Handlers that only note their calls or fail observe a session and do not steer it. Whatever a
user calls, each turn leaves the state that it leaves without handlers; the calls in it are one for
a command that it shows and that has a handler, and else none; and it gives the result that it
gives without handlers unless the handler fails. The turn after a command begins behind it. The
handlers may be others at every turn, and so may fail at some calls only. -/
theorem handlers_observe {script : Script} {handlers : Table Handler} {seed : List String}
    {h : Host} (hh : create script handlers seed = .ok h) :
    ∃ bare, create script [] seed = .ok bare ∧
    (Observing handlers → ∀ turns t,
      Observed script handlers ((bare.after turns).turn t) ((h.after turns).turn t)) ∧
    ∀ turns : List (Table Handler × Turn), (∀ p ∈ turns, Observing p.1) →
      ∀ now, Observing now → ∀ t, Observed script now
        ((bare.after (turns.map (·.2))).turn t) ((h.afterWith turns).turnWith now t) := by
  obtain rfl := create_eq_ok hh
  refine ⟨_, create_without_handlers script seed, fun hobs turns t => ?_,
    fun turns hturns now hnow t => ?_⟩
  · exact after_observed (h := ⟨script, handlers, _⟩) hobs turns t
  · exact turnWith_observed (h := ⟨script, handlers, _⟩) hturns hnow t

private def vaultDoor : Script where
  nodes := [⟨"Door", [], ["<<loadPuzzle lock>>", "<<jump Inside>>"], 1, 3⟩,
    ⟨"Inside", [], ["Guard: Halt!"], 6, 8⟩]

/-- The handler of the puzzle fails, and still the guard is met behind the door. -/
theorem handlers_observe_door : ∃ h bare : Host,
    create vaultDoor [("loadPuzzle", .fail)] [] = .ok h ∧ create vaultDoor [] [] = .ok bare ∧
    Observing [("loadPuzzle", .fail)] ∧
    (∀ turns t, Observed vaultDoor [("loadPuzzle", .fail)] ((bare.after turns).turn t)
      ((h.after turns).turn t)) ∧
    ((h.after [.start "Door"]).turn .advance).calls = [.handled "loadPuzzle" ["lock"]] ∧
    ((h.after [.start "Door"]).turn .advance).result = .error (.handler "loadPuzzle") ∧
    ((h.after [.start "Door", .advance]).turn .advance).calls = [] ∧
    (((h.after [.start "Door", .advance]).turn .advance).host.state.activeSpeaker) =
      some "Guard" := by
  have hcreate : create vaultDoor [("loadPuzzle", .fail)] [] =
      .ok ⟨vaultDoor, [("loadPuzzle", .fail)], {}⟩ := by
    simp [create, Table.keys, commandNames]
  have hobserving : Observing [("loadPuzzle", .fail)] := by
    intro name
    rw [Table.get?_cons]
    split <;> simp [Table.get?]
  obtain ⟨bare, hbare, hfixed, -⟩ := handlers_observe hcreate
  exact ⟨_, bare, hcreate, hbare, hobserving, hfixed hobserving, by rfl, by rfl, by rfl, by rfl⟩

end Host
end Dialogue.Session
