import Dialogue.Session.Host
import Dialogue.Proofs.Session.Confinement

/-! Turns of a host: what its user calls, in any order and number. -/
namespace Dialogue.Session

/-- A call on behalf of the user. -/
inductive Turn where
  | start (title : String)
  | advance
  | choose (a : Answer)
  deriving DecidableEq, Repr

/-- A turn that starts the session at an allowed title, if it starts it at all. -/
def Turn.Allowed (allowed : String → Prop) : Turn → Prop
  | .start title => allowed title
  | _ => True

/-- What two outcomes of different hosts have in common when no user can tell them apart. -/
structure Outcome.Same (o o' : Outcome) : Prop where
  result : o'.result = o.result
  calls : o'.calls = o.calls
  state : o'.host.state = o.host.state

namespace Host

def turn (h : Host) : Turn → Outcome
  | .start title => h.start title
  | .advance => h.next none
  | .choose a => h.next (some a)

/-- The host after some turns, failed ones among them. -/
def after (h : Host) (turns : List Turn) : Host := turns.foldl (fun h t => (h.turn t).host) h

/-- Two hosts that differ at most in their scripts. -/
structure Alike (h h' : Host) : Prop where
  handlers : h'.handlers = h.handlers
  state : h'.state = h.state

@[simp] theorem after_nil (h : Host) : h.after [] = h := rfl

@[simp] theorem after_cons (h : Host) (t : Turn) (turns : List Turn) :
    h.after (t :: turns) = (h.turn t).host.after turns := rfl

theorem mem_foldl_visit (seed visited : List String) (t : String) :
    t ∈ seed.foldl visit visited ↔ t ∈ visited ∨ t ∈ seed := by
  induction seed generalizing visited with
  | nil => simp
  | cons title seed ih =>
    rw [List.foldl_cons, ih, mem_visit, List.mem_cons, or_assoc]

theorem create_eq_ok {script : Script} {handlers : Table Handler} {seed : List String} {h : Host}
    (hh : create script handlers seed = .ok h) :
    h = ⟨script, handlers, { visited := seed.foldl visit [] }⟩ := by
  simp only [create] at hh
  split_ifs at hh
  exact (Except.ok.inj hh).symm

theorem create_without_handlers (script : Script) (seed : List String) :
    create script [] seed = .ok ⟨script, [], { visited := seed.foldl visit [] }⟩ := by
  simp [create, Table.keys]

/-- Whether handlers are known depends neither on the script nor on what was visited. -/
theorem create_congr {script : Script} {handlers : Table Handler} {seed : List String}
    {h : Host} (hh : create script handlers seed = .ok h) (other : Script) (visited : List String) :
    create other handlers visited =
      .ok ⟨other, handlers, { visited := visited.foldl visit [] }⟩ := by
  simp only [create] at hh ⊢
  split_ifs at hh with hknown
  rw [if_pos hknown]

/-- The end of a step that led to a host: the handler of its command, which may make a further
step. -/
def respond (again : Host → Outcome) (log : List LogRecord) (h : Host) (event : Option Event) :
    Outcome :=
  match event with
  | some (.command c node) =>
    match h.handlers.get? c.name with
    | none => { host := h, log, result := .ok event }
    | some handler =>
      let calls := [Call.handled c.name c.args]
      let log := log ++ [note s!"Running handler for {c.name} {Text.quotedList c.args}"]
      match handler with
      | .record => { host := h, calls, log, result := .ok (some (.command c node)) }
      | .fail => { host := h, calls, log, result := .error (.handler c.name) }
      | .advance =>
        let inner := again h
        match inner.result with
        | .error f =>
          { host := inner.host, calls := calls ++ inner.calls, log := log ++ inner.log,
            result := .error f }
        | .ok e =>
          { host := inner.host, calls := calls ++ inner.calls ++ [.nested e],
            log := log ++ inner.log, result := .ok event }
  | _ => { host := h, log, result := .ok event }

theorem advance_succ (depth : Nat) (h : Host) (answer : Option Answer) :
    advance (depth + 1) h answer =
      match step h.script h.state answer with
      | .error f =>
        { host := h, log := stepLog h.script h.state answer, result := .error (.session f) }
      | .ok (s, event) =>
        respond (advance depth · none) (stepLog h.script h.state answer) { h with state := s }
          event := rfl

theorem respond_host (again : Host → Outcome) (log : List LogRecord) (h : Host)
    (event : Option Event) :
    (respond again log h event).host = h ∨
      (respond again log h event).host = (again h).host := by
  unfold respond
  split
  · split
    · exact .inl rfl
    · dsimp only
      split
      · exact .inl rfl
      · exact .inl rfl
      · split
        · exact .inr rfl
        · exact .inr rfl
  · exact .inl rfl

theorem respond_of_no_handlers (again : Host → Outcome) (log : List LogRecord) {h : Host}
    (hh : h.handlers = []) (event : Option Event) :
    respond again log h event = { host := h, log, result := .ok event } := by
  unfold respond
  split
  · rw [hh]
    rfl
  · rfl

theorem respond_same {again again' : Host → Outcome} {h h' : Host} (ha : Alike h h')
    (hs : (again h).Same (again' h')) (log log' : List LogRecord) (event : Option Event) :
    (respond again log h event).Same (respond again' log' h' event) := by
  obtain ⟨hresult, hcalls, hstate⟩ := hs
  unfold respond
  rw [ha.handlers]
  split
  · split
    · exact ⟨rfl, rfl, ha.state⟩
    · dsimp only
      split
      · exact ⟨rfl, rfl, ha.state⟩
      · exact ⟨rfl, rfl, ha.state⟩
      · rw [hresult, hcalls]
        split
        · exact ⟨rfl, rfl, hstate⟩
        · exact ⟨rfl, rfl, hstate⟩
  · exact ⟨rfl, rfl, ha.state⟩

/-- Of a host only its state changes. -/
theorem advance_host (depth : Nat) (h : Host) (answer : Option Answer) :
    (advance depth h answer).host = { h with state := (advance depth h answer).host.state } := by
  induction depth generalizing h answer with
  | zero => rfl
  | succ depth ih =>
    rw [advance_succ]
    cases step h.script h.state answer with
    | error f => rfl
    | ok r =>
      obtain ⟨s, event⟩ := r
      dsimp only
      rcases respond_host (advance depth · none) (stepLog h.script h.state answer)
        { h with state := s } event with hr | hr
      · rw [hr]
      · rw [hr]
        exact ih { h with state := s } none

section Moment
variable {allowed : String → Prop} {s₀ : State} {h h' : Host}

/-- A call passes through moments of the session, whatever steps the handlers make in it. -/
theorem advance_moment (depth : Nat) (answer : Option Answer)
    (hm : Moment h.script allowed s₀ h.state) :
    Moment h.script allowed s₀ (advance depth h answer).host.state := by
  induction depth generalizing h answer with
  | zero => exact hm
  | succ depth ih =>
    rw [advance_succ]
    cases hr : step h.script h.state answer with
    | error f => exact hm
    | ok r =>
      obtain ⟨s, event⟩ := r
      have hs : Moment h.script allowed s₀ s := hm.step hr
      dsimp only
      rcases respond_host (advance depth · none) (stepLog h.script h.state answer)
        { h with state := s } event with hhost | hhost
      · rw [hhost]
        exact hs
      · rw [hhost]
        exact ih (h := { h with state := s }) none hs

/-- Hosts whose scripts let sessions make the same moves, at any moment of a session that is
started at allowed titles. -/
structure Twins (allowed : String → Prop) (s₀ : State) (h h' : Host) : Prop extends Alike h h' where
  step : ∀ s answer, Moment h.script allowed s₀ s →
    Session.step h'.script s answer = Session.step h.script s answer
  start : ∀ s title, allowed title →
    Session.start h'.script s title = Session.start h.script s title

theorem Twins.advance_same (ht : Twins allowed s₀ h h') (depth : Nat) (answer : Option Answer)
    (hm : Moment h.script allowed s₀ h.state) :
    (advance depth h answer).Same (advance depth h' answer) := by
  induction depth generalizing h h' answer with
  | zero => exact ⟨rfl, rfl, ht.state⟩
  | succ depth ih =>
    rw [advance_succ, advance_succ, ht.state, ht.step h.state answer hm]
    cases hr : Session.step h.script h.state answer with
    | error f => exact ⟨rfl, rfl, ht.state⟩
    | ok r =>
      obtain ⟨s, event⟩ := r
      have hs : Moment h.script allowed s₀ s := hm.step hr
      have hnext : Twins allowed s₀ { h with state := s } { h' with state := s } :=
        { ht with state := rfl }
      exact respond_same hnext.toAlike (ih hnext none hs) _ _ event

theorem turn_host (h : Host) (t : Turn) :
    (h.turn t).host = { h with state := (h.turn t).host.state } := by
  cases t with
  | start title =>
    simp only [turn, start]
    cases Session.start h.script h.state title <;> rfl
  | advance => exact advance_host _ h none
  | choose a => exact advance_host _ h (some a)

@[simp] theorem turn_script (h : Host) (t : Turn) : (h.turn t).host.script = h.script := by
  rw [turn_host]

@[simp] theorem turn_handlers (h : Host) (t : Turn) :
    (h.turn t).host.handlers = h.handlers := by
  rw [turn_host]

theorem turn_moment {t : Turn} (ht : t.Allowed allowed)
    (hm : Moment h.script allowed s₀ h.state) :
    Moment h.script allowed s₀ (h.turn t).host.state := by
  cases t with
  | start title =>
    simp only [turn, start]
    cases hs : Session.start h.script h.state title with
    | error f => exact hm
    | ok s => exact hm.start ht hs
  | advance => exact advance_moment _ none hm
  | choose a => exact advance_moment _ (some a) hm

theorem Twins.turn_same (ht : Twins allowed s₀ h h') {t : Turn} (ha : t.Allowed allowed)
    (hm : Moment h.script allowed s₀ h.state) : (h.turn t).Same (h'.turn t) := by
  cases t with
  | start title =>
    simp only [turn, Host.start]
    rw [ht.state, ht.start h.state title ha]
    cases Session.start h.script h.state title with
    | error f => exact ⟨rfl, rfl, ht.state⟩
    | ok s => exact ⟨rfl, rfl, rfl⟩
  | advance => exact ht.advance_same _ none hm
  | choose a => exact ht.advance_same _ (some a) hm

theorem after_host (h : Host) (turns : List Turn) :
    h.after turns = { h with state := (h.after turns).state } := by
  induction turns generalizing h with
  | nil => rfl
  | cons t turns ih =>
    rw [after_cons, ih, turn_host]

@[simp] theorem after_script (h : Host) (turns : List Turn) :
    (h.after turns).script = h.script := by
  rw [after_host]

@[simp] theorem after_handlers (h : Host) (turns : List Turn) :
    (h.after turns).handlers = h.handlers := by
  rw [after_host]

theorem after_moment {turns : List Turn} (ht : ∀ t ∈ turns, t.Allowed allowed)
    (hm : Moment h.script allowed s₀ h.state) :
    Moment h.script allowed s₀ (h.after turns).state := by
  induction turns generalizing h with
  | nil => exact hm
  | cons t turns ih =>
    have hturn := turn_moment (ht t List.mem_cons_self) hm
    rw [← turn_script h t] at hturn ⊢
    exact ih (fun t' ht' => ht t' (List.mem_cons_of_mem t ht')) hturn

/-- No run can tell twins apart. -/
theorem Twins.after (ht : Twins allowed s₀ h h') {turns : List Turn}
    (ha : ∀ t ∈ turns, t.Allowed allowed) (hm : Moment h.script allowed s₀ h.state) :
    Twins allowed s₀ (h.after turns) (h'.after turns) := by
  induction turns generalizing h h' with
  | nil => exact ht
  | cons t turns ih =>
    have hallowed := ha t List.mem_cons_self
    have hnext : Twins allowed s₀ (h.turn t).host (h'.turn t).host := by
      rw [turn_host h, turn_host h', (ht.turn_same hallowed hm).state]
      exact { ht with state := rfl }
    have hmoment := turn_moment hallowed hm
    rw [← turn_script h t] at hmoment
    exact ih hnext (fun t' ht' => ha t' (List.mem_cons_of_mem t ht')) hmoment

end Moment
end Host
end Dialogue.Session
