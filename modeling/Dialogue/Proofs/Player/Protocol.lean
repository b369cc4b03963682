import Dialogue.Proofs.Player.Reply
import Dialogue.Proofs.Session.Driving
import Dialogue.Proofs.Session.Faults
import Dialogue.Program.Play

/-! The protocol of a session as the player keeps it: whatever is typed, a pending choice gets one
of its options for an answer, and nothing else gets any. -/
namespace Dialogue

namespace Session
variable {script : Script} {s s' : State} {answer : Option Answer} {f : Failure}

theorem kind_of_settle_error {n : Nat} {seen : List Key} (h : settle script n seen s = .error f) :
    f.kind ≠ .protocol := by
  induction n generalizing seen s with
  | zero =>
    obtain rfl := Except.error.inj h
    simp [Failure.kind]
  | succ n ih =>
    by_cases hq : s.Quiet
    · rw [settle_of_quiet hq] at h
      split_ifs at h
      · obtain rfl := Except.error.inj h
        simp [Failure.kind]
      · cases hn : navigate script s with
        | error g =>
          rw [hn] at h
          obtain rfl := Except.error.inj h
          simp [kind_of_navigate_error hn]
        | ok t =>
          rw [hn] at h
          exact ih h
    · by_cases hc : s.phase = .emitting ∧ s.content = none
      · have hfail : f = .noContent := by simpa [settle, hc.1, hc.2, eq_comm] using h
        simp [hfail, Failure.kind]
      · rw [settle_of_not_quiet (fun hp hn => hc ⟨hp, hn⟩) hq] at h
        cases h

/-- A call in turn gets past the protocol. -/
theorem kind_of_proceed_in_turn (hc : Coherent script s)
    (hturn : ¬ OutOfTurn (s.phase ≠ .idle) s.pending answer)
    (h : proceed script s answer = .error f) : f.kind ≠ .protocol := by
  have hstarted : s.phase ≠ .idle := fun hidle => hturn (.inl (not_not.mpr hidle))
  by_cases hchoice : s.phase = .choicePending
  · obtain ⟨node, before, -, hpending, -⟩ := hc.opened_choicePending hchoice
    cases answer with
    | none => exact absurd (Or.inr (by rw [hpending]; trivial)) hturn
    | some a =>
      rw [hpending, outOfTurn_answer_iff hstarted] at hturn
      have hresolve : resolve script s a = .error f := by simpa only [proceed, hchoice] using h
      rw [resolve_eq, hpending] at hresolve
      dsimp only at hresolve
      cases ho : option? (node.compile before).options a with
      | none => exact absurd ho hturn
      | some o =>
        rw [ho] at hresolve
        dsimp only at hresolve
        split at hresolve
        · obtain rfl := Except.error.inj hresolve
          simp [Failure.kind]
        · simp [kind_of_openNode_error (goto_eq_error_iff.mp hresolve)]
  · rw [hc.pending_eq_none_iff.mpr hchoice] at hturn
    cases answer with
    | some a => exact absurd (Or.inr trivial) hturn
    | none =>
      cases hphase : s.phase <;> simp only [proceed, hphase, reduceCtorEq] at h
      case idle => exact absurd hphase hstarted
      case choicePending => exact absurd hphase hchoice
      case commandPending => simp [kind_of_navigate_error h]

theorem kind_of_step_in_turn (hc : Coherent script s)
    (hturn : ¬ OutOfTurn (s.phase ≠ .idle) s.pending answer)
    (h : step script s answer = .error f) : f.kind ≠ .protocol := by
  unfold step at h
  cases hp : proceed script s answer with
  | error g =>
    rw [hp] at h
    obtain rfl := Except.error.inj h
    exact kind_of_proceed_in_turn hc hturn hp
  | ok t =>
    simp only [hp, emit] at h
    cases hu : settle script (settleBound script t) [] t with
    | error g =>
      simp only [hu, Except.map, Except.error.injEq] at h
      rw [← h]
      exact kind_of_settle_error hu
    | ok u => simp [hu, Except.map] at h

/-- What is pending after an event is what it asks. -/
theorem pending_of_step {e : Event} (hc : Coherent script s)
    (h : step script s answer = .ok (s', some e)) : s'.pending = e.asked? := by
  have hc' := hc.step h
  obtain ⟨t, u, -, -, hshow⟩ := step_eq_ok h
  have hshown := shows_show? u
  rw [hshow] at hshown
  cases hshown with
  | line hp => exact hc'.pending_eq_none_iff.mpr (by simp [hp])
  | choice => rfl
  | command => exact hc'.pending_eq_none_iff.mpr (by simp)

end Session

namespace Player
open Session
variable {script : Script} {columns n : Nat} {s s' : State} {f : Failure}

/-- After an event the session can be asked to go on, or to take an option of the choice that it
showed. -/
theorem not_outOfTurn_of_step {input : Option Answer} {e : Event} (hc : Coherent script s)
    (h : step script s input = .ok (s', some e)) {next : Option Answer}
    (hnext : match e.asked? with
      | none => next = none
      | some options => ∃ i : Nat, next = some (.ofInt i) ∧ i < options.length) :
    ¬ OutOfTurn (s'.phase ≠ .idle) s'.pending next := by
  rw [pending_of_step hc h]
  cases hasked : e.asked? with
  | none =>
    rw [hasked] at hnext
    obtain rfl := hnext
    exact not_outOfTurn_advance (phase_of_step h)
  | some options =>
    rw [hasked] at hnext
    obtain ⟨i, rfl, hi⟩ := hnext
    have hoption : option? options (.ofInt i) = some options[i] :=
      option?_eq_some_iff.mpr ⟨i, rfl, List.getElem?_eq_getElem hi⟩
    rw [outOfTurn_answer_iff (phase_of_step h), hoption]
    exact Option.some_ne_none _

theorem drive_keeps_protocol {input : Option Answer} {lines : List String}
    {shown : Option String} {commands : List String} (hc : Coherent script s)
    (hturn : ¬ OutOfTurn (s.phase ≠ .idle) s.pending input)
    (h : (drive script columns n s input lines shown commands).ending = .failed f) :
    f.kind ≠ .protocol := by
  induction n generalizing s input lines shown commands with
  | zero => simp [drive] at h
  | succ n ih =>
    rw [drive] at h
    dsimp only at h
    cases hstep : step script s input with
    | error g =>
      rw [hstep] at h
      obtain rfl := Ending.failed.inj h
      exact kind_of_step_in_turn hc hturn hstep
    | ok r =>
      rw [hstep] at h
      obtain ⟨s', _ | e⟩ := r
      · cases h
      · cases e with
        | line speaker text node =>
          exact ih (hc.step hstep) (not_outOfTurn_of_step hc hstep rfl) h
        | command c node =>
          exact ih (hc.step hstep) (not_outOfTurn_of_step hc hstep rfl) h
        | choice options node =>
          dsimp only at h
          cases hask : ask columns s' commands options lines with
          | mk asked pick =>
            rw [hask] at h
            cases pick with
            | quit => cases h
            | unanswered => cases h
            | option i left =>
              have hi : i < options.length := lt_length_of_ask (congrArg Prod.snd hask)
              exact ih (hc.step hstep) (not_outOfTurn_of_step hc hstep ⟨i, rfl, hi⟩) h

theorem perform_keeps_protocol {title : String} {lines : List String}
    (h : (perform script title columns lines).ending = .failed f) : f.kind ≠ .protocol := by
  unfold perform at h
  cases hstart : Session.start script {} title with
  | error g =>
    simp only [hstart, Ending.failed.injEq] at h
    rw [← h]
    simp [kind_of_openNode_error (goto_eq_error_iff.mp hstart)]
  | ok s =>
    simp only [hstart] at h
    have hc := coherent_start hstart
    obtain ⟨node, -, hs⟩ := start_eq_ok_iff.mp hstart
    have hphase : s.phase ≠ .idle := by simp [hs]
    have hpending : s.pending = none := by simp [hs]
    refine drive_keeps_protocol hc ?_ h
    rw [hpending]
    exact not_outOfTurn_advance hphase

end Player
end Dialogue
