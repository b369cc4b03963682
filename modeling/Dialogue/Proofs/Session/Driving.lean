import Dialogue.Session.Replay

/-! What a replay comes to: an event for each call that shows one, and the answers given to the
choices among them in turn. -/
namespace Dialogue

namespace Session

/-- The options that an event asks to choose from. -/
def Event.asked? : Event → Option (List Choice)
  | .choice options _ => some options
  | _ => none

end Session

namespace Replay
open Session
variable {script : Script} {n : Nat} {s : State} {input : Option Answer} {answers : List Answer}

/-- Events, each with the answer that it was given if there was one. -/
abbrev Trace := List (Event × Option Answer)

/-- The events of a drive, also of one that fails. -/
def trace (script : Script) (n : Nat) (s : State) (input : Option Answer)
    (answers : List Answer) : Trace :=
  match step script s input with
  | .error _ => []
  | .ok (_, none) => []
  | .ok (s', some e) =>
    match n with
    | 0 => [(e, none)]
    | n + 1 =>
      match e with
      | .choice _ _ =>
        match answers with
        | [] => [(e, none)]
        | a :: rest => (e, some a) :: trace script n s' (some a) rest
      | _ => (e, none) :: trace script n s' none answers

/-- What a drive comes to, with its trace, by what its first step shows. -/
inductive Driven (script : Script) : Nat → State → Option Answer → List Answer → Trace →
    Except Session.Failure Playback → Prop
  | failed {n : Nat} {s : State} {input : Option Answer} {answers : List Answer}
      {f : Session.Failure} (h : step script s input = .error f) :
      Driven script n s input answers [] (.error f)
  | ended {n : Nat} {s s' : State} {input : Option Answer} {answers : List Answer}
      (h : step script s input = .ok (s', none)) :
      Driven script n s input answers [] (.ok ⟨[], .ended, s'⟩)
  | truncated {s s' : State} {input : Option Answer} {answers : List Answer} {e : Event}
      (h : step script s input = .ok (s', some e)) :
      Driven script 0 s input answers [(e, none)] (.ok ⟨[e], .truncated, s'⟩)
  | shown {n : Nat} {s s' : State} {input : Option Answer} {answers : List Answer} {e : Event}
      {t : Trace} {r : Except Session.Failure Playback}
      (h : step script s input = .ok (s', some e)) (he : e.asked? = none)
      (hr : Driven script n s' none answers t r) :
      Driven script (n + 1) s input answers ((e, none) :: t) (r.map (·.cons e))
  | waiting {n : Nat} {s s' : State} {input : Option Answer} {options : List Choice}
      {node : Compiled} (h : step script s input = .ok (s', some (.choice options node))) :
      Driven script (n + 1) s input [] [(.choice options node, none)]
        (.ok ⟨[.choice options node], .waiting, s'⟩)
  | answered {n : Nat} {s s' : State} {input : Option Answer} {a : Answer} {rest : List Answer}
      {options : List Choice} {node : Compiled} {t : Trace}
      {r : Except Session.Failure Playback}
      (h : step script s input = .ok (s', some (.choice options node)))
      (hr : Driven script n s' (some a) rest t r) :
      Driven script (n + 1) s input (a :: rest) ((.choice options node, some a) :: t)
        (r.map (·.cons (.choice options node)))

theorem driven (script : Script) (n : Nat) (s : State) (input : Option Answer)
    (answers : List Answer) :
    Driven script n s input answers (trace script n s input answers)
      (drive script n s input answers) := by
  induction n generalizing s input answers with
  | zero =>
    unfold trace drive
    cases hstep : step script s input with
    | error f => exact .failed hstep
    | ok r =>
      obtain ⟨s', _ | e⟩ := r
      · exact .ended hstep
      · exact .truncated hstep
  | succ n ih =>
    unfold trace drive
    cases hstep : step script s input with
    | error f => exact .failed hstep
    | ok r =>
      obtain ⟨s', _ | e⟩ := r
      · exact .ended hstep
      · cases e with
        | line speaker text node => exact .shown hstep rfl (ih s' none answers)
        | command c node => exact .shown hstep rfl (ih s' none answers)
        | choice options node =>
          cases answers with
          | nil => exact .waiting hstep
          | cons a rest => exact .answered hstep (ih s' (some a) rest)

/-- A drive that succeeds shows what was traced. -/
theorem Driven.events_eq {t : Trace} {r : Except Session.Failure Playback}
    (h : Driven script n s input answers t r) {p : Playback} (hp : r = .ok p) :
    p.events = t.map Prod.fst := by
  induction h generalizing p with
  | failed => cases hp
  | ended | truncated | waiting =>
    obtain rfl := Except.ok.inj hp
    rfl
  | @shown _ _ _ _ _ e _ r _ _ _ ih | @answered _ _ _ _ _ _ _ _ _ r _ _ ih =>
    cases r with
    | error f => cases hp
    | ok q =>
      obtain rfl := Except.ok.inj hp
      exact congrArg _ (ih rfl)

/-- A drive that is not cut short stays below its bound, and one that is reaches it. -/
theorem Driven.length {t : Trace} {r : Except Session.Failure Playback}
    (h : Driven script n s input answers t r) {p : Playback} (hp : r = .ok p) :
    if p.ending = .truncated then p.events.length = n + 1 else p.events.length ≤ n := by
  induction h generalizing p with
  | failed => cases hp
  | ended | truncated | waiting =>
    obtain rfl := Except.ok.inj hp
    simp
  | @shown _ _ _ _ _ e _ r _ _ _ ih | @answered _ _ _ _ _ _ _ _ _ r _ _ ih =>
    cases r with
    | error f => cases hp
    | ok q =>
      obtain rfl := Except.ok.inj hp
      simpa [Playback.cons] using ih rfl

theorem Driven.length_le {t : Trace} {p : Playback}
    (h : Driven script n s input answers t (.ok p)) (hp : p.ending ≠ .truncated) :
    p.events.length ≤ n := by
  simpa [hp] using h.length rfl

theorem Driven.length_eq {t : Trace} {p : Playback}
    (h : Driven script n s input answers t (.ok p)) (hp : p.ending = .truncated) :
    p.events.length = n + 1 := by
  simpa [hp] using h.length rfl

/-- What a replay of a script comes to is what a drive from its start comes to. -/
theorem driven_of_ofScript {start : Start} {r : Result}
    (h : ofScript script start answers = .ok r) : ∃ s t, startTitle script start = .ok r.start ∧
      Session.start script {} r.start = .ok s ∧
      Driven script (maxEvents - 1) s none answers t (.ok r.playback) := by
  unfold ofScript at h
  split at h
  · cases h
  · rename_i title htitle
    split at h
    · cases h
    · rename_i s hs
      split at h
      · cases h
      · rename_i p hp
        obtain rfl := Except.ok.inj h
        have hdriven := driven script (maxEvents - 1) s none answers
        rw [hp] at hdriven
        exact ⟨s, _, htitle, hs, hdriven⟩

end Replay
end Dialogue
