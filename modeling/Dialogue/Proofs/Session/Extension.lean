import Dialogue.Proofs.Session.Calls
import Dialogue.Proofs.Session.Driving

/-! Replays with more answers: one that fails or that stops by itself does so again, and one that
waits for an answer is gone on with. -/
namespace Dialogue

namespace Session
variable {script : Script} {s s' : State} {answer : Option Answer} {e : Option Event}

theorem mem_visited_of_step (h : step script s answer = .ok (s', e)) {title : String}
    (ht : title ∈ s.visited) : title ∈ s'.visited := by
  refine step_preserves (P := fun u => title ∈ u.visited) ?_ ?_ ?_ h ht
  · intro u a v hu hp
    cases hp with
    | resolve _ hr =>
      obtain ⟨options, o, target, node, -, -, -, -, rfl⟩ := resolve_eq_ok hr
      simp [mem_visit, hu]
    | navigate _ hn => exact mem_visited_of_navigate hn hu
    | stay => exact hu
  · exact fun u v hu _ hn => mem_visited_of_navigate hn hu
  · intro u v e hu hs
    rwa [hs.visited]

end Session

namespace Replay
open Session

/-- The drive from where a playback waits for an answer, its events behind those of the playback. A
playback that waits for none, or that gets none, is left as it is. -/
def resume (script : Script) (n : Nat) (answers : List Answer) (p : Playback) :
    Except Session.Failure Playback :=
  match p.ending, answers with
  | .waiting, a :: rest => (drive script (n - p.events.length) p.state (some a) rest).map
      fun q => { q with events := p.events ++ q.events }
  | _, _ => .ok p

section Drive
variable {script : Script} {n : Nat} {s : State} {input : Option Answer} {c : List Answer}
  {t : Trace} {r : Except Session.Failure Playback}

theorem resume_nil (p : Playback) : resume script n [] p = .ok p := by
  unfold resume
  split <;> simp_all

theorem resume_of_not_waiting (h : p.ending ≠ .waiting) (d : List Answer) :
    resume script n d p = .ok p := by
  unfold resume
  split <;> simp_all

theorem resume_of_waiting (h : p.ending = .waiting) (a : Answer) (rest : List Answer) :
    resume script n (a :: rest) p =
      (drive script (n - p.events.length) p.state (some a) rest).map
        fun q => { q with events := p.events ++ q.events } := by
  simp [resume, h]

theorem resume_cons (d : List Answer) (p : Playback) (e : Event) :
    resume script (n + 1) d (p.cons e) = (resume script n d p).map (·.cons e) := by
  cases hp : p.ending
  case waiting =>
    cases d with
    | nil => rw [resume_nil, resume_nil]; rfl
    | cons a rest =>
      have hwaits : (p.cons e).ending = .waiting := hp
      have hleft : n + 1 - (p.cons e).events.length = n - p.events.length := by
        simp [Playback.cons]
      rw [resume_of_waiting hp, resume_of_waiting hwaits, hleft]
      cases hd : drive script (n - p.events.length) p.state (some a) rest with
      | error f => simp [Playback.cons, hd, Except.map]
      | ok q => simp [Playback.cons, hd, Except.map]
  all_goals
    rw [resume_of_not_waiting (by simp [Playback.cons, hp]), resume_of_not_waiting (by simp [hp])]
    rfl

theorem map_cons_bind_resume (d : List Answer) (r : Except Session.Failure Playback) (e : Event) :
    (r.map (·.cons e)).bind (resume script (n + 1) d) =
      (r.bind (resume script n d)).map (·.cons e) := by
  cases r with
  | error f => rfl
  | ok p => exact resume_cons d p e

/-- With more answers a drive goes on from where it waits for one, and else it is the same. -/
theorem Driven.append (h : Driven script n s input c t r) (d : List Answer) :
    drive script n s input (c ++ d) = r.bind (resume script n d) := by
  induction h with
  | failed h =>
    unfold drive
    rw [h]
    rfl
  | ended h =>
    unfold drive
    rw [h]
    rfl
  | truncated h =>
    unfold drive
    rw [h]
    rfl
  | shown h he _ ih =>
    rw [map_cons_bind_resume, ← ih, drive, h]
    cases ‹Event› with
    | line | command => rfl
    | choice => cases he
  | waiting h =>
    cases d with
    | nil => rw [List.append_nil, drive, h]; rfl
    | cons a rest =>
      rw [List.nil_append, drive, h]
      rfl
  | answered h _ ih =>
    rw [map_cons_bind_resume, ← ih, List.cons_append, drive, h]

theorem Driven.mem_visited (h : Driven script n s input c t r) {p : Playback} (hp : r = .ok p)
    {title : String} (ht : title ∈ s.visited) : title ∈ p.state.visited := by
  induction h generalizing p with
  | failed => cases hp
  | ended h | truncated h | waiting h =>
    obtain rfl := Except.ok.inj hp
    exact mem_visited_of_step h ht
  | @shown _ _ _ _ _ _ _ r h _ _ ih | @answered _ _ _ _ _ _ _ _ _ r h _ ih =>
    cases r with
    | error f => cases hp
    | ok q =>
      obtain rfl := Except.ok.inj hp
      have hq := ih rfl (mem_visited_of_step h ht)
      exact hq

end Drive

/-- How a replay goes on from one that waits for an answer. -/
structure Resumes (script : Script) (r : Result) (d : List Answer) (r' : Result) : Prop where
  start : r'.start = r.start
  shown : r.playback.events <+: r'.playback.events
  visited : r.playback.state.visited ⊆ r'.playback.state.visited
  /-- The bound on the events leaves room for more of them. -/
  room : r.playback.events.length < maxEvents
  same : d = [] → r' = r
  /-- The first of the answers goes to the session as it waits, the others to the choices that
  follow. -/
  next : ∀ a rest, d = a :: rest → ∃ t q,
    Driven script (maxEvents - 1 - r.playback.events.length) r.playback.state (some a) rest t
      (.ok q) ∧
    r'.playback = { q with events := r.playback.events ++ t.map Prod.fst }

section Run
variable {script : Script} {start : Start} {c d : List Answer} {r r' : Result}

theorem ofScript_append (script : Script) (start : Start) (c d : List Answer) :
    ofScript script start (c ++ d) = (ofScript script start c).bind fun r =>
      ((resume script (maxEvents - 1) d r.playback).mapError .session).map (Result.mk r.start) := by
  unfold ofScript
  cases startTitle script start with
  | error f => rfl
  | ok title =>
    dsimp only
    cases Session.start script {} title with
    | error f => rfl
    | ok s =>
      dsimp only
      rw [(driven script (maxEvents - 1) s none c).append d]
      cases drive script (maxEvents - 1) s none c with
      | error f => rfl
      | ok p =>
        simp only [Except.bind]
        cases resume script (maxEvents - 1) d p <;> rfl

theorem resumes_of_ofScript (h : ofScript script start c = .ok r)
    (hwaits : r.playback.ending = .waiting)
    (h' : ofScript script start (c ++ d) = .ok r') : Resumes script r d r' := by
  obtain ⟨s, t, -, -, hdriven⟩ := driven_of_ofScript h
  have hlength := hdriven.length_le (by simp [hwaits])
  have hroom : r.playback.events.length < maxEvents := by
    have hpos : 0 < maxEvents := by decide
    omega
  rw [ofScript_append, h] at h'
  simp only [Except.bind] at h'
  cases d with
  | nil =>
    rw [resume_nil] at h'
    obtain rfl := Except.ok.inj h'
    exact ⟨rfl, List.prefix_rfl, fun _ h => h, hroom, fun _ => rfl, by simp⟩
  | cons a rest =>
    rw [resume_of_waiting hwaits] at h'
    have hnext := driven script (maxEvents - 1 - r.playback.events.length) r.playback.state
      (some a) rest
    cases hq : drive script (maxEvents - 1 - r.playback.events.length) r.playback.state
        (some a) rest with
    | error f => simp [hq, Except.map, Except.mapError] at h'
    | ok q =>
      rw [hq] at h' hnext
      obtain rfl := Except.ok.inj h'
      refine ⟨rfl, List.prefix_append _ _, fun title ht => hnext.mem_visited rfl ht, hroom, by simp,
        ?_⟩
      rintro a' rest' heq
      obtain ⟨rfl, rfl⟩ := List.cons.inj heq
      exact ⟨_, q, hnext, by rw [← hnext.events_eq rfl]⟩

/-- Replays are stable under more answers: failures stay, replays that end or are cut short stay,
and one that waits for an answer is gone on with. -/
theorem run_append (text : String) (start : Start) (c d : List Answer) :
    (∀ f, run text start c = .error f → run text start (c ++ d) = .error f) ∧
    (∀ r, run text start c = .ok r → r.playback.ending ≠ .waiting →
      run text start (c ++ d) = .ok r) ∧
    (∀ r r', run text start c = .ok r → r.playback.ending = .waiting →
      run text start (c ++ d) = .ok r' →
      ∃ script, Script.readStrict text = .ok script ∧ Resumes script r d r') := by
  unfold run
  cases Script.readStrict text with
  | error i => simp
  | ok script =>
    dsimp only
    refine ⟨fun f h => ?_, fun r h hends => ?_, fun r r' h hwaits h' => ?_⟩
    · rw [ofScript_append, h]
      rfl
    · rw [ofScript_append, h]
      simp only [Except.bind]
      rw [resume_of_not_waiting hends]
      rfl
    · exact ⟨script, rfl, resumes_of_ofScript h hwaits h'⟩

end Run
end Replay
end Dialogue
