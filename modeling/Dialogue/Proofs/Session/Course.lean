import Dialogue.Proofs.Script.Division
import Dialogue.Proofs.Session.Driving
import Mathlib.Tactic

/-! The course of a session under given answers, however long it is, and how much of it a replay
shows. -/
namespace Dialogue

namespace Replay
open Session

/-- How the course of a session comes to a close. -/
inductive Close where
  | ended
  | waiting
  | failed (f : Session.Failure)
  deriving DecidableEq, Repr

/-- How a playback that was not cut short has closed. -/
def Ending.close? : Ending → Option Close
  | .ended => some .ended
  | .waiting => some .waiting
  | .truncated => none

/-- Events that a session shows under answers given to its choices in order, from the first one on.
With a close they are all that it shows: the dialogue is over, a choice has no answer left, or a
step fails. A course without an end has initial parts of every length. -/
inductive Course (script : Script) :
    State → Option Answer → List Answer → List Event → Option Close → Prop
  | part {s : State} {input : Option Answer} {answers : List Answer} :
      Course script s input answers [] none
  | failed {s : State} {input : Option Answer} {answers : List Answer} {f : Session.Failure}
      (h : step script s input = .error f) : Course script s input answers [] (some (.failed f))
  | ended {s s' : State} {input : Option Answer} {answers : List Answer}
      (h : step script s input = .ok (s', none)) : Course script s input answers [] (some .ended)
  | waiting {s s' : State} {input : Option Answer} {options : List Choice} {node : Compiled}
      (h : step script s input = .ok (s', some (.choice options node))) :
      Course script s input [] [.choice options node] (some .waiting)
  | shown {s s' : State} {input : Option Answer} {answers : List Answer} {e : Event}
      {es : List Event} {c : Option Close} (h : step script s input = .ok (s', some e))
      (he : e.asked? = none) (hr : Course script s' none answers es c) :
      Course script s input answers (e :: es) c
  | answered {s s' : State} {input : Option Answer} {a : Answer} {rest : List Answer}
      {options : List Choice} {node : Compiled} {es : List Event} {c : Option Close}
      (h : step script s input = .ok (s', some (.choice options node)))
      (hr : Course script s' (some a) rest es c) :
      Course script s input (a :: rest) (.choice options node :: es) c

section Course
variable {script : Script} {s s' : State} {input : Option Answer} {answers : List Answer}
  {es es' : List Event} {c c' : Option Close}

section Step
variable (hc : Course script s input answers es c)
include hc

theorem Course.of_failed {f : Session.Failure} (h : step script s input = .error f) :
    es = [] ∧ (c = none ∨ c = some (.failed f)) := by
  cases hc with
  | part => exact ⟨rfl, .inl rfl⟩
  | failed h' =>
    rw [h] at h'
    cases h'
    exact ⟨rfl, .inr rfl⟩
  | ended h' | waiting h' | shown h' | answered h' =>
    rw [h] at h'
    cases h'

theorem Course.of_ended (h : step script s input = .ok (s', none)) :
    es = [] ∧ (c = none ∨ c = some .ended) := by
  cases hc with
  | part => exact ⟨rfl, .inl rfl⟩
  | ended => exact ⟨rfl, .inr rfl⟩
  | failed h' | waiting h' | shown h' | answered h' =>
    rw [h] at h'
    cases h'

theorem Course.of_shown {e : Event} (h : step script s input = .ok (s', some e))
    (he : e.asked? = none) : es = [] ∧ c = none ∨
      ∃ rest, es = e :: rest ∧ Course script s' none answers rest c := by
  cases hc with
  | part => exact .inl ⟨rfl, rfl⟩
  | failed h' | ended h' =>
    rw [h] at h'
    cases h'
  | shown h' _ hr =>
    rw [h] at h'
    cases h'
    exact .inr ⟨_, rfl, hr⟩
  | waiting h' | answered h' =>
    rw [h] at h'
    cases h'
    cases he

end Step

section Choice
variable {options : List Choice} {node : Compiled}
  (h : step script s input = .ok (s', some (.choice options node)))
include h

theorem Course.of_unanswered (hc : Course script s input [] es c) :
    es = [] ∧ c = none ∨ es = [.choice options node] ∧ c = some .waiting := by
  cases hc with
  | part => exact .inl ⟨rfl, rfl⟩
  | waiting h' =>
    rw [h] at h'
    cases h'
    exact .inr ⟨rfl, rfl⟩
  | failed h' | ended h' =>
    rw [h] at h'
    cases h'
  | shown h' he =>
    rw [h] at h'
    cases h'
    cases he

theorem Course.of_answered {a : Answer} {rest : List Answer}
    (hc : Course script s input (a :: rest) es c) : es = [] ∧ c = none ∨
      ∃ es', es = .choice options node :: es' ∧ Course script s' (some a) rest es' c := by
  cases hc with
  | part => exact .inl ⟨rfl, rfl⟩
  | answered h' hr =>
    rw [h] at h'
    cases h'
    exact .inr ⟨_, rfl, hr⟩
  | failed h' | ended h' =>
    rw [h] at h'
    cases h'
  | shown h' he =>
    rw [h] at h'
    cases h'
    cases he

end Choice

/-- Of two courses one is a part of the other, and nothing goes on behind a close. -/
theorem Course.comparable (h : Course script s input answers es c)
    (h' : Course script s input answers es' c') : es' <+: es ∨ c = none ∧ es <+: es' := by
  have hcons {e : Event} {xs ys : List Event} (hxs : xs <+: ys) : e :: xs <+: e :: ys :=
    (List.prefix_cons_inj e).mpr hxs
  -- The step that one course begins with decides how the other can begin.
  induction h generalizing es' with
  | part => exact .inr ⟨rfl, List.nil_prefix⟩
  | failed h =>
    obtain ⟨rfl, -⟩ := h'.of_failed h
    exact .inl List.prefix_rfl
  | ended h =>
    obtain ⟨rfl, -⟩ := h'.of_ended h
    exact .inl List.prefix_rfl
  | waiting h =>
    obtain ⟨rfl, -⟩ | ⟨rfl, -⟩ := Course.of_unanswered h h'
    · exact .inl List.nil_prefix
    · exact .inl List.prefix_rfl
  | shown h he _ ih =>
    obtain ⟨rfl, -⟩ | ⟨rest, rfl, hr'⟩ := h'.of_shown h he
    · exact .inl List.nil_prefix
    · exact (ih hr').imp hcons (And.imp_right hcons)
  | answered h _ ih =>
    obtain ⟨rfl, -⟩ | ⟨rest, rfl, hr'⟩ := Course.of_answered h h'
    · exact .inl List.nil_prefix
    · exact (ih hr').imp hcons (And.imp_right hcons)

/-- A course closes in one way only. -/
theorem Course.close_unique {k k' : Close} (h : Course script s input answers es (some k))
    (h' : Course script s input answers es' (some k')) : k' = k := by
  generalize hk : some k = c at h
  induction h generalizing es' with
  | part => cases hk
  | failed h =>
    obtain rfl := Option.some.inj hk
    simpa using (h'.of_failed h).2
  | ended h =>
    obtain rfl := Option.some.inj hk
    simpa using (h'.of_ended h).2
  | waiting h =>
    obtain rfl := Option.some.inj hk
    obtain ⟨-, hnone⟩ | ⟨-, hwaits⟩ := Course.of_unanswered h h'
    · cases hnone
    · exact Option.some.inj hwaits
  | shown h he _ ih =>
    obtain ⟨-, hnone⟩ | ⟨rest, -, hr'⟩ := h'.of_shown h he
    · cases hnone
    · exact ih hr' hk
  | answered h _ ih =>
    obtain ⟨-, hnone⟩ | ⟨rest, -, hr'⟩ := Course.of_answered h h'
    · cases hnone
    · exact ih hr' hk

/-- A course that does not close goes on for any number of events. -/
theorem exists_course (m : Nat) (s : State) (input : Option Answer) (answers : List Answer) :
    ∃ es c, Course script s input answers es c ∧ (c = none → es.length = m) := by
  induction m generalizing s input answers with
  | zero => exact ⟨[], none, .part, fun _ => rfl⟩
  | succ m ih =>
    cases hstep : step script s input with
    | error f => exact ⟨[], some (.failed f), .failed hstep, by simp⟩
    | ok r =>
      obtain ⟨s', _ | e⟩ := r
      · exact ⟨[], some .ended, .ended hstep, by simp⟩
      · cases e with
        | line | command =>
          obtain ⟨es, c, hc, hlength⟩ := ih s' none answers
          exact ⟨_ :: es, c, .shown hstep rfl hc, fun hnone => congrArg (· + 1) (hlength hnone)⟩
        | choice options node =>
          cases answers with
          | nil => exact ⟨_, some .waiting, .waiting hstep, by simp⟩
          | cons a rest =>
            obtain ⟨es, c, hc, hlength⟩ := ih s' (some a) rest
            exact ⟨_ :: es, c, .answered hstep hc, fun hnone => congrArg (· + 1) (hlength hnone)⟩

/-- A course reaches a length if it does not close below it. -/
theorem reaches_iff (m : Nat) :
    (∃ es c, Course script s input answers es c ∧ m ≤ es.length) ↔
      ∀ es k, Course script s input answers es (some k) → m ≤ es.length := by
  constructor
  · rintro ⟨es, c, hes, hm⟩ es' k hclosed
    obtain hwithin | ⟨hnone, -⟩ := hclosed.comparable hes
    · exact hm.trans hwithin.length_le
    · cases hnone
  · intro hclosed
    obtain ⟨es, c, hes, hopen⟩ := exists_course m s input answers
    cases c with
    | none => exact ⟨es, none, hes, (hopen rfl).ge⟩
    | some k => exact ⟨es, some k, hes, hclosed es k hes⟩

end Course

section Playback
variable {script : Script} {n : Nat} {s : State} {input : Option Answer} {answers : List Answer}
  {t : Trace}

/-- What a playback shows is a course, and all of it where the playback stops by itself. -/
theorem Driven.course {r : Except Session.Failure Playback}
    (h : Driven script n s input answers t r) {p : Playback} (hp : r = .ok p) :
    ∃ c, Course script s input answers p.events c ∧ ∀ k, p.ending.close? = some k → c = some k := by
  induction h generalizing p with
  | failed => cases hp
  | ended h =>
    obtain rfl := Except.ok.inj hp
    exact ⟨some .ended, .ended h, fun _ => id⟩
  | waiting h =>
    obtain rfl := Except.ok.inj hp
    exact ⟨some .waiting, .waiting h, fun _ => id⟩
  | @truncated s s' input answers e h =>
    obtain rfl := Except.ok.inj hp
    cases e with
    | line | command => exact ⟨none, .shown h rfl .part, fun _ => id⟩
    | choice options node =>
      cases answers with
      | nil => exact ⟨some .waiting, .waiting h, by simp [Ending.close?]⟩
      | cons a rest => exact ⟨none, .answered h .part, fun _ => id⟩
  | @shown _ _ _ _ _ _ _ r h he _ ih =>
    cases r with
    | error f => cases hp
    | ok q =>
      obtain rfl := Except.ok.inj hp
      obtain ⟨c, hc, hclose⟩ := ih rfl
      exact ⟨c, .shown h he hc, hclose⟩
  | @answered _ _ _ _ _ _ _ _ _ r h _ ih =>
    cases r with
    | error f => cases hp
    | ok q =>
      obtain rfl := Except.ok.inj hp
      obtain ⟨c, hc, hclose⟩ := ih rfl
      exact ⟨c, .answered h hc, hclose⟩

theorem Ending.eq_truncated_or_close (e : Ending) : e = .truncated ∨ ∃ k, e.close? = some k := by
  cases e with
  | ended => exact .inr ⟨.ended, rfl⟩
  | waiting => exact .inr ⟨.waiting, rfl⟩
  | truncated => exact .inl rfl

variable {p : Playback} (h : Driven script n s input answers t (.ok p))
include h

/-- A playback shows as much of every course as its bound lets it. -/
theorem Driven.shows_course {es : List Event} {c : Option Close}
    (hes : Course script s input answers es c) : es.take (n + 1) <+: p.events := by
  obtain ⟨c', hc', hclose⟩ := h.course rfl
  obtain hes | ⟨hnone, hes⟩ := hc'.comparable hes
  · exact (List.take_prefix _ _).trans hes
  · obtain hcut | ⟨k, hk⟩ := p.ending.eq_truncated_or_close
    · have hall := List.prefix_iff_eq_take.mp hes
      rw [h.length_eq hcut] at hall
      rw [← hall]
    · cases hnone.symm.trans (hclose k hk)

theorem Driven.truncated_iff : p.ending = .truncated ↔
    ∃ es c, Course script s input answers es c ∧ n < es.length := by
  obtain ⟨c, hc, -⟩ := h.course rfl
  constructor
  · intro hcut
    have hlength := h.length_eq hcut
    exact ⟨p.events, c, hc, by omega⟩
  · rintro ⟨es, c', hes, hn⟩
    by_contra hstop
    have hlength := h.length_le hstop
    have hshown := (h.shows_course hes).length_le
    rw [List.length_take] at hshown
    omega

/-- A playback closes in the way in which its course closes below the bound. -/
theorem Driven.close_iff (k : Close) : p.ending.close? = some k ↔
    ∃ es, Course script s input answers es (some k) ∧ es.length ≤ n := by
  obtain ⟨c, hc, hclose⟩ := h.course rfl
  constructor
  · intro hk
    rw [hclose k hk] at hc
    refine ⟨p.events, hc, h.length_le ?_⟩
    rintro hcut
    simp [hcut, Ending.close?] at hk
  · rintro ⟨es, hes, hn⟩
    obtain hcut | ⟨k', hk'⟩ := p.ending.eq_truncated_or_close
    · -- All that a cut playback shows belongs to the course, which is too short for it.
      have hlength := h.length_eq hcut
      obtain hwithin | ⟨hnone, -⟩ := hes.comparable hc
      · have hle := hwithin.length_le
        omega
      · cases hnone
    · rw [hclose k' hk'] at hc
      rw [hk', hc.close_unique hes]

end Playback

/-- The answer of a replay tells how its playback ended in one of three members. -/
theorem Result.mem_members_iff (r : Result) (key : String) :
    (key, Json.bool true) ∈ r.members ↔
      (key = "ended" ∧ r.playback.ending = .ended) ∨
      (key = "waiting" ∧ r.playback.ending = .waiting) ∨
      (key = "truncated" ∧ r.playback.ending = .truncated) := by
  simp [Result.members, Json.strings]

/-- A replay tells what becomes of the course that its session takes from `s` under the answers. -/
structure Classified (script : Script) (s : State) (answers : List Answer) (r : Result) : Prop where
  /-- The events are a part of the course, within the bound. -/
  part : ∃ c, Course script s none answers r.playback.events c
  bounded : r.playback.events.length ≤ maxEvents
  /-- Whatever the course holds within the bound is among the events. -/
  whole : ∀ es c, Course script s none answers es c → es.take maxEvents <+: r.playback.events
  ended : ("ended", Json.bool true) ∈ r.members ↔
    ∃ es, Course script s none answers es (some .ended) ∧ es.length < maxEvents
  waiting : ("waiting", Json.bool true) ∈ r.members ↔
    ∃ es, Course script s none answers es (some .waiting) ∧ es.length < maxEvents
  truncated : ("truncated", Json.bool true) ∈ r.members ↔
    ∃ es c, Course script s none answers es c ∧ maxEvents ≤ es.length
  /-- The course reaches the bound if it does not close below it. -/
  unclosed : ("truncated", Json.bool true) ∈ r.members ↔
    ∀ es k, Course script s none answers es (some k) → maxEvents ≤ es.length
  one : ∃! key, (key, Json.bool true) ∈ r.members

theorem Driven.classified {script : Script} {s : State} {answers : List Answer} {t : Trace}
    {r : Result} (h : Driven script (maxEvents - 1) s none answers t (.ok r.playback)) :
    Classified script s answers r := by
  have hbound (m : Nat) : m < maxEvents ↔ m ≤ maxEvents - 1 := Nat.lt_iff_le_pred (by decide)
  have hended := h.close_iff .ended
  have hwaiting := h.close_iff .waiting
  have htruncated := h.truncated_iff
  simp only [← hbound] at hended hwaiting
  have hcut : ("truncated", Json.bool true) ∈ r.members ↔
      ∃ es c, Course script s none answers es c ∧ maxEvents ≤ es.length := by
    have hreaches (m : Nat) : maxEvents ≤ m ↔ maxEvents - 1 < m := by
      rw [← not_lt, hbound, not_le]
    simp only [hreaches]
    rw [← htruncated, Result.mem_members_iff]
    simp
  refine ⟨(h.course rfl).imp fun _ hc => hc.1, ?_, fun es c hes => h.shows_course hes,
    ?_, ?_, hcut, hcut.trans (reaches_iff maxEvents), ?_⟩
  · obtain hcut | hclose := r.playback.ending.eq_truncated_or_close
    · exact (h.length_eq hcut).le
    · refine (h.length_le ?_).trans (Nat.sub_le _ _)
      rintro hcut
      simp [hcut, Ending.close?] at hclose
  · rw [← hended, Result.mem_members_iff]
    cases r.playback.ending <;> simp [Ending.close?]
  · rw [← hwaiting, Result.mem_members_iff]
    cases r.playback.ending <;> simp [Ending.close?]
  · simp only [Result.mem_members_iff]
    cases r.playback.ending <;> simp

/-- Every replay shows the first events of the course that its session takes under the answers, as
many as the bound allows, and tells what becomes of the course: that it ends, or that it waits
for an answer, with fewer events than the bound, or that it reaches the bound. -/
theorem run_classified {text : String} {start : Start} {answers : List Answer} {r : Result}
    (h : run text start answers = .ok r) : ∃ script s,
    Script.readStrict text = .ok script ∧ startTitle script start = .ok r.start ∧
    Session.start script {} r.start = .ok s ∧ Classified script s answers r := by
  unfold run at h
  split at h
  · cases h
  · rename_i script hread
    obtain ⟨s, t, htitle, hs, hdriven⟩ := driven_of_ofScript h
    exact ⟨script, s, hread, htitle, hs, hdriven.classified⟩

theorem drive_of_answer {script : Script} {n : Nat} {s s' : State} {input : Option Answer}
    {a : Answer} {rest : List Answer} {options : List Choice} {node : Compiled}
    (h : step script s input = .ok (s', some (.choice options node))) :
    drive script (n + 1) s input (a :: rest) =
      (drive script n s' (some a) rest).map (·.cons (.choice options node)) := by
  rw [drive, h]

theorem ofScript_of_drive {script : Script} {start : Start} {title : String} {s : State}
    {answers : List Answer} {p : Playback} (htitle : startTitle script start = .ok title)
    (hs : Session.start script {} title = .ok s)
    (hp : drive script (maxEvents - 1) s none answers = .ok p) :
    ofScript script start answers = .ok ⟨title, p⟩ := by
  rw [ofScript, htitle]
  dsimp only
  rw [hs]
  dsimp only
  rw [hp]

private def spinText : String := "title: Round\n---\n-> Again\n<<jump Round>>\n===\n"

private def spinScript : Script := ⟨[⟨"Round", [], ["-> Again", "<<jump Round>>"], 1, 3⟩], []⟩

private def spinNode (seen : Bool) : Compiled :=
  { title := "Round", options := [⟨"Again", some "Round", seen, false⟩] }

/-- The only choice is asked, again if `seen`. -/
private def spinState (seen : Bool) : State :=
  { phase := .choicePending
    current := some "Round"
    content := some (spinNode seen)
    visited := ["Round"]
    pending := some (spinNode seen).options }

private abbrev spinEvent (seen : Bool) : Event := .choice (spinNode seen).options (spinNode seen)

private theorem read_spin : Script.readStrict spinText = .ok spinScript := by
  rw [Script.readStrict_eq_ok_iff]
  decide +kernel

private theorem step_spin (seen : Bool) :
    step spinScript (spinState seen) (some (.ofInt 0)) =
      .ok (spinState true, some (spinEvent true)) := by
  cases seen <;> rfl

private theorem course_spin (m : Nat) (seen : Bool) :
    Course spinScript (spinState seen) (some (.ofInt 0)) (List.replicate m (.ofInt 0))
      (List.replicate (m + 1) (spinEvent true)) (some .waiting) := by
  induction m generalizing seen with
  | zero => exact .waiting (step_spin seen)
  | succ m ih => exact .answered (step_spin seen) (ih true)

private theorem drive_spin (m : Nat) (seen : Bool) :
    drive spinScript m (spinState seen) (some (.ofInt 0)) (List.replicate m (.ofInt 0)) =
      .ok ⟨List.replicate (m + 1) (spinEvent true), .truncated, spinState true⟩ := by
  induction m generalizing seen with
  | zero =>
    rw [drive, step_spin]
    rfl
  | succ m ih =>
    rw [List.replicate_succ, drive_of_answer (step_spin seen), ih true]
    rfl

/-- The state at the start of the only node. -/
private def spinStart : State :=
  { phase := .emitting, current := some "Round", content := some (spinNode false),
    visited := ["Round"] }

private theorem start_spin : Session.start spinScript {} "Round" = .ok spinStart := by rfl

private theorem step_spinStart :
    step spinScript spinStart none = .ok (spinState false, some (spinEvent false)) := by rfl

/-- One answer of the two that are asked for. -/
theorem run_classified_round : ∃ r script s,
    run spinText .unspecified [.ofInt 0] = .ok r ∧ r.playback.events.length = 2 ∧
    Script.readStrict spinText = .ok script ∧ startTitle script .unspecified = .ok r.start ∧
    Session.start script {} r.start = .ok s ∧ Classified script s [.ofInt 0] r := by
  have hrun : run spinText .unspecified [.ofInt 0] =
      .ok ⟨"Round", [spinEvent false, spinEvent true], .waiting, spinState true⟩ := by
    rw [run, read_spin]
    rfl
  obtain ⟨script, s, hread, htitle, hs, hclassified⟩ := run_classified hrun
  exact ⟨_, script, s, hrun, rfl, hread, htitle, hs, hclassified⟩

private theorem run_spin : run spinText .unspecified (.ofInt 0 :: List.replicate 998 (.ofInt 0)) =
    .ok ⟨"Round", spinEvent false :: List.replicate 999 (spinEvent true), .truncated,
      spinState true⟩ := by
  have hmax : maxEvents - 1 = 998 + 1 := rfl
  have hdrive : drive spinScript (maxEvents - 1) spinStart none
        (.ofInt 0 :: List.replicate 998 (.ofInt 0)) =
      .ok ⟨spinEvent false :: List.replicate 999 (spinEvent true), .truncated, spinState true⟩ := by
    rw [hmax, drive_of_answer step_spinStart, drive_spin]
    rfl
  rw [run, read_spin]
  exact ofScript_of_drive rfl start_spin hdrive

/-- A choice without an answer that is the last event within the bound is not told as waiting. -/
theorem waiting_at_bound_cut : ¬ ∀ (text : String) (start : Start) (answers : List Answer)
    (r : Result) (script : Script) (s : State), run text start answers = .ok r →
    Script.readStrict text = .ok script → Session.start script {} r.start = .ok s →
    (("waiting", Json.bool true) ∈ r.members ↔
      ∃ es, Course script s none answers es (some .waiting) ∧ es.length ≤ maxEvents) := by
  intro h
  have hcourse : Course spinScript spinStart none (.ofInt 0 :: List.replicate 998 (.ofInt 0))
      (spinEvent false :: List.replicate 999 (spinEvent true)) (some .waiting) :=
    .answered step_spinStart (course_spin 998 false)
  have hlength : (spinEvent false :: List.replicate 999 (spinEvent true)).length ≤ maxEvents := by
    rw [List.length_cons, List.length_replicate]
    decide
  have hwaits := (h _ _ _ _ _ _ run_spin read_spin start_spin).mpr ⟨_, hcourse, hlength⟩
  obtain ⟨hkey, -⟩ | ⟨-, hending⟩ | ⟨hkey, -⟩ := (Result.mem_members_iff _ _).mp hwaits
  · exact absurd hkey (by decide)
  · cases hending
  · exact absurd hkey (by decide)

end Replay
end Dialogue
