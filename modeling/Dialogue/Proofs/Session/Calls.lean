import Dialogue.Proofs.Session.Loop
import Dialogue.Proofs.Session.Representation

/-! Calls with the choices made in them, and the states they pass on their way through silent
nodes. -/
namespace Dialogue.Session

/-- The answer that names an option by its place, if one is named. -/
def reply (i : Option Nat) : Option Answer := i.map fun n => .ofInt n

theorem proceed_reply_none {script : Script} {s : State}
    (h : s.phase = .emitting ∨ s.phase = .ended) : proceed script s (reply none) = .ok s := by
  rcases h with h | h <;> simp [proceed, reply, h]

/-- The states between calls that succeed, with the choices made so far. -/
inductive Called (script : Script) (s : State) : List Nat → State → Prop
  | here : Called script s [] s
  | call {choices : List Nat} {u v : State} {e : Option Event} (i : Option Nat)
      (h : Called script s choices u) (hs : step script u (reply i) = .ok (v, e)) :
      Called script s (choices ++ i.toList) v

/-- The silent moves of one call, without its check for loops. -/
def Silently (script : Script) : State → State → Prop :=
  Relation.ReflTransGen fun s t => s.Quiet ∧ navigate script s = .ok t

/-- How silent moves come to a halt: where something can be shown or the dialogue is over, or at a
reference to a missing node. -/
inductive Halts (script : Script) (s : State) : Except Failure State → Prop
  | rest (hq : ¬ s.Quiet) : Halts script s (.ok s)
  | stuck {f : Failure} (hq : s.Quiet) (hn : navigate script s = .error f) :
      Halts script s (.error f)

/-- The states from which calls set out and those that they pass silently, with the choices made so
far. A state with something to show ends a call, and the next one sets out from it. -/
inductive Passes (script : Script) (s : State) : List Nat → State → Prop
  | here : Passes script s [] s
  | quiet {choices : List Nat} {u v : State} (h : Passes script s choices u) (hq : u.Quiet)
      (hn : navigate script u = .ok v) : Passes script s choices v
  | call {choices : List Nat} {u v : State} (i : Option Nat) (h : Passes script s choices u)
      (hq : ¬ u.Quiet) (hp : proceed script (show? u).1 (reply i) = .ok v) :
      Passes script s (choices ++ i.toList) v

section Silently
variable {script : Script} {s u v : State} {seen : List Key} {r : Except Failure State}

theorem Silently.running (h : Silently script s u) (hs : Running script s) : Running script u := by
  induction h with
  | refl => exact hs
  | tail _ hm ih => exact ih.navigate hm.1 hm.2

theorem Silently.endless (h : Silently script s u) (hs : Endless script s) : Endless script u := by
  induction h with
  | refl => exact hs
  | tail _ hm ih => exact ih.navigate hm.2

theorem Endless.not_halts (h : Endless script s) (hs : Running script s) : ¬ Halts script s r := by
  obtain ⟨hquiet, s', hmove⟩ := hs.not_rests_iff.mp (h 0 s rfl)
  rintro (hq | ⟨-, hn⟩)
  · exact hq hquiet
  · simp [hmove] at hn

/-- Where the loop reports nothing, silent moves come to a halt. -/
theorem Settles.exists_halts (h : Settles script seen s r) (hr : ∀ t, r ≠ .error (.loop t)) :
    ∃ u, Silently script s u ∧ Halts script u r := by
  induction h with
  | rest _ hq => exact ⟨_, .refl, .rest hq⟩
  | again => exact absurd rfl (hr _)
  | stuck hq _ hn => exact ⟨_, .refl, .stuck hq hn⟩
  | move hq _ hn _ ih =>
    obtain ⟨u, hu, hhalt⟩ := ih hr
    exact ⟨u, .head ⟨hq, hn⟩ hu, hhalt⟩

/-- The loop passes each state that silent moves lead to, unless it reports that they lead nowhere.
-/
theorem Settles.of_silently (h : Settles script seen s r) (hr : ∀ t, r ≠ .error (.loop t))
    (hs : Silently script s u) : ∃ seen', Settles script seen' u r := by
  induction hs using Relation.ReflTransGen.head_induction_on generalizing seen with
  | refl => exact ⟨seen, h⟩
  | head hm _ ih =>
    obtain ⟨hq, hn⟩ := hm
    cases h with
    | rest _ hq' => exact absurd hq hq'
    | again => exact absurd rfl (hr _)
    | stuck _ _ hn' => simp [hn] at hn'
    | move _ _ hn' h =>
      obtain rfl := Except.ok.inj (hn.symm.trans hn')
      exact ih h

theorem Halts.unique {r' : Except Failure State} (h : Halts script u r)
    (hs : Settles script seen u r') (hr : ∀ t, r' ≠ .error (.loop t)) : r' = r := by
  cases h with
  | rest hq =>
    cases hs with
    | rest => rfl
    | again hq' => exact absurd hq' hq
    | stuck hq' => exact absurd hq' hq
    | move hq' => exact absurd hq' hq
  | stuck hq hn =>
    cases hs with
    | rest _ hq' => exact absurd hq hq'
    | again => exact absurd rfl (hr _)
    | stuck _ _ hn' => rw [← hn, hn']
    | move _ _ hn' => simp [hn] at hn'

/-- The loop ends as its silent moves come to a halt. -/
theorem settle_of_halts (hs : Running script s) (h : Silently script s u)
    (hu : Halts script u r) : settle script (settleBound script s) [] s = r := by
  have hloop : ∀ t, settle script (settleBound script s) [] s ≠ .error (.loop t) := by
    intro t ht
    have he := h.endless ((settle_loop_iff hs).mp ⟨t, ht⟩)
    exact he.not_halts (h.running hs) hu
  obtain ⟨seen, hset⟩ := (settles_settleBound hs.coherent).of_silently hloop h
  exact hu.unique hset hloop

/-- What silent moves lead to is shown by the call. -/
theorem step_of_silently {answer : Option Answer} (hs : Coherent script s)
    (hp : proceed script s answer = .ok u) (h : Silently script u v) (hq : ¬ v.Quiet) :
    step script s answer = .ok (show? v) := by
  unfold step emit
  rw [hp]
  dsimp only
  rw [settle_of_halts (running_of_proceed hs hp) h (.rest hq)]
  rfl

theorem mem_visited_of_navigate (h : navigate script s = .ok u) {t : String}
    (ht : t ∈ s.visited) : t ∈ u.visited := by
  cases leaves_of_navigate h with
  | jump => exact mem_visit.mpr (.inl ht)
  | back => exact mem_visit.mpr (.inl ht)
  | finish => exact ht

theorem Settles.mem_visited (h : Settles script seen s (.ok u)) {t : String}
    (ht : t ∈ s.visited) : t ∈ u.visited := by
  generalize hr : Except.ok u = r at h
  induction h with
  | rest =>
    obtain rfl := Except.ok.inj hr
    exact ht
  | again => simp at hr
  | stuck => simp at hr
  | move _ _ hn _ ih => exact ih (mem_visited_of_navigate hn ht) hr

theorem Shows.visited {e : Option Event} (h : Shows s u e) : u.visited = s.visited := by
  cases h <;> rfl

theorem Shows.current {e : Option Event} (h : Shows s u e) : u.current = s.current := by
  cases h <;> rfl

/-- A call keeps what its silent moves have visited, unless it fails because they lead nowhere. -/
theorem visited_of_silently {answer : Option Answer} (hopen : Unbroken script)
    (hs : Coherent script s) (hp : proceed script s answer = .ok u) (h : Silently script u v)
    {title : String} (ht : title ∈ v.visited) :
    (∃ x e, step script s answer = .ok (x, e) ∧ title ∈ x.visited) ∨
      ∃ t, step script s answer = .error (.loop t) := by
  cases hstep : step script s answer with
  | error f =>
    unfold step at hstep
    rw [hp] at hstep
    obtain ⟨t, rfl⟩ := exists_loop_of_emit_error hopen (running_of_proceed hs hp).coherent hstep
    exact .inr ⟨t, rfl⟩
  | ok r =>
    obtain ⟨x, e⟩ := r
    obtain ⟨w, y, hw, hy, hshow⟩ := step_eq_ok hstep
    obtain rfl := Except.ok.inj (hp.symm.trans hw)
    have hset := settles_settleBound (running_of_proceed hs hp).coherent
    rw [hy] at hset
    obtain ⟨seen, hrest⟩ := hset.of_silently (by simp) h
    have hshows := shows_show? y
    rw [hshow] at hshows
    refine .inl ⟨x, e, rfl, ?_⟩
    rw [hshows.visited]
    exact hrest.mem_visited ht

end Silently

section Called
variable {script : Script} {s u : State} {choices : List Nat}

theorem Called.coherent (h : Called script s choices u) (hs : Coherent script s) :
    Coherent script u := by
  induction h with
  | here => exact hs
  | call _ _ hstep ih => exact ih.step hstep

/-- A call that shows something is followed by one that sets out from there. -/
theorem Passes.shown {v w : State} {e : Event} {i : Option Nat} (h : Passes script s choices u)
    (hs : Shows u v (some e)) (hp : proceed script v (reply i) = .ok w) :
    Passes script s (choices ++ i.toList) w := by
  refine h.call i hs.not_quiet ?_
  rw [hs.show?_eq]
  exact hp

/-- A state that calls pass is passed by one of them. -/
theorem Passes.exists_call (h : Passes script s choices u) (hs : Running script s) :
    ∃ before x i w, Called script s before x ∧ choices = before ++ i.toList ∧
      proceed script x (reply i) = .ok w ∧ Silently script w u := by
  induction h with
  | here =>
    exact ⟨[], s, none, s, .here, rfl, proceed_reply_none hs.phase, .refl⟩
  | quiet _ hq hn ih =>
    obtain ⟨before, x, i, w, hx, hchoices, hp, hw⟩ := ih
    exact ⟨before, x, i, w, hx, hchoices, hp, hw.tail ⟨hq, hn⟩⟩
  | @call choices u v i _ hq hp ih =>
    obtain ⟨before, x, j, w, hx, rfl, hpx, hw⟩ := ih
    have hstep := step_of_silently (hx.coherent hs.coherent) hpx hw hq
    exact ⟨_, (show? u).1, i, v, hx.call j hstep, rfl, hp, .refl⟩

end Called

end Dialogue.Session
