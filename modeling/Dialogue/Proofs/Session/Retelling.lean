import Dialogue.Proofs.Session.Telling

/-! A session shows what the telling by visits tells: the same events in the same order, each with
the same titles visited, and the same ending. -/
namespace Dialogue.Session

/-- How a telling ends where a session ends so: a session reports an endless silent run, and a
telling only goes on and on. -/
def Ending.told : Ending → Ending
  | .failed (.loop _) => .unfinished
  | e => e

/-- What `k` calls show is what a telling tells: its first `k` events, or all of it once no further
call can show any. -/
structure Agrees (k : Nat) (p t : Story) : Prop where
  partly : p.ending = .unfinished → p.moments.length = k ∧ p.moments <+: t.moments
  wholly : p.ending ≠ .unfinished → t = ⟨p.moments, p.ending.told⟩

theorem agrees_of_ending {k : Nat} {e : Ending} (he : e ≠ .unfinished) :
    Agrees k ⟨[], e⟩ ⟨[], e.told⟩ where
  partly h := absurd h he
  wholly _ := rfl

theorem Agrees.prepend {k : Nat} {p t : Story} (h : Agrees k p t) (x : Event × Finset String) :
    Agrees (k + 1) (p.prepend [x]) (t.prepend [x]) where
  partly hp := by
    obtain ⟨hlen, hpre⟩ := h.partly hp
    exact ⟨congrArg (· + 1) hlen, (List.prefix_append_right_inj [x]).mpr hpre⟩
  wholly hp := by
    rw [h.wholly hp]
    rfl

theorem told_of_not_loop {f : Failure} (h : ∀ t, f ≠ .loop t) :
    (Ending.failed f).told = .failed f := by
  cases f with
  | loop t => exact absurd rfl (h t)
  | _ => rfl

/-- Enough visits tell what `k` calls from a state show. -/
def Retold (script : Script) (seed : List String) (k : Nat) (entered : List String) (s : State)
    (choices : List Nat) (p : Story) : Prop :=
  ∃ m, ∀ n, m ≤ n → Agrees k p (remainder script seed n entered s choices)

section Playing
variable {script : Script} {seed entered : List String} {s : State} {k m : Nat}
  {choices rest : List Nat}

theorem Follows.retold {s' : State} {p : Story}
    (h : Follows script seed m entered s choices (.ok s') rest)
    (h' : ∀ entered', Tracks script seed entered' s' → Retold script seed k entered' s' rest p) :
    Retold script seed k entered s choices p := by
  obtain ⟨entered', ht, hm⟩ := h
  obtain ⟨m', hagrees⟩ := h' entered' ht
  refine ⟨m' + m, fun n hn => ?_⟩
  obtain ⟨i, rfl⟩ : ∃ i, n = i + m := ⟨n - m, by omega⟩
  rw [hm]
  exact hagrees i (by omega)

theorem Follows.retold_error {f : Failure}
    (h : Follows script seed m entered s choices (.error f) rest)
    (hf : ∀ t, f ≠ .loop t) : Retold script seed k entered s choices ⟨[], .failed f⟩ := by
  refine ⟨m, fun n hn => ?_⟩
  obtain ⟨i, rfl⟩ : ∃ i, n = i + m := ⟨n - m, by omega⟩
  have hagrees := agrees_of_ending (k := k) (e := .failed f) (by simp)
  rw [told_of_not_loop hf] at hagrees
  rw [h i]
  exact hagrees

theorem Tracks.retold_loop {title : Option String} (h : Tracks script seed entered s)
    (hs : Running script s)
    (hl : settle script (settleBound script s) [] s = .error (.loop title)) :
    Retold script seed k entered s choices ⟨[], .failed (.loop title)⟩ := by
  have he := (settle_loop_iff hs).mp ⟨title, hl⟩
  refine ⟨0, fun n _ => ?_⟩
  rw [remainder_of_endless h hs he]
  exact agrees_of_ending (e := .failed (.loop title)) (by simp)

/-- What a state at rest shows, if the calls after it are retold. -/
theorem Tracks.retold_show {s' : State} {e : Option Event} (h : Tracks script seed entered s)
    (hs : Running script s) (hq : ¬ s.Quiet) (hshow : Shows s s' e)
    (hrest : ∀ s' entered', Tracks script seed entered' s' →
      Retold script seed k entered' s' choices (play script k s' choices)) :
    Retold script seed (k + 1) entered s choices
      (.ofStep (.ok (s', e)) fun s' => play script k s' choices) := by
  cases e with
  | some e =>
    obtain ⟨ht, heq⟩ := h.shows hshow
    obtain ⟨m, hagrees⟩ := hrest s' entered ht
    refine ⟨m, fun n hn => ?_⟩
    rw [heq]
    exact (hagrees n hn).prepend _
  | none =>
    cases hshow with
    | nothing hn =>
      -- A state at rest shows nothing only if the dialogue is over.
      have hended : s.phase = .ended := by
        refine hs.phase.resolve_left fun hp => ?_
        rcases hn with hn | hn | hn
        · exact hn hp
        · exact hs.coherent.content_ne_none hp hn
        · exact hq hn
      refine ⟨0, fun n _ => ?_⟩
      rw [remainder_of_ended h hended]
      exact agrees_of_ending (e := .ended s.visited.toFinset) (by simp)

/-- What a session shows next, if the calls after it are retold. -/
theorem Tracks.emit (h : Tracks script seed entered s) (hs : Running script s)
    (hrest : ∀ s' entered', Tracks script seed entered' s' →
      Retold script seed k entered' s' choices (play script k s' choices)) :
    Retold script seed (k + 1) entered s choices
      (.ofStep (emit script s) fun s' => play script k s' choices) := by
  have hset := settles_settleBound hs.coherent
  unfold Session.emit
  cases hr : settle script (settleBound script s) [] s with
  | error f =>
    rw [hr] at hset
    by_cases hloop : ∃ title, f = .loop title
    · obtain ⟨title, rfl⟩ := hloop
      exact h.retold_loop hs hr
    · have hf : ∀ title, f ≠ .loop title := fun title htitle => hloop ⟨title, htitle⟩
      obtain ⟨m, hm⟩ := h.settles hset (fun t ht => hf t (Except.error.inj ht)) choices
      exact hm.retold_error hf
  | ok u =>
    rw [hr] at hset
    obtain ⟨m, hm⟩ := h.settles hset (by simp) choices
    obtain ⟨hrun, hquiet⟩ := settle_preserves (P := Running script)
      (fun _ _ h hq hn => h.navigate hq hn) hr hs
    refine hm.retold fun entered' hu => ?_
    exact hu.retold_show hrun hquiet (shows_show? u) hrest

theorem Tracks.ofStep (h : Tracks script seed entered s) {answer : Option Answer}
    (hp : ∃ m, Follows script seed m entered s choices (Session.proceed script s answer) rest)
    (hrest : ∀ s' entered', Tracks script seed entered' s' →
      Retold script seed k entered' s' rest (play script k s' rest)) :
    Retold script seed (k + 1) entered s choices
      (.ofStep (step script s answer) fun s' => play script k s' rest) := by
  obtain ⟨m, hm⟩ := hp
  unfold step
  cases hproceed : Session.proceed script s answer with
  | error f =>
    rw [hproceed] at hm
    refine hm.retold_error ?_
    rintro t rfl
    exact kind_of_proceed_error hproceed rfl
  | ok t =>
    rw [hproceed] at hm
    exact hm.retold fun entered' ht =>
      ht.emit (running_of_proceed h.coherent hproceed) hrest

/-- From any state of a session, its calls show what is left to tell. -/
theorem Tracks.play (k : Nat) (h : Tracks script seed entered s) (choices : List Nat) :
    Retold script seed k entered s choices (Session.play script k s choices) := by
  induction k generalizing entered s choices with
  | zero => exact ⟨0, fun n _ => ⟨fun _ => ⟨rfl, List.nil_prefix⟩, fun hp => absurd rfl hp⟩⟩
  | succ k ih =>
    unfold Session.play
    cases hpend : s.pending with
    | none =>
      have hp : s.phase ≠ .choicePending := h.coherent.pending_eq_none_iff.mp hpend
      exact h.ofStep (h.proceed hp choices) fun s' entered' ht => ih ht choices
    | some options =>
      have hp : s.phase = .choicePending := by
        by_contra hp
        simp [h.coherent.pending_eq_none_iff.mpr hp] at hpend
      cases choices with
      | nil =>
        refine ⟨0, fun n _ => ?_⟩
        rw [h.remainder_of_waiting hp]
        exact agrees_of_ending (e := .waiting) (by simp)
      | cons i rest =>
        exact h.ofStep ⟨1, h.answer hp i rest⟩ fun s' entered' ht => ih ht rest

end Playing

/-- Two ways to give one run part by part: the same events in the same order with the same titles
visited, the same ending, and a reported loop on the one side where the other goes on and on without
telling any more. -/
structure Retells (p t : Nat → Story) : Prop where
  moments : ∀ (i : Nat) (x : Event × Finset String),
    (∃ k, (p k).moments[i]? = some x) ↔ ∃ n, (t n).moments[i]? = some x
  ending : ∀ e : Ending, e.told ≠ .unfinished →
    ((∃ k, (p k).ending = e) ↔ ∃ n, (t n).ending = e)
  endless : (∃ k title, (p k).ending = .failed (.loop title)) ↔
    (∀ n, (t n).ending = .unfinished) ∧ ∃ b, ∀ n, (t n).moments.length ≤ b

theorem Ending.told_eq_or_loop (e : Ending) : e.told = e ∨ ∃ title, e = .failed (.loop title) := by
  cases e with
  | failed f =>
    cases f with
    | loop title => exact .inr ⟨title, rfl⟩
    | _ => exact .inl rfl
  | _ => exact .inl rfl

theorem Ending.eq_of_told_eq {e e' : Ending} (h : e'.told = e) (he : e ≠ .unfinished) :
    e' = e := by
  rcases e'.told_eq_or_loop with hs | ⟨title, rfl⟩
  · exact hs.symm.trans h
  · exact absurd h.symm he

private theorem getElem?_of_initial {α : Type} {l m : List α} (h : l <+: m) {i : Nat}
    (hi : i < l.length) : l[i]? = m[i]? := by
  obtain ⟨r, rfl⟩ := h
  rw [List.getElem?_append_left hi]

private theorem getElem?_eq_some_of_initial {α : Type} {l m : List α} (h : l <+: m) {i : Nat}
    {x : α} (hx : l[i]? = some x) : m[i]? = some x := by
  rw [← getElem?_of_initial h (List.getElem?_eq_some_iff.mp hx).1]
  exact hx

section Retells
variable {p t : Nat → Story} {k : Nat} {q u : Story}

theorem Agrees.moments_initial (h : Agrees k q u) : q.moments <+: u.moments := by
  by_cases hq : q.ending = .unfinished
  · exact (h.partly hq).2
  · rw [h.wholly hq]

/-- More calls than there are events to tell come to the ending. -/
theorem Agrees.eq_of_length_lt (h : Agrees k q u) (hk : u.moments.length < k) :
    q.ending ≠ .unfinished ∧ u = ⟨q.moments, q.ending.told⟩ := by
  have hq : q.ending ≠ .unfinished := by
    intro hq
    obtain ⟨hlen, hpre⟩ := h.partly hq
    have hle := hpre.length_le
    omega
  exact ⟨hq, h.wholly hq⟩

theorem Agrees.moment_iff (h : Agrees k q u) {i : Nat} (hi : i < k) (x : Event × Finset String) :
    q.moments[i]? = some x ↔ u.moments[i]? = some x := by
  by_cases hq : q.ending = .unfinished
  · obtain ⟨hlen, hpre⟩ := h.partly hq
    rw [getElem?_of_initial hpre (by omega)]
  · rw [h.wholly hq]

section Stages
variable (ht : ∀ m n, m ≤ n → (t m).Extends (t n))
  (h : ∀ k, ∃ m, ∀ n, m ≤ n → Agrees k (p k) (t n))
include ht h

theorem exists_moment_iff (i : Nat) (x : Event × Finset String) :
    (∃ k, (p k).moments[i]? = some x) ↔ ∃ n, (t n).moments[i]? = some x := by
  constructor
  · rintro ⟨k, hk⟩
    obtain ⟨m, hm⟩ := h k
    exact ⟨m, getElem?_eq_some_of_initial (hm m le_rfl).moments_initial hk⟩
  · rintro ⟨n, hn⟩
    obtain ⟨m, hm⟩ := h (i + 1)
    have hagrees := hm (max m n) (le_max_left m n)
    have hx := getElem?_eq_some_of_initial (ht n _ (le_max_right m n)).moments hn
    exact ⟨i + 1, (hagrees.moment_iff (Nat.lt_succ_self i) x).mpr hx⟩

theorem exists_ending_iff {e : Ending} (he : e.told ≠ .unfinished) :
    (∃ k, (p k).ending = e) ↔ ∃ n, (t n).ending = e := by
  have hne : e ≠ .unfinished := by
    rintro rfl
    exact he rfl
  constructor
  · rintro ⟨k, rfl⟩
    obtain ⟨m, hm⟩ := h k
    refine ⟨m, ?_⟩
    rw [(hm m le_rfl).wholly hne]
    rcases (p k).ending.told_eq_or_loop with hs | ⟨title, hl⟩
    · exact hs
    · rw [hl] at he
      exact absurd rfl he
  · rintro ⟨n, rfl⟩
    obtain ⟨m, hm⟩ := h ((t n).moments.length + 1)
    have hagrees := hm (max m n) (le_max_left m n)
    rw [(ht n _ (le_max_right m n)).ending hne] at hagrees
    obtain ⟨-, heq⟩ := hagrees.eq_of_length_lt (Nat.lt_succ_self _)
    exact ⟨_, Ending.eq_of_told_eq (congrArg Story.ending heq).symm hne⟩

theorem exists_loop_iff : (∃ k title, (p k).ending = .failed (.loop title)) ↔
    (∀ n, (t n).ending = .unfinished) ∧ ∃ b, ∀ n, (t n).moments.length ≤ b := by
  constructor
  · rintro ⟨k, title, hk⟩
    obtain ⟨m, hm⟩ := h k
    have hmax : ∀ n, t (max m n) = ⟨(p k).moments, .unfinished⟩ := by
      intro n
      rw [(hm _ (le_max_left m n)).wholly (by simp [hk]), hk]
      rfl
    refine ⟨fun n => ?_, (p k).moments.length, fun n => ?_⟩
    · by_contra hn
      have heq := (ht n _ (le_max_right m n)).ending hn
      rw [hmax n] at heq
      exact hn (heq ▸ rfl)
    · have hle := (ht n _ (le_max_right m n)).moments.length_le
      rw [hmax n] at hle
      exact hle
  · rintro ⟨hend, b, hb⟩
    obtain ⟨m, hm⟩ := h (b + 1)
    obtain ⟨hne, heq⟩ := (hm m le_rfl).eq_of_length_lt (Nat.lt_succ_of_le (hb m))
    have htold : (p (b + 1)).ending.told = .unfinished := by
      rw [← hend m, heq]
    rcases (p (b + 1)).ending.told_eq_or_loop with hs | ⟨title, hl⟩
    · exact absurd (hs.symm.trans htold) hne
    · exact ⟨b + 1, title, hl⟩

theorem retells_of_agrees : Retells p t where
  moments := exists_moment_iff ht h
  ending _ he := exists_ending_iff ht h he
  endless := exists_loop_iff ht h

end Stages

end Retells

/-- From the start on, a session shows the events of the telling by visits. Right after the start
the seed and the start title are visited, and a start without a node fails as the first visit does.
-/
theorem play_retells_tell (script : Script) (seed : List String) (title : String)
    (choices : List Nat) :
    match start script { visited := seed } title with
    | .error f => ∀ n, tell script seed (n + 1) [] ⟨title, false, []⟩ choices = ⟨[], .failed f⟩
    | .ok s => s.visited.toFinset = (seed ++ [title]).toFinset ∧
      Retells (fun k => play script k s choices)
        (fun n => tell script seed n [] ⟨title, false, []⟩ choices) := by
  cases hs : start script { visited := seed } title with
  | error f =>
    intro n
    exact tell_succ_of_error (goto_eq_error_iff.mp hs) n false [] choices
  | ok s =>
    obtain ⟨node, ho, rfl⟩ := start_eq_ok_iff.mp hs
    have hv : ∀ t, t ∈ seed ↔ t ∈ seed ++ [] := by simp
    have hcallers : Callers script { visited := seed } := by
      intro t ht
      simp at ht
    have htracks := tracks_entering hcallers hv ho false
    refine ⟨htracks.toFinset, retells_of_agrees (fun m n h => tell_extends script seed h _ _ _) ?_⟩
    intro k
    obtain ⟨m, hm⟩ := htracks.play k choices
    refine ⟨m + 1, fun n hn => ?_⟩
    obtain ⟨n, rfl⟩ : ∃ i, n = i + 1 := ⟨n - 1, by omega⟩
    rw [tell_succ (s := { visited := seed }) hv ho]
    exact hm n (by omega)

/-- A node with a detour to another one. -/
private def errand : Script where
  nodes := [
    { title := "Door", body := ["Bob: Well?", "-> Look around", "<<detour Yard>>"] },
    { title := "Yard", body := ["It rains."] }]

/-- Back at the door its line is not said again, and its option is shown anew. -/
example : (start errand {} "Door").toOption.map
    (fun s => (play errand 5 s [0]).moments.map Prod.fst) =
      some ((tell errand [] 3 [] ⟨"Door", false, []⟩ [0]).moments.map Prod.fst) := rfl

end Dialogue.Session
