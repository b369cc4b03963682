import Dialogue.Proofs.Body.Marks
import Dialogue.Proofs.Session.Calls

/-! States abreast: two states of a script that differ only in titles that no gate names, and in the
marks that show them. They make the same moves and show the same. -/
namespace Dialogue.Session

/-- An event without the marks of its options. -/
def Event.unmark : Event → Event
  | .line speaker text node => .line speaker text node.unmark
  | .choice options node => .choice (options.map Choice.unmark) node.unmark
  | .command k node => .command k node.unmark

/-- A state without its visited titles and the marks that come of them. -/
def State.unmark (s : State) : State :=
  { s with
    content := s.content.map Compiled.unmark
    visited := []
    pending := s.pending.map (·.map Choice.unmark) }

/-- Two states of a script that have everything in common but marks and visited titles, and of these
the ones that gates name. -/
structure Abreast (script : Script) (s s' : State) : Prop where
  unmark : s.unmark = s'.unmark
  visited : ∀ t ∈ script.gatedTitles, (t ∈ s.visited ↔ t ∈ s'.visited)

/-- What two steps come to when they go abreast: such states, and events that differ in marks only.
-/
def ShownAbreast (script : Script) (r r' : State × Option Event) : Prop :=
  Abreast script r.1 r'.1 ∧ r.2.map Event.unmark = r'.2.map Event.unmark

/-- A failure without the node at which a loop was found. -/
def Failure.unplace : Failure → Failure
  | .loop _ => .loop none
  | f => f

@[simp] theorem Failure.kind_unplace (f : Failure) : f.unplace.kind = f.kind := by
  cases f <;> rfl

/-- Results that succeed alike or fail alike. A loop may be found at different nodes. -/
inductive Paired {α : Type} (R : α → α → Prop) : Except Failure α → Except Failure α → Prop
  | ok {a b : α} (h : R a b) : Paired R (.ok a) (.ok b)
  | error {f f' : Failure} (h : f.unplace = f'.unplace) : Paired R (.error f) (.error f')

theorem Paired.map {α β : Type} {R : α → α → Prop} {S : β → β → Prop} {r r' : Except Failure α}
    (h : Paired R r r') {f : α → β} (hf : ∀ a b, R a b → S (f a) (f b)) :
    Paired S (r.map f) (r'.map f) := by
  cases h with
  | ok h => exact .ok (hf _ _ h)
  | error h => exact .error h

theorem Paired.swap {α : Type} {R S : α → α → Prop} {r r' : Except Failure α} (h : Paired R r r')
    (hR : ∀ a b, R a b → S b a) : Paired S r' r := by
  cases h with
  | ok h => exact .ok (hR _ _ h)
  | error h => exact .error h.symm

namespace State
variable (s : State)

theorem jump?_unmark : s.unmark.jump? = s.jump? := by
  unfold jump? unmark
  cases s.content <;> rfl

theorem quiet_unmark_iff : s.unmark.Quiet ↔ s.Quiet := by
  cases hc : s.content with
  | none => simp [Quiet, unmark, hc]
  | some c =>
    have hu : s.unmark.content = some c.unmark := by simp [unmark, hc]
    rw [quiet_iff hu, quiet_iff hc]
    simp [unmark]

theorem leaving_unmark (o : Choice) : s.unmark.leaving o.unmark = (s.leaving o).unmark := by
  unfold leaving
  rw [Choice.unmark_detour]
  split_ifs <;> rfl

end State

/-- What a state shows is the same with and without marks. -/
theorem show?_unmark (s : State) :
    show? s.unmark = ((show? s).1.unmark, (show? s).2.map Event.unmark) := by
  by_cases hp : s.phase = .emitting
  · cases hc : s.content with
    | none => simp [show?, State.unmark, hp, hc]
    | some c =>
      cases hl : c.lines[s.lineIndex]? with
      | some line => simp [show?, State.unmark, Event.unmark, hp, hc, hl]
      | none =>
        by_cases ho : c.options = []
        · cases hk : c.command <;> simp [show?, State.unmark, Event.unmark, hp, hc, hl, ho, hk]
        · simp [show?, State.unmark, Event.unmark, hp, hc, hl, ho]
  · simp [show?, State.unmark, hp]

section Abreast
variable {script : Script} {s s' u : State}

theorem Abreast.symm (h : Abreast script s s') : Abreast script s' s :=
  ⟨h.unmark.symm, fun t ht => (h.visited t ht).symm⟩

theorem Abreast.phase (h : Abreast script s s') : s.phase = s'.phase :=
  (congrArg State.phase h.unmark :)

theorem Abreast.current (h : Abreast script s s') : s.current = s'.current :=
  (congrArg State.current h.unmark :)

theorem Abreast.returnStack (h : Abreast script s s') : s.returnStack = s'.returnStack :=
  (congrArg State.returnStack h.unmark :)

theorem Abreast.jump? (h : Abreast script s s') : s.jump? = s'.jump? := by
  rw [← s.jump?_unmark, h.unmark, s'.jump?_unmark]

theorem Abreast.quiet_iff (h : Abreast script s s') : s.Quiet ↔ s'.Quiet := by
  rw [← s.quiet_unmark_iff, h.unmark, s'.quiet_unmark_iff]

theorem Abreast.entering (h : Abreast script s s') {n : Node} (hn : n ∈ script.nodes)
    (returning : Bool) : Abreast script (s.entering n returning) (s'.entering n returning) where
  unmark := by
    have hcontent : (n.compile s.visited).unmark = (n.compile s'.visited).unmark :=
      Node.compile_unmark_congr fun g hg => h.visited _ (Script.mem_gatedTitles hn hg)
    have hlines : (n.compile s.visited).lines = (n.compile s'.visited).lines :=
      (congrArg Compiled.lines hcontent :)
    have hspeaker : s.activeSpeaker = s'.activeSpeaker :=
      (congrArg State.activeSpeaker h.unmark :)
    simp only [State.unmark, State.entering, Option.map_some, hcontent, hlines, h.returnStack,
      hspeaker]
  visited t ht := by
    rw [State.entering_visited, State.entering_visited, mem_visit, mem_visit, h.visited t ht]

theorem goto_paired (h : Abreast script s s') (title : String) (returning : Bool) :
    Paired (Abreast script) (goto script s title returning) (goto script s' title returning) := by
  rw [goto_eq, goto_eq]
  cases ho : openNode script title with
  | error f => exact .error rfl
  | ok n => exact .ok (h.entering (mem_of_openNode ho) returning)

theorem navigate_paired (h : Abreast script s s') :
    Paired (Abreast script) (navigate script s) (navigate script s') := by
  have hlast : s'.returnStack.getLast? = s.returnStack.getLast? := by rw [h.returnStack]
  rw [navigate_eq, navigate_eq, ← h.jump?, hlast]
  cases s.jump? with
  | some title => exact goto_paired h title false
  | none =>
    cases s.returnStack.getLast? with
    | some caller =>
      have hpopped : Abreast script s.popped s'.popped :=
        ⟨(congrArg State.popped h.unmark :), h.visited⟩
      exact goto_paired hpopped caller true
    | none =>
      have hended :=
        congrArg (fun u : State => { u with phase := .ended, pending := none }) h.unmark
      exact .ok ⟨hended, h.visited⟩

theorem option?_unmark (options : List Choice) (a : Answer) :
    option? (options.map Choice.unmark) a = (option? options a).map Choice.unmark := by
  unfold option?
  cases a.index? with
  | none => rfl
  | some i =>
    dsimp only
    split_ifs
    · exact List.getElem?_map
    · rfl

theorem Abreast.leaving (h : Abreast script s s') {o o' : Choice} (ho : o.unmark = o'.unmark) :
    Abreast script (s.leaving o) (s'.leaving o') where
  unmark := by
    rw [← State.leaving_unmark, ← State.leaving_unmark, h.unmark, ho]
  visited := by simpa using h.visited

theorem resolve_paired (h : Abreast script s s') (a : Answer) :
    Paired (Abreast script) (resolve script s a) (resolve script s' a) := by
  have hpending : s.pending.map (·.map Choice.unmark) = s'.pending.map (·.map Choice.unmark) :=
    (congrArg State.pending h.unmark :)
  rw [resolve_eq, resolve_eq, ← h.current]
  cases hs : s.pending with
  | none =>
    rw [hs] at hpending
    rw [Option.map_eq_none_iff.mp hpending.symm]
    exact .error rfl
  | some options =>
    rw [hs] at hpending
    obtain ⟨options', hs', hoptions⟩ := Option.map_eq_some_iff.mp hpending.symm
    have hlength : options'.length = options.length := by simpa using congrArg List.length hoptions
    have hnamed :
        (option? options' a).map Choice.unmark = (option? options a).map Choice.unmark := by
      rw [← option?_unmark, hoptions, option?_unmark]
    rw [hs']
    dsimp only
    cases ho : option? options a with
    | none =>
      rw [ho] at hnamed
      rw [Option.map_eq_none_iff.mp hnamed, hlength]
      exact .error rfl
    | some o =>
      rw [ho] at hnamed
      obtain ⟨o', ho', hunmark⟩ := Option.map_eq_some_iff.mp hnamed
      have htext : o'.text = o.text := (congrArg Choice.text hunmark :)
      have htarget : o'.target = o.target := (congrArg Choice.target hunmark :)
      rw [ho']
      dsimp only
      rw [htarget, htext]
      cases o.target with
      | none => exact .error rfl
      | some title => exact goto_paired (h.leaving hunmark.symm) title false

theorem proceed_paired (h : Abreast script s s') (answer : Option Answer) :
    Paired (Abreast script) (proceed script s answer) (proceed script s' answer) := by
  unfold proceed
  rw [← h.phase, ← h.current]
  split
  · exact .error rfl
  · exact .error rfl
  · exact resolve_paired h _
  · exact .error rfl
  · exact .ok h
  · exact navigate_paired h
  · exact .ok h

theorem Paired.of_ok {α : Type} {R : α → α → Prop} {a : α} {r : Except Failure α}
    (h : Paired R (.ok a) r) : ∃ b, r = .ok b ∧ R a b := by
  cases h with
  | ok h => exact ⟨_, rfl, h⟩

theorem Paired.of_error {α : Type} {R : α → α → Prop} {f : Failure} {r : Except Failure α}
    (h : Paired R (.error f) r) : ∃ f', r = .error f' := by
  cases h with
  | @error _ f' => exact ⟨f', rfl⟩

/-- Silent moves of one state are matched move by move from a state abreast of it. -/
theorem Abreast.exists_silently (h : Abreast script s s') (hs : Silently script s u) :
    ∃ u', Silently script s' u' ∧ Abreast script u u' := by
  induction hs with
  | refl => exact ⟨s', .refl, h⟩
  | tail _ hm ih =>
    obtain ⟨hq, hn⟩ := hm
    obtain ⟨u', hu', hab⟩ := ih
    have hpair := navigate_paired hab
    rw [hn] at hpair
    obtain ⟨v', hn', hv⟩ := hpair.of_ok
    exact ⟨v', hu'.tail ⟨hab.quiet_iff.mp hq, hn'⟩, hv⟩

theorem Abreast.exists_halts (h : Abreast script s s') {r : Except Failure State}
    (hs : Halts script s r) : ∃ r', Halts script s' r' ∧ Paired (Abreast script) r r' := by
  cases hs with
  | rest hq => exact ⟨_, .rest (mt h.quiet_iff.mpr hq), .ok h⟩
  | @stuck f hq hn =>
    have hpair := navigate_paired h
    rw [hn] at hpair
    generalize hn' : navigate script s' = r' at hpair
    have hhalt : ∀ f', r' = .error f' → Halts script s' r' := by
      rintro f' rfl
      exact .stuck (h.quiet_iff.mp hq) hn'
    exact ⟨r', hpair.of_error.elim hhalt, hpair⟩

/-- Where the silent moves of one state come to a halt, those of the other do alike. -/
theorem settle_paired_of_halts (h : Abreast script s s') (hs : Running script s)
    (hs' : Running script s') (hu : Silently script s u) {r : Except Failure State}
    (hr : Halts script u r) :
    Paired (Abreast script) (settle script (settleBound script s) [] s)
      (settle script (settleBound script s') [] s') := by
  obtain ⟨u', hu', hab⟩ := h.exists_silently hu
  obtain ⟨r', hr', hpair⟩ := hab.exists_halts hr
  rw [settle_of_halts hs hu hr, settle_of_halts hs' hu' hr']
  exact hpair

/-- The keys of the two runs differ and come back after different numbers of moves, but silent moves
lead nowhere in both or in none. -/
theorem settle_paired (h : Abreast script s s') (hs : Running script s)
    (hs' : Running script s') :
    Paired (Abreast script) (settle script (settleBound script s) [] s)
      (settle script (settleBound script s') [] s') := by
  by_cases hloop : ∃ t, settle script (settleBound script s) [] s = .error (.loop t)
  · by_cases hloop' : ∃ t, settle script (settleBound script s') [] s' = .error (.loop t)
    · obtain ⟨t, ht⟩ := hloop
      obtain ⟨t', ht'⟩ := hloop'
      rw [ht, ht']
      exact .error rfl
    · obtain ⟨u, hu, hr⟩ :=
        (settles_settleBound hs'.coherent).exists_halts (not_exists.mp hloop')
      exact (settle_paired_of_halts h.symm hs' hs hu hr).swap fun _ _ => Abreast.symm
  · obtain ⟨u, hu, hr⟩ := (settles_settleBound hs.coherent).exists_halts (not_exists.mp hloop)
    exact settle_paired_of_halts h hs hs' hu hr

theorem Abreast.shown (h : Abreast script s s') :
    ShownAbreast script (show? s) (show? s') := by
  have hshow : show? s.unmark = show? s'.unmark := by rw [h.unmark]
  rw [show?_unmark, show?_unmark] at hshow
  obtain ⟨hstate, hevent⟩ := Prod.mk.inj hshow
  refine ⟨⟨hstate, ?_⟩, hevent⟩
  rw [(shows_show? s).visited, (shows_show? s').visited]
  exact h.visited

/-- Steps of states abreast show the same up to marks, or fail for one reason. -/
theorem step_paired (h : Abreast script s s') (hs : Coherent script s) (hs' : Coherent script s')
    (answer : Option Answer) :
    Paired (ShownAbreast script) (step script s answer) (step script s' answer) := by
  have hpair := proceed_paired h answer
  unfold step
  generalize hp : proceed script s answer = r, hp' : proceed script s' answer = r' at hpair
  cases hpair with
  | error hf => exact .error hf
  | ok hab =>
    exact (settle_paired hab (running_of_proceed hs hp) (running_of_proceed hs' hp')).map
      fun _ _ => Abreast.shown

theorem start_paired (h : Abreast script s s') (title : String) :
    Paired (Abreast script) (start script s title) (start script s' title) := by
  have hcleared : Abreast script { s with returnStack := [], activeSpeaker := none }
      { s' with returnStack := [], activeSpeaker := none } :=
    ⟨(congrArg (fun u : State => { u with returnStack := [], activeSpeaker := none }) h.unmark :),
      h.visited⟩
  exact goto_paired hcleared title false

end Abreast

end Dialogue.Session
