import Dialogue.Proofs.Session.Coherence

/-! Silent moves: the loop that makes them, the moves without the loop's check, and the bound that
the loop never reaches. -/
namespace Dialogue.Session

/-- The loop of quiet moves without any bound: it ends where something can be shown, where the
dialogue is over, where a node is missing, or where a key comes back. -/
inductive Settles (script : Script) : List Key → State → Except Failure State → Prop
  | rest {seen : List Key} {s : State} (hc : s.phase = .emitting → s.content ≠ none)
      (hq : ¬ s.Quiet) : Settles script seen s (.ok s)
  | again {seen : List Key} {s : State} (hq : s.Quiet) (hk : s.key ∈ seen) :
      Settles script seen s (.error (.loop s.current))
  | stuck {seen : List Key} {s : State} {f : Failure} (hq : s.Quiet) (hk : s.key ∉ seen)
      (hn : navigate script s = .error f) : Settles script seen s (.error f)
  | move {seen : List Key} {s s' : State} {r : Except Failure State} (hq : s.Quiet)
      (hk : s.key ∉ seen) (hn : navigate script s = .ok s')
      (h : Settles script (s.key :: seen) s' r) : Settles script seen s r

/-- The state after `n` moves, whatever there is to show and whichever keys come back. -/
def drift (script : Script) : Nat → State → Except Failure State
  | 0, s => .ok s
  | n + 1, s =>
    match navigate script s with
    | .error f => .error f
    | .ok s' => drift script n s'

/-- Where quiet moves come to rest: at a line left to deliver, a visible option, a command, the
end of the dialogue, or a reference to a missing node. -/
inductive Rests (script : Script) (s : State) : Prop
  | line {c : Compiled} (hc : s.content = some c) (h : s.lineIndex < c.lines.length)
  | option {c : Compiled} (hc : s.content = some c) (h : c.options ≠ [])
  | command {c : Compiled} (hc : s.content = some c) (h : c.command ≠ none)
  | ended (h : s.phase = .ended)
  | reference {f : Failure} (h : navigate script s = .error f) (hf : f.kind = .reference)

/-- Moves that never come to rest. -/
def Endless (script : Script) (s : State) : Prop :=
  ∀ n u, drift script n s = .ok u → ¬ Rests script u

/-- A state of a session under way: it emits or has ended. -/
structure Running (script : Script) (s : State) : Prop where
  coherent : Coherent script s
  phase : s.phase = .emitting ∨ s.phase = .ended

theorem running_of_proceed {script : Script} {s s' : State} {answer : Option Answer}
    (h : Coherent script s) (hp : proceed script s answer = .ok s') : Running script s' :=
  have ⟨hc, hphase⟩ := h.proceed (proceeds_of_proceed hp)
  ⟨hc, hphase⟩

theorem running_of_start {script : Script} {s s' : State} {title : String}
    (h : start script s title = .ok s') : Running script s' := by
  obtain ⟨node, -, rfl⟩ := start_eq_ok_iff.mp h
  exact ⟨coherent_start h, .inl rfl⟩

theorem Running.navigate {script : Script} {s s' : State} (h : Running script s) (hq : s.Quiet)
    (hn : navigate script s = .ok s') : Running script s' :=
  have ⟨hc, hphase⟩ := h.coherent.navigate_quiet hq hn
  ⟨hc, hphase⟩

theorem Running.not_rests_iff {script : Script} {s : State} (h : Running script s) :
    ¬ Rests script s ↔ s.Quiet ∧ ∃ s', Session.navigate script s = .ok s' := by
  constructor
  · intro hr
    have hphase : s.phase = .emitting := h.phase.resolve_right fun he => hr (.ended he)
    obtain ⟨c, hc⟩ := Option.ne_none_iff_exists'.mp (h.coherent.content_ne_none hphase)
    have hs : isSilent s c = true := by
      refine isSilent_iff.mpr ⟨?_, ?_, ?_⟩
      · exact not_lt.mp fun hl => hr (.line hc hl)
      · by_contra ho
        exact hr (.option hc ho)
      · by_contra hk
        exact hr (.command hc hk)
    refine ⟨⟨hphase, c, hc, hs⟩, ?_⟩
    cases hn : Session.navigate script s with
    | ok s' => exact ⟨s', rfl⟩
    | error f => exact absurd (.reference hn (kind_of_navigate_error hn)) hr
  · rintro ⟨⟨hphase, c, hc, hs⟩, s', hn⟩ hr
    obtain ⟨hl, ho, hk⟩ := isSilent_iff.mp hs
    cases hr with
    | line hc' h =>
      obtain rfl := Option.some.inj (hc.symm.trans hc')
      omega
    | option hc' h =>
      obtain rfl := Option.some.inj (hc.symm.trans hc')
      exact h ho
    | command hc' h =>
      obtain rfl := Option.some.inj (hc.symm.trans hc')
      exact h hk
    | ended h => simp [hphase] at h
    | reference h => simp [hn] at h

/-- The key of a state that has entered a node along a jump, with nothing else changed. -/
def State.keyAt (s : State) (title : String) : Key := ⟨some title, 0, s.returnStack, s.visited⟩

/-- The definitions whose titles have not been visited. -/
def unvisited (script : Script) (s : State) : Nat :=
  script.nodes.countP fun n => !s.visited.contains n.title

/-- The definitions that a jump can still enter under a key not met before. -/
def unmet (script : Script) (seen : List Key) (s : State) : Nat :=
  script.nodes.countP fun n => !seen.contains (s.keyAt n.title)

/-- What is left to visit and to return to. -/
def outlook (script : Script) (s : State) : Nat := unvisited script s + s.returnStack.length

/-- A bound on the quiet moves to come. Each move lessens the outlook, or leaves the visited titles
and the return stack as they are and enters a node under a new key; only the first state of such a
stretch can stand behind the start of its lines. -/
def slack (script : Script) (seen : List Key) (s : State) : Nat :=
  if s.phase = .emitting then
    outlook script s * (script.nodes.length + 2) + unmet script seen s +
      (if s.lineIndex = 0 then 0 else 1) + 1
  else 0

theorem countP_lt_countP {α : Type} {l : List α} {p q : α → Bool}
    (h : ∀ x ∈ l, q x = true → p x = true) {a : α} (ha : a ∈ l) (hp : p a = true)
    (hq : q a = false) : l.countP q < l.countP p := by
  induction l with
  | nil => cases ha
  | cons b l ih =>
    have hl : ∀ x ∈ l, q x = true → p x = true := fun x hx => h x (List.mem_cons_of_mem b hx)
    have hle := List.countP_mono_left hl
    have hb := h b List.mem_cons_self
    rw [List.countP_cons, List.countP_cons]
    rcases List.mem_cons.mp ha with rfl | ha
    · simp only [hp, hq, if_true, Bool.false_eq_true, if_false]
      omega
    · have hlt := ih hl ha
      split_ifs with h₁ h₂
      · omega
      · exact absurd (hb h₁) h₂
      · omega
      · omega

theorem unvisited_le_of_subset {script : Script} {s t : State}
    (h : ∀ x ∈ s.visited, x ∈ t.visited) : unvisited script t ≤ unvisited script s := by
  refine List.countP_mono_left fun n _ hn => ?_
  simp only [Bool.not_eq_true', List.contains_eq_mem, decide_eq_false_iff_not] at hn ⊢
  exact fun hs => hn (h n.title hs)

theorem unvisited_lt_of_visit {script : Script} {s t : State} {node : Node}
    (hm : node ∈ script.nodes) (hv : node.title ∉ s.visited)
    (ht : t.visited = visit s.visited node.title) : unvisited script t < unvisited script s := by
  refine countP_lt_countP (fun n _ hn => ?_) hm ?_ ?_
  · simp only [Bool.not_eq_true', List.contains_eq_mem, decide_eq_false_iff_not] at hn ⊢
    exact fun hs => hn (ht ▸ mem_visit.mpr (.inl hs))
  · simpa using hv
  · simp [ht, mem_visit]

theorem outlook_lt_of_jump {script : Script} {s : State} {title : String} {node : Node}
    (hopen : openNode script title = .ok node) (hv : node.title ∉ s.visited) :
    outlook script (s.entering node false) < outlook script s := by
  have hlt : unvisited script (s.entering node false) < unvisited script s :=
    unvisited_lt_of_visit (mem_of_openNode hopen) hv rfl
  simp only [outlook, State.entering_returnStack]
  omega

theorem outlook_lt_of_back {script : Script} {s : State} {caller : String} {node : Node}
    (hr : s.returnStack.getLast? = some caller) :
    outlook script (s.popped.entering node true) < outlook script s := by
  have hle : unvisited script (s.popped.entering node true) ≤ unvisited script s :=
    unvisited_le_of_subset fun x hx => mem_visit.mpr (.inl hx)
  have hpos : 0 < s.returnStack.length := by
    refine List.length_pos_iff.mpr fun he => ?_
    simp [he] at hr
  simp only [outlook, State.entering_returnStack, State.popped_returnStack, List.length_dropLast]
  omega

theorem unmet_le_length (script : Script) (seen : List Key) (s : State) :
    unmet script seen s ≤ script.nodes.length := List.countP_le_length

theorem unmet_cons_le (script : Script) (k : Key) (seen : List Key) (s : State) :
    unmet script (k :: seen) s ≤ unmet script seen s := by
  refine List.countP_mono_left fun n _ hn => ?_
  simp only [Bool.not_eq_true', List.contains_eq_mem, decide_eq_false_iff_not] at hn ⊢
  exact fun hs => hn (List.mem_cons_of_mem k hs)

theorem unmet_cons_lt {script : Script} {seen : List Key} {s : State} {node : Node}
    (hm : node ∈ script.nodes) (hk : s.keyAt node.title ∉ seen) :
    unmet script (s.keyAt node.title :: seen) s < unmet script seen s := by
  refine countP_lt_countP (fun n _ hn => ?_) hm ?_ ?_
  · simp only [Bool.not_eq_true', List.contains_eq_mem, decide_eq_false_iff_not] at hn ⊢
    exact fun hs => hn (List.mem_cons_of_mem _ hs)
  · simpa using hk
  · simp

theorem visit_of_mem {visited : List String} {title : String} (h : title ∈ visited) :
    visit visited title = visited := by
  rw [visit, if_pos (List.contains_iff_mem.mpr h)]

theorem slack_lt_of_outlook_lt {script : Script} {seen seen' : List Key} {s s' : State}
    (hp : s.phase = .emitting) (h : outlook script s' < outlook script s) :
    slack script seen' s' < slack script seen s := by
  have hmet := unmet_le_length script seen' s'
  have hmul := Nat.mul_le_mul_right (script.nodes.length + 2) (Nat.succ_le_of_lt h)
  rw [Nat.succ_mul] at hmul
  unfold slack
  rw [if_pos hp]
  split_ifs <;> omega

/-- Nothing is visited or popped: the key of the state that is left is what the move uses up. -/
theorem slack_lt_of_revisit {script : Script} {seen : List Key} {s : State} {node next : Node}
    (hp : s.phase = .emitting) (hm : node ∈ script.nodes) (hc : s.current = some node.title)
    (hk : s.key ∉ seen) (hv : next.title ∈ s.visited) :
    slack script (s.key :: seen) (s.entering next false) < slack script seen s := by
  have hvis : (s.entering next false).visited = s.visited := visit_of_mem hv
  have hout : outlook script (s.entering next false) = outlook script s := by
    simp only [outlook, unvisited, hvis, State.entering_returnStack]
  have hmeet : unmet script (s.key :: seen) (s.entering next false) =
      unmet script (s.key :: seen) s := by
    simp only [unmet, State.keyAt, hvis, State.entering_returnStack]
  have hindex : (s.entering next false).lineIndex = 0 := rfl
  simp only [slack, State.entering_phase, hp, if_true, hout, hmeet, hindex]
  -- A state behind the start of its lines has no key of a jump; it was entered on a return.
  by_cases hl : s.lineIndex = 0
  · have hkey : s.key = s.keyAt node.title := by rw [State.key, State.keyAt, hc, hl]
    have hlt := unmet_cons_lt hm (hkey ▸ hk)
    rw [← hkey] at hlt
    simp only [hl, if_true]
    omega
  · have hle := unmet_cons_le script s.key seen s
    simp only [hl, if_false]
    omega

theorem slack_lt {script : Script} {seen : List Key} {s s' : State} (h : Coherent script s)
    (hq : s.Quiet) (hk : s.key ∉ seen) (hn : navigate script s = .ok s') :
    slack script (s.key :: seen) s' < slack script seen s := by
  obtain ⟨node, before, ho, -⟩ := h.quiet hq
  cases leaves_of_navigate hn with
  | @jump _ next hj hopen =>
    by_cases hv : next.title ∈ s.visited
    · exact slack_lt_of_revisit hq.1 (mem_of_openNode ho.opens) ho.current hk hv
    · exact slack_lt_of_outlook_lt hq.1 (outlook_lt_of_jump hopen hv)
  | back hj hr hopen => exact slack_lt_of_outlook_lt hq.1 (outlook_lt_of_back hr)
  | finish hj hr => simp [slack, hq.1]

/-- With room for the moves to come, the bounded loop is the unbounded one. -/
theorem settles_settle {script : Script} (n : Nat) {seen : List Key} {s : State}
    (h : Coherent script s) (hn : slack script seen s < n) :
    Settles script seen s (settle script n seen s) := by
  induction n generalizing seen s with
  | zero => omega
  | succ n ih =>
    by_cases hq : s.Quiet
    · rw [settle_of_quiet hq]
      split_ifs with hk
      · exact .again hq hk
      · cases hnav : navigate script s with
        | error f => exact .stuck hq hk hnav
        | ok s' =>
          have hlt := slack_lt h hq hk hnav
          exact .move hq hk hnav (ih (h.navigate_quiet hq hnav).1 (by omega))
    · rw [settle_of_not_quiet h.content_ne_none hq]
      exact .rest h.content_ne_none hq

theorem slack_lt_settleBound (script : Script) (s : State) :
    slack script [] s < settleBound script s := by
  have hun : unvisited script s ≤ script.nodes.length := List.countP_le_length
  have hmet := unmet_le_length script [] s
  have hmul := Nat.mul_le_mul_right (script.nodes.length + 2)
    (show outlook script s + 2 ≤ script.nodes.length + s.returnStack.length + 2 by
      unfold outlook
      omega)
  rw [Nat.add_mul] at hmul
  unfold slack settleBound
  split_ifs <;> omega

theorem settles_settleBound {script : Script} {s : State} (h : Coherent script s) :
    Settles script [] s (settle script (settleBound script s) [] s) :=
  settles_settle _ h (slack_lt_settleBound script s)

theorem Settles.unique {script : Script} {seen : List Key} {s : State}
    {r r' : Except Failure State} (h : Settles script seen s r) (h' : Settles script seen s r') :
    r = r' := by
  induction h with
  | rest hc hq =>
    cases h' with
    | rest => rfl
    | again hq' => exact absurd hq' hq
    | stuck hq' => exact absurd hq' hq
    | move hq' => exact absurd hq' hq
  | again hq hk =>
    cases h' with
    | rest _ hq' => exact absurd hq hq'
    | again => rfl
    | stuck _ hk' => exact absurd hk hk'
    | move _ hk' => exact absurd hk hk'
  | stuck hq hk hn =>
    cases h' with
    | rest _ hq' => exact absurd hq hq'
    | again _ hk' => exact absurd hk' hk
    | stuck _ _ hn' => exact hn.symm.trans hn' ▸ rfl
    | move _ _ hn' => simp [hn] at hn'
  | move hq hk hn _ ih =>
    cases h' with
    | rest _ hq' => exact absurd hq hq'
    | again _ hk' => exact absurd hk' hk
    | stuck _ _ hn' => simp [hn] at hn'
    | move _ _ hn' h' =>
      obtain rfl := Except.ok.inj (hn.symm.trans hn')
      exact ih h'

/-- Where all links lead somewhere, only a loop keeps silent moves from coming to rest. -/
theorem Settles.exists_loop {script : Script} {seen : List Key} {s : State}
    {r : Except Failure State} (h : Settles script seen s r) (hu : Unbroken script)
    (hs : Coherent script s) {f : Failure} (hr : r = .error f) : ∃ t, f = .loop t := by
  induction h with
  | rest => simp at hr
  | again => exact ⟨_, (Except.error.inj hr).symm⟩
  | stuck _ _ hn =>
    obtain ⟨s', hok⟩ := hs.exists_navigate hu
    simp [hok] at hn
  | move hq _ hn _ ih => exact ih (hs.navigate_quiet hq hn).1 hr

theorem exists_loop_of_emit_error {script : Script} {s : State} (hu : Unbroken script)
    (hs : Coherent script s) {f : Failure} (h : emit script s = .error f) : ∃ t, f = .loop t := by
  unfold emit at h
  cases hset : settle script (settleBound script s) [] s with
  | ok v => simp [hset, Except.map] at h
  | error g =>
    obtain rfl : g = f := by simpa [hset, Except.map] using h
    exact (settles_settleBound hs).exists_loop hu hs hset

end Dialogue.Session
