import Dialogue.Session.Step
import Dialogue.Proofs.Body.Compile
import Dialogue.Proofs.Script.Titles

/-! What each move of a session can do, said once: which node it enters, what it shows, and how it
fails. -/
namespace Dialogue.Session

theorem mem_visit {visited : List String} {title t : String} :
    t ∈ visit visited title ↔ t ∈ visited ∨ t = title := by
  unfold visit
  split_ifs with h
  · constructor
    · exact .inl
    · rintro (ht | rfl)
      · exact ht
      · exact List.contains_iff_mem.mp h
  · simp

/-- The node that a title opens. -/
def openNode (script : Script) (title : String) : Except Failure Node :=
  if title.isEmpty then .error .emptyTitle
  else match script.node? title with
    | none => .error (.missingNode title)
    | some node => .ok node

theorem openNode_eq_ok_iff {script : Script} {title : String} {node : Node} :
    openNode script title = .ok node ↔ title ≠ "" ∧ script.node? title = some node := by
  unfold openNode
  cases script.node? title <;> split_ifs <;> simp_all

theorem title_of_openNode {script : Script} {title : String} {node : Node}
    (h : openNode script title = .ok node) : node.title = title :=
  (Script.mem_of_node?_eq_some (openNode_eq_ok_iff.mp h).2).2

theorem mem_of_openNode {script : Script} {title : String} {node : Node}
    (h : openNode script title = .ok node) : node ∈ script.nodes :=
  (Script.mem_of_node?_eq_some (openNode_eq_ok_iff.mp h).2).1

theorem exists_openNode_iff {script : Script} {title : String} :
    (∃ node, openNode script title = .ok node) ↔ title ≠ "" ∧ script.hasTitle title = true := by
  simp only [openNode_eq_ok_iff, exists_and_left, Script.node?_isSome_iff]

theorem openNode_failure {script : Script} {title : String} {f : Failure}
    (h : openNode script title = .error f) :
    (title = "" ∧ f = .emptyTitle) ∨ (script.node? title = none ∧ f = .missingNode title) := by
  unfold openNode at h
  split_ifs at h with he
  · exact .inl ⟨String.isEmpty_iff.mp he, (Except.error.inj h).symm⟩
  · cases hn : script.node? title with
    | none => exact .inr ⟨rfl, by simpa [hn] using h.symm⟩
    | some node => simp [hn] at h

theorem kind_of_openNode_error {script : Script} {title : String} {f : Failure}
    (h : openNode script title = .error f) : f.kind = .reference := by
  rcases openNode_failure h with ⟨-, rfl⟩ | ⟨-, rfl⟩ <;> rfl

namespace State

/-- The state in which a node has just been entered. -/
def entering (s : State) (node : Node) (returning : Bool) : State :=
  { s with
    phase := .emitting
    current := some node.title
    content := some (node.compile s.visited)
    lineIndex := if returning then (node.compile s.visited).lines.length else 0
    visited := visit s.visited node.title
    pending := none }

variable (s : State) (node : Node) (returning : Bool)

@[simp] theorem entering_phase : (s.entering node returning).phase = .emitting := rfl
@[simp] theorem entering_current : (s.entering node returning).current = some node.title := rfl
@[simp] theorem entering_content :
    (s.entering node returning).content = some (node.compile s.visited) := rfl
@[simp] theorem entering_visited :
    (s.entering node returning).visited = visit s.visited node.title := rfl
@[simp] theorem entering_returnStack :
    (s.entering node returning).returnStack = s.returnStack := rfl
@[simp] theorem entering_activeSpeaker :
    (s.entering node returning).activeSpeaker = s.activeSpeaker := rfl
@[simp] theorem entering_pending : (s.entering node returning).pending = none := rfl

def jump? (s : State) : Option String := s.content.bind (·.jump)

def popped (s : State) : State := { s with returnStack := s.returnStack.dropLast }

@[simp] theorem popped_visited : s.popped.visited = s.visited := rfl
@[simp] theorem popped_returnStack : s.popped.returnStack = s.returnStack.dropLast := rfl
@[simp] theorem popped_activeSpeaker : s.popped.activeSpeaker = s.activeSpeaker := rfl

/-- The state in which a chosen detour is noted on the return stack. -/
def leaving (s : State) (o : Choice) : State :=
  if o.detour then { s with returnStack := s.returnStack ++ [s.current.getD ""] } else s

@[simp] theorem leaving_visited (o : Choice) : (s.leaving o).visited = s.visited := by
  unfold leaving
  split_ifs <;> rfl

theorem leaving_returnStack (o : Choice) : (s.leaving o).returnStack =
    if o.detour then s.returnStack ++ [s.current.getD ""] else s.returnStack := by
  unfold leaving
  split_ifs <;> rfl

end State

theorem goto_eq (script : Script) (s : State) (title : String) (returning : Bool) :
    goto script s title returning = (openNode script title).map (s.entering · returning) := by
  unfold goto openNode
  by_cases he : title.isEmpty = true
  · rw [if_pos he, if_pos he]
    rfl
  · rw [if_neg he, if_neg he]
    cases hn : script.node? title with
    | none => rfl
    | some node =>
      obtain rfl := (Script.mem_of_node?_eq_some hn).2
      rfl

theorem goto_eq_ok_iff {script : Script} {s s' : State} {title : String} {returning : Bool} :
    goto script s title returning = .ok s' ↔
      ∃ node, openNode script title = .ok node ∧ s' = s.entering node returning := by
  rw [goto_eq]
  cases openNode script title with
  | error f => simp [Except.map]
  | ok node => simp [Except.map, eq_comm]

theorem goto_eq_error_iff {script : Script} {s : State} {title : String} {returning : Bool}
    {f : Failure} :
    goto script s title returning = .error f ↔ openNode script title = .error f := by
  rw [goto_eq]
  cases openNode script title <;> simp [Except.map]

theorem start_eq_ok_iff {script : Script} {s s' : State} {title : String} :
    start script s title = .ok s' ↔ ∃ node, openNode script title = .ok node ∧
      s' = ({ s with returnStack := [], activeSpeaker := none } : State).entering node false :=
  goto_eq_ok_iff

/-- Where a session can go from a node that is done: along its jump, else back to the latest
caller, else to the end. -/
inductive Leaves (script : Script) (s : State) : State → Prop
  | jump {title : String} {node : Node} (hj : s.jump? = some title)
      (ho : openNode script title = .ok node) : Leaves script s (s.entering node false)
  | back {caller : String} {node : Node} (hj : s.jump? = none)
      (hr : s.returnStack.getLast? = some caller) (ho : openNode script caller = .ok node) :
      Leaves script s (s.popped.entering node true)
  | finish (hj : s.jump? = none) (hr : s.returnStack = []) :
      Leaves script s { s with phase := .ended, pending := none }

theorem navigate_eq (script : Script) (s : State) : navigate script s =
    match s.jump? with
    | some title => goto script s title false
    | none =>
      match s.returnStack.getLast? with
      | some caller => goto script s.popped caller true
      | none => .ok { s with phase := .ended, pending := none } := rfl

theorem leaves_of_navigate {script : Script} {s s' : State} (h : navigate script s = .ok s') :
    Leaves script s s' := by
  rw [navigate_eq] at h
  cases hj : s.jump? with
  | some title =>
    rw [hj] at h
    obtain ⟨node, ho, rfl⟩ := goto_eq_ok_iff.mp h
    exact .jump hj ho
  | none =>
    cases hr : s.returnStack.getLast? with
    | some caller =>
      rw [hj, hr] at h
      obtain ⟨node, ho, rfl⟩ := goto_eq_ok_iff.mp h
      exact .back hj hr ho
    | none =>
      rw [hj, hr] at h
      obtain rfl := Except.ok.inj h
      exact .finish hj (List.getLast?_eq_none_iff.mp hr)

/-- Leaving a node fails only where its jump or the latest caller opens no node. -/
theorem navigate_failure {script : Script} {s : State} {f : Failure}
    (h : navigate script s = .error f) :
    ∃ title, openNode script title = .error f ∧
      (s.jump? = some title ∨ s.jump? = none ∧ s.returnStack.getLast? = some title) := by
  rw [navigate_eq] at h
  cases hj : s.jump? with
  | some title =>
    rw [hj] at h
    exact ⟨title, goto_eq_error_iff.mp h, .inl rfl⟩
  | none =>
    cases hr : s.returnStack.getLast? with
    | some caller =>
      rw [hj, hr] at h
      exact ⟨caller, goto_eq_error_iff.mp h, .inr ⟨rfl, rfl⟩⟩
    | none => simp [hj, hr] at h

theorem kind_of_navigate_error {script : Script} {s : State} {f : Failure}
    (h : navigate script s = .error f) : f.kind = .reference := by
  obtain ⟨title, ho, -⟩ := navigate_failure h
  exact kind_of_openNode_error ho

theorem option?_eq_some_iff {options : List Choice} {a : Answer} {o : Choice} :
    option? options a = some o ↔ ∃ i : Nat, a.index? = some (i : Int) ∧ options[i]? = some o := by
  unfold option?
  cases a.index? with
  | none => simp
  | some i =>
    dsimp only
    split_ifs with hi
    · obtain ⟨n, rfl⟩ := Int.eq_ofNat_of_zero_le hi
      constructor
      · exact fun h => ⟨n, rfl, by simpa using h⟩
      · rintro ⟨m, hm, h⟩
        obtain rfl : n = m := by simpa using hm
        simpa using h
    · simp only [false_iff, not_exists, not_and]
      rintro n hn
      obtain rfl := Option.some.inj hn
      omega

theorem option?_ofInt (options : List Choice) (i : Nat) :
    option? options (.ofInt i) = options[i]? := by
  simp [option?, Answer.ofInt]

theorem mem_of_option?_eq_some {options : List Choice} {a : Answer} {o : Choice}
    (h : option? options a = some o) : o ∈ options := by
  obtain ⟨i, -, hi⟩ := option?_eq_some_iff.mp h
  exact List.mem_of_getElem? hi

theorem resolve_eq (script : Script) (s : State) (a : Answer) : resolve script s a =
    match s.pending with
    | none => .error .nothingPending
    | some options =>
      match option? options a with
      | none => .error (wrongAnswer s.current options.length a)
      | some o =>
        match o.target with
        | none => .error (.noTarget o.text s.current)
        | some target => goto script (s.leaving o) target false := by
  unfold resolve State.leaving
  cases s.pending with
  | none => rfl
  | some options =>
    dsimp only
    cases option? options a with
    | none => rfl
    | some o =>
      dsimp only
      cases o.target with
      | none => rfl
      | some target => split_ifs <;> simp_all

theorem resolve_eq_ok {script : Script} {s s' : State} {a : Answer}
    (h : resolve script s a = .ok s') :
    ∃ options o title node, s.pending = some options ∧ option? options a = some o ∧
      o.target = some title ∧ openNode script title = .ok node ∧
      s' = (s.leaving o).entering node false := by
  rw [resolve_eq] at h
  cases hp : s.pending with
  | none => simp [hp] at h
  | some options =>
    cases ho : option? options a with
    | none => simp [hp, ho] at h
    | some o =>
      cases ht : o.target with
      | none => simp [hp, ho, ht] at h
      | some title =>
        simp only [hp, ho, ht] at h
        obtain ⟨node, hn, rfl⟩ := goto_eq_ok_iff.mp h
        exact ⟨options, o, title, node, rfl, ho, ht, hn, rfl⟩

theorem kind_of_wrongAnswer (node : Option String) (count : Nat) (a : Answer) :
    (wrongAnswer node count a).kind = if a.shown = none then .corrupt else .protocol := by
  unfold wrongAnswer
  cases a.shown <;> rfl

theorem kind_of_resolve_error {script : Script} {s : State} {a : Answer} {f : Failure}
    (h : resolve script s a = .error f) : f.kind ≠ .loop := by
  rw [resolve_eq] at h
  split at h
  · obtain rfl := Except.error.inj h
    simp [Failure.kind]
  · split at h
    · obtain rfl := Except.error.inj h
      rw [kind_of_wrongAnswer]
      split_ifs <;> simp
    · split at h
      · obtain rfl := Except.error.inj h
        simp [Failure.kind]
      · simp [kind_of_openNode_error (goto_eq_error_iff.mp h)]

/-- Where a call takes a state before anything is shown. -/
inductive Proceeds (script : Script) (s : State) : Option Answer → State → Prop
  | resolve {a : Answer} {s' : State} (hp : s.phase = .choicePending)
      (h : resolve script s a = .ok s') : Proceeds script s (some a) s'
  | navigate {s' : State} (hp : s.phase = .commandPending)
      (h : navigate script s = .ok s') : Proceeds script s none s'
  | stay (hp : s.phase = .emitting ∨ s.phase = .ended) : Proceeds script s none s

theorem proceeds_of_proceed {script : Script} {s s' : State} {answer : Option Answer}
    (h : proceed script s answer = .ok s') : Proceeds script s answer s' := by
  unfold proceed at h
  cases hp : s.phase <;> cases answer <;> simp only [hp, reduceCtorEq] at h
  · obtain rfl := Except.ok.inj h
    exact .stay (.inl hp)
  · exact .resolve hp h
  · exact .navigate hp h
  · obtain rfl := Except.ok.inj h
    exact .stay (.inr hp)

/-- Loops are not found before a state emits. -/
theorem kind_of_proceed_error {script : Script} {s : State} {answer : Option Answer}
    {f : Failure} (h : proceed script s answer = .error f) : f.kind ≠ .loop := by
  unfold proceed at h
  split at h
  · obtain rfl := Except.error.inj h
    simp [Failure.kind]
  · obtain rfl := Except.error.inj h
    simp [Failure.kind]
  · exact kind_of_resolve_error h
  · obtain rfl := Except.error.inj h
    simp [Failure.kind]
  · simp at h
  · simp [kind_of_navigate_error h]
  · simp at h

def lineEvent (c : Compiled) (line : String) : Event :=
  .line (Speech.ofLine line).speaker (Speech.ofLine line).text c

/-- Who talks once a line is spoken: its speaker if it names one, else the speaker before. -/
def State.talking (s : State) (line : String) : Option String :=
  match (Speech.ofLine line).speaker with
  | some name => if name.isEmpty then s.activeSpeaker else some name
  | none => s.activeSpeaker

theorem isSilent_iff {s : State} {c : Compiled} : isSilent s c = true ↔
    c.lines.length ≤ s.lineIndex ∧ c.options = [] ∧ c.command = none := by
  simp [isSilent, and_assoc]

/-- A state from which a session moves on without showing anything. -/
def State.Quiet (s : State) : Prop :=
  s.phase = .emitting ∧ ∃ c, s.content = some c ∧ isSilent s c = true

theorem State.quiet_iff {s : State} {c : Compiled} (hc : s.content = some c) : s.Quiet ↔
    s.phase = .emitting ∧ c.lines.length ≤ s.lineIndex ∧ c.options = [] ∧ c.command = none := by
  simp [State.Quiet, hc, isSilent_iff]

/-- What a state shows, and the state after it. -/
inductive Shows (s : State) : State → Option Event → Prop
  | line {c : Compiled} {line : String} (hp : s.phase = .emitting)
      (hc : s.content = some c) (hl : c.lines[s.lineIndex]? = some line) :
      Shows s { s with lineIndex := s.lineIndex + 1, activeSpeaker := s.talking line }
        (some (lineEvent c line))
  | choice {c : Compiled} (hp : s.phase = .emitting) (hc : s.content = some c)
      (hl : c.lines.length ≤ s.lineIndex) (ho : c.options ≠ []) :
      Shows s { s with phase := .choicePending, pending := some c.options }
        (some (.choice c.options c))
  | command {c : Compiled} {k : Command} (hp : s.phase = .emitting) (hc : s.content = some c)
      (hl : c.lines.length ≤ s.lineIndex) (ho : c.options = []) (hk : c.command = some k) :
      Shows s { s with phase := .commandPending } (some (.command k c))
  | nothing (h : s.phase ≠ .emitting ∨ s.content = none ∨ s.Quiet) : Shows s s none

theorem shows_show? (s : State) : Shows s (show? s).1 (show? s).2 := by
  by_cases hp : s.phase = .emitting
  · rcases hc : s.content with _ | c
    · have h : show? s = (s, none) := by simp [show?, hp, hc]
      rw [h]
      exact .nothing (.inr (.inl hc))
    · rcases hl : c.lines[s.lineIndex]? with _ | line
      · have hle := List.getElem?_eq_none_iff.mp hl
        by_cases ho : c.options = []
        · rcases hk : c.command with _ | k
          · have h : show? s = (s, none) := by simp [show?, hp, hc, hl, ho, hk]
            rw [h]
            exact .nothing (.inr (.inr ⟨hp, c, hc, isSilent_iff.mpr ⟨hle, ho, hk⟩⟩))
          · have h : show? s = ({ s with phase := .commandPending }, some (.command k c)) := by
              simp [show?, hp, hc, hl, ho, hk]
            rw [h]
            exact .command hp hc hle ho hk
        · have h : show? s = ({ s with phase := .choicePending, pending := some c.options },
              some (.choice c.options c)) := by simp [show?, hp, hc, hl, ho]
          rw [h]
          exact .choice hp hc hle ho
      · have h : show? s = ({ s with
            lineIndex := s.lineIndex + 1, activeSpeaker := s.talking line },
            some (lineEvent c line)) := by
          simp only [show?, hp, hc, hl, if_true]
          rfl
        rw [h]
        exact .line hp hc hl
  · have h : show? s = (s, none) := by simp [show?, hp]
    rw [h]
    exact .nothing (.inl hp)

theorem Shows.show?_eq {s s' : State} {e : Event} (h : Shows s s' (some e)) :
    show? s = (s', some e) := by
  cases h with
  | line hp hc hl =>
    simp only [show?, hp, hc, hl, if_true]
    rfl
  | choice hp hc hl ho => simp [show?, hp, hc, List.getElem?_eq_none_iff.mpr hl, ho]
  | command hp hc hl ho hk => simp [show?, hp, hc, List.getElem?_eq_none_iff.mpr hl, ho, hk]

theorem Shows.not_quiet {s s' : State} {e : Event} (h : Shows s s' (some e)) : ¬ s.Quiet := by
  cases h with
  | line _ hc hl =>
    have hlt := (List.getElem?_eq_some_iff.mp hl).1
    exact fun hq => absurd ((State.quiet_iff hc).mp hq).2.1 (by omega)
  | choice _ hc _ ho => exact fun hq => ho ((State.quiet_iff hc).mp hq).2.2.1
  | command _ hc _ _ hk => exact fun hq => by simp [((State.quiet_iff hc).mp hq).2.2.2] at hk

section Settling
variable {script : Script} {n : Nat} {seen : List Key} {s s' : State}

theorem settle_of_not_quiet (hc : s.phase = .emitting → s.content ≠ none) (hq : ¬ s.Quiet) :
    settle script (n + 1) seen s = .ok s := by
  rw [settle]
  by_cases hp : s.phase = .emitting
  · rcases h : s.content with _ | c
    · exact absurd h (hc hp)
    · have hs : ¬ isSilent s c = true := fun hs => hq ⟨hp, c, h, hs⟩
      simp only [hp, hs, if_true, Bool.false_eq_true, if_false]
  · rw [if_neg hp]

theorem settle_of_quiet (hq : s.Quiet) : settle script (n + 1) seen s =
    if s.key ∈ seen then .error (.loop s.current)
    else match navigate script s with
      | .error f => .error f
      | .ok s' => settle script n (s.key :: seen) s' := by
  obtain ⟨hp, c, hc, hs⟩ := hq
  rw [settle]
  by_cases hk : s.key ∈ seen
  · simp only [hp, hc, hs, hk, if_true, List.contains_iff_mem]
  · cases navigate script s <;>
      simp only [hp, hc, hs, hk, if_true, if_false, List.contains_iff_mem]

/-- What a quiet move keeps, settling keeps, and it comes to rest. -/
theorem settle_preserves {P : State → Prop}
    (hP : ∀ s s', P s → s.Quiet → navigate script s = .ok s' → P s')
    (h : settle script n seen s = .ok s') (hs : P s) : P s' ∧ ¬ s'.Quiet := by
  induction n generalizing seen s with
  | zero => simp [settle] at h
  | succ n ih =>
    by_cases hq : s.Quiet
    · rw [settle_of_quiet hq] at h
      split_ifs at h with hk
      cases hn : navigate script s with
      | error f => simp [hn] at h
      | ok t =>
        rw [hn] at h
        exact ih h (hP s t hs hq hn)
    · by_cases hc : s.phase = .emitting ∧ s.content = none
      · simp [settle, hc.1, hc.2] at h
      · rw [settle_of_not_quiet (fun hp hn => hc ⟨hp, hn⟩) hq] at h
        obtain rfl := Except.ok.inj h
        exact ⟨hs, hq⟩

/-- A step proceeds, then moves on while there is nothing to show, then shows. -/
theorem step_eq_ok {answer : Option Answer} {e : Option Event}
    (h : step script s answer = .ok (s', e)) :
    ∃ t u, proceed script s answer = .ok t ∧
      settle script (settleBound script t) [] t = .ok u ∧ show? u = (s', e) := by
  unfold step at h
  cases hp : proceed script s answer with
  | error f => simp [hp] at h
  | ok t =>
    simp only [hp, emit] at h
    cases hu : settle script (settleBound script t) [] t with
    | error f => simp [hu, Except.map] at h
    | ok u => exact ⟨t, u, rfl, hu, by simpa [hu, Except.map] using h⟩

/-- What each of these moves keeps, a step keeps. -/
theorem step_preserves {P : State → Prop}
    (hproceed : ∀ s a t, P s → Proceeds script s a t → P t)
    (hquiet : ∀ s t, P s → s.Quiet → navigate script s = .ok t → P t)
    (hshow : ∀ s t e, P s → Shows s t e → P t) {answer : Option Answer} {e : Option Event}
    (h : step script s answer = .ok (s', e)) (hs : P s) : P s' := by
  obtain ⟨t, u, hp, hu, hshown⟩ := step_eq_ok h
  have ht := hproceed s answer t hs (proceeds_of_proceed hp)
  have hpu := (settle_preserves hquiet hu ht).1
  have hsh := shows_show? u
  rw [hshown] at hsh
  exact hshow u s' e hpu hsh

end Settling
end Dialogue.Session
