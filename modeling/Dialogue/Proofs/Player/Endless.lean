import Dialogue.Proofs.Player.Reply
import Dialogue.Proofs.Session.Driving
import Dialogue.Proofs.Session.Further

/-! Endless performances: one that shows as many events as its bound comes back to where it was, and
goes on for ever. -/
namespace Dialogue

theorem Node.length_lines_le (n : Node) (visited : List String) :
    (n.compile visited).lines.length ≤ n.body.length := by
  calc (n.compile visited).lines.length
      ≤ n.skeleton.lines.length := List.length_filterMap_le _ _
    _ ≤ (Skeleton.spokenPart n.body).length :=
      (List.length_filterMap_le _ _).trans (by rw [List.length_zipIdx])
    _ ≤ n.body.length := by
      rw [Skeleton.spokenPart, List.length_map]
      exact (List.takeWhile_sublist _).length_le

namespace Player
open Session

theorem length_body_le_longestBody {script : Script} {n : Node} (hn : n ∈ script.nodes) :
    n.body.length ≤ longestBody script := by
  have hfold : ∀ (lengths : List Nat) (first : Nat), first ≤ lengths.foldl max first ∧
      ∀ k ∈ lengths, k ≤ lengths.foldl max first := by
    intro lengths
    induction lengths with
    | nil => simp
    | cons k lengths ih =>
      intro first
      obtain ⟨hfirst, hall⟩ := ih (max first k)
      refine ⟨(le_max_left _ _).trans hfirst, fun j hj => ?_⟩
      rcases List.mem_cons.mp hj with rfl | hj
      · exact (le_max_right _ _).trans hfirst
      · exact hall j hj
  exact (hfold _ 0).2 _ (List.mem_map_of_mem hn)

/-- What a player picks of some options. -/
def picked? (options : List Choice) (lines : List String) : Option (Nat × List String) :=
  match (ask 0 {} [] options lines).2 with
  | .option i left => some (i, left)
  | _ => none

section Ask
variable {columns : Nat} {s : State} {commands : List String} {options : List Choice}
  {lines : List String}

/-- What is picked does not depend on what is shown of the state. -/
theorem ask_snd_eq : (ask columns s commands options lines).2 = (ask 0 {} [] options lines).2 := by
  induction lines with
  | nil => rfl
  | cons line lines ih =>
    rw [ask, ask]
    dsimp only
    split
    · rfl
    · exact ih
    · exact ih
    · split
      · rfl
      · exact ih

theorem picked?_eq_some_iff {i : Nat} {left : List String} :
    picked? options lines = some (i, left) ↔
      (ask columns s commands options lines).2 = .option i left := by
  rw [ask_snd_eq, picked?]
  cases (ask 0 {} [] options lines).2 <;> simp

theorem length_lt_of_picked? {i : Nat} {left : List String}
    (h : picked? options lines = some (i, left)) : left.length < lines.length := by
  have hpick : (ask 0 {} [] options lines).2 = .option i left := picked?_eq_some_iff.mp h
  clear h
  induction lines with
  | nil => simp [ask] at hpick
  | cons line lines ih =>
    rw [ask] at hpick
    dsimp only at hpick
    split at hpick
    · simp at hpick
    · exact (ih hpick).trans (Nat.lt_succ_self _)
    · exact (ih hpick).trans (Nat.lt_succ_self _)
    · split at hpick
      · obtain ⟨-, rfl⟩ := Pick.option.inj hpick
        exact Nat.lt_succ_self _
      · exact (ih hpick).trans (Nat.lt_succ_self _)

end Ask

/-- A performance between two events: the state, the answer that its next step takes, and the lines
of input that are left. -/
structure Standing where
  state : State
  input : Option Answer
  lines : List String

/-- A performance shows an event and goes on. -/
inductive Advances (script : Script) : Standing → Standing → Prop
  | shown {s s' : State} {input : Option Answer} {lines : List String} {e : Event}
      (h : step script s input = .ok (s', some e)) (he : e.asked? = none) :
      Advances script ⟨s, input, lines⟩ ⟨s', none, lines⟩
  | picked {s s' : State} {input : Option Answer} {lines left : List String} {i : Nat}
      {options : List Choice} {node : Compiled}
      (h : step script s input = .ok (s', some (.choice options node)))
      (hpick : picked? options lines = some (i, left)) :
      Advances script ⟨s, input, lines⟩ ⟨s', some (.ofInt i), left⟩

/-- A performance that goes on after so many events. -/
inductive Lasts (script : Script) : Nat → Standing → Prop
  | zero {p : Standing} : Lasts script 0 p
  | succ {n : Nat} {p q : Standing} (h : Advances script p q) (hq : Lasts script n q) :
      Lasts script (n + 1) p

section Lasts
variable {script : Script} {m n : Nat} {p q q' : Standing}

theorem Advances.exists_step (h : Advances script p q) :
    ∃ e, step script p.state p.input = .ok (q.state, some e) := by
  cases h with
  | shown h | picked h => exact ⟨_, h⟩

theorem Advances.unique (h : Advances script p q) (h' : Advances script p q') : q = q' := by
  cases h with
  | shown hs he =>
    cases h' with
    | shown hs' =>
      cases hs.symm.trans hs'
      rfl
    | picked hs' =>
      cases hs.symm.trans hs'
      cases he
  | picked hs hpick =>
    cases h' with
    | shown hs' he' =>
      cases hs.symm.trans hs'
      cases he'
    | picked hs' hpick' =>
      cases hs.symm.trans hs'
      cases hpick.symm.trans hpick'
      rfl

theorem lasts_succ_iff : Lasts script (n + 1) p ↔ ∃ q, Advances script p q ∧ Lasts script n q := by
  constructor
  · intro h
    cases h with
    | succ h hq => exact ⟨_, h, hq⟩
  · rintro ⟨q, h, hq⟩
    exact .succ h hq

theorem Advances.lasts_iff (h : Advances script p q) :
    Lasts script (n + 1) p ↔ Lasts script n q := by
  rw [lasts_succ_iff]
  constructor
  · rintro ⟨q', h', hq'⟩
    exact h.unique h' ▸ hq'
  · exact fun hq => ⟨q, h, hq⟩

theorem Lasts.of_succ (h : Lasts script (n + 1) p) : Lasts script n p := by
  induction n generalizing p with
  | zero => exact .zero
  | succ n ih =>
    obtain ⟨q, hnext, hq⟩ := lasts_succ_iff.mp h
    exact .succ hnext (ih hq)

theorem Lasts.mono (h : Lasts script n p) (hmn : m ≤ n) : Lasts script m p := by
  induction hmn with
  | refl => exact h
  | step _ ih => exact ih h.of_succ

/-- Who talks does not decide how long a performance lasts. -/
theorem Lasts.of_hushed_eq {s v : State} {input : Option Answer} {lines : List String}
    (h : s.hushed = v.hushed) (hs : Lasts script n ⟨s, input, lines⟩) :
    Lasts script n ⟨v, input, lines⟩ := by
  induction n generalizing s v input lines with
  | zero => exact .zero
  | succ n ih =>
    obtain ⟨q, hnext, hq⟩ := lasts_succ_iff.mp hs
    cases hnext with
    | shown hstep he =>
      obtain ⟨v', hv, hsame⟩ := exists_step_of_hushed_eq h hstep
      exact .succ (.shown hv he) (ih hsame hq)
    | picked hstep hpick =>
      obtain ⟨v', hv, hsame⟩ := exists_step_of_hushed_eq h hstep
      exact .succ (.picked hv hpick) (ih hsame hq)

/-- A performance is told endless where it lasts for as many events as were looked at. -/
theorem ending_drive_iff {columns : Nat} {s : State} {input : Option Answer}
    {lines : List String} {shown : Option String} {commands : List String} :
    (drive script columns n s input lines shown commands).ending = .endless ↔
      Lasts script n ⟨s, input, lines⟩ := by
  induction n generalizing s input lines shown commands with
  | zero => exact iff_of_true rfl .zero
  | succ n ih =>
    rw [drive]
    cases hstep : step script s input with
    | error f =>
      refine iff_of_false (by simp) fun hlasts => ?_
      obtain ⟨q, hnext, -⟩ := lasts_succ_iff.mp hlasts
      obtain ⟨e, hshows⟩ := hnext.exists_step
      simp [hstep] at hshows
    | ok r =>
      obtain ⟨s', _ | e⟩ := r
      · refine iff_of_false (by simp) fun hlasts => ?_
        obtain ⟨q, hnext, -⟩ := lasts_succ_iff.mp hlasts
        obtain ⟨e, hshows⟩ := hnext.exists_step
        simp [hstep] at hshows
      · cases e with
        | line | command => exact ih.trans (Advances.shown hstep rfl).lasts_iff.symm
        | choice options node =>
          dsimp only
          cases hpick : (ask columns s' commands options lines).2 with
          | option i left =>
            exact ih.trans (Advances.picked hstep (picked?_eq_some_iff.mpr hpick)).lasts_iff.symm
          | quit | unanswered =>
            refine iff_of_false (by simp) fun hlasts => ?_
            obtain ⟨q, hnext, -⟩ := lasts_succ_iff.mp hlasts
            cases hnext with
            | shown h he =>
              cases hstep.symm.trans h
              cases he
            | picked h hpicked =>
              cases hstep.symm.trans h
              cases hpick.symm.trans (picked?_eq_some_iff.mp hpicked)

end Lasts

/-- A performance that shows just so many events and then does not go on. -/
structure Stops (script : Script) (m : Nat) (p : Standing) : Prop where
  lasts : Lasts script m p
  ends : ¬ Lasts script (m + 1) p

section Stops
variable {script : Script} {m n : Nat} {p q : Standing}

theorem Stops.unique (h : Stops script m p) (h' : Stops script n p) : m = n := by
  by_contra hne
  rcases Nat.lt_or_gt_of_ne hne with hlt | hlt
  · exact h.ends (h'.lasts.mono hlt)
  · exact h'.ends (h.lasts.mono hlt)

theorem exists_stops (h : ¬ Lasts script n p) : ∃ m, Stops script m p := by
  induction n with
  | zero => exact absurd .zero h
  | succ n ih =>
    by_cases hn : Lasts script n p
    · exact ⟨n, hn, h⟩
    · exact ih hn

theorem Stops.exists_advances (h : Stops script (m + 1) p) :
    ∃ q, Advances script p q ∧ Stops script m q := by
  obtain ⟨q, hnext, hq⟩ := lasts_succ_iff.mp h.lasts
  exact ⟨q, hnext, hq, fun hmore => h.ends (.succ hnext hmore)⟩

theorem Stops.of_hushed_eq {s v : State} {input : Option Answer} {lines : List String}
    (h : s.hushed = v.hushed) (hs : Stops script m ⟨s, input, lines⟩) :
    Stops script m ⟨v, input, lines⟩ :=
  ⟨hs.lasts.of_hushed_eq h, fun hv => hs.ends (hv.of_hushed_eq h.symm)⟩

end Stops

/-- How far a state is into its node: its lines one by one, and then its command. -/
def index (s : State) : Nat := s.lineIndex + if s.phase = .commandPending then 1 else 0

/-- What tells the states apart that a performance comes to while there is nothing new to visit and
nowhere to return. -/
def mark (s : State) : Option String × Nat := (s.current, index s)

/-- The marks of all states of a script that lines and commands can lead to. -/
def marks (script : Script) : List (Option String × Nat) :=
  script.nodes.flatMap fun n => (List.range (longestBody script + 2)).map (some n.title, ·)

def unmarked (script : Script) (seen : List (Option String × Nat)) : Nat :=
  (marks script).countP fun k => !seen.contains k

/-- More events than there are while nothing new is visited and nothing is returned to. -/
def room (script : Script) : Nat := (script.nodes.length + 2) * (longestBody script + 3)

section Marks
variable {script : Script} {s v : State} {n : Node}

theorem length_marks (script : Script) :
    (marks script).length = script.nodes.length * (longestBody script + 2) := by
  simp [marks, List.length_flatMap]

theorem unmarked_le (script : Script) (seen : List (Option String × Nat)) :
    unmarked script seen ≤ script.nodes.length * (longestBody script + 2) :=
  List.countP_le_length.trans (length_marks script).le

theorem unmarked_cons_lt {seen : List (Option String × Nat)} {k : Option String × Nat}
    (hk : k ∈ marks script) (hnew : k ∉ seen) :
    unmarked script (k :: seen) < unmarked script seen := by
  refine countP_lt_countP (fun j _ hj => ?_) hk ?_ ?_
  · simp only [Bool.not_eq_true', List.contains_eq_mem, decide_eq_false_iff_not] at hj ⊢
    exact fun hs => hj (List.mem_cons_of_mem k hs)
  · simpa using hnew
  · simp

theorem marks_le_room (script : Script) :
    script.nodes.length * (longestBody script + 2) + (longestBody script + 3) ≤ room script := by
  unfold room
  nlinarith

/-- A state between two events that no choice comes between. -/
def Between (s : State) : Prop := s.phase = .emitting ∨ s.phase = .commandPending

/-- How far such a state is tells its phase and its place among the lines. -/
theorem index_cases (h : Coherent script s) (hs : Between s) : ∃ c, s.content = some c ∧
    s.pending = none ∧ c.lines.length ≤ longestBody script ∧
    (s.phase = .emitting ∧ index s = s.lineIndex ∧ s.lineIndex ≤ c.lines.length ∨
      s.phase = .commandPending ∧ index s = s.lineIndex + 1 ∧ s.lineIndex = c.lines.length) := by
  rcases hs with hp | hp
  · obtain ⟨node, before, ho, hpending⟩ := h.opened_emitting hp
    refine ⟨_, ho.content, hpending, ?_, .inl ⟨hp, by simp [index, hp], ho.cursor⟩⟩
    exact (node.length_lines_le before).trans
      (length_body_le_longestBody (mem_of_openNode ho.opens))
  · obtain ⟨node, before, ho, hpending, -, -, hl⟩ := h.opened_commandPending hp
    refine ⟨_, ho.content, hpending, ?_, .inr ⟨hp, by simp [index, hp], hl⟩⟩
    exact (node.length_lines_le before).trans
      (length_body_le_longestBody (mem_of_openNode ho.opens))

theorem index_lt (h : Coherent script s) (hs : Between s) : index s < longestBody script + 2 := by
  obtain ⟨c, -, -, hlength, ⟨-, hindex, hle⟩ | ⟨-, hindex, heq⟩⟩ := index_cases h hs
  · omega
  · omega

theorem mark_mem_of_fresh (h : Fresh script s n) (hc : Coherent script s) (hs : Between s) :
    mark s ∈ marks script := by
  refine List.mem_flatMap.mpr ⟨n, mem_of_openNode h.opens, List.mem_map.mpr ⟨index s, ?_, ?_⟩⟩
  · exact List.mem_range.mpr (index_lt hc hs)
  · rw [mark, h.current]

/-- Fresh states with one mark, the same titles visited and the same callers differ in who talks at
most. -/
theorem hushed_eq_of_fresh {n' : Node} (h : Fresh script s n) (h' : Fresh script v n')
    (hc : Coherent script s) (hc' : Coherent script v) (hs : Between s) (hv : Between v)
    (hvisited : s.visited = v.visited) (hstack : s.returnStack = v.returnStack)
    (hmark : mark s = mark v) : s.hushed = v.hushed := by
  obtain ⟨hcurrent, hindex⟩ := Prod.mk.inj hmark
  have htitle : n.title = n'.title :=
    Option.some.inj (h.current.symm.trans (hcurrent.trans h'.current))
  obtain rfl : n = n' := Except.ok.inj (h.opens.symm.trans (htitle ▸ h'.opens))
  have hcontent : s.content = v.content := by rw [h.content, h'.content, hvisited]
  obtain ⟨c, hsc, hsp, -, hsi⟩ := index_cases hc hs
  obtain ⟨d, hvd, hvp, -, hvi⟩ := index_cases hc' hv
  obtain rfl : c = d := Option.some.inj (hsc.symm.trans (hcontent.trans hvd))
  have hpending : s.pending = v.pending := hsp.trans hvp.symm
  have hwhere : s.phase = v.phase ∧ s.lineIndex = v.lineIndex := by
    -- Only past its last line can a command have been shown.
    rcases hsi with ⟨hp, hi, hl⟩ | ⟨hp, hi, hl⟩
    · rcases hvi with ⟨hp', hi', -⟩ | ⟨-, hi', hl'⟩
      · exact ⟨hp.trans hp'.symm, by omega⟩
      · omega
    · rcases hvi with ⟨-, hi', hl'⟩ | ⟨hp', hi', -⟩
      · omega
      · exact ⟨hp.trans hp'.symm, by omega⟩
  obtain ⟨hphase, hline⟩ := hwhere
  simp only [State.hushed, hphase, hcurrent, hcontent, hline, hvisited, hstack, hpending]

/-- A state that a performance has come through since it last visited anything new or returned. It
was fresh, and the performance lasts longer from there. -/
structure Earlier (script : Script) (lines : List String) (m : Nat) (s v : State) : Prop where
  coherent : Coherent script v
  between : Between v
  fresh : ∃ n, Fresh script v n
  visited : v.visited = s.visited
  returnStack : v.returnStack = s.returnStack
  stops : ∃ m', m < m' ∧ Stops script m' ⟨v, none, lines⟩

/-- The marks seen are those of earlier states. -/
def Passed (script : Script) (lines : List String) (m : Nat) (s : State)
    (seen : List (Option String × Nat)) : Prop :=
  ∀ k ∈ seen, ∃ v, mark v = k ∧ Earlier script lines m s v

section Passed
variable {lines : List String} {m : Nat} {s' : State} {seen : List (Option String × Nat)}

theorem Passed.mono (h : Passed script lines (m + 1) s seen) (hvisited : s'.visited = s.visited)
    (hstack : s'.returnStack = s.returnStack) : Passed script lines m s' seen := by
  intro k hk
  obtain ⟨v, hmark, hv⟩ := h k hk
  obtain ⟨m', hm, hstops⟩ := hv.stops
  exact ⟨v, hmark, { hv with
    visited := hv.visited.trans hvisited.symm
    returnStack := hv.returnStack.trans hstack.symm
    stops := ⟨m', by omega, hstops⟩ }⟩

/-- A performance that stops does not come back to where it was. -/
theorem Passed.not_mem (h : Passed script lines m s seen) (hf : Fresh script s n)
    (hc : Coherent script s) (hs : Between s) (hstops : Stops script m ⟨s, none, lines⟩) :
    mark s ∉ seen := by
  intro hmem
  obtain ⟨v, hmark, hv⟩ := h _ hmem
  obtain ⟨n', hfresh⟩ := hv.fresh
  obtain ⟨m', hm, hlater⟩ := hv.stops
  have hsame :=
    hushed_eq_of_fresh hfresh hf hv.coherent hc hv.between hs hv.visited hv.returnStack hmark
  have heq := (hlater.of_hushed_eq hsame).unique hstops
  omega

theorem Passed.cons (h : Passed script lines (m + 1) s seen) (hf : Fresh script s n)
    (hc : Coherent script s) (hs : Between s) (hstops : Stops script (m + 1) ⟨s, none, lines⟩)
    (hvisited : s'.visited = s.visited) (hstack : s'.returnStack = s.returnStack) :
    Passed script lines m s' (mark s :: seen) := by
  intro k hk
  rcases List.mem_cons.mp hk with rfl | hk
  · exact ⟨s, rfl, hc, hs, ⟨n, hf⟩, hvisited.symm, hstack.symm, m + 1, by omega, hstops⟩
  · exact h.mono hvisited hstack k hk

end Passed
end Marks

/-- The node at hand is fresh, or no more than `r` of its events are still to come. -/
def Remains (script : Script) (s : State) (r : Nat) : Prop :=
  (∃ n, Fresh script s n) ∨ longestBody script + 2 ≤ index s + r

section Bound
variable {script : Script} {lines : List String} {m r : Nat} {s u s' : State} {e : Event}
  {seen : List (Option String × Nat)} {p q : Standing}

/-- An event that comes with nothing new to visit and no return uses up a mark, or a line of a node
that was compiled before its visit. -/
theorem exists_marked (hs : Stops script (m + 1) ⟨s, none, lines⟩) (hc : Coherent script s)
    (hbetween : Between s) (hpassed : Passed script lines (m + 1) s seen) (hr : Remains script s r)
    (hsame : Lingers script s u) (hshown : Shows u s' (some e)) :
    ∃ seen' r', unmarked script seen' + r' < unmarked script seen + r ∧
      Passed script lines m s' seen' ∧ (e.asked? = none → Remains script s' r') := by
  obtain ⟨hcurrent, hcontent, hvisited, hstack⟩ := hshown.keeps
  have hvisited' : s'.visited = s.visited := hvisited.trans hsame.keeps.1
  have hstack' : s'.returnStack = s.returnStack := hstack.trans hsame.keeps.2
  rcases hr with ⟨n, hfresh⟩ | hstale
  · refine ⟨mark s :: seen, r, ?_, hpassed.cons hfresh hc hbetween hs hvisited' hstack',
      fun _ => ?_⟩
    · have hlt := unmarked_cons_lt (mark_mem_of_fresh hfresh hc hbetween)
        (hpassed.not_mem hfresh hc hbetween hs)
      omega
    · cases hsame with
      | stay => exact .inl ⟨n, hfresh.congr hcurrent hcontent hvisited⟩
      | around _ _ hfresh' => exact .inl ⟨_, hfresh'.congr hcurrent hcontent hvisited⟩
  · have hlt := index_lt hc hbetween
    refine ⟨seen, r - 1, by omega, hpassed.mono hvisited' hstack', fun hasked => ?_⟩
    cases hsame with
    | stay =>
      refine .inr ?_
      have hindex : index s' = index s + 1 := by
        cases hshown with
        | line hp => simp [index, hp]
        | choice => cases hasked
        | command hp => simp [index, hp]
      omega
    | around _ _ hfresh' => exact .inl ⟨_, hfresh'.congr hcurrent hcontent hvisited⟩

/-- Bounds on the events before a performance stops, in a state between two events and in one with
an answer to give. -/
structure Bounded (script : Script) (m : Nat) : Prop where
  between : ∀ s lines seen r, Stops script m ⟨s, none, lines⟩ → Coherent script s →
    Passed script lines m s seen → Remains script s r →
    m ≤ (outlook script s + 2 * lines.length) * room script + (unmarked script seen + r)
  answered : ∀ s a lines, Stops script m ⟨s, some a, lines⟩ → Coherent script s →
    m ≤ (outlook script s + 2 * lines.length + 2) * room script

theorem Bounded.answered_le (h : Bounded script m) {lines left : List String} {i : Nat}
    {options : List Choice} (hpick : picked? options lines = some (i, left))
    (hs : Stops script m ⟨s, some (.ofInt i), left⟩) (hc : Coherent script s) :
    m ≤ (outlook script s + 2 * lines.length) * room script := by
  have hlt := length_lt_of_picked? hpick
  exact (h.answered _ _ _ hs hc).trans (Nat.mul_le_mul_right _ (by omega))

/-- A bound where nothing is known of the states that were passed. -/
theorem Bounded.succ_le (h : Bounded script m) (hnext : Advances script p q)
    (hq : Stops script m q) (hc : Coherent script q.state) :
    m + 1 ≤ (outlook script q.state + 2 * p.lines.length + 1) * room script := by
  have hroom := marks_le_room script
  rw [Nat.add_one_mul]
  cases hnext with
  | @shown s s' input lines e =>
    have hm := h.between _ _ [] (longestBody script + 2) hq hc (by simp [Passed]) (.inr (by omega))
    have hmarks := unmarked_le script []
    dsimp only at hm ⊢
    omega
  | picked _ hpick =>
    have hm := h.answered_le hpick hq hc
    dsimp only at hm ⊢
    omega

theorem Bounded.between_succ (h : Bounded script m)
    (hs : Stops script (m + 1) ⟨s, none, lines⟩) (hc : Coherent script s)
    (hpassed : Passed script lines (m + 1) s seen) (hr : Remains script s r) :
    m + 1 ≤ (outlook script s + 2 * lines.length) * room script + (unmarked script seen + r) := by
  obtain ⟨q, hnext, hq⟩ := hs.exists_advances
  obtain ⟨e, hstep⟩ := hnext.exists_step
  obtain ⟨hbetween, u, -, hemits, hfurther, hshown⟩ := further_of_step hc hstep
  have hcoherent : Coherent script q.state := hc.step hstep
  obtain ⟨-, -, hvisited, hstack⟩ := hshown.keeps
  have houtlook : outlook script q.state = outlook script u := outlook_congr hvisited hstack
  cases hfurther with
  | finished hended => simp [hemits] at hended
  | lingers hsame =>
    obtain ⟨seen', r', hlt, hpassed', hr'⟩ :=
      exists_marked hs hc hbetween hpassed hr hsame hshown
    have heq : outlook script q.state = outlook script s := houtlook.trans hsame.outlook_eq
    cases hnext with
    | shown hstep' he =>
      cases hstep.symm.trans hstep'
      have hm := h.between _ _ seen' r' hq hcoherent hpassed' (hr' he)
      dsimp only at heq hm
      rw [heq] at hm
      omega
    | picked _ hpick =>
      have hm := h.answered_le hpick hq hcoherent
      dsimp only at heq hm
      rw [heq] at hm
      omega
  | less hless =>
    have hm := h.succ_le hnext hq hcoherent
    have hle : outlook script q.state + 2 * lines.length + 1 ≤
        outlook script s + 2 * lines.length := by omega
    calc m + 1
        ≤ (outlook script q.state + 2 * lines.length + 1) * room script := hm
      _ ≤ (outlook script s + 2 * lines.length) * room script := Nat.mul_le_mul_right _ hle
      _ ≤ (outlook script s + 2 * lines.length) * room script + (unmarked script seen + r) :=
          Nat.le_add_right _ _

theorem Bounded.answered_succ (h : Bounded script m) {a : Answer}
    (hs : Stops script (m + 1) ⟨s, some a, lines⟩) (hc : Coherent script s) :
    m + 1 ≤ (outlook script s + 2 * lines.length + 2) * room script := by
  obtain ⟨q, hnext, hq⟩ := hs.exists_advances
  obtain ⟨e, hstep⟩ := hnext.exists_step
  obtain ⟨u, -, hle, hshown⟩ := outlook_of_answer hc hstep
  obtain ⟨-, -, hvisited, hstack⟩ := hshown.keeps
  have houtlook : outlook script q.state = outlook script u := outlook_congr hvisited hstack
  have hm := h.succ_le hnext hq (hc.step hstep)
  exact hm.trans (Nat.mul_le_mul_right _ (by dsimp only; omega))

theorem bounded (script : Script) (m : Nat) : Bounded script m := by
  induction m with
  | zero => exact ⟨fun _ _ _ _ _ _ _ _ => Nat.zero_le _, fun _ _ _ _ _ => Nat.zero_le _⟩
  | succ m ih =>
    exact ⟨fun _ _ _ _ hs hc hpassed hr => ih.between_succ hs hc hpassed hr,
      fun _ _ _ hs hc => ih.answered_succ hs hc⟩

end Bound

section Performance
variable {script : Script} {title : String} {columns : Nat} {lines : List String} {s : State}

/-- What a performance stops with from the start of a session is below its bound. -/
theorem Stops.lt_eventBound {m : Nat} (hs : Session.start script {} title = .ok s)
    (h : Stops script m ⟨s, none, lines⟩) : m < eventBound script lines.length := by
  have hm := (bounded script m).between s lines [] (longestBody script + 2) h (coherent_start hs)
    (by simp [Passed]) (.inr (by omega))
  have houtlook : outlook script s ≤ script.nodes.length := by
    obtain ⟨node, -, rfl⟩ := start_eq_ok_iff.mp hs
    rw [outlook, State.entering_returnStack, List.length_nil, Nat.add_zero, unvisited]
    exact List.countP_le_length
  have hmarks := unmarked_le script []
  have hroom := marks_le_room script
  have hpos : 0 < Replay.maxEvents := by decide
  have hstretches : outlook script s + 2 * lines.length + 1 ≤
      (lines.length + 1) * (script.nodes.length + lines.length + 2) := by nlinarith
  calc m
      ≤ (outlook script s + 2 * lines.length + 1) * room script := by
        rw [Nat.add_one_mul]
        omega
    _ ≤ (lines.length + 1) * (script.nodes.length + lines.length + 2) * room script :=
        Nat.mul_le_mul_right _ hstretches
    _ < eventBound script lines.length := by
        unfold eventBound room
        rw [← Nat.mul_assoc]
        omega

/-- A performance is told endless just where it goes on for ever: from its start it shows any number
of events, with the same lines of input. -/
theorem ending_perform_iff : (perform script title columns lines).ending = .endless ↔
    ∃ s, Session.start script {} title = .ok s ∧
      ∀ n, (drive script columns n s none lines none []).ending = .endless := by
  unfold perform
  cases hs : Session.start script {} title with
  | error f => simp
  | ok s =>
    simp only [Except.ok.injEq, exists_eq_left', ending_drive_iff]
    constructor
    · intro hbound n
      by_contra hn
      obtain ⟨m, hm⟩ := exists_stops hn
      have hlt := hm.lt_eventBound hs
      exact hm.ends ((ending_drive_iff.mp hbound).mono hlt)
    · exact fun h => ending_drive_iff.mpr (h _)

end Performance
end Player
end Dialogue
