import Dialogue.Proofs.Session.Move

/-! Stories: what a session shows call by call, and the same dialogue told visit by visit. -/
namespace Dialogue.Session

/-- How a run stands: it is over, it waits at a choice without an answer, it failed, or only a part
of it was looked at. -/
inductive Ending where
  | ended (visited : Finset String)
  | waiting
  | failed (f : Failure)
  | unfinished
  deriving DecidableEq

/-- The events of a run, each with the titles visited by then, and how the run stands. -/
structure Story where
  moments : List (Event × Finset String)
  ending : Ending
  deriving DecidableEq

namespace Story

def prepend (moments : List (Event × Finset String)) (t : Story) : Story :=
  ⟨moments ++ t.moments, t.ending⟩

/-- The story of a call that may lead to further calls. -/
def ofStep (r : Except Failure (State × Option Event)) (rest : State → Story) : Story :=
  match r with
  | .error f => ⟨[], .failed f⟩
  | .ok (s, none) => ⟨[], .ended s.visited.toFinset⟩
  | .ok (s, some e) => (rest s).prepend [(e, s.visited.toFinset)]

/-- More of the same run: nothing told is taken back, and an ending is final. -/
structure Extends (t u : Story) : Prop where
  moments : t.moments <+: u.moments
  ending : t.ending ≠ .unfinished → u = t

end Story

/-- The first `n` calls from a state: a pending choice takes the next index, and nothing else takes
one. -/
def play (script : Script) : Nat → State → List Nat → Story
  | 0, _, _ => ⟨[], .unfinished⟩
  | n + 1, s, choices =>
    match s.pending, choices with
    | some _, [] => ⟨[], .waiting⟩
    | some _, i :: rest =>
      .ofStep (step script s (some (.ofInt i))) fun s' => play script n s' rest
    | none, _ => .ofStep (step script s none) fun s' => play script n s' choices

/-- A visit to come. The callers to return to stand oldest first. -/
structure Visit where
  title : String
  returning : Bool
  callers : List String
  deriving DecidableEq, Repr

/-- What comes after the lines of a node: its options, and only without any its command. -/
def closing (c : Compiled) : List Event :=
  if c.options = [] then c.command.toList.map (.command · c) else [.choice c.options c]

/-- All that a visit shows. On a return the lines are passed over. -/
def visitEvents (c : Compiled) (returning : Bool) : List Event :=
  (if returning then [] else c.lines.map (lineEvent c)) ++ closing c

/-- What follows a visit: another one with the choices left, or an ending. -/
inductive Sequel where
  | visit (v : Visit) (choices : List Nat)
  | ended
  | waiting
  | failed (f : Failure)
  deriving DecidableEq, Repr

/-- The chosen option's target, else the jump, else the latest caller, else nothing. -/
def sequel (c : Compiled) (callers : List String) (choices : List Nat) : Sequel :=
  if c.options = [] then
    match c.jump with
    | some title => .visit ⟨title, false, callers⟩ choices
    | none =>
      match callers.getLast? with
      | some caller => .visit ⟨caller, true, callers.dropLast⟩ choices
      | none => .ended
  else
    match choices with
    | [] => .waiting
    | i :: rest =>
      match c.options[i]? with
      | none => .failed (wrongAnswer (some c.title) c.options.length (.ofInt i))
      | some o =>
        match o.target with
        | none => .failed (.noTarget o.text (some c.title))
        | some title =>
          .visit ⟨title, false, if o.detour then callers ++ [c.title] else callers⟩ rest

def Sequel.story (visited : Finset String) (next : Visit → List Nat → Story) : Sequel → Story
  | .visit v choices => next v choices
  | .ended => ⟨[], .ended visited⟩
  | .waiting => ⟨[], .waiting⟩
  | .failed f => ⟨[], .failed f⟩

/-- The first `n` visits. A node is compiled against the seed and the titles entered before it. -/
def tell (script : Script) (seed : List String) : Nat → List String → Visit → List Nat → Story
  | 0, _, _, _ => ⟨[], .unfinished⟩
  | n + 1, entered, v, choices =>
    match openNode script v.title with
    | .error f => ⟨[], .failed f⟩
    | .ok node =>
      let c := node.compile (seed ++ entered)
      let entered := entered ++ [v.title]
      let visited := (seed ++ entered).toFinset
      ((sequel c v.callers choices).story visited (tell script seed n entered)).prepend
        ((visitEvents c v.returning).map (·, visited))

section Sequel
variable {c : Compiled} {callers : List String} {choices : List Nat}

theorem sequel_of_jump (ho : c.options = []) {title : String} (hj : c.jump = some title) :
    sequel c callers choices = .visit ⟨title, false, callers⟩ choices := by
  simp [sequel, ho, hj]

theorem sequel_of_caller (ho : c.options = []) (hj : c.jump = none) {caller : String}
    (hr : callers.getLast? = some caller) :
    sequel c callers choices = .visit ⟨caller, true, callers.dropLast⟩ choices := by
  simp [sequel, ho, hj, hr]

theorem sequel_of_nothing (ho : c.options = []) (hj : c.jump = none) :
    sequel c [] choices = .ended := by
  simp [sequel, ho, hj]

theorem sequel_of_no_choice (ho : c.options ≠ []) : sequel c callers [] = .waiting := by
  simp [sequel, ho]

theorem sequel_of_choice (ho : c.options ≠ []) {i : Nat} :
    sequel c callers (i :: choices) =
      match c.options[i]? with
      | none => .failed (wrongAnswer (some c.title) c.options.length (.ofInt i))
      | some o =>
        match o.target with
        | none => .failed (.noTarget o.text (some c.title))
        | some title =>
          .visit ⟨title, false, if o.detour then callers ++ [c.title] else callers⟩ choices := by
  rw [sequel.eq_def, if_neg ho]

end Sequel

namespace Story

@[simp] theorem prepend_nil (t : Story) : t.prepend [] = t := rfl

theorem prepend_prepend (l m : List (Event × Finset String)) (t : Story) :
    (t.prepend m).prepend l = t.prepend (l ++ m) := by
  simp [prepend]

theorem Extends.refl (t : Story) : t.Extends t := ⟨List.prefix_rfl, fun _ => rfl⟩

theorem unfinished_extends (t : Story) : (⟨[], .unfinished⟩ : Story).Extends t :=
  ⟨List.nil_prefix, fun h => absurd rfl h⟩

theorem Extends.prepend {t u : Story} (h : t.Extends u) (l : List (Event × Finset String)) :
    (t.prepend l).Extends (u.prepend l) where
  moments := (List.prefix_append_right_inj l).mpr h.moments
  ending he := by rw [h.ending he]

end Story

/-- Telling more visits extends the story. -/
theorem tell_extends (script : Script) (seed : List String) {m n : Nat} (h : m ≤ n)
    (entered : List String) (v : Visit) (choices : List Nat) :
    (tell script seed m entered v choices).Extends (tell script seed n entered v choices) := by
  induction m generalizing n entered v choices with
  | zero => exact Story.unfinished_extends _
  | succ m ih =>
    obtain ⟨n, rfl⟩ : ∃ k, n = k + 1 := ⟨n - 1, by omega⟩
    simp only [tell]
    cases openNode script v.title with
    | error f => exact .refl _
    | ok node =>
      refine Story.Extends.prepend ?_ _
      cases sequel (node.compile (seed ++ entered)) v.callers choices with
      | visit w rest => exact ih (by omega) _ w rest
      | ended => exact .refl _
      | waiting => exact .refl _
      | failed f => exact .refl _

end Dialogue.Session
