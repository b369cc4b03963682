import Dialogue.Lint
import Dialogue.Proofs.Body.Reading

/-! Surveys of a body: a second pass that follows no gate and only notes where a node can lead. What
it notes and what readings of the node come to never drift apart. -/
namespace Dialogue

/-- Where a node can lead, above its options and below them, and its commands. -/
structure Survey where
  above : List Link := []
  below : List Link := []
  command : Option Command := none
  commandCount : Nat := 0
  deriving DecidableEq, Repr

namespace Survey

def targets (e : Survey) : List Link := e.above ++ e.below

/-- Notes one more line above the options. -/
def note (e : Survey) (line : String) : Survey :=
  match Directive.jump? (Text.trim line) with
  | some title => { e with above := e.above ++ [⟨title, false⟩] }
  | none =>
    match Directive.command? (Text.trim line) with
    | some c => { e with command := some c, commandCount := e.commandCount + 1 }
    | none => e

end Survey

/-- Surveys the lines above the first option, and gives what is left of the body. -/
def surveyAbove : List String → Survey → Survey × List String
  | [], e => (e, [])
  | l :: ls, e =>
    match Skeleton.optionText? l with
    | some _ => (e, l :: ls)
    | none => surveyAbove ls (e.note l)

/-- Surveys the options. An option takes the line below it along if that is a jump or a detour, and
one without a line below it leads nowhere. -/
def surveyBelow : List String → List Link
  | [] | [_] => []
  | l :: below :: ls =>
    match Skeleton.optionText? l with
    | none => surveyBelow (below :: ls)
    | some _ =>
      match Directive.link? (Text.trim below) with
      | some link => link :: surveyBelow ls
      | none => surveyBelow (below :: ls)

/-- The links and the commands of a node, whatever has been visited. -/
def Node.survey (n : Node) : Survey :=
  let (e, rest) := surveyAbove n.body {}
  { e with below := surveyBelow rest }

/-- The link of a choice that leads somewhere. -/
def Choice.link? (c : Choice) : Option Link := c.target.map (⟨·, c.detour⟩)

namespace Directive

theorem startsWith_mark_of_args? {keyword s : String} {args : List String}
    (h : args? keyword s = some args) : Text.startsWith mark s = true := by
  obtain ⟨r, hr, -⟩ := Option.bind_eq_some_iff.mp h
  exact startsWith_mark_of_opened? hr

theorem startsWith_mark_of_isReturn {s : String} (h : isReturn s = true) :
    Text.startsWith mark s = true := by
  unfold isReturn at h
  split at h
  · next r hr =>
    obtain ⟨r', hr', -⟩ := Option.bind_eq_some_iff.mp hr
    exact startsWith_mark_of_opened? hr'
  · simp at h

theorem startsWith_mark_of_command? {s : String} {c : Command} (h : command? s = some c) :
    Text.startsWith mark s = true := by
  unfold command? at h
  split at h
  · next ha => exact startsWith_mark_of_args? ha
  · split at h
    · next ha => exact startsWith_mark_of_args? ha
    · split_ifs at h with hr
      exact startsWith_mark_of_isReturn hr

end Directive

namespace BodyLine
variable {line : String}

theorem ofLine_of_mark (h : Text.startsWith Directive.mark (Text.trim line) = true) :
    ofLine line = match Directive.jump? (Text.trim line) with
      | some title => jump title
      | none =>
        match Directive.command? (Text.trim line) with
        | some c => command c
        | none => unknown := by
  have hne : ¬ (Text.trim line).isEmpty = true := by
    intro he
    simp [String.isEmpty_iff.mp he, Text.startsWith, Directive.mark] at h
  refine (if_neg hne).trans ((if_pos h).trans ?_)
  cases Directive.jump? (Text.trim line) with
  | some title => rfl
  | none => cases Directive.command? (Text.trim line) <;> rfl

theorem ofLine_of_not_mark (h : ¬ Text.startsWith Directive.mark (Text.trim line) = true) :
    (ofLine line).jump? = none ∧ (ofLine line).command? = none := by
  unfold ofLine
  dsimp only
  rw [if_neg h]
  obtain ⟨gate, text⟩ := Gate.split (Text.trim line)
  split_ifs <;> exact ⟨rfl, rfl⟩

/-- A survey need not look for the mark of a directive: what it looks for starts with the mark. -/
theorem jump?_ofLine (line : String) : (ofLine line).jump? = Directive.jump? (Text.trim line) := by
  by_cases hm : Text.startsWith Directive.mark (Text.trim line) = true
  · rw [ofLine_of_mark hm]
    cases Directive.jump? (Text.trim line) with
    | some title => rfl
    | none => cases Directive.command? (Text.trim line) <;> rfl
  · rw [(ofLine_of_not_mark hm).1]
    exact (Option.eq_none_iff_forall_ne_some.mpr fun _ hj =>
      hm (Directive.startsWith_mark_of_jump? hj)).symm

theorem command?_ofLine (h : Directive.jump? (Text.trim line) = none) :
    (ofLine line).command? = Directive.command? (Text.trim line) := by
  by_cases hm : Text.startsWith Directive.mark (Text.trim line) = true
  · rw [ofLine_of_mark hm, h]
    cases Directive.command? (Text.trim line) <;> rfl
  · rw [(ofLine_of_not_mark hm).2]
    exact (Option.eq_none_iff_forall_ne_some.mpr fun _ hc =>
      hm (Directive.startsWith_mark_of_command? hc)).symm

theorem command?_ofLine_of_jump {title : String}
    (h : Directive.jump? (Text.trim line) = some title) : (ofLine line).command? = none := by
  rw [ofLine_of_mark (Directive.startsWith_mark_of_jump? h), h]
  rfl

end BodyLine

theorem surveyAbove_eq (body : List String) (e : Survey) : surveyAbove body e =
    ({ above := e.above ++ ((Skeleton.spokenPart body).filterMap BodyLine.jump?).map (⟨·, false⟩)
       below := e.below
       command := ((Skeleton.spokenPart body).filterMap BodyLine.command?).getLast?.or e.command
       commandCount := e.commandCount +
        ((Skeleton.spokenPart body).filterMap BodyLine.command?).length },
      body.dropWhile fun l => (Skeleton.optionText? l).isNone) := by
  induction body generalizing e with
  | nil => simp [surveyAbove, Skeleton.spokenPart]
  | cons l ls ih =>
    cases h : Skeleton.optionText? l with
    | some s => simp [surveyAbove, Skeleton.spokenPart, h]
    | none =>
      have hspoken : Skeleton.spokenPart (l :: ls) =
          BodyLine.ofLine l :: Skeleton.spokenPart ls := by
        simp [Skeleton.spokenPart, h]
      rw [hspoken, List.filterMap_cons, List.filterMap_cons, BodyLine.jump?_ofLine]
      simp only [surveyAbove, h, ih, Survey.note]
      cases hj : Directive.jump? (Text.trim l) with
      | some title => simp [BodyLine.command?_ofLine_of_jump hj, h]
      | none =>
        rw [BodyLine.command?_ofLine hj]
        cases hc : Directive.command? (Text.trim l) with
        | some c => simp [h, List.getLast?_cons, Nat.add_assoc, Nat.add_comm 1]
        | none => simp [h]

theorem surveyBelow_eq (body : List String) :
    surveyBelow body = (Skeleton.gatedOptions body).filterMap (·.link) := by
  fun_induction surveyBelow body with
  | case1 => rfl
  | case2 l =>
    have hnone : Directive.link? (Text.trim (([] : List String).headD "")) = none := rfl
    cases h : Skeleton.optionText? l with
    | none => rw [Skeleton.gatedOptions_of_none _ h]; rfl
    | some s => rw [Skeleton.gatedOptions_of_some h, hnone]; rfl
  | case3 l below ls h ih => rw [ih, Skeleton.gatedOptions_of_none _ h]
  | case4 l below ls s h link hlink ih =>
    have hnone := Skeleton.optionText?_of_mark (Directive.startsWith_mark_of_link? hlink)
    rw [ih, Skeleton.gatedOptions_of_some h, List.headD_cons, hlink,
      Skeleton.gatedOptions_of_none ls hnone]
    simp
  | case5 l below ls s h hlink ih =>
    rw [ih, Skeleton.gatedOptions_of_some h, List.headD_cons, hlink]
    simp

theorem Node.survey_eq (n : Node) : n.survey =
    { above := n.skeleton.jumps.map (⟨·, false⟩)
      below := n.skeleton.options.filterMap (·.link)
      command := n.skeleton.command?
      commandCount := n.skeleton.commands.length } := by
  unfold survey
  rw [surveyAbove_eq]
  dsimp only
  rw [surveyBelow_eq, Skeleton.gatedOptions_dropWhile]
  simp only [skeleton, Skeleton.ofBody, Skeleton.command?, List.nil_append, Option.or_none,
    Nat.zero_add]

theorem GatedOption.link?_choice (o : GatedOption) (visited : List String) :
    (o.choice visited).link? = o.link := by
  obtain ⟨gate, text, link⟩ := o
  cases link <;> rfl

namespace Node

/-- Each note is on two commands that follow each other. -/
theorem replacements_eq (title : String) (cs : List Command) :
    replacements title cs = List.zipWith (Gathered.replacement title) cs cs.tail := by
  induction cs with
  | nil => rfl
  | cons c cs ih =>
    cases cs with
    | nil => rfl
    | cons d ds => exact congrArg (Gathered.replacement title c d :: ·) ih

theorem links_shown (n : Node) (visited : List String) :
    (n.compile visited).options.filterMap Choice.link? =
      (n.skeleton.options.filter fun o => Gate.allows visited o.gate).filterMap (·.link) := by
  simp only [compile, Skeleton.shownOptions_eq, List.filterMap_map, Function.comp_def,
    GatedOption.link?_choice]

/-- How a reading of a node agrees with its survey. The two are what the node compiles to and what
the graph of its script is made of. -/
structure Agrees (n : Node) (visited : List String) : Prop where
  compiled : n.reading visited = (n.compile visited, n.compileLog)
  links : n.survey.targets = n.skeleton.links
  last : n.survey.command = n.skeleton.command?
  command : (n.reading visited).1.command = n.survey.command
  jump : (n.reading visited).1.jump = n.survey.above.getLast?.map (·.target)
  options : ((n.reading visited).1.options.filterMap Choice.link?).Sublist n.survey.below
  shown : ∀ before l after, n.survey.below = before ++ l :: after →
    ∃ opened before' after', before'.Sublist before ∧ after'.Sublist after ∧
      (n.reading opened).1.options.filterMap Choice.link? = before' ++ l :: after'
  count : (n.reading visited).2.length = n.survey.commandCount - 1
  warnings : ∀ r ∈ (n.reading visited).2, ∃ old new, r = Gathered.replacement n.title old new

theorem agrees (n : Node) (visited : List String) : n.Agrees visited where
  compiled := n.reading_eq visited
  links := by
    rw [survey_eq]
    rfl
  last := by rw [survey_eq]
  command := by
    rw [survey_eq, reading_eq]
    rfl
  jump := by
    rw [survey_eq, reading_eq, List.getLast?_map, Option.map_map]
    exact Option.map_id'.symm
  options := by
    rw [survey_eq, reading_eq, links_shown]
    exact List.filter_sublist.filterMap _
  shown before l after h := by
    rw [survey_eq] at h
    obtain ⟨os, rest, hos, rfl, hrest⟩ := List.filterMap_eq_append_iff.mp h
    obtain ⟨passed, o, os', rfl, hpassed, hlink, rfl⟩ := List.filterMap_eq_cons_iff.mp hrest
    obtain ⟨opened, ho⟩ := Gate.exists_allows o.gate
    have hnone : (passed.filter fun o => Gate.allows opened o.gate).filterMap (·.link) = [] :=
      List.filterMap_eq_nil_iff.mpr fun o ho => hpassed o (List.mem_of_mem_filter ho)
    refine ⟨opened, (os.filter fun o => Gate.allows opened o.gate).filterMap (·.link),
      (os'.filter fun o => Gate.allows opened o.gate).filterMap (·.link),
      List.filter_sublist.filterMap _, List.filter_sublist.filterMap _, ?_⟩
    rw [reading_eq, links_shown, hos]
    simp only [List.filter_append, List.filterMap_append, List.filter_cons, ho, if_true,
      List.filterMap_cons_some hlink, hnone, List.nil_append]
  count := by
    rw [survey_eq, reading_eq, compileLog, replacements_eq, List.length_zipWith, List.length_tail]
    dsimp only
    omega
  warnings r hr := by
    rw [reading_eq, compileLog, replacements_eq] at hr
    obtain ⟨i, hi, rfl⟩ := List.mem_iff_getElem.mp hr
    exact ⟨_, _, List.getElem_zipWith⟩

end Node

/-- A reading and a survey of a node agree whatever has been visited, and the nodes with more than
one command are those of which a reading notes something. -/
theorem readings_agree_with_surveys (visited : List String) : (∀ n : Node, n.Agrees visited) ∧
    ∀ s : Script,
      s.multipleCommands = (s.nodes.filter fun n => 1 < n.survey.commandCount).map (·.title) ∧
      s.multipleCommands =
        (s.nodes.filter fun n => (n.reading visited).2 ≠ []).map (·.title) := by
  refine ⟨fun n => n.agrees visited, fun s => ⟨?_, ?_⟩⟩
  · simp only [Script.multipleCommands, Node.survey_eq]
  · have hwarns : ∀ n : Node, 1 < n.skeleton.commands.length ↔ (n.reading visited).2 ≠ [] := by
      intro n
      have hcount := (n.agrees visited).count
      rw [Node.survey_eq] at hcount
      dsimp only at hcount
      rw [← List.length_pos_iff]
      omega
    simp only [Script.multipleCommands, hwarns]

end Dialogue
