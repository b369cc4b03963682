import Dialogue.Proofs.Body.Compile

/-! Readings of a body: one pass from line to line with the visited titles at hand. Shown and hidden
options take different lines along, and still the pass comes to what the gates let through. -/
namespace Dialogue

/-- What a reading has gathered above the options. -/
structure Gathered where
  lines : List String := []
  jump : Option String := none
  command : Option Command := none
  log : List LogRecord := []
  deriving DecidableEq, Repr

namespace Gathered

/-- The note that a command takes the place of the one before it. -/
def replacement (title : String) (old new : Command) : LogRecord :=
  ⟨.warning, Node.compileLogger,
    s!"Node '{title}' has more than one command; '{new.name}' replaces '{old.name}'"⟩

/-- Takes in one more line. -/
def add (title : String) (visited : List String) (g : Gathered) : BodyLine → Gathered
  | .blank | .unknown => g
  | .jump target => { g with jump := some target }
  | .command c =>
    { g with
      command := some c
      log := g.log ++ (g.command.map (replacement title · c)).toList }
  | .speech gate text =>
    if Gate.allows visited gate && !text.isEmpty then { g with lines := g.lines ++ [text] } else g

end Gathered

/-- Reads the lines above the first option, and gives what is left of the body. -/
def readAbove (title : String) (visited : List String) :
    List String → Gathered → Gathered × List String
  | [], g => (g, [])
  | l :: ls, g =>
    match Skeleton.optionText? l with
    | some _ => (g, l :: ls)
    | none => readAbove title visited ls (g.add title visited (BodyLine.ofLine l))

/-- Reads an option above the line `below`: what is shown of it, and whether it takes that line
along. A shown option takes a jump or a detour, a hidden one any directive, well formed or not. -/
def readOption (visited : List String) (s below : String) : Option Choice × Bool :=
  let (gate, text) := Gate.split s
  if Gate.allows visited gate then
    match Directive.link? below with
    | some link =>
      (some ⟨text, some link.target, visited.contains link.target, link.detour⟩, true)
    | none => (some ⟨text, none, false, false⟩, false)
  else (none, Text.startsWith Directive.mark below)

/-- Reads the options from a line on, going on below the lines that they take along. -/
def readOptions (visited : List String) : List String → List Choice
  | [] => []
  | l :: ls =>
    match Skeleton.optionText? l with
    | none => readOptions visited ls
    | some s =>
      match readOption visited s (Text.trim (ls.headD "")) with
      | (choice, true) => choice.toList ++ readOptions visited ls.tail
      | (choice, false) => choice.toList ++ readOptions visited ls
termination_by body => body.length
decreasing_by all_goals (simp only [List.length_cons, List.length_tail]; omega)

/-- A node read with some titles visited, and what the reading notes. -/
def Node.reading (n : Node) (visited : List String) : Compiled × List LogRecord :=
  let (g, rest) := readAbove n.title visited n.body {}
  ({ title := n.title, tags := n.tags, lines := g.lines, options := readOptions visited rest,
     jump := g.jump, command := g.command }, g.log)

namespace Directive

theorem startsWith_mark_of_opened? {s : String} {r : List Char} (h : opened? s.toList = some r) :
    Text.startsWith mark s = true := by
  unfold opened? Text.after? at h
  split_ifs at h with hp
  · exact hp
  · simp at h

theorem startsWith_mark_of_target? {keyword s title : String}
    (h : target? keyword s = some title) : Text.startsWith mark s = true := by
  obtain ⟨r, hr, -⟩ := Option.bind_eq_some_iff.mp h
  exact startsWith_mark_of_opened? hr

theorem startsWith_mark_of_jump? {s title : String} (h : jump? s = some title) :
    Text.startsWith mark s = true :=
  startsWith_mark_of_target? h

theorem startsWith_mark_of_link? {s : String} {l : Link} (h : link? s = some l) :
    Text.startsWith mark s = true := by
  unfold link? at h
  split at h
  · next hj => exact startsWith_mark_of_jump? hj
  · obtain ⟨title, ht, -⟩ := Option.map_eq_some_iff.mp h
    exact startsWith_mark_of_target? ht

end Directive

namespace Skeleton

/-- No line is both an option and a directive. -/
theorem optionText?_of_mark {line : String}
    (h : Text.startsWith Directive.mark (Text.trim line) = true) : optionText? line = none := by
  have hchars : (Text.trim line).toList = Text.trimChars line.toList := by simp [Text.trim]
  obtain ⟨r, hr⟩ := List.isPrefixOf_iff_prefix.mp h
  have hopen : Text.trimChars line.toList = '<' :: '<' :: r := hchars.symm.trans hr.symm
  simp [optionText?, Text.after?, optionMark, hopen, List.isPrefixOf]

theorem spokenPart_of_none {l : String} {ls : List String} (h : optionText? l = none) :
    spokenPart (l :: ls) = BodyLine.ofLine l :: spokenPart ls := by
  simp [spokenPart, h]

theorem gatedOptions_of_none {l : String} (ls : List String) (h : optionText? l = none) :
    gatedOptions (l :: ls) = gatedOptions ls := by
  conv_lhs => rw [gatedOptions]
  rw [h]

theorem gatedOptions_of_some {l s : String} {ls : List String} (h : optionText? l = some s) :
    gatedOptions (l :: ls) =
      ⟨(Gate.split s).1, (Gate.split s).2, Directive.link? (Text.trim (ls.headD ""))⟩ ::
        gatedOptions ls := by
  conv_lhs => rw [gatedOptions]
  rw [h]

theorem gatedOptions_tail {body : List String}
    (h : Text.startsWith Directive.mark (Text.trim (body.headD "")) = true) :
    gatedOptions body.tail = gatedOptions body := by
  cases body with
  | nil => rfl
  | cons l ls => exact (gatedOptions_of_none ls (optionText?_of_mark h)).symm

end Skeleton

/-- Every gate lets someone through. -/
theorem Gate.exists_allows (g : Option Gate) : ∃ visited, Gate.allows visited g = true := by
  rcases g with _ | ⟨negated, title⟩
  · exact ⟨[], rfl⟩
  · cases negated
    · exact ⟨[title], by simp [allows, passes]⟩
    · exact ⟨[], by simp [allows, passes]⟩

theorem filterMap_if {α β : Type} (p : α → Bool) (f : α → β) (l : List α) :
    (l.filterMap fun a => if p a then some (f a) else none) = (l.filter p).map f := by
  induction l with
  | nil => rfl
  | cons a l ih => by_cases h : p a = true <;> simp [h, ih]

theorem readOption_fst (visited : List String) (s below : String) :
    (readOption visited s below).1 =
      if Gate.allows visited (Gate.split s).1 then
        some (GatedOption.choice visited
          ⟨(Gate.split s).1, (Gate.split s).2, Directive.link? below⟩)
      else none := by
  unfold readOption
  obtain ⟨gate, text⟩ := Gate.split s
  dsimp only
  split_ifs
  · cases Directive.link? below <;> rfl
  · rfl

/-- Only directives are taken along. -/
theorem mark_of_readOption {visited : List String} {s below : String}
    (h : (readOption visited s below).2 = true) :
    Text.startsWith Directive.mark below = true := by
  unfold readOption at h
  obtain ⟨gate, text⟩ := Gate.split s
  dsimp only at h
  split_ifs at h with hg
  · cases hlink : Directive.link? below with
    | some link => exact Directive.startsWith_mark_of_link? hlink
    | none => simp [hlink] at h
  · exact h

/-- Whichever lines the options take along, none of them is an option. -/
theorem readOptions_eq (visited : List String) (body : List String) : readOptions visited body =
    ((Skeleton.gatedOptions body).filter fun o => Gate.allows visited o.gate).map
      (·.choice visited) := by
  fun_induction readOptions visited body with
  | case1 => rfl
  | case2 l ls hl ih => rw [ih, Skeleton.gatedOptions_of_none ls hl]
  | case3 l ls s hl choice hread ih =>
    have hmark := mark_of_readOption (congrArg Prod.snd hread)
    obtain rfl : _ = choice := congrArg Prod.fst hread
    rw [ih, Skeleton.gatedOptions_tail hmark, Skeleton.gatedOptions_of_some hl, readOption_fst,
      List.filter_cons]
    split_ifs <;> simp
  | case4 l ls s hl choice hread ih =>
    obtain rfl : _ = choice := congrArg Prod.fst hread
    rw [ih, Skeleton.gatedOptions_of_some hl, readOption_fst, List.filter_cons]
    split_ifs <;> simp

/-- The text of a spoken line, if it is shown. -/
def BodyLine.shown? (visited : List String) : BodyLine → Option String
  | .speech gate text => if Gate.allows visited gate && !text.isEmpty then some text else none
  | _ => none

namespace Gathered
variable (title : String) (visited : List String)

theorem replacements_append (old : Option Command) (c : Command) (cs : List Command) :
    Node.replacements title (old.toList ++ c :: cs) =
      (old.map (replacement title · c)).toList ++ Node.replacements title (c :: cs) := by
  cases old <;> rfl

/-- All that is gathered from some lines, told line kind by line kind. -/
theorem foldl_add (ls : List BodyLine) (g : Gathered) : ls.foldl (add title visited) g =
    { lines := g.lines ++ ls.filterMap (BodyLine.shown? visited)
      jump := (ls.filterMap BodyLine.jump?).getLast?.or g.jump
      command := (ls.filterMap BodyLine.command?).getLast?.or g.command
      log := g.log ++
        Node.replacements title (g.command.toList ++ ls.filterMap BodyLine.command?) } := by
  induction ls generalizing g with
  | nil =>
    obtain ⟨lines, jump, command, log⟩ := g
    cases command <;> simp [Node.replacements]
  | cons l ls ih =>
    rw [List.foldl_cons, ih]
    cases l with
    | blank => rfl
    | unknown => rfl
    | jump target =>
      simp [add, List.filterMap_cons, BodyLine.jump?, BodyLine.command?, BodyLine.shown?,
        List.getLast?_cons]
    | command c =>
      simp [add, List.filterMap_cons, BodyLine.jump?, BodyLine.command?, BodyLine.shown?,
        List.getLast?_cons, replacements_append]
    | speech gate text =>
      by_cases h : (Gate.allows visited gate && !text.isEmpty) = true <;>
        simp [add, List.filterMap_cons, BodyLine.jump?, BodyLine.command?, BodyLine.shown?, h]

end Gathered

theorem readAbove_eq (title : String) (visited : List String) (body : List String) (g : Gathered) :
    readAbove title visited body g = ((Skeleton.spokenPart body).foldl (·.add title visited) g,
      body.dropWhile fun l => (Skeleton.optionText? l).isNone) := by
  induction body generalizing g with
  | nil => rfl
  | cons l ls ih =>
    cases h : Skeleton.optionText? l <;> simp [readAbove, Skeleton.spokenPart, h, ih]

namespace Skeleton

theorem gatedOptions_dropWhile (body : List String) :
    gatedOptions (body.dropWhile fun l => (optionText? l).isNone) = gatedOptions body := by
  induction body with
  | nil => rfl
  | cons l ls ih =>
    cases h : optionText? l with
    | none => simp [h, ih, gatedOptions_of_none ls h]
    | some s => simp [h]

theorem shownLines_ofBody (body visited : List String) : (ofBody body).shownLines visited =
    (spokenPart body).filterMap (BodyLine.shown? visited) := by
  have hline : ∀ l : BodyLine × Nat, ((l.1.spoken? l.2).bind fun g =>
      if Gate.allows visited g.gate && !g.text.isEmpty then some g.text else none) =
      l.1.shown? visited := by
    rintro ⟨l, offset⟩
    cases l <;> rfl
  simp only [shownLines, ofBody, List.filterMap_filterMap, hline]
  conv_rhs => rw [← List.zipIdx_map_fst 0 (spokenPart body), List.filterMap_map]
  rfl

theorem shownOptions_eq (k : Skeleton) (visited : List String) : k.shownOptions visited =
    (k.options.filter fun o => Gate.allows visited o.gate).map (·.choice visited) :=
  filterMap_if _ _ _

theorem shownLines_eq (k : Skeleton) (visited : List String) : k.shownLines visited =
    (k.lines.filter fun l => Gate.allows visited l.gate && !l.text.isEmpty).map (·.text) :=
  filterMap_if _ _ _

end Skeleton

namespace Node

/-- Reading a node in one pass gives what it compiles to, and notes the same. -/
theorem reading_eq (n : Node) (visited : List String) :
    n.reading visited = (n.compile visited, n.compileLog) := by
  unfold reading
  rw [readAbove_eq, Gathered.foldl_add]
  dsimp only
  rw [readOptions_eq, Skeleton.gatedOptions_dropWhile]
  simp only [compile, compileLog, skeleton, Skeleton.shownLines_ofBody, Skeleton.shownOptions_eq]
  simp only [Skeleton.command?, Skeleton.ofBody, List.nil_append, Option.or_none,
    Option.toList_none]

/-- Gates are pure filters. Of every body there are lines, options, a jump and a command that do not
depend on what was visited, and any reading of the body gives those lines with a text and those
options whose gates pass, in order and otherwise unchanged, with that jump and that command. -/
theorem reading_filters (n : Node) : ∃ (lines : List (Option Gate × String))
    (options : List GatedOption) (jump : Option String) (command : Option Command),
    ∀ visited : List String, n.reading visited = (n.compile visited, n.compileLog) ∧
      n.compile visited =
      { title := n.title
        tags := n.tags
        lines := (lines.filter fun l => Gate.allows visited l.1 && !l.2.isEmpty).map (·.2)
        options := (options.filter fun o => Gate.allows visited o.gate).map fun o =>
          { text := o.text
            target := o.link.map (·.target)
            visited := o.link.any (visited.contains ·.target)
            detour := o.link.any (·.detour) }
        jump, command } := by
  refine ⟨n.skeleton.lines.map fun l => (l.gate, l.text), n.skeleton.options,
    n.skeleton.jumps.getLast?, n.skeleton.command?, fun visited => ⟨n.reading_eq visited, ?_⟩⟩
  have hchoice : ∀ o : GatedOption, o.choice visited =
      { text := o.text
        target := o.link.map (·.target)
        visited := o.link.any (visited.contains ·.target)
        detour := o.link.any (·.detour) } := by
    rintro ⟨gate, text, link⟩
    cases link <;> rfl
  simp only [compile, Skeleton.shownLines_eq, Skeleton.shownOptions_eq, hchoice]
  rw [List.filter_map, List.map_map]
  rfl

end Node
end Dialogue
