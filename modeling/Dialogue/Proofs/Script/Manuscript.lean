import Dialogue.Proofs.Script.Passage
import Dialogue.Proofs.Script.Placement

/-! Manuscripts: scripts as their authors write them, read as they are meant. -/
namespace Dialogue

theorem exists_of_mem_forall₂ {α β : Type} {R : α → β → Prop} {xs : List α} {ys : List β}
    (h : List.Forall₂ R xs ys) {y : β} (hy : y ∈ ys) : ∃ x ∈ xs, R x y := by
  induction h with
  | nil => exact absurd hy List.not_mem_nil
  | cons hxy _ ih =>
    rcases List.mem_cons.mp hy with rfl | hy
    · exact ⟨_, List.mem_cons_self, hxy⟩
    · obtain ⟨x, hx, hR⟩ := ih hy
      exact ⟨x, List.mem_cons_of_mem _ hx, hR⟩

/-- A line between passages: it opens nothing. -/
structure Idle (l : String) : Prop where
  unbroken : Text.Unbroken l
  no_title : Text.startsWith "title:" (Text.trim (Source.stripComment l)) = false
  no_speaker : Text.startsWith "speaker:" (Text.trim (Source.stripComment l)) = false

/-- Source lines on which passages are written one after the other, with remarks behind any line
and idle lines between them. -/
inductive Manuscript : List Passage → List String → Prop
  | nil : Manuscript [] []
  | idle {ps : List Passage} {ls : List String} {l : String} (hl : Idle l) (h : Manuscript ps ls) :
      Manuscript ps (l :: ls)
  | passage {ps : List Passage} {ls written : List String} {p : Passage}
      (hp : List.Forall₂ (fun l w => ∃ r, Text.Remark r ∧ w = l ++ r) p.lines written)
      (h : Manuscript ps ls) : Manuscript (p :: ps) (written ++ ls)

namespace Block
open Source

theorem scan_block {l t : String} {h : Head} {c : List String} (hl : head? l = some h)
    (hc : ∀ l ∈ c, isTerminator l = false) (ht : isTerminator t = true) (n : Nat)
    (ls : List String) :
    scan n none (l :: (c ++ t :: ls)) = ⟨h, n, c⟩ :: scan (n + c.length + 2) none ls := by
  have hinside : inside (c ++ t :: ls) = c := by
    rw [inside, List.takeWhile_append_of_pos (by simpa using hc)]
    simp [ht]
  have hextent : extent (c ++ t :: ls) = c.length + 1 := by
    clear hinside
    induction c with
    | nil => rw [List.nil_append, extent_of_terminator ls ht, List.length_nil]
    | cons l c ih =>
      rw [List.cons_append, extent_of_line _ (hc l List.mem_cons_self),
        ih fun l hl => hc l (List.mem_cons_of_mem _ hl), List.length_cons]
  have hline : n + 1 + (c.length + 1) = n + c.length + 2 := by omega
  have hrest : (c ++ t :: ls).drop (c.length + 1) = ls := by
    rw [← List.drop_drop, List.drop_left, List.drop_succ_cons, List.drop_zero]
  rw [scan_of_head n _ hl, hinside, hextent, hline, hrest]

end Block

namespace Passage
open Source Text Block

/-- A block says what a passage stands for, and nothing is wrong with it. -/
structure Holds (p : Passage) (b : Block) : Prop where
  node : b.node?.map (fun n => (n.title, n.metadata, n.body)) = p.node?
  speaker : b.speaker?.map (fun sp => (sp.name, sp.talk)) =
    p.speaker?.map fun (name, animation) => (name, some animation)
  issues : b.issues = []

/-- Fields that are written down to a separator are read, and what is below it is the body. -/
theorem fields_written (h : Head) (n : Nat) {metadata : List (String × String)}
    (hm : ∀ e ∈ metadata, (e.1 = "tags" ∨ e.1 = "position") ∧ Entry e.2) (body : List String) :
    (fields ⟨h, n, metadata.map (fun (key, value) => trimEnd (key ++ ": " ++ value)) ++
      "---" :: body⟩).map Prod.snd = metadata.map .ok ∧
    rawBody ⟨h, n, metadata.map (fun (key, value) => trimEnd (key ++ ": " ++ value)) ++
      "---" :: body⟩ = body := by
  induction metadata generalizing n with
  | nil =>
    rw [List.map_nil, List.nil_append, fields_of_separator rfl, rawBody_of_separator rfl]
    exact ⟨rfl, rfl⟩
  | cons e metadata ih =>
    obtain ⟨key, value⟩ := e
    obtain ⟨hkey, hvalue⟩ := hm (key, value) List.mem_cons_self
    have hline : isSeparator (trimEnd (key ++ ": " ++ value)) = false := by
      rw [isSeparator, beq_eq_false_iff_ne]
      exact trim_field_ne hkey value (by decide)
    have hblank : ¬ (trim (trimEnd (key ++ ": " ++ value))).isEmpty = true := by
      rw [String.isEmpty_iff]
      exact trim_field_ne hkey value (by decide)
    obtain ⟨hfields, hbody⟩ := ih (n + 1) fun e he => hm e (List.mem_cons_of_mem _ he)
    rw [List.map_cons, List.cons_append, fields_of_line hline hblank, rawBody_of_line hline,
      readField_field hkey hvalue.trimmed, List.map_cons, hfields, hbody]
    exact ⟨rfl, rfl⟩

theorem body_of_written {h : Head} {n : Nat} {c body : List String}
    (hbody : rawBody ⟨h, n, c⟩ = body) (hfront : ∀ l, body.head? = some l → ¬ isBlankText l)
    (hlast : ∀ l, body.getLast? = some l → ¬ isBlankText l) :
    Block.body ⟨h, n, c⟩ = body := by
  have hdrop : ∀ ls : List String, (∀ l, ls.head? = some l → ¬ isBlankText l) →
      ls.dropWhile isBlankText = ls := by
    intro ls hls
    cases ls with
    | nil => rfl
    | cons l ls => rw [List.dropWhile_cons_of_neg (hls l rfl)]
  have hend : ∀ l, body.reverse.head? = some l → ¬ isBlankText l := by
    intro l hl
    rw [List.head?_reverse] at hl
    exact hlast l hl
  rw [Block.body, hbody, hdrop body hfront, hdrop _ hend, List.reverse_reverse]

theorem holds_node {title : String} {metadata : List (String × String)} {body : List String}
    (hkeys : (metadata.map Prod.fst).Nodup)
    (hmetadata : ∀ e ∈ metadata, (e.1 = "tags" ∨ e.1 = "position") ∧ Entry e.2)
    (hbody : ∀ l ∈ body, BodyText l) (hfront : ∀ l, body.head? = some l → ¬ isBlankText l)
    (hlast : ∀ l, body.getLast? = some l → ¬ isBlankText l) (n : Nat) :
    (node title metadata body).Holds
      ⟨.title title, n, (node title metadata body).content.map trimEnd⟩ := by
  have hlines : body.map trimEnd = body :=
    List.map_congr_left (fun l hl => (hbody l hl).trimmed) |>.trans (List.map_id body)
  have hcontent : (node title metadata body).content.map trimEnd =
      metadata.map (fun (key, value) => trimEnd (key ++ ": " ++ value)) ++ "---" :: body := by
    rw [content, List.map_append, List.map_cons, List.map_map, hlines]
    rfl
  obtain ⟨hfields, hraw⟩ := fields_written (.title title) n hmetadata body
  rw [hcontent]
  generalize hc : metadata.map (fun (key, value) => trimEnd (key ++ ": " ++ value)) ++
    "---" :: body = c at hfields hraw
  have htable : Block.metadata ⟨.title title, n, c⟩ = metadata := by
    have hvalues : (fields ⟨.title title, n, c⟩).filterMap (·.2.toOption) = metadata := by
      have hsnd := congrArg (List.filterMap Except.toOption) hfields
      rw [List.filterMap_map, List.filterMap_map] at hsnd
      exact hsnd.trans (List.filterMap_some)
    rw [Block.metadata, hvalues, Table.ofList_eq_self hkeys]
  refine ⟨?_, rfl, ?_⟩
  · rw [Block.node?, Option.map_some, htable, body_of_written hraw hfront hlast]
    rfl
  · rw [Block.issues, List.filterMap_eq_nil_iff]
    rintro ⟨line, field⟩ hfield
    have hmem := List.mem_map_of_mem (f := Prod.snd) hfield
    rw [hfields] at hmem
    obtain ⟨entry, -, rfl⟩ := List.mem_map.mp hmem
    rfl

theorem holds_speaker {name : String} {separated colon : Bool} {animation : String}
    (hanimation : Entry animation)
    (hbare : colon = false → animation ≠ "" ∧ startsWith ":" animation = false) (n : Nat) :
    (speaker name separated colon animation).Holds
      ⟨.speaker name, n, (speaker name separated colon animation).content.map trimEnd⟩ := by
  have htalk : Block.talk ⟨.speaker name, n,
      (speaker name separated colon animation).content.map trimEnd⟩ = some animation := by
    rw [Block.talk_eq, content, List.map_append, List.filterMap_append, List.map_singleton,
      List.filterMap_cons_some (named?_written hanimation hbare), List.getLast?_append]
    rfl
  refine ⟨rfl, ?_, rfl⟩
  rw [Block.speaker?, Option.map_some, htalk]
  rfl

theorem holds_block {p : Passage} (hp : p.WellFormed) (n : Nat) :
    p.Holds ⟨p.head, n, p.content.map trimEnd⟩ := by
  cases hp with
  | node htitle hkeys hmetadata hbody hfront hlast =>
    exact holds_node hkeys hmetadata hbody hfront hlast n
  | speaker _ hanimation hbare => exact holds_speaker hanimation hbare n

end Passage

namespace Manuscript
open Source Text
variable {ps : List Passage} {source : List String}

theorem head?_idle {l : String} (h : Idle l) : head? (trimEnd (stripComment l)) = none := by
  have hno : ∀ w : String, startsWith w (trim (stripComment l)) = false →
      after? w (trimChars (trimEnd (stripComment l)).toList) = none := by
    intro w hw
    rw [trimChars_line, after?, if_neg]
    rw [startsWith, trim, String.toList_ofList] at hw
    simp [hw]
  rw [head?, hno _ h.no_title, hno _ h.no_speaker]
  rfl

theorem unbroken (h : Manuscript ps source) (hps : ∀ p ∈ ps, p.WellFormed) :
    ∀ l ∈ source, Unbroken l := by
  induction h with
  | nil => exact fun l hl => absurd hl List.not_mem_nil
  | idle hl _ ih => exact List.forall_mem_cons.mpr ⟨hl.unbroken, ih hps⟩
  | passage hp _ ih =>
    rw [List.forall_mem_append]
    refine ⟨fun w hw => ?_, ih fun p hp => hps p (List.mem_cons_of_mem _ hp)⟩
    obtain ⟨l, hl, r, hr, rfl⟩ := exists_of_mem_forall₂ hp hw
    exact (Passage.clear_lines (hps _ List.mem_cons_self) l hl).unbroken.append hr.1

/-- The blocks of a manuscript are its passages. -/
theorem scan_holds (h : Manuscript ps source) (hps : ∀ p ∈ ps, p.WellFormed) (n : Nat) :
    List.Forall₂ Passage.Holds ps
      (Block.scan n none (source.map fun l => trimEnd (stripComment l))) := by
  induction h generalizing n with
  | nil => exact .nil
  | idle hl _ ih =>
    rw [List.map_cons, Block.scan_of_no_head _ _ (head?_idle hl)]
    exact ih hps (n + 1)
  | @passage ps ls written p hp _ ih =>
    have hwell := hps p List.mem_cons_self
    have hlines : (written ++ ls).map (fun l => trimEnd (stripComment l)) =
        trimEnd p.opening :: (p.content.map trimEnd ++
          trimEnd "===" :: ls.map fun l => trimEnd (stripComment l)) := by
      rw [List.map_append, Passage.written_lines hwell hp, Passage.lines]
      simp
    rw [hlines, Block.scan_block (Passage.head?_opening hwell)
      (List.forall_mem_map.mpr (Passage.not_isTerminator_of_content hwell)) rfl]
    exact .cons (Passage.holds_block hwell n) (ih (fun p hp => hps p (List.mem_cons_of_mem _ hp)) _)

/-- What passages say is what the blocks of their manuscript say. -/
theorem filterMap_holds {bs : List Block} (h : List.Forall₂ Passage.Holds ps bs) :
    (bs.filterMap Block.node?).map (fun n => (n.title, n.metadata, n.body)) =
        ps.filterMap Passage.node? ∧
      (bs.filterMap Block.speaker?).map (fun sp => (sp.name, sp.talk)) =
        (ps.filterMap Passage.speaker?).map (fun (name, animation) => (name, some animation)) ∧
      bs.flatMap Block.issues = [] := by
  simp only [List.map_filterMap]
  induction h with
  | nil => exact ⟨rfl, rfl, rfl⟩
  | cons hb _ ih =>
    obtain ⟨hnodes, hspeakers, hissues⟩ := ih
    simp only [List.filterMap_cons, hb.node, hb.speaker, hnodes, hspeakers, List.flatMap_cons,
      hb.issues, hissues, List.append_nil, and_self]

end Manuscript

/-- A manuscript is read as it is meant, from any text that has its lines: without a problem, with
its nodes in order, and with the last definition of each speaker at the place of the first. -/
theorem Script.readStrict_manuscript {ps : List Passage} {source : List String}
    (hps : ∀ p ∈ ps, p.WellFormed) (h : Manuscript ps source) :
    Text.splitLines (Text.unlines source) = source ∧
    ∀ text, Text.splitLines text = source → ∃ script, Script.readStrict text = .ok script ∧
      script.nodes.map (fun n => (n.title, n.metadata, n.body)) = ps.filterMap Passage.node? ∧
      script.speakers.keys = ((ps.filterMap Passage.speaker?).map Prod.fst).eraseDups ∧
      ∀ name, (script.speakers.get? name).map (fun sp => (sp.name, sp.talk)) =
        ((ps.filterMap Passage.speaker?).findRev? (·.1 == name)).map
          fun (name, animation) => (name, some animation) := by
  refine ⟨Text.splitLines_unlines (h.unbroken hps), ?_⟩
  rintro text rfl
  obtain ⟨hnodes, hspeakers, hissues⟩ := Manuscript.filterMap_holds (h.scan_holds hps 1)
  -- Only names and animations are compared: where speakers are defined is not in the passages.
  have hnames := congrArg (List.map Prod.fst) hspeakers
  rw [List.map_map, List.map_map] at hnames
  refine ⟨(read text).1, ?_, hnodes, ?_, fun name => ?_⟩
  · have hread : read text = ((read text).1, []) := Prod.ext rfl hissues
    rw [readStrict, hread]
  · refine (Table.keys_ofList _).trans (congrArg List.eraseDups ?_)
    rw [List.map_map]
    exact hnames
  · have hlast := congrArg (fun l => l.reverse.find? (·.1 == name)) hspeakers
    simp only [← List.map_reverse, List.find?_map] at hlast
    refine (congrArg _ (Table.get?_ofList _ name)).trans ?_
    simp only [List.findRev?_eq_find?_reverse, ← List.map_reverse, List.find?_map, Option.map_map]
    exact hlast

/-- A node between comments and two definitions of one speaker. -/
theorem Script.readStrict_manuscript_redefined : ∃ script,
    Script.readStrict (Text.unlines ["speaker: Ada", "talkAnim: wave", "===", "# The first scene",
      "title: Start # here", "tags: intro", "---", "Ada: Hello.", "title: Hello", "---", "===",
      "speaker: Ada", "---", "talkAnim nod", "==="]) = .ok script ∧
    script.nodes.map (fun n => (n.title, n.metadata, n.body)) =
      [("Start", [("tags", "intro")], ["Ada: Hello.", "title: Hello", "---"])] ∧
    script.speakers.keys = ["Ada"] ∧
    (script.speakers.get? "Ada").map (fun sp => (sp.name, sp.talk)) = some ("Ada", some "nod") := by
  let start : Passage :=
    .node "Start" [("tags", "intro")] ["Ada: Hello.", "title: Hello", "---"]
  let wave : Passage := .speaker "Ada" false true "wave"
  let nod : Passage := .speaker "Ada" true false "nod"
  have hps : ∀ p ∈ [wave, start, nod], p.WellFormed := by
    simp only [List.forall_mem_cons]
    refine ⟨.speaker ?_ ?_ ?_, .node ?_ ?_ ?_ ?_ ?_ ?_, .speaker ?_ ?_ ?_, List.forall_mem_nil _⟩
    all_goals decide +kernel
  have hplain : ∀ ls : List String,
      List.Forall₂ (fun l w => ∃ r, Text.Remark r ∧ w = l ++ r) ls ls := fun ls =>
    List.forall₂_same.mpr fun l _ =>
      ⟨"", ⟨by decide, "", "", rfl, .inl rfl⟩, String.append_empty.symm⟩
  have hhere : Text.Remark " # here" := ⟨by decide, " ", " here", by decide, .inr rfl⟩
  have hidle : Idle "# The first scene" := ⟨by decide, by decide, by decide⟩
  have h : Manuscript [wave, start, nod] (wave.lines ++ "# The first scene" ::
      ("title: Start # here" :: (start.content ++ ["==="]) ++ (nod.lines ++ []))) :=
    .passage (hplain _) (.idle hidle (.passage (.cons ⟨" # here", hhere, by decide⟩ (hplain _))
      (.passage (hplain _) .nil)))
  obtain ⟨hlines, hread⟩ := Script.readStrict_manuscript hps h
  obtain ⟨script, hscript, hnodes, hkeys, hspeakers⟩ := hread _ hlines
  exact ⟨script, hscript, hnodes, hkeys, hspeakers "Ada"⟩

end Dialogue
