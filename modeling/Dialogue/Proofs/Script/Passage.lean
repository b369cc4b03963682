import Dialogue.Proofs.Script.Parse
import Dialogue.Proofs.Text.Lines
import Dialogue.Proofs.Text.Match
import Dialogue.Proofs.Text.Trimming

/-! Passages: blocks as their authors write them, and what the reader makes of their lines. -/
namespace Dialogue

namespace Text

/-- No line break and no number sign in a text. -/
def Clear (s : String) : Prop := ∀ c ∈ s.toList, isLineBreak c = false ∧ c ≠ '#'

instance (s : String) : Decidable (Clear s) := List.decidableBAll _ s.toList

theorem Clear.unbroken {s : String} (h : Clear s) : Unbroken s := fun c hc => (h c hc).1

theorem Clear.unmarked {s : String} (h : Clear s) : '#' ∉ s.toList := fun hc => (h _ hc).2 rfl

theorem Clear.append {s t : String} (hs : Clear s) (ht : Clear t) : Clear (s ++ t) := by
  intro c hc
  rw [String.toList_append, List.mem_append] at hc
  exact hc.elim (hs c) (ht c)

/-- What may stand behind a line: blanks, and perhaps a comment. -/
def Remark (r : String) : Prop :=
  Unbroken r ∧ ∃ gap comment, isBlankText gap = true ∧ (r = gap ∨ r = gap ++ "#" ++ comment)

end Text

/-- A block as its author writes it. A speaker has a separator or none, and the animation behind a
colon or without one. -/
inductive Passage where
  | node (title : String) (metadata : List (String × String)) (body : List String)
  | speaker (name : String) (separated colon : Bool) (animation : String)
  deriving DecidableEq, Repr

namespace Passage

/-- The line that opens a passage. -/
def opening : Passage → String
  | node title _ _ => "title: " ++ title
  | speaker name _ _ _ => "speaker: " ++ name

/-- The lines between the first one and the terminator. -/
def content : Passage → List String
  | node _ metadata body => metadata.map (fun (key, value) => key ++ ": " ++ value) ++ "---" :: body
  | speaker _ separated colon animation =>
    (if separated then ["---"] else []) ++
      [(if colon then "talkAnim: " else "talkAnim ") ++ animation]

def lines (p : Passage) : List String := p.opening :: (p.content ++ ["==="])

/-- A title, a name or a value: trimmed, on one line, and without a number sign. -/
structure Entry (s : String) : Prop where
  trimmed : Text.trim s = s
  clear : Text.Clear s

instance (s : String) : Decidable (Entry s) :=
  decidable_of_iff (Text.trim s = s ∧ Text.Clear s) ⟨fun h => ⟨h.1, h.2⟩, fun h => ⟨h.1, h.2⟩⟩

/-- A line of a body: without blanks at its end and without a number sign, and no terminator. -/
structure BodyText (l : String) : Prop where
  trimmed : Text.trimEnd l = l
  clear : Text.Clear l
  inside : Text.trim l ≠ "==="

instance (l : String) : Decidable (BodyText l) :=
  decidable_of_iff (Text.trimEnd l = l ∧ Text.Clear l ∧ Text.trim l ≠ "===")
    ⟨fun h => ⟨h.1, h.2.1, h.2.2⟩, fun h => ⟨h.1, h.2, h.3⟩⟩

/-- What the format asks of a passage. -/
inductive WellFormed : Passage → Prop
  | node {title : String} {metadata : List (String × String)} {body : List String}
      (htitle : Entry title) (hkeys : (metadata.map Prod.fst).Nodup)
      (hmetadata : ∀ e ∈ metadata, (e.1 = "tags" ∨ e.1 = "position") ∧ Entry e.2)
      (hbody : ∀ l ∈ body, BodyText l) (hfront : ∀ l, body.head? = some l → ¬ Text.isBlankText l)
      (hlast : ∀ l, body.getLast? = some l → ¬ Text.isBlankText l) :
      WellFormed (.node title metadata body)
  | speaker {name : String} {separated colon : Bool} {animation : String} (hname : Entry name)
      (hanimation : Entry animation)
      (hbare : colon = false → animation ≠ "" ∧ Text.startsWith ":" animation = false) :
      WellFormed (.speaker name separated colon animation)

/-- The title, the metadata and the body that a passage stands for. -/
def node? : Passage → Option (String × Table String × List String)
  | node title metadata body => some (title, metadata, body)
  | speaker _ _ _ _ => none

/-- The name and the animation that a passage stands for. -/
def speaker? : Passage → Option (String × String)
  | node _ _ _ => none
  | speaker name _ _ animation => some (name, animation)

end Passage

section Reading
open Text Source

theorem stripComment_remark {l r : String} (hl : '#' ∉ l.toList) (hr : Remark r) :
    trimEnd (stripComment (l ++ r)) = trimEnd l := by
  have hblank : AllBlank (r.toList.takeWhile (· ≠ '#')) := by
    obtain ⟨-, gap, comment, hgap, rfl | rfl⟩ := hr
    · exact fun c hc => isBlankText_iff.mp hgap c ((List.takeWhile_prefix _).subset hc)
    · have hgap' := isBlankText_iff.mp hgap
      have hmark : ∀ c ∈ gap.toList, decide (c ≠ '#') = true := by
        intro c hc
        have := hgap' c hc
        rw [decide_eq_true_eq]
        rintro rfl
        simp [isBlank] at this
      have hcomment : "#".toList = ['#'] := rfl
      rw [String.toList_append, String.toList_append, List.append_assoc,
        List.takeWhile_append_of_pos hmark, hcomment]
      simpa using hgap'
  have hline : ∀ c ∈ l.toList, decide (c ≠ '#') = true := by
    intro c hc
    rw [decide_eq_true_eq]
    rintro rfl
    exact hl hc
  rw [trimEnd, trimEnd, stripComment, String.toList_ofList, String.toList_append,
    List.takeWhile_append_of_pos hline, dropBlankEnd_append hblank]

theorem trimChars_space (cs : List Char) :
    trimChars (dropBlankEnd (' ' :: cs)) = trimChars cs := by
  rw [trimChars_dropBlankEnd]
  exact trimChars_append_left (a := [' ']) (by simp [AllBlank, isBlank]) cs

/-- A word, a blank and an entry, without the blanks at their ends. -/
theorem trimChars_worded {w : String} (hfront : dropBlank w.toList = w.toList)
    (hend : dropBlankEnd w.toList = w.toList) (hw : w.toList ≠ []) (s : String) :
    trimChars (trimEnd (w ++ " " ++ s)).toList = w.toList ++ dropBlankEnd (' ' :: s.toList) := by
  have hblank : " ".toList = [' '] := rfl
  rw [trimEnd, String.toList_ofList, trimChars_dropBlankEnd, String.toList_append,
    String.toList_append, List.append_assoc, hblank, List.singleton_append,
    trimChars_word hfront hend hw]

theorem toList_of_trim {s : String} (h : trim s = s) : trimChars s.toList = s.toList := by
  rw [← String.toList_ofList (l := trimChars s.toList)]
  exact congrArg String.toList h

theorem trimChars_entry {s : String} (hs : trim s = s) :
    String.ofList (trimChars (dropBlankEnd (' ' :: s.toList))) = s := by
  rw [trimChars_space]
  exact hs

theorem head?_title {title : String} (h : trim title = title) :
    head? (trimEnd ("title: " ++ title)) = some (.title title) := by
  have hline := trimChars_worded (w := "title:") (by decide) (by decide) (by decide) title
  have hrest : after? "title:" (trimChars (trimEnd ("title:" ++ " " ++ title)).toList) =
      some (dropBlankEnd (' ' :: title.toList)) := after?_eq_some_iff.mpr hline
  have hsplit : "title: " = "title:" ++ " " := rfl
  rw [hsplit, head?, hrest]
  simp only [trimChars_entry h]

theorem head?_speaker {name : String} (h : trim name = name) :
    head? (trimEnd ("speaker: " ++ name)) = some (.speaker name) := by
  have hline := trimChars_worded (w := "speaker:") (by decide) (by decide) (by decide) name
  have hnone : after? "title:" (trimChars (trimEnd ("speaker:" ++ " " ++ name)).toList) = none := by
    rw [hline]
    rfl
  have hrest : after? "speaker:" (trimChars (trimEnd ("speaker:" ++ " " ++ name)).toList) =
      some (dropBlankEnd (' ' :: name.toList)) := after?_eq_some_iff.mpr hline
  have hsplit : "speaker: " = "speaker:" ++ " " := rfl
  rw [hsplit, head?, hnone, hrest]
  simp only [Option.map_some, trimChars_entry h]

/-- A line of metadata as the reader sees it. -/
theorem trim_field {key : String} (hkey : key = "tags" ∨ key = "position") (value : String) :
    (trim (trimEnd (key ++ ": " ++ value))).toList =
      key.toList ++ ':' :: dropBlankEnd (' ' :: value.toList) := by
  have hsplit : ": " = ":" ++ " " := rfl
  have hword : ∀ w : String, trim (trimEnd (w ++ " " ++ value)) =
      .ofList (trimChars (trimEnd (w ++ " " ++ value)).toList) := fun _ => rfl
  rw [hsplit, ← String.append_assoc, hword, String.toList_ofList]
  rcases hkey with rfl | rfl
  · exact trimChars_worded (w := "tags:") (by decide) (by decide) (by decide) value
  · exact trimChars_worded (w := "position:") (by decide) (by decide) (by decide) value

theorem readField_field {key value : String} (hkey : key = "tags" ∨ key = "position")
    (hvalue : trim value = value) :
    readField (trim (trimEnd (key ++ ": " ++ value))) = .ok (key, value) := by
  have hcut : cut ':' (trim (trimEnd (key ++ ": " ++ value))).toList =
      some (key.toList, dropBlankEnd (' ' :: value.toList)) := by
    rw [trim_field hkey]
    refine cut_append ?_ _
    rcases hkey with rfl | rfl <;> decide
  have hname : String.ofList (trimChars key.toList) = key := by
    rcases hkey with rfl | rfl <;> rfl
  have hknown : knownFields.contains key = true := by
    rcases hkey with rfl | rfl <;> rfl
  simp only [readField, hcut, hname, hknown, if_true, trimChars_entry hvalue]

/-- A line of metadata is neither blank nor a separator nor a terminator. -/
theorem trim_field_ne {key : String} (hkey : key = "tags" ∨ key = "position") (value : String)
    {l : String} (hl : ':' ∉ l.toList) : trim (trimEnd (key ++ ": " ++ value)) ≠ l := by
  rintro rfl
  rw [trim_field hkey] at hl
  simp at hl

theorem talk_word : ∀ c ∈ "talkAnim".toList, isWord c = true := List.all_eq_true.mp (by decide)

/-- A property is read from its name, the value behind it, and perhaps a colon between them. -/
theorem property?_of_word {line w : String} {rest value : List Char}
    (hline : line.toList = w.toList ++ rest) (hw : ∀ c ∈ w.toList, isWord c = true)
    (hne : w.toList ≠ []) (hrest : ∀ c, rest.head? = some c → isWord c = false)
    (hvalue : (match dropBlank rest with
      | ':' :: r => dropBlank r
      | _ => dropBlank rest) = value) (hfeed : '\n' ∉ value) :
    Block.property? line = some (w, .ofList value) := by
  rw [Block.property?, hline, word?_append hw hne hrest, Option.bind_eq_bind, Option.bind_some]
  refine (congrArg (fun v => (lastLine? v).bind fun value =>
    some (String.ofList w.toList, String.ofList value)) hvalue).trans ?_
  rw [lastLine?_of_no_feed hfeed, Option.bind_some, String.ofList_toList]

theorem named?_of_property {line animation : String} (h : trim animation = animation)
    (hp : Block.property? (trim line) = some ("talkAnim", animation)) :
    Block.named? line = some animation := by
  rw [Block.named?, hp]
  dsimp only
  rw [if_pos rfl, h]

theorem named?_colon {animation : String} (h : trim animation = animation)
    (hfeed : '\n' ∉ animation.toList) :
    Block.named? (trimEnd ("talkAnim: " ++ animation)) = some animation := by
  have hsplit : "talkAnim: " = "talkAnim:" ++ " " := rfl
  have hcolon : "talkAnim:".toList = "talkAnim".toList ++ [':'] := rfl
  have htrim := trimChars_worded (w := "talkAnim:") (by decide) (by decide) (by decide) animation
  have hline : (trim (trimEnd ("talkAnim: " ++ animation))).toList =
      "talkAnim".toList ++ ':' :: dropBlankEnd (' ' :: animation.toList) := by
    rw [hsplit, trim, String.toList_ofList, htrim, hcolon, List.append_assoc,
      List.singleton_append]
  have hchars : trimChars animation.toList = animation.toList := toList_of_trim h
  have hvalue : dropBlank (dropBlankEnd (' ' :: animation.toList)) = animation.toList := by
    rw [dropBlank_dropBlankEnd, ← trimChars_dropBlankEnd, trimChars_space, hchars]
  refine named?_of_property h ?_
  rw [property?_of_word hline talk_word (by decide) (by rintro c ⟨⟩; decide) hvalue hfeed,
    String.ofList_toList]

theorem named?_bare {animation : String} (h : trim animation = animation)
    (hne : animation ≠ "") (hbare : startsWith ":" animation = false)
    (hfeed : '\n' ∉ animation.toList) :
    Block.named? (trimEnd ("talkAnim " ++ animation)) = some animation := by
  have hsplit : "talkAnim " = "talkAnim" ++ " " := rfl
  have htrim := trimChars_worded (w := "talkAnim") (by decide) (by decide) (by decide) animation
  obtain ⟨c, cs, hcs⟩ : ∃ c cs, animation.toList = c :: cs :=
    List.exists_cons_of_ne_nil (mt String.toList_eq_nil_iff.mp hne)
  have hcolon : c ≠ ':' := by
    rintro rfl
    simp [startsWith, hcs] at hbare
  have hchars : trimChars animation.toList = animation.toList := toList_of_trim h
  have hblank : dropBlankEnd animation.toList = animation.toList := by
    rw [← hchars, dropBlankEnd_trimChars]
  have hrest : dropBlankEnd (' ' :: animation.toList) = ' ' :: animation.toList := by
    rw [← List.singleton_append, dropBlankEnd_append_of_ne_nil (by rw [hblank, hcs]; simp),
      hblank]
  have hline : (trim (trimEnd ("talkAnim " ++ animation))).toList =
      "talkAnim".toList ++ ' ' :: animation.toList := by
    rw [hsplit, trim, String.toList_ofList, htrim, hrest]
  have hdrop : dropBlank (' ' :: animation.toList) = c :: cs := by
    rw [← hrest, dropBlank_dropBlankEnd, ← trimChars_dropBlankEnd, trimChars_space, hchars, hcs]
  have hvalue : (match dropBlank (' ' :: animation.toList) with
      | ':' :: r => dropBlank r
      | _ => dropBlank (' ' :: animation.toList)) = animation.toList := by
    rw [hdrop, hcs]
    split
    · next r heq => exact absurd (List.cons.inj heq).1 hcolon
    · rfl
  refine named?_of_property h ?_
  rw [property?_of_word hline talk_word (by decide) (by rintro c ⟨⟩; decide) hvalue hfeed,
    String.ofList_toList]

end Reading

namespace Passage
open Source Text Block

/-- What the opening line says. -/
def head : Passage → Head
  | node title _ _ => .title title
  | speaker name _ _ _ => .speaker name

/-- An animation is read from the line that names it. -/
theorem named?_written {colon : Bool} {animation : String} (hanimation : Entry animation)
    (hbare : colon = false → animation ≠ "" ∧ startsWith ":" animation = false) :
    named? (trimEnd ((if colon then "talkAnim: " else "talkAnim ") ++ animation)) =
      some animation := by
  have hfeed := hanimation.clear.unbroken.not_mem_feed
  cases colon with
  | true => exact named?_colon hanimation.trimmed hfeed
  | false =>
    obtain ⟨hne, hfirst⟩ := hbare rfl
    exact named?_bare hanimation.trimmed hne hfirst hfeed

theorem head?_opening {p : Passage} (hp : p.WellFormed) :
    head? (trimEnd p.opening) = some p.head := by
  cases hp with
  | node htitle _ _ _ _ _ => exact head?_title htitle.trimmed
  | speaker hname _ _ => exact head?_speaker hname.trimmed

theorem not_isTerminator_of_named {l animation : String} (h : named? l = some animation) :
    isTerminator l = false := by
  rw [isTerminator, beq_eq_false_iff_ne]
  intro hl
  have hnone : property? "===" = none := rfl
  rw [named?, hl, hnone] at h
  cases h

/-- No line between the first one and the terminator is a terminator. -/
theorem not_isTerminator_of_content {p : Passage} (hp : p.WellFormed) :
    ∀ l ∈ p.content, isTerminator (trimEnd l) = false := by
  intro l hl
  cases hp with
  | node _ _ hmetadata hbody _ _ =>
    rcases List.mem_append.mp hl with hfield | hl
    · obtain ⟨⟨key, value⟩, he, rfl⟩ := List.mem_map.mp hfield
      rw [isTerminator, beq_eq_false_iff_ne]
      exact trim_field_ne (hmetadata _ he).1 value (by decide)
    · rcases List.mem_cons.mp hl with rfl | hl
      · rfl
      · rw [(hbody l hl).trimmed, isTerminator, beq_eq_false_iff_ne]
        exact (hbody l hl).inside
  | @speaker name separated colon animation _ hanimation hbare =>
    rcases List.mem_append.mp hl with hseparator | hl
    · cases separated with
      | false => exact absurd hseparator List.not_mem_nil
      | true =>
        obtain rfl := List.mem_singleton.mp hseparator
        rfl
    · obtain rfl := List.mem_singleton.mp hl
      exact not_isTerminator_of_named (named?_written hanimation hbare)

theorem clear_content {p : Passage} (hp : p.WellFormed) : ∀ l ∈ p.content, Clear l := by
  intro l hl
  cases hp with
  | node _ _ hmetadata hbody _ _ =>
    rcases List.mem_append.mp hl with hfield | hl
    · obtain ⟨⟨key, value⟩, he, rfl⟩ := List.mem_map.mp hfield
      obtain ⟨hkey, hvalue⟩ := hmetadata _ he
      have hclear : Clear key := by
        rcases hkey with h | h <;> (dsimp only at h; subst h; decide)
      exact (hclear.append (by decide)).append hvalue.clear
    · rcases List.mem_cons.mp hl with rfl | hl
      · decide
      · exact (hbody l hl).clear
  | @speaker name separated colon animation _ hanimation hbare =>
    rcases List.mem_append.mp hl with hseparator | hl
    · cases separated with
      | false => exact absurd hseparator List.not_mem_nil
      | true =>
        obtain rfl := List.mem_singleton.mp hseparator
        decide
    · obtain rfl := List.mem_singleton.mp hl
      refine Clear.append ?_ hanimation.clear
      cases colon <;> decide

theorem clear_lines {p : Passage} (hp : p.WellFormed) : ∀ l ∈ p.lines, Clear l := by
  intro l hl
  rcases List.mem_cons.mp hl with rfl | hl
  · cases hp with
    | node htitle _ _ _ _ _ => exact Clear.append (by decide) htitle.clear
    | speaker hname _ _ => exact Clear.append (by decide) hname.clear
  · rcases List.mem_append.mp hl with hl | hl
    · exact clear_content hp l hl
    · obtain rfl := List.mem_singleton.mp hl
      decide

/-- What is left of the written lines without their remarks. -/
theorem written_lines {p : Passage} (hp : p.WellFormed) {written : List String}
    (h : List.Forall₂ (fun l w => ∃ r, Remark r ∧ w = l ++ r) p.lines written) :
    written.map (fun l => trimEnd (stripComment l)) = p.lines.map trimEnd := by
  have hclear := clear_lines hp
  generalize p.lines = ls at h hclear
  induction h with
  | nil => rw [List.map_nil, List.map_nil]
  | cons hw _ ih =>
    obtain ⟨r, hr, rfl⟩ := hw
    rw [List.map_cons, List.map_cons, stripComment_remark (hclear _ List.mem_cons_self).unmarked hr,
      ih fun l hl => hclear l (List.mem_cons_of_mem _ hl)]

end Passage

end Dialogue
