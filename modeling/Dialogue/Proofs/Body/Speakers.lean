import Dialogue.Proofs.Body.Survey
import Dialogue.Proofs.Script.Positions

/-! Speakers of a body: a pass of its own looks for names without a definition, line by line. What
it reports are the lines that the node delivers once some titles have been visited. -/
namespace Dialogue

/-- The report on a text to be spoken, if its speaker has no definition. -/
def speakerIssue? (known : Table Speaker) (title : String) (line : Nat) (text : String) :
    Option SpeakerIssue :=
  match (Speech.ofLine text).speaker with
  | some name => if (known.get? name).isNone then some ⟨title, name, line⟩ else none
  | none => none

/-- Looks for speakers without a definition, from a line of the source down to the first option. -/
def scanSpeakers (known : Table Speaker) (title : String) (line : Nat) :
    List String → List SpeakerIssue
  | [] => []
  | l :: ls =>
    if Text.startsWith Skeleton.optionMark (Text.trim l) then []
    else if (Text.trim l).isEmpty || Text.startsWith Directive.mark (Text.trim l) then
      scanSpeakers known title (line + 1) ls
    else
      (speakerIssue? known title line (Gate.split (Text.trim l)).2).toList ++
        scanSpeakers known title (line + 1) ls

/-- A node that breaks off below the first `k` lines of its body. -/
def Node.upTo (n : Node) (k : Nat) : Node := { n with body := n.body.take k }

/-- The line `k` of the body, counted from zero, adds a text to what the node delivers. -/
structure Node.Delivers (n : Node) (visited : List String) (k : Nat) (text : String) : Prop where
  added : ((n.upTo (k + 1)).compile visited).lines =
    ((n.upTo k).compile visited).lines ++ [text]
  kept : ((n.upTo (k + 1)).compile visited).lines <+: (n.compile visited).lines

namespace Skeleton
variable {body : List String}

theorem startsWith_optionMark (l : String) :
    Text.startsWith optionMark (Text.trim l) = (optionText? l).isSome := by
  simp only [Text.startsWith, Text.trim, optionText?, Text.after?, String.toList_ofList]
  split_ifs with h <;> simp [h]

theorem spokenPart_take (body : List String) (k : Nat) :
    spokenPart (body.take k) = (spokenPart body).take k := by
  rw [spokenPart, spokenPart, ← List.take_takeWhile, List.map_take]

theorem getElem?_body_of_spokenPart {k : Nat} {b : BodyLine} (h : (spokenPart body)[k]? = some b) :
    ∃ l, body[k]? = some l ∧ b = .ofLine l := by
  rw [spokenPart, List.getElem?_map, Option.map_eq_some_iff] at h
  obtain ⟨l, hl, rfl⟩ := h
  exact ⟨l, getElem?_of_front (List.takeWhile_prefix _) hl, rfl⟩

theorem offset_of_spoken? {b : BodyLine} {k : Nat} {g : GatedLine} (h : b.spoken? k = some g) :
    g.offset = k := by
  cases b with
  | speech gate text => exact (Option.some.inj h) ▸ rfl
  | _ => simp [BodyLine.spoken?] at h

theorem mem_lines_iff {g : GatedLine} : g ∈ (ofBody body).lines ↔
    ∃ b, (spokenPart body)[g.offset]? = some b ∧ b.spoken? g.offset = some g := by
  simp only [ofBody, List.mem_filterMap, Prod.exists, List.mk_mem_zipIdx_iff_getElem?]
  constructor
  · rintro ⟨b, k, hb, hg⟩
    obtain rfl := offset_of_spoken? hg
    exact ⟨b, hb, hg⟩
  · rintro ⟨b, hb, hg⟩
    exact ⟨b, g.offset, hb, hg⟩

end Skeleton

theorem speakerIssue?_eq_some_iff {known : Table Speaker} {title text : String} {line : Nat}
    {i : SpeakerIssue} : speakerIssue? known title line text = some i ↔
      i.node = title ∧ i.line = line ∧ (Speech.ofLine text).speaker = some i.speaker ∧
        known.get? i.speaker = none := by
  obtain ⟨node, speaker, place⟩ := i
  unfold speakerIssue?
  cases (Speech.ofLine text).speaker with
  | none => simp
  | some name =>
    simp only [Option.isNone_iff_eq_none, Option.ite_none_right_eq_some, Option.some.injEq,
      SpeakerIssue.mk.injEq]
    constructor
    · rintro ⟨hnone, rfl, rfl, rfl⟩
      exact ⟨rfl, rfl, rfl, hnone⟩
    · rintro ⟨rfl, rfl, rfl, hnone⟩
      exact ⟨hnone, rfl, rfl, rfl⟩

theorem BodyLine.spoken?_ofLine (l : String) (k : Nat) : (ofLine l).spoken? k =
    if (Text.trim l).isEmpty || Text.startsWith Directive.mark (Text.trim l) then none
    else some ⟨k, (Gate.split (Text.trim l)).1, (Gate.split (Text.trim l)).2⟩ := by
  by_cases hm : Text.startsWith Directive.mark (Text.trim l) = true
  · rw [ofLine_of_mark hm, hm, Bool.or_true, if_pos rfl]
    cases Directive.jump? (Text.trim l) with
    | some title => rfl
    | none => cases Directive.command? (Text.trim l) <;> rfl
  · rw [Bool.not_eq_true] at hm
    unfold ofLine
    simp only [hm, Bool.or_false, Bool.false_eq_true, if_false]
    split_ifs <;> rfl

theorem BodyLine.shown?_eq_some_iff {visited : List String} {b : BodyLine} {text : String}
    (k : Nat) : b.shown? visited = some text ↔ ∃ l, b.spoken? k = some l ∧
      Gate.allows visited l.gate = true ∧ l.text = text ∧ text ≠ "" := by
  cases b with
  | speech gate t =>
    simp only [shown?, spoken?, Option.some.injEq, exists_eq_left', Option.ite_none_right_eq_some,
      Bool.and_eq_true, Bool.not_eq_true', and_assoc]
    constructor
    · rintro ⟨hallows, ht, rfl⟩
      exact ⟨hallows, rfl, by simpa using ht⟩
    · rintro ⟨hallows, rfl, ht⟩
      exact ⟨hallows, by simpa using ht, rfl⟩
  | _ => simp [shown?, spoken?]

theorem scanSpeakers_eq (known : Table Speaker) (title : String) (start m : Nat)
    (body : List String) : scanSpeakers known title (start + m) body =
      ((Skeleton.spokenPart body).zipIdx m).filterMap fun b =>
        (b.1.spoken? b.2).bind fun l => speakerIssue? known title (start + l.offset) l.text := by
  induction body generalizing m with
  | nil => rfl
  | cons l ls ih =>
    rw [scanSpeakers, Skeleton.startsWith_optionMark, Nat.add_assoc, ih]
    cases ho : Skeleton.optionText? l with
    | some s => simp [Skeleton.spokenPart, ho]
    | none =>
      rw [Skeleton.spokenPart_of_none ho, List.zipIdx_cons, List.filterMap_cons]
      simp only [BodyLine.spoken?_ofLine, Option.isSome_none, Bool.false_eq_true, if_false]
      split_ifs with hskip
      · rfl
      · simp only [Option.bind_some]
        cases speakerIssue? known title (start + m) (Gate.split (Text.trim l)).2 <;> rfl

/-- The report on a script is made node by node. -/
theorem Script.undefinedSpeakers_eq_scan (s : Script) : s.undefinedSpeakers =
    s.nodes.flatMap fun n => scanSpeakers s.speakers n.title n.bodyLine n.body := by
  rw [undefinedSpeakers]
  congr 1
  funext n
  have hscan := scanSpeakers_eq s.speakers n.title n.bodyLine 0 n.body
  rw [Nat.add_zero] at hscan
  rw [hscan, Node.skeleton, Skeleton.ofBody, List.filterMap_filterMap]
  rfl

theorem Script.mem_undefinedSpeakers_iff_line {s : Script} {i : SpeakerIssue} :
    i ∈ s.undefinedSpeakers ↔ ∃ n ∈ s.nodes, ∃ l ∈ n.skeleton.lines, i.node = n.title ∧
      i.line = n.bodyLine + l.offset ∧ (Speech.ofLine l.text).speaker = some i.speaker ∧
      s.speakers.get? i.speaker = none := by
  have hreport : s.undefinedSpeakers = s.nodes.flatMap fun n => n.skeleton.lines.filterMap fun l =>
    speakerIssue? s.speakers n.title (n.bodyLine + l.offset) l.text := rfl
  simp only [hreport, List.mem_flatMap, List.mem_filterMap, speakerIssue?_eq_some_iff]

namespace Node
variable {n : Node} {visited : List String} {k : Nat} {text : String}

theorem lines_upTo (n : Node) (visited : List String) (k : Nat) :
    ((n.upTo k).compile visited).lines =
      ((Skeleton.spokenPart n.body).take k).filterMap (BodyLine.shown? visited) := by
  rw [← Skeleton.spokenPart_take, ← Skeleton.shownLines_ofBody]
  rfl

theorem delivers_iff : n.Delivers visited k text ↔
    ((Skeleton.spokenPart n.body)[k]?).bind (BodyLine.shown? visited) = some text := by
  have hadd : ((n.upTo (k + 1)).compile visited).lines = ((n.upTo k).compile visited).lines ++
      (((Skeleton.spokenPart n.body)[k]?).bind (BodyLine.shown? visited)).toList := by
    rw [lines_upTo, lines_upTo, List.take_add_one, List.filterMap_append]
    cases (Skeleton.spokenPart n.body)[k]? with
    | none => rfl
    | some b => cases h : b.shown? visited <;> simp [h]
  constructor
  · intro h
    rw [h.added] at hadd
    have hone := List.append_cancel_left hadd
    cases hb : ((Skeleton.spokenPart n.body)[k]?).bind (BodyLine.shown? visited) with
    | none => simp [hb] at hone
    | some t => simpa [hb, eq_comm] using hone
  · intro h
    refine ⟨by rw [hadd, h]; rfl, ?_⟩
    rw [lines_upTo, compile, skeleton, Skeleton.shownLines_ofBody]
    exact (List.take_prefix _ _).filterMap _

/-- Whatever a line is gated by, some visited titles make the node deliver it. -/
theorem exists_delivers_iff : (∃ visited, n.Delivers visited k text) ↔
    text ≠ "" ∧ ∃ l ∈ n.skeleton.lines, l.offset = k ∧ l.text = text := by
  simp only [delivers_iff, Option.bind_eq_some_iff, BodyLine.shown?_eq_some_iff k]
  constructor
  · rintro ⟨visited, b, hb, l, hl, -, rfl, htext⟩
    obtain rfl := Skeleton.offset_of_spoken? hl
    exact ⟨htext, l, Skeleton.mem_lines_iff.mpr ⟨b, hb, hl⟩, rfl, rfl⟩
  · rintro ⟨htext, l, hmem, rfl, rfl⟩
    obtain ⟨b, hb, hl⟩ := Skeleton.mem_lines_iff.mp hmem
    obtain ⟨visited, hallows⟩ := Gate.exists_allows l.gate
    exact ⟨visited, b, hb, l, hl, hallows, rfl, htext⟩

/-- What a line delivers is what stands behind its gate. -/
theorem Delivers.exists_line (h : n.Delivers visited k text) :
    ∃ l, n.body[k]? = some l ∧ (Gate.split (Text.trim l)).2 = text := by
  obtain ⟨b, hb, hshown⟩ := Option.bind_eq_some_iff.mp (delivers_iff.mp h)
  obtain ⟨l, hl, rfl⟩ := Skeleton.getElem?_body_of_spokenPart hb
  obtain ⟨g, hg, -, htext, -⟩ := (BodyLine.shown?_eq_some_iff k).mp hshown
  rw [BodyLine.spoken?_ofLine, Option.ite_none_left_eq_some] at hg
  rw [← Option.some.inj hg.2] at htext
  dsimp only at htext
  exact ⟨l, hl, htext⟩

theorem mem_lines_iff : text ∈ (n.compile visited).lines ↔ ∃ k, n.Delivers visited k text := by
  rw [compile, skeleton, Skeleton.shownLines_ofBody, List.mem_filterMap]
  simp only [delivers_iff, List.mem_iff_getElem?, Option.bind_eq_some_iff]
  constructor
  · rintro ⟨b, ⟨k, hb⟩, hshown⟩
    exact ⟨k, b, hb, hshown⟩
  · rintro ⟨k, b, hb, hshown⟩
    exact ⟨b, ⟨k, hb⟩, hshown⟩

end Node

theorem Speech.ne_empty_of_speaker {text name : String}
    (h : (ofLine text).speaker = some name) : text ≠ "" := by
  rintro rfl
  simp [show (ofLine "").speaker = none from rfl] at h

namespace Script
variable {s : Script}

/-- The report is made of the lines that some visited titles make a node deliver. -/
theorem mem_undefinedSpeakers_iff {i : SpeakerIssue} : i ∈ s.undefinedSpeakers ↔
    ∃ n ∈ s.nodes, ∃ k visited text, i.node = n.title ∧ i.line = n.bodyLine + k ∧
      n.Delivers visited k text ∧ (Speech.ofLine text).speaker = some i.speaker ∧
      s.speakers.get? i.speaker = none := by
  rw [mem_undefinedSpeakers_iff_line]
  refine exists_congr fun n => and_congr_right fun hn => ?_
  constructor
  · rintro ⟨l, hl, htitle, hline, hspeaker, hnone⟩
    obtain ⟨visited, hv⟩ := Node.exists_delivers_iff.mpr
      ⟨Speech.ne_empty_of_speaker hspeaker, l, hl, rfl, rfl⟩
    exact ⟨l.offset, visited, l.text, htitle, hline, hv, hspeaker, hnone⟩
  · rintro ⟨k, visited, text, htitle, hline, hv, hspeaker, hnone⟩
    obtain ⟨-, l, hl, rfl, rfl⟩ := Node.exists_delivers_iff.mp ⟨visited, hv⟩
    exact ⟨l, hl, htitle, hline, hspeaker, hnone⟩

end Script

theorem Skeleton.lines_pairwise (body : List String) :
    (ofBody body).lines.Pairwise fun l m => l.offset < m.offset := by
  refine (pairwise_zipIdx (spokenPart body) 0).filterMap _ fun x y hxy l hl m hm => ?_
  rw [offset_of_spoken? hl, offset_of_spoken? hm]
  exact hxy

/-- A spoken line lies within the block of its node. -/
theorem Block.line_of_mem_lines {text : String} {b : Block} (hb : b ∈ Block.ofText text) {n : Node}
    (hn : b.node? = some n) {l : GatedLine} (hl : l ∈ n.skeleton.lines) :
    b.line < n.bodyLine + l.offset ∧ n.bodyLine + l.offset ≤ b.line + b.content.length := by
  obtain ⟨s, hs, -⟩ := Skeleton.mem_lines_iff.mp hl
  obtain ⟨line, hline, -⟩ := Skeleton.getElem?_body_of_spokenPart hs
  have hplaced := Block.body_placed hb hn hline
  exact ⟨hplaced.1, hplaced.2.1⟩

theorem Script.undefinedSpeakers_pairwise (text : String) :
    (read text).1.undefinedSpeakers.Pairwise fun i j => i.line < j.line := by
  refine List.pairwise_flatMap.mpr ⟨fun n _ => ?_, ?_⟩
  · refine (Skeleton.lines_pairwise n.body).filterMap _ fun l m hlm i hi j hj => ?_
    obtain ⟨-, hi, -⟩ := speakerIssue?_eq_some_iff.mp hi
    obtain ⟨-, hj, -⟩ := speakerIssue?_eq_some_iff.mp hj
    omega
  · have hblocks := (Block.scan_pairwise 1 (Source.lines text)).2
    refine (hblocks.imp_of_mem (S := fun b c => ∀ m, b.node? = some m → ∀ n, c.node? = some n →
      ∀ l ∈ m.skeleton.lines, ∀ l' ∈ n.skeleton.lines,
        m.bodyLine + l.offset < n.bodyLine + l'.offset) ?_).filterMap _ ?_
    · intro b c hb hc hbc m hm n hn l hl l' hl'
      have hbl := Block.line_of_mem_lines hb hm hl
      have hcl := Block.line_of_mem_lines hc hn hl'
      omega
    · intro b c hbc m hm n hn i hi j hj
      obtain ⟨l, hl, hil⟩ := List.mem_filterMap.mp hi
      obtain ⟨l', hl', hjl⟩ := List.mem_filterMap.mp hj
      obtain ⟨-, hi, -⟩ := speakerIssue?_eq_some_iff.mp hil
      obtain ⟨-, hj, -⟩ := speakerIssue?_eq_some_iff.mp hjl
      have hlt := hbc m hm n hn l hl l' hl'
      omega

end Dialogue
