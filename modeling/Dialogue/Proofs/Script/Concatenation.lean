import Dialogue.Proofs.Script.Parse
import Dialogue.Proofs.Table
import Dialogue.Proofs.Text.Lines

/-! Concatenation: a text behind another one whose blocks are all closed is read as it is read
alone, only further down. -/
namespace Dialogue

/-- The block, `k` lines further down. -/
def Block.shift (k : Nat) (b : Block) : Block := { b with line := b.line + k }

/-- The node, `k` lines further down. A node without a body has no line to move. -/
def Node.shift (k : Nat) (n : Node) : Node :=
  { n with line := n.line + k, bodyLine := if n.bodyLine = 0 then 0 else n.bodyLine + k }

/-- The speaker, `k` lines further down. -/
def Speaker.shift (k : Nat) (sp : Speaker) : Speaker := { sp with line := sp.line + k }

/-- The problem, `k` lines further down. -/
def Issue.shift (k : Nat) (i : Issue) : Issue := { i with line := i.line + k }

namespace Script

/-- The script, `k` lines further down. -/
def shift (k : Nat) (s : Script) : Script where
  nodes := s.nodes.map (·.shift k)
  speakers := s.speakers.map fun (name, sp) => (name, sp.shift k)

/-- The nodes of one script and then those of another, and the speakers of the first updated with
those of the second. -/
def append (s t : Script) : Script where
  nodes := s.nodes ++ t.nodes
  speakers := s.speakers.update t.speakers

end Script

/-- Every block of a text has a terminator below its content. -/
def Source.Closed (text : String) : Prop :=
  ∀ b ∈ Block.ofText text, ∃ l, (lines text)[b.line + b.content.length]? = some l ∧
    isTerminator l = true

instance (text : String) : Decidable (Source.Closed text) :=
  decidable_of_iff (∀ b ∈ Block.ofText text,
    ((Source.lines text)[b.line + b.content.length]?).any Source.isTerminator = true)
    (by simp only [Option.any_eq_true, Source.Closed])

namespace Source

theorem lines_append {a : String} (h : a = "" ∨ a.toList.getLast? = some '\n') (b : String) :
    lines (a ++ b) = lines a ++ lines b := by
  rw [lines, Text.splitLines_append h, List.map_append, lines, lines]

section Terminated
variable {ls : List String} (h : ∃ l, ls[(inside ls).length]? = some l ∧ isTerminator l = true)
include h

/-- Below a terminator nothing belongs to the block any more. -/
theorem inside_append (rest : List String) : inside (ls ++ rest) = inside ls := by
  induction ls with
  | nil => simp at h
  | cons l ls ih =>
    cases ht : isTerminator l with
    | true => rw [List.cons_append, inside_of_terminator _ ht, inside_of_terminator _ ht]
    | false =>
      rw [inside_of_line ls ht, List.length_cons] at h
      simp only [List.getElem?_cons_succ] at h
      rw [List.cons_append, inside_of_line _ ht, inside_of_line _ ht, ih h]

theorem extent_of_terminated : extent ls = (inside ls).length + 1 := by
  induction ls with
  | nil => simp at h
  | cons l ls ih =>
    cases ht : isTerminator l with
    | true => rw [extent_of_terminator _ ht, inside_of_terminator _ ht, List.length_nil]
    | false =>
      rw [inside_of_line ls ht, List.length_cons] at h
      simp only [List.getElem?_cons_succ] at h
      rw [extent_of_line _ ht, inside_of_line _ ht, ih h, List.length_cons]

theorem extent_append (rest : List String) : extent (ls ++ rest) = extent ls := by
  have hfar : ∃ l, (ls ++ rest)[(inside (ls ++ rest)).length]? = some l ∧
      isTerminator l = true := by
    obtain ⟨l, hl, ht⟩ := h
    have hlt := (List.getElem?_eq_some_iff.mp hl).1
    refine ⟨l, ?_, ht⟩
    rw [inside_append ⟨l, hl, ht⟩, List.getElem?_append_left hlt, hl]
  rw [extent_of_terminated h, extent_of_terminated hfar, inside_append h]

end Terminated
end Source

namespace Block
open Source
variable {k : Nat}

/-- Lines are divided the same way wherever their numbers begin. -/
theorem scan_shift (k n : Nat) (pending : Option Block) (ls : List String) :
    scan (n + k) (pending.map (shift k)) ls = (scan n pending ls).map (shift k) := by
  induction ls generalizing n pending with
  | nil => cases pending <;> rfl
  | cons l ls ih =>
    cases pending with
    | none =>
      have hnext := ih (n + 1) ((head? l).map fun h => ⟨h, n, []⟩)
      rw [Option.map_map] at hnext
      rw [Option.map_none, scan, scan, Nat.add_right_comm]
      exact hnext
    | some b =>
      rw [Option.map_some, scan, scan, Nat.add_right_comm]
      split_ifs
      · exact congrArg (shift k b :: ·) (ih (n + 1) none)
      · exact ih (n + 1) (some { b with content := b.content ++ [l] })

theorem scan_append (n : Nat) (ls rest : List String)
    (h : ∀ b ∈ scan n none ls, ∃ i l, b.line = n + i ∧
      ls[i + 1 + b.content.length]? = some l ∧ isTerminator l = true) :
    scan n none (ls ++ rest) = scan n none ls ++ scan (n + ls.length) none rest := by
  revert h
  apply scan_induction (P := fun n ls bs => (∀ b ∈ bs, ∃ i l, b.line = n + i ∧
      ls[i + 1 + b.content.length]? = some l ∧ isTerminator l = true) →
    scan n none (ls ++ rest) = bs ++ scan (n + ls.length) none rest)
  · intro n _
    simp
  · intro n l ls hl ih h
    rw [List.cons_append, scan_of_no_head n _ hl, ih ?_, List.length_cons, Nat.add_assoc,
      Nat.add_comm 1]
    intro b hb
    obtain ⟨i, l', hline, hget, ht⟩ := h b hb
    have hge := (scan_pairwise (n + 1) ls).1 b hb
    refine ⟨i - 1, l', by omega, ?_, ht⟩
    have hindex : i + 1 + b.content.length = (i - 1 + 1 + b.content.length) + 1 := by omega
    rw [hindex, List.getElem?_cons_succ] at hget
    exact hget
  · intro n l ls head hl ih h
    have hterminated : ∃ l, ls[(inside ls).length]? = some l ∧ isTerminator l = true := by
      obtain ⟨i, l', hline, hget, ht⟩ := h _ List.mem_cons_self
      have hindex : i + 1 + (inside ls).length = (inside ls).length + 1 := by
        dsimp only at hline
        omega
      rw [hindex, List.getElem?_cons_succ] at hget
      exact ⟨l', hget, ht⟩
    have hextent : extent ls ≤ ls.length := by
      rw [extent_of_terminated hterminated]
      obtain ⟨l', hget, -⟩ := hterminated
      exact (List.getElem?_eq_some_iff.mp hget).1
    have hend : n + 1 + extent ls + (ls.drop (extent ls)).length = n + (l :: ls).length := by
      rw [List.length_drop, List.length_cons]
      omega
    rw [List.cons_append, scan_of_head n _ hl, inside_append hterminated,
      extent_append hterminated, List.drop_append_of_le_length hextent, ih ?_, hend,
      List.cons_append]
    intro b hb
    obtain ⟨i, l', hline, hget, ht⟩ := h b (List.mem_cons_of_mem _ hb)
    have hge := (scan_pairwise (n + 1 + extent ls) (ls.drop (extent ls))).1 b hb
    refine ⟨i - 1 - extent ls, l', by omega, ?_, ht⟩
    have hindex : i + 1 + b.content.length =
        (extent ls + (i - 1 - extent ls + 1 + b.content.length)) + 1 := by omega
    rw [hindex, List.getElem?_cons_succ] at hget
    rw [List.getElem?_drop]
    exact hget

theorem ofText_append {a : String} (ha : a = "" ∨ a.toList.getLast? = some '\n')
    (hc : Closed a) (b : String) :
    ofText (a ++ b) = ofText a ++ (ofText b).map (shift (Text.splitLines a).length) := by
  have hclosed : ∀ b ∈ scan 1 none (lines a), ∃ i l, b.line = 1 + i ∧
      (lines a)[i + 1 + b.content.length]? = some l ∧ isTerminator l = true := by
    intro b hb
    obtain ⟨l, hl, ht⟩ := hc b hb
    have hge := (scan_pairwise 1 (lines a)).1 b hb
    refine ⟨b.line - 1, l, by omega, ?_, ht⟩
    rw [Nat.sub_add_cancel hge]
    exact hl
  have hlength : (lines a).length = (Text.splitLines a).length := by
    rw [lines, List.length_map]
  rw [ofText, Source.lines_append ha, scan_append 1 _ _ hclosed, hlength, ofText, ofText]
  exact congrArg _ (scan_shift _ 1 none (lines b))

section Shift
variable (k : Nat) (b : Block)

theorem zipIdx_header_shift : (b.shift k).header.zipIdx ((b.shift k).line + 1) =
    (b.header.zipIdx (b.line + 1)).map fun (l, n) => (l, n + k) := by
  have hline : (b.shift k).line + 1 = b.line + 1 + k := Nat.add_right_comm _ _ _
  have hheader : (b.shift k).header = b.header := rfl
  rw [hline, hheader, List.zipIdx_eq_map_add, List.zipIdx_eq_map_add (i := b.line + 1),
    List.map_map]
  refine List.map_congr_left ?_
  rintro ⟨l, n⟩ -
  exact congrArg (l, ·) (Nat.add_right_comm _ _ _)

theorem fields_shift : (b.shift k).fields = b.fields.map fun (n, f) => (n + k, f) := by
  rw [fields, fields, zipIdx_header_shift, List.filterMap_map, List.map_filterMap]
  refine List.filterMap_congr ?_
  rintro ⟨l, n⟩ -
  dsimp only [Function.comp]
  by_cases hblank : (Text.trim l).isEmpty = true
  · rw [if_pos hblank, if_pos hblank, Option.map_none]
  · rw [if_neg hblank, if_neg hblank, Option.map_some]

theorem metadata_shift : (b.shift k).metadata = b.metadata := by
  rw [metadata, fields_shift, List.filterMap_map]
  rfl

theorem bodyLine_shift :
    (b.shift k).bodyLine = if b.bodyLine = 0 then 0 else b.bodyLine + k := by
  have hseparator : (b.shift k).hasSeparator = b.hasSeparator := rfl
  have hheader : (b.shift k).header = b.header := rfl
  have hbody : (b.shift k).rawBody = b.rawBody := rfl
  have hline : (b.shift k).line = b.line + k := rfl
  rw [bodyLine, bodyLine, hseparator, hheader, hbody, hline]
  by_cases hs : b.hasSeparator = true
  · rw [if_pos hs, if_pos hs, if_neg (by omega)]
    omega
  · rw [if_neg hs, if_neg hs, if_pos rfl]

theorem node?_shift : (b.shift k).node? = b.node?.map (·.shift k) := by
  have hhead : (b.shift k).head = b.head := rfl
  rw [node?, node?, hhead, metadata_shift, bodyLine_shift]
  cases b.head <;> rfl

theorem speaker?_shift : (b.shift k).speaker? = b.speaker?.map (·.shift k) := by
  have hhead : (b.shift k).head = b.head := rfl
  rw [speaker?, speaker?, hhead]
  cases b.head <;> rfl

theorem issues_shift : (b.shift k).issues = b.issues.map (·.shift k) := by
  have hhead : (b.shift k).head = b.head := rfl
  rw [issues, issues, hhead, fields_shift]
  cases b.head with
  | speaker name => rfl
  | title title =>
    dsimp only
    rw [List.filterMap_map, List.map_filterMap]
    refine List.filterMap_congr ?_
    rintro ⟨n, f⟩ -
    cases f <;> rfl

end Shift
end Block

namespace Script

theorem ofBlocks_shift (k : Nat) (bs : List Block) :
    ofBlocks (bs.map (·.shift k)) = (ofBlocks bs).shift k := by
  have hnodes : (bs.map (·.shift k)).filterMap Block.node? =
      (bs.filterMap Block.node?).map (·.shift k) := by
    rw [List.filterMap_map, List.map_filterMap]
    exact List.filterMap_congr fun b _ => b.node?_shift k
  have hspeakers : (bs.map (·.shift k)).filterMap Block.speaker? =
      (bs.filterMap Block.speaker?).map (·.shift k) := by
    rw [List.filterMap_map, List.map_filterMap]
    exact List.filterMap_congr fun b _ => b.speaker?_shift k
  rw [ofBlocks, ofBlocks, hnodes, hspeakers, List.map_map, shift]
  dsimp only
  rw [← Table.ofList_map, List.map_map]
  rfl

theorem ofBlocks_append (bs cs : List Block) :
    ofBlocks (bs ++ cs) = (ofBlocks bs).append (ofBlocks cs) := by
  have hspeakers (es fs : List (String × Speaker)) :
      Table.ofList (es ++ fs) = (Table.ofList es).update (Table.ofList fs) := by
    rw [Table.update_ofList, Table.ofList, List.foldl_append]
    rfl
  rw [ofBlocks, List.filterMap_append, List.filterMap_append, List.map_append, hspeakers]
  rfl

/-- Reading a text behind another one adds what it holds. The first text ends its last line and
closes its blocks; then the nodes of the second follow those of the first, its speakers replace
those of the same names in their places, and its problems come last, all with their line numbers
raised by the lines of the first, in the messages too. -/
theorem read_append {a : String} (ha : a = "" ∨ a.toList.getLast? = some '\n')
    (hc : Source.Closed a) (b : String) :
    let n := (Text.splitLines a).length
    parse (some []) (a ++ b) = .ok ((read a).1.append ((read b).1.shift n),
      some ((read a).2 ++ (read b).2.map (·.shift n))) ∧
    read (a ++ b) = ((read a).1.append ((read b).1.shift n),
      (read a).2 ++ (read b).2.map (·.shift n)) ∧
    (read (a ++ b)).2.map Issue.message = (read a).2.map Issue.message ++
      (read b).2.map fun i => s!"Line {i.line + n}: {i.text}" := by
  intro n
  have hread : read (a ++ b) = ((read a).1.append ((read b).1.shift n),
      (read a).2 ++ (read b).2.map (·.shift n)) := by
    have hissues : ((Block.ofText b).map (·.shift n)).flatMap Block.issues =
        ((Block.ofText b).flatMap Block.issues).map (·.shift n) := by
      rw [List.flatMap_map, List.map_flatMap]
      exact congrArg (List.flatMap · _) (funext fun b => b.issues_shift n)
    rw [read, Block.ofText_append ha hc, ofBlocks_append, ofBlocks_shift, List.flatMap_append,
      hissues]
    rfl
  refine ⟨?_, hread, ?_⟩
  · rw [parse_collecting, hread]
  · rw [hread, List.map_append, List.map_map]
    rfl

private def quay : String := "speaker: Ann\n===\nNotes.\ntitle: Quay\n---\nFog.\n===\n"

private def pier : String :=
  "title: Pier\nmood: dim\n===\nspeaker: Ann\ntalkAnim: nod\n===\ntitle: End\n---\nGulls."

/-- A field of the second text is unknown, a speaker of the first is defined again, and the last
node is not closed. -/
theorem read_append_quay :
    quay.toList.getLast? = some '\n' ∧ Source.Closed quay ∧
    (read (quay ++ pier)).1 =
      { nodes := [⟨"Quay", [], ["Fog."], 4, 6⟩, ⟨"Pier", [], [], 8, 0⟩,
          ⟨"End", [], ["Gulls."], 14, 16⟩]
        speakers := [("Ann", ⟨"Ann", some "nod", 11⟩)] } ∧
    (read (quay ++ pier)).2.map Issue.message =
      ["Line 9: Unknown metadata field 'mood' in node 'Pier'"] := by
  have hlast : quay.toList.getLast? = some '\n' := by decide +kernel
  have hclosed : Source.Closed quay := by decide +kernel
  obtain ⟨-, hread, hmessages⟩ := read_append (.inr hlast) hclosed pier
  have hscript : (read quay).1.append ((read pier).1.shift (Text.splitLines quay).length) =
      { nodes := [⟨"Quay", [], ["Fog."], 4, 6⟩, ⟨"Pier", [], [], 8, 0⟩,
          ⟨"End", [], ["Gulls."], 14, 16⟩]
        speakers := [("Ann", ⟨"Ann", some "nod", 11⟩)] } := by decide +kernel
  have htold : ((read quay).2.map Issue.message ++ (read pier).2.map fun i =>
      s!"Line {i.line + (Text.splitLines quay).length}: {i.text}") =
      ["Line 9: Unknown metadata field 'mood' in node 'Pier'"] := by decide +kernel
  exact ⟨hlast, hclosed, (congrArg Prod.fst hread).trans hscript, hmessages.trans htold⟩

end Script
end Dialogue
