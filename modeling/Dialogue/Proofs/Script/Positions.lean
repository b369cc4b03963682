import Dialogue.Proofs.Script.Division
import Dialogue.Proofs.Table
import Mathlib.Data.List.DropRight

/-! Positions: the source lines that the bodies of nodes are read from, and the blocks that the
names of speakers come from. -/
namespace Dialogue

namespace Block
open Source
variable {b : Block}

theorem content_eq_of_separator (h : b.hasSeparator = true) :
    ∃ sep, isSeparator sep = true ∧ b.content = b.header ++ sep :: b.rawBody := by
  have hne : (b.content.dropWhile fun l => !isSeparator l) ≠ [] := by
    rw [ne_eq, List.dropWhile_eq_nil_iff]
    simpa [hasSeparator] using h
  obtain ⟨sep, rest, hdrop⟩ := List.exists_cons_of_ne_nil hne
  refine ⟨sep, ?_, ?_⟩
  · have hhead := List.head?_dropWhile_not (fun l => !isSeparator l) b.content
    simpa [hdrop] using hhead
  · rw [rawBody, hdrop, List.drop_succ_cons, List.drop_zero, ← hdrop]
    exact List.takeWhile_append_dropWhile.symm

/-- The body is what is left of the lines below the separator without the blank ones at both
ends. -/
theorem body_prefix (b : Block) :
    b.body <+: b.rawBody.drop (b.rawBody.takeWhile Text.isBlankText).length := by
  have hdrop : (b.rawBody.takeWhile Text.isBlankText ++ b.rawBody.dropWhile Text.isBlankText).drop
      (b.rawBody.takeWhile Text.isBlankText).length = b.rawBody.dropWhile Text.isBlankText :=
    List.drop_left
  rw [List.takeWhile_append_dropWhile] at hdrop
  rw [hdrop]
  exact List.rdropWhile_prefix _ _

/-- A block with a body has a separator. -/
theorem hasSeparator_of_body {k : Nat} {l : String} (hl : b.body[k]? = some l) :
    b.hasSeparator = true := by
  by_contra hs
  simp [body, rawBody_of_no_separator hs] at hl

/-- The line `k` of a body, counted from zero, in the content of its block. -/
theorem getElem?_content_of_body {k : Nat} {l : String} (hl : b.body[k]? = some l) :
    b.line < b.bodyLine + k ∧ b.content[b.bodyLine + k - (b.line + 1)]? = some l := by
  have hs := hasSeparator_of_body hl
  obtain ⟨sep, -, hcontent⟩ := content_eq_of_separator hs
  have hraw := getElem?_of_front b.body_prefix hl
  rw [List.getElem?_drop] at hraw
  have hbodyLine : b.bodyLine =
      b.line + b.header.length + 2 + (b.rawBody.takeWhile Text.isBlankText).length := by
    rw [bodyLine, if_pos hs]
  -- Above the body stand the head, the fields, the separator and the blank lines below it.
  have hindex : b.bodyLine + k - (b.line + 1) =
      b.header.length + ((b.rawBody.takeWhile Text.isBlankText).length + k + 1) := by omega
  refine ⟨by omega, ?_⟩
  rw [hindex, hcontent, List.getElem?_append_right (Nat.le_add_right _ _),
    Nat.add_sub_cancel_left, List.getElem?_cons_succ, hraw]

/-- The line `k` of a body, counted from zero, in the lines that the block lies in. -/
theorem LiesAt.getElem?_body {ls : List String} {i : Nat} (h : LiesAt ls i b)
    (hline : b.line = 1 + i) {k : Nat} {l : String} (hl : b.body[k]? = some l) :
    b.line < b.bodyLine + k ∧ b.bodyLine + k ≤ b.line + b.content.length ∧
      ls[b.bodyLine + k - 1]? = some l := by
  obtain ⟨hbelow, hget⟩ := getElem?_content_of_body hl
  have hlt := (List.getElem?_eq_some_iff.mp hget).1
  refine ⟨hbelow, by omega, ?_⟩
  have hindex : b.bodyLine + k - 1 = i + 1 + (b.bodyLine + k - (b.line + 1)) := by omega
  rw [hindex]
  exact h.getElem?_content hget

theorem node?_body {n : Node} (h : b.node? = some n) :
    n.body = b.body ∧ n.bodyLine = b.bodyLine := by
  unfold node? at h
  split at h
  · obtain rfl := Option.some.inj h
    exact ⟨rfl, rfl⟩
  · simp at h

theorem body_placed {text : String} (hb : b ∈ ofText text) {n : Node} (hn : b.node? = some n)
    {k : Nat} {l : String} (hl : n.body[k]? = some l) :
    b.line < n.bodyLine + k ∧ n.bodyLine + k ≤ b.line + b.content.length ∧
      (Source.lines text)[n.bodyLine + k - 1]? = some l := by
  obtain ⟨i, hline, hlies⟩ := scan_liesAt 1 (Source.lines text) b hb
  obtain ⟨hbody, hbodyLine⟩ := node?_body hn
  rw [hbody] at hl
  rw [hbodyLine]
  exact hlies.getElem?_body hline hl

end Block

/-- The lines of a body stand in the text where the node says. -/
theorem Script.getElem?_body {text : String} {n : Node} (hn : n ∈ (read text).1.nodes) {k : Nat}
    {l : String} (hl : n.body[k]? = some l) :
    (Source.lines text)[n.bodyLine + k - 1]? = some l := by
  obtain ⟨b, hb, hnode⟩ := List.mem_filterMap.mp hn
  exact (Block.body_placed hb hnode hl).2.2

theorem Block.head_of_speaker? {b : Block} {sp : Speaker} (h : b.speaker? = some sp) :
    b.head = .speaker sp.name := by
  unfold speaker? at h
  split at h
  · simp at h
  · next name hhead =>
    obtain rfl := Option.some.inj h
    exact hhead

/-- A name is without a definition where no block opens with it. -/
theorem Script.speakers_get?_eq_none_iff {text name : String} :
    (read text).1.speakers.get? name = none ↔
      ∀ b ∈ Block.ofText text, b.head ≠ .speaker name := by
  simp only [read, ofBlocks, Table.get?_ofList_eq_none_iff, List.forall_mem_map,
    List.mem_filterMap]
  constructor
  · intro h b hb hhead
    refine h ⟨name, b.talk, b.line⟩ ⟨b, hb, ?_⟩ rfl
    rw [Block.speaker?, hhead]
  · rintro h sp ⟨b, hb, hsp⟩ rfl
    exact h b hb (Block.head_of_speaker? hsp)

end Dialogue
