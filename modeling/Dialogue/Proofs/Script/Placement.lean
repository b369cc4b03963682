import Dialogue.Proofs.Script.Positions
import Dialogue.Proofs.Text.Lines
import Dialogue.Proofs.Text.Match
import Dialogue.Proofs.Text.Trimming

/-! Placement: nodes and speakers stand in the source text where their line numbers say. -/
namespace Dialogue

theorem getElem?_takeWhile_length {α : Type} {p : α → Bool} {xs : List α} {x : α}
    (h : xs[(xs.takeWhile p).length]? = some x) : p x = false := by
  induction xs with
  | nil => simp at h
  | cons y xs ih =>
    cases hy : p y with
    | true =>
      rw [List.takeWhile_cons_of_pos hy, List.length_cons, List.getElem?_cons_succ] at h
      exact ih h
    | false =>
      rw [List.takeWhile_cons_of_neg (by simp [hy]), List.length_nil, List.getElem?_cons_zero] at h
      rw [← Option.some.inj h, hy]

namespace Text

/-- The pieces of a text that was joined at line feeds, the first of them not empty. -/
theorem pieces_intercalate {ls : List String} (hbreak : ∀ l ∈ ls, '\n' ∉ l.toList)
    (hfront : ∀ l, ls.head? = some l → l ≠ "") : pieces ("\n".intercalate ls) = ls := by
  rcases eq_or_ne ls [] with rfl | hne
  · rfl
  · have hfeed : "\n".toList = ['\n'] := rfl
    have htext : "\n".intercalate ls ≠ "" := by
      obtain ⟨l, ls, rfl⟩ := List.exists_cons_of_ne_nil hne
      have hl : l ≠ "" := hfront l rfl
      intro h
      have hchars := congrArg String.toList h
      rw [String.toList_intercalate, hfeed] at hchars
      cases ls with
      | nil => simp [hl] at hchars
      | cons l' ls => simp [hl] at hchars
    rw [pieces, if_neg htext, String.toList_intercalate, hfeed,
      List.splitOn_intercalate '\n' (by simpa using hbreak) (by simpa using hne), List.map_map]
    simp [Function.comp_def]

end Text

namespace Source
open Text

/-- A source line that opens a block: without its comment and the blanks around it, it is the
keyword, perhaps blanks, and the name. -/
def Opens (keyword name line : String) : Prop :=
  trim name = name ∧
    ∃ gap, isBlankText gap = true ∧ trim (stripComment line) = keyword ++ gap ++ name

/-- The line `j` belongs to the block whose head is on the line `i`: no line between them is a
terminator. -/
def InBlock (source : List String) (i j : Nat) : Prop :=
  i ≤ j ∧ ∀ k l, i < k → k < j → source[k - 1]? = some l → trim (stripComment l) ≠ "==="

theorem getElem?_lines {text line : String} {i : Nat} (h : (lines text)[i]? = some line) :
    ∃ l, (splitLines text)[i]? = some l ∧ line = trimEnd (stripComment l) := by
  rw [lines, List.getElem?_map, Option.map_eq_some_iff] at h
  obtain ⟨l, hl, rfl⟩ := h
  exact ⟨l, hl, rfl⟩

theorem length_lines (text : String) : (lines text).length = (splitLines text).length := by
  rw [lines, List.length_map]

theorem trimChars_line (line : String) : trimChars (trimEnd (stripComment line)).toList =
    trimChars (stripComment line).toList := by
  rw [trimEnd, String.toList_ofList, trimChars_dropBlankEnd]

theorem opens_of_after? {keyword line : String} {rest : List Char}
    (h : after? keyword (trimChars (trimEnd (stripComment line)).toList) = some rest) :
    Opens keyword (.ofList (trimChars rest)) line := by
  rw [after?_eq_some_iff, trimChars_line] at h
  have hrest : dropBlankEnd rest = rest := by
    refine dropBlankEnd_of_append (a := keyword.toList) ?_
    rw [← h, dropBlankEnd_trimChars]
  obtain ⟨gap, hgap, hsplit⟩ := exists_trimChars_of_dropBlankEnd hrest
  refine ⟨?_, .ofList gap, ?_, ?_⟩
  · rw [trim, String.toList_ofList, trimChars_trimChars]
  · rw [isBlankText_iff, String.toList_ofList]
    exact hgap
  · have hchars : trimChars (stripComment line).toList =
        keyword.toList ++ gap ++ trimChars rest := by
      rw [List.append_assoc, ← hsplit, h]
    rw [trim, hchars, ← String.toList_inj]
    simp

/-- What a head says of the line that it is read from. -/
def Spells (line : String) : Head → Prop
  | .title name => Opens "title:" name line
  | .speaker name => Opens "speaker:" name line

theorem spells_of_head {line : String} {h : Head}
    (hl : head? (trimEnd (stripComment line)) = some h) : Spells line h := by
  rw [head?] at hl
  cases htitle : after? "title:" (trimChars (trimEnd (stripComment line)).toList) with
  | some rest =>
    rw [htitle] at hl
    rw [← Option.some.inj hl]
    exact opens_of_after? htitle
  | none =>
    rw [htitle] at hl
    obtain ⟨rest, hrest, rfl⟩ := Option.map_eq_some_iff.mp hl
    exact opens_of_after? hrest

theorem not_isTerminator_of_head {line : String} {h : Head} (hl : head? line = some h) :
    isTerminator line = false := by
  by_contra hterminator
  have htrim : trimChars line.toList = "===".toList := by
    have heq : trim line = "===" := by simpa [isTerminator] using hterminator
    rw [← heq, trim, String.toList_ofList]
  rw [head?, htrim] at hl
  simp [after?] at hl

/-- Without its comment and the blanks at its end a line has no characters but its own. -/
theorem mem_of_mem_line {line : String} {c : Char}
    (h : c ∈ (trimEnd (stripComment line)).toList) : c ∈ line.toList := by
  rw [trimEnd, String.toList_ofList] at h
  have hstripped := (List.rdropWhile_prefix isBlank _).subset h
  rw [stripComment, String.toList_ofList] at hstripped
  exact (List.takeWhile_prefix _).subset hstripped

theorem not_isLineBreak_of_mem_lines {text line : String} (h : line ∈ lines text) {c : Char}
    (hc : c ∈ line.toList) : isLineBreak c = false := by
  obtain ⟨l, hl, rfl⟩ := List.mem_map.mp h
  obtain ⟨cs, hcs, rfl⟩ := List.mem_map.mp hl
  have hmem := mem_of_mem_line hc
  rw [String.toList_ofList] at hmem
  exact Text.not_isLineBreak_of_mem_lines hcs hmem

end Source

namespace Block
open Source Text
variable {ls : List String} {i j : Nat} {b c : Block}

theorem LiesAt.lt_length (h : LiesAt ls i b) : i < ls.length := by
  have hhead := h.head
  by_contra hi
  rw [List.getElem?_eq_none (by omega)] at hhead
  simp at hhead

theorem LiesAt.head_line (h : LiesAt ls i b) : ∃ l, ls[i]? = some l ∧ head? l = some b.head :=
  Option.bind_eq_some_iff.mp h.head

theorem LiesAt.isTerminator (h : LiesAt ls i b) {l : String}
    (hl : ls[i + 1 + b.content.length]? = some l) : isTerminator l = true := by
  rw [← List.getElem?_drop, h.content, Source.inside] at hl
  simpa using getElem?_takeWhile_length hl

/-- Between a block and a later one stands a terminator. -/
theorem LiesAt.exists_terminator (hb : LiesAt ls i b) (hc : LiesAt ls j c)
    (h : i + b.content.length < j) :
    ∃ k l, i < k ∧ k < j ∧ ls[k]? = some l ∧ Source.isTerminator l = true := by
  have hj := hc.lt_length
  obtain ⟨l, hl⟩ : ∃ l, ls[i + 1 + b.content.length]? = some l :=
    ⟨_, List.getElem?_eq_getElem (by omega)⟩
  have hterminator := hb.isTerminator hl
  refine ⟨i + 1 + b.content.length, l, by omega, ?_, hl, hterminator⟩
  by_contra hlast
  obtain ⟨l', hl', hhead⟩ := hc.head_line
  obtain rfl : i + 1 + b.content.length = j := by omega
  obtain rfl := Option.some.inj (hl.symm.trans hl')
  simp [not_isTerminator_of_head hhead] at hterminator

theorem node?_eq_some {n : Node} (hn : b.node? = some n) :
    b.head = .title n.title ∧ n = ⟨n.title, b.metadata, b.body, b.line, b.bodyLine⟩ := by
  unfold node? at hn
  split at hn
  · next title hhead =>
    obtain rfl := Option.some.inj hn
    exact ⟨hhead, rfl⟩
  · simp at hn

theorem speaker?_eq_some {sp : Speaker} (hs : b.speaker? = some sp) :
    b.head = .speaker sp.name ∧ sp.line = b.line := by
  refine ⟨head_of_speaker? hs, ?_⟩
  unfold speaker? at hs
  split at hs
  · simp at hs
  · rw [← Option.some.inj hs]

theorem mem_content_of_mem_body {l : String} (hl : l ∈ b.body) : l ∈ b.content := by
  have hraw : l ∈ b.rawBody := List.drop_subset _ _ (b.body_prefix.subset hl)
  exact (List.dropWhile_sublist _).subset (List.drop_subset _ _ hraw)

theorem not_isBlankText_of_front {l : String} (hl : b.body.head? = some l) :
    isBlankText l = false := by
  have hprefix : b.body <+: b.rawBody.dropWhile isBlankText := List.rdropWhile_prefix _ _
  have hfront : (b.rawBody.dropWhile isBlankText).head? = some l := by
    rw [List.head?_eq_getElem?] at hl ⊢
    exact getElem?_of_front hprefix hl
  have hstop := List.head?_dropWhile_not isBlankText b.rawBody
  rw [hfront] at hstop
  exact hstop

theorem not_isBlankText_of_last {l : String} (hl : b.body.getLast? = some l) :
    isBlankText l = false := by
  have hne : b.body ≠ [] := by
    rintro hnil
    simp [hnil] at hl
  rw [List.getLast?_eq_some_getLast hne] at hl
  rw [← Option.some.inj hl]
  exact Bool.eq_false_of_not_eq_true
    (List.rdropWhile_last_not isBlankText (b.rawBody.dropWhile isBlankText) hne)

theorem LiesAt.not_isTerminator (h : LiesAt ls i b) {l : String} (hl : l ∈ b.content) :
    Source.isTerminator l = false := by
  rw [h.content, Source.inside] at hl
  simpa using List.mem_takeWhile_imp hl

theorem LiesAt.mem_of_mem_content (h : LiesAt ls i b) {l : String} (hl : l ∈ b.content) :
    l ∈ ls := by
  rw [h.content] at hl
  exact List.drop_subset _ _ ((List.takeWhile_prefix _).subset hl)

/-- The lines of a body are the pieces of its text. -/
theorem pieces_bodyText {text : String} (hb : b ∈ ofText text) {n : Node}
    (hn : b.node? = some n) : pieces n.bodyText = b.body := by
  obtain ⟨i, -, hlies⟩ := scan_liesAt 1 (lines text) b hb
  rw [(node?_eq_some hn).2, Node.bodyText]
  refine pieces_intercalate (fun l hl hfeed => ?_) (fun l hl => ?_)
  · have hmem := hlies.mem_of_mem_content (mem_content_of_mem_body hl)
    have hbreak := not_isLineBreak_of_mem_lines hmem hfeed
    simp [isLineBreak] at hbreak
  · rintro rfl
    simpa [isBlankText] using not_isBlankText_of_front hl

end Block

/-- A node stands in a source text where its line numbers say: its title on one line, and its body,
which has no blank line at either end and no terminator, on lines below it. -/
structure Node.Placed (source : List String) (n : Node) : Prop where
  first_le : 1 ≤ n.line
  le_last : n.line ≤ source.length
  head : ∃ l, source[n.line - 1]? = some l ∧ Source.Opens "title:" n.title l
  body : ∀ k l, (Text.pieces n.bodyText)[k]? = some l → n.line < n.bodyLine + k ∧
    Text.trim l ≠ "===" ∧ ∃ raw, source[n.bodyLine - 1 + k]? = some raw ∧
      l = Text.trimEnd (Source.stripComment raw)
  front : ∀ l, (Text.pieces n.bodyText).head? = some l → ¬ Text.isBlankText l
  last : ∀ l, (Text.pieces n.bodyText).getLast? = some l → ¬ Text.isBlankText l

/-- A speaker stands in a source text where the line number says. -/
structure Speaker.Placed (source : List String) (sp : Speaker) : Prop where
  first_le : 1 ≤ sp.line
  le_last : sp.line ≤ source.length
  head : ∃ l, source[sp.line - 1]? = some l ∧ Source.Opens "speaker:" sp.name l

namespace Block
variable {text : String} {b c : Block} {n : Node} {sp : Speaker}

theorem exists_head_line (hb : b ∈ ofText text) : 1 ≤ b.line ∧
    b.line ≤ (Text.splitLines text).length ∧
    ∃ l, (Text.splitLines text)[b.line - 1]? = some l ∧ Source.Spells l b.head := by
  obtain ⟨i, hline, hlies⟩ := scan_liesAt 1 (Source.lines text) b hb
  have hi := hlies.lt_length
  obtain ⟨l, hl, hhead⟩ := hlies.head_line
  obtain ⟨raw, hraw, rfl⟩ := Source.getElem?_lines hl
  have hindex : b.line - 1 = i := by omega
  rw [Source.length_lines] at hi
  exact ⟨by omega, by omega, raw, by rw [hindex, hraw], Source.spells_of_head hhead⟩

theorem node_placed (hb : b ∈ ofText text) (hn : b.node? = some n) :
    n.Placed (Text.splitLines text) := by
  obtain ⟨i, hline, hlies⟩ := scan_liesAt 1 (Source.lines text) b hb
  obtain ⟨hfirst, hlast, l, hl, hspells⟩ := exists_head_line hb
  have hpieces := pieces_bodyText hb hn
  obtain ⟨hhead, hnode⟩ := node?_eq_some hn
  have hlineEq : n.line = b.line := by rw [hnode]
  have hbodyEq : n.body = b.body := by rw [hnode]
  rw [hhead] at hspells
  refine ⟨by omega, by omega, ⟨l, by rw [hlineEq, hl], hspells⟩, ?_, ?_, ?_⟩
  · intro k l hl
    rw [hpieces, ← hbodyEq] at hl
    obtain ⟨hbelow, -, hsource⟩ := body_placed hb hn hl
    obtain ⟨raw, hraw, rfl⟩ := Source.getElem?_lines hsource
    have hnonempty : 0 < n.body.length := by
      have hk := (List.getElem?_eq_some_iff.mp hl).1
      omega
    have hbodyLine := (body_placed hb hn (List.getElem?_eq_getElem hnonempty)).1
    have hindex : n.bodyLine - 1 + k = n.bodyLine + k - 1 := by omega
    have hterminator : Source.isTerminator (Text.trimEnd (Source.stripComment raw)) = false := by
      refine hlies.not_isTerminator (mem_content_of_mem_body ?_)
      rw [← hbodyEq]
      exact List.mem_of_getElem? hl
    refine ⟨by omega, ?_, raw, by rw [hindex, hraw], rfl⟩
    simpa [Source.isTerminator] using hterminator
  · intro l hl
    rw [hpieces] at hl
    simp [not_isBlankText_of_front hl]
  · intro l hl
    rw [hpieces] at hl
    simp [not_isBlankText_of_last hl]

theorem speaker_placed (hb : b ∈ ofText text) (hs : b.speaker? = some sp) :
    sp.Placed (Text.splitLines text) := by
  obtain ⟨hfirst, hlast, l, hl, hspells⟩ := exists_head_line hb
  obtain ⟨hhead, hline⟩ := speaker?_eq_some hs
  rw [hhead] at hspells
  exact ⟨by omega, by omega, l, by rw [hline, hl], hspells⟩

/-- The title and the body of a node stand above a block that comes later. -/
theorem node_above {m : Node} (hb : b ∈ ofText text) (hn : b.node? = some n)
    (hm : c.node? = some m) (hbc : b.line + b.content.length < c.line) :
    n.line < m.line ∧ ∀ k < (Text.pieces n.bodyText).length, n.bodyLine + k < m.line := by
  have hnode := (node?_eq_some hn).2
  have hnline : n.line = b.line := by rw [hnode]
  have hbody : n.body = b.body := by rw [hnode]
  have hmline : m.line = c.line := by rw [(node?_eq_some hm).2]
  refine ⟨by omega, fun k hk => ?_⟩
  rw [pieces_bodyText hb hn, ← hbody] at hk
  have hplaced := body_placed hb hn (List.getElem?_eq_getElem hk)
  omega

/-- Of two blocks one ends before the other begins. -/
theorem apart_of_mem (hb : b ∈ ofText text) (hc : c ∈ ofText text) (hne : b ≠ c) :
    b.line + b.content.length < c.line ∨ c.line + c.content.length < b.line := by
  have hpairwise : (ofText text).Pairwise fun b c : Block =>
      b.line + b.content.length < c.line ∨ c.line + c.content.length < b.line :=
    (scan_pairwise 1 (Source.lines text)).2.imp Or.inl
  have hsymm : Std.Symm fun b c : Block =>
      b.line + b.content.length < c.line ∨ c.line + c.content.length < b.line :=
    ⟨fun _ _ => Or.symm⟩
  exact hpairwise.forall hb hc hne

/-- The head of a speaker block is in no block of a node. -/
theorem not_inBlock (hb : b ∈ ofText text) (hn : b.node? = some n) (hc : c ∈ ofText text)
    (hs : c.speaker? = some sp) : ¬ Source.InBlock (Text.splitLines text) n.line sp.line := by
  rintro ⟨hle, hinside⟩
  obtain ⟨i, hbline, hbLies⟩ := scan_liesAt 1 (Source.lines text) b hb
  obtain ⟨j, hcline, hcLies⟩ := scan_liesAt 1 (Source.lines text) c hc
  obtain ⟨hbhead, hnode⟩ := node?_eq_some hn
  obtain ⟨hchead, hspline⟩ := speaker?_eq_some hs
  have hnline : n.line = b.line := by rw [hnode]
  have hne : b ≠ c := by
    rintro rfl
    simp [hbhead] at hchead
  have hordered : b.line + b.content.length < c.line ∨ c.line + c.content.length < b.line :=
    apart_of_mem hb hc hne
  rcases hordered with h | h
  · obtain ⟨k, l, hik, hkj, hl, hterminator⟩ := hbLies.exists_terminator hcLies (by omega)
    obtain ⟨raw, hraw, rfl⟩ := Source.getElem?_lines hl
    refine hinside (k + 1) raw (by omega) (by omega) (by simpa using hraw) ?_
    simpa [Source.isTerminator, Text.trim, Source.trimChars_line] using hterminator
  · omega

end Block

/-- Nodes follow each other in the order of their lines, each with its body above the next title,
and each node and speaker stands in the text where its line numbers say. Speakers are read only
from outside of the blocks of nodes. -/
theorem Script.read_placed (text : String) :
    (∀ n ∈ (read text).1.nodes, n.Placed (Text.splitLines text)) ∧
    ((read text).1.nodes.Pairwise fun n m => n.line < m.line ∧
      ∀ k < (Text.pieces n.bodyText).length, n.bodyLine + k < m.line) ∧
    ∀ name sp, (name, sp) ∈ (read text).1.speakers →
      sp.name = name ∧ sp.Placed (Text.splitLines text) ∧
      ∀ n ∈ (read text).1.nodes, ¬ Source.InBlock (Text.splitLines text) n.line sp.line := by
  refine ⟨?_, ?_, ?_⟩
  · intro n hn
    obtain ⟨b, hb, hnode⟩ := List.mem_filterMap.mp hn
    exact Block.node_placed hb hnode
  · refine List.pairwise_filterMap.mpr ?_
    refine (Block.scan_pairwise 1 (Source.lines text)).2.imp_of_mem ?_
    intro b c hb _ hbc n hn m hm
    exact Block.node_above hb hn hm hbc
  · intro name sp hmem
    obtain ⟨sp', hsp, heq⟩ := List.mem_map.mp (Table.mem_of_mem_ofList hmem)
    obtain ⟨rfl, rfl⟩ := Prod.mk.inj heq
    obtain ⟨c, hc, hs⟩ := List.mem_filterMap.mp hsp
    refine ⟨rfl, Block.speaker_placed hc hs, fun n hn => ?_⟩
    obtain ⟨b, hb, hnode⟩ := List.mem_filterMap.mp hn
    exact Block.not_inBlock hb hnode hc hs

end Dialogue
