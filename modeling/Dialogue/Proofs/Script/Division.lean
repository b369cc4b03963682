import Dialogue.Proofs.Text.Lines
import Dialogue.Script.Reader
import Mathlib.Data.List.TakeWhile
import Mathlib.Tactic

/-! Divisions: where the blocks of a text lie among its lines. -/
namespace Dialogue

theorem getElem?_of_front {α : Type} {xs ys : List α} (h : xs <+: ys) {i : Nat} {x : α}
    (hi : xs[i]? = some x) : ys[i]? = some x := by
  obtain ⟨zs, rfl⟩ := h
  rw [List.getElem?_append_left (List.getElem?_eq_some_iff.mp hi).1, hi]

theorem pairwise_zipIdx {α : Type} (xs : List α) (n : Nat) :
    (xs.zipIdx n).Pairwise fun x y => x.2 < y.2 := by
  rw [← List.pairwise_map (f := Prod.snd), List.zipIdx_map_snd]
  exact List.pairwise_lt_range'

namespace Source

/-- The lines below a head that belong to its block. -/
def inside (ls : List String) : List String := ls.takeWhile fun l => !isTerminator l

/-- How many lines below a head its block takes, the terminator among them. -/
def extent : List String → Nat
  | [] => 0
  | l :: ls => if isTerminator l then 1 else extent ls + 1

section Extent
variable {l : String} (ls : List String)

@[simp] theorem inside_nil : inside [] = [] := rfl

theorem inside_of_terminator (h : isTerminator l = true) : inside (l :: ls) = [] := by
  simp [inside, h]

theorem inside_of_line (h : isTerminator l = false) : inside (l :: ls) = l :: inside ls := by
  simp [inside, h]

theorem extent_of_terminator (h : isTerminator l = true) : extent (l :: ls) = 1 := by
  simp [extent, h]

theorem extent_of_line (h : isTerminator l = false) : extent (l :: ls) = extent ls + 1 := by
  simp [extent, h]

/-- A block that does not run to the end takes its terminator along. -/
theorem extent_eq (h : ls.drop (extent ls) ≠ []) : extent ls = (inside ls).length + 1 := by
  induction ls with
  | nil => exact absurd rfl h
  | cons l ls ih =>
    cases ht : isTerminator l with
    | true => rw [extent_of_terminator ls ht, inside_of_terminator ls ht, List.length_nil]
    | false =>
      rw [extent_of_line ls ht, List.drop_succ_cons] at h
      rw [extent_of_line ls ht, inside_of_line ls ht, List.length_cons, ih h]

end Extent
end Source

namespace Block
open Source

theorem scan_some (n : Nat) (b : Block) (ls : List String) :
    scan n (some b) ls = { b with content := b.content ++ inside ls } ::
      scan (n + extent ls) none (ls.drop (extent ls)) := by
  induction ls generalizing n b with
  | nil => simp [scan, extent]
  | cons l ls ih =>
    rw [scan]
    cases ht : isTerminator l with
    | true => simp [inside_of_terminator ls ht, extent_of_terminator ls ht]
    | false =>
      rw [inside_of_line ls ht, extent_of_line ls ht, List.drop_succ_cons]
      simp only [Bool.false_eq_true, if_false]
      rw [ih, List.append_assoc, List.singleton_append, Nat.add_right_comm, Nat.add_assoc]

theorem scan_of_head {l : String} {h : Head} (n : Nat) (ls : List String)
    (hl : head? l = some h) :
    scan n none (l :: ls) =
      ⟨h, n, inside ls⟩ :: scan (n + 1 + extent ls) none (ls.drop (extent ls)) := by
  rw [scan]
  simp only [hl, Option.map_some]
  rw [scan_some, List.nil_append]

theorem scan_of_no_head {l : String} (n : Nat) (ls : List String) (hl : head? l = none) :
    scan n none (l :: ls) = scan (n + 1) none ls := by
  conv_lhs => rw [scan]
  rw [hl]
  rfl

/-- Blocks follow each other: between them stand lines that open none, and the next one is looked
for below all that the one before it takes. -/
theorem scan_induction {P : Nat → List String → List Block → Prop} (nil : ∀ n, P n [] [])
    (skip : ∀ n l ls, head? l = none → P (n + 1) ls (scan (n + 1) none ls) →
      P n (l :: ls) (scan (n + 1) none ls))
    (block : ∀ n l ls h, head? l = some h →
      P (n + 1 + extent ls) (ls.drop (extent ls))
        (scan (n + 1 + extent ls) none (ls.drop (extent ls))) →
      P n (l :: ls)
        (⟨h, n, inside ls⟩ :: scan (n + 1 + extent ls) none (ls.drop (extent ls))))
    (n : Nat) (ls : List String) : P n ls (scan n none ls) := by
  match ls with
  | [] => exact nil n
  | l :: ls =>
    cases hl : head? l with
    | none =>
      rw [scan_of_no_head n ls hl]
      exact skip n l ls hl (scan_induction nil skip block (n + 1) ls)
    | some h =>
      rw [scan_of_head n ls hl]
      exact block n l ls h hl (scan_induction nil skip block _ _)
termination_by ls.length
decreasing_by all_goals (simp only [List.length_cons, List.length_drop]; omega)

/-- A block in lines whose head has `i` lines above it: its content runs down to the first
terminator or to the end. -/
structure LiesAt (ls : List String) (i : Nat) (b : Block) : Prop where
  head : ls[i]?.bind head? = some b.head
  content : b.content = inside (ls.drop (i + 1))

theorem LiesAt.drop {ls : List String} {k i : Nat} {b : Block} (h : LiesAt (ls.drop k) i b) :
    LiesAt ls (k + i) b where
  head := by rw [← h.head, List.getElem?_drop]
  content := by rw [h.content, List.drop_drop, Nat.add_assoc]

/-- The line `j` of a content, counted from zero, in the lines that the block lies in. -/
theorem LiesAt.getElem?_content {ls : List String} {i : Nat} {b : Block} (h : LiesAt ls i b)
    {j : Nat} {l : String} (hl : b.content[j]? = some l) : ls[i + 1 + j]? = some l := by
  rw [h.content] at hl
  rw [← List.getElem?_drop]
  exact getElem?_of_front (List.takeWhile_prefix _) hl

theorem scan_liesAt (n : Nat) (ls : List String) :
    ∀ b ∈ scan n none ls, ∃ i, b.line = n + i ∧ LiesAt ls i b := by
  apply scan_induction (P := fun n ls bs => ∀ b ∈ bs, ∃ i, b.line = n + i ∧ LiesAt ls i b)
  · simp
  · intro n l ls _ ih b hb
    obtain ⟨i, hline, hi⟩ := ih b hb
    have hlies : LiesAt (l :: ls) (1 + i) b := LiesAt.drop (k := 1) hi
    exact ⟨1 + i, by omega, hlies⟩
  · intro n l ls h hl ih b hb
    rcases List.mem_cons.mp hb with rfl | hb
    · exact ⟨0, rfl, hl, rfl⟩
    · obtain ⟨i, hline, hi⟩ := ih b hb
      have hlies : LiesAt (l :: ls) (1 + (extent ls + i)) b := LiesAt.drop (k := 1) hi.drop
      exact ⟨1 + (extent ls + i), by omega, hlies⟩

/-- A block ends before the next one begins. -/
theorem scan_pairwise (n : Nat) (ls : List String) :
    (∀ b ∈ scan n none ls, n ≤ b.line) ∧
      (scan n none ls).Pairwise fun b c => b.line + b.content.length < c.line := by
  apply scan_induction (P := fun n ls bs => (∀ b ∈ bs, n ≤ b.line) ∧
    bs.Pairwise fun b c => b.line + b.content.length < c.line)
  · simp
  · intro n l ls _ ih
    exact ⟨fun b hb => (Nat.le_succ n).trans (ih.1 b hb), ih.2⟩
  · intro n l ls h _ ih
    refine ⟨?_, List.pairwise_cons.mpr ⟨fun c hc => ?_, ih.2⟩⟩
    · intro b hb
      rcases List.mem_cons.mp hb with rfl | hb
      · exact le_rfl
      · have := ih.1 b hb
        omega
    · have hrest : ls.drop (extent ls) ≠ [] := by
        intro hnil
        simp [hnil, scan] at hc
      have hnext := ih.1 c hc
      have hextent := extent_eq ls hrest
      dsimp only
      omega

theorem rawBody_of_no_separator {b : Block} (h : ¬ b.hasSeparator = true) : b.rawBody = [] := by
  have hdrop : (b.content.dropWhile fun l => !isSeparator l) = [] := by
    rw [List.dropWhile_eq_nil_iff]
    simpa [hasSeparator] using h
  rw [rawBody, hdrop, List.drop_nil]

end Block

namespace Script

/-- A script does not depend on the form of the breaks in its text. -/
theorem read_normalizeBreaks (text : String) : read (Text.normalizeBreaks text) = read text := by
  simp only [read, Block.ofText, Source.lines, Text.splitLines_normalizeBreaks]

theorem readStrict_eq_ok_iff {text : String} {s : Script} :
    readStrict text = .ok s ↔ read text = (s, []) := by
  unfold readStrict
  rcases read text with ⟨s', _ | ⟨i, is⟩⟩ <;> simp

theorem read_of_readStrict {text : String} {s : Script} (h : readStrict text = .ok s) :
    (read text).1 = s := by
  rw [readStrict_eq_ok_iff.mp h]

theorem readStrict_normalizeBreaks (text : String) :
    readStrict (Text.normalizeBreaks text) = readStrict text := by
  rw [readStrict, read_normalizeBreaks, readStrict]

end Script
end Dialogue
