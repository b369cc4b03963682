import Dialogue.Text.Match
import Mathlib.Data.List.TakeWhile
import Mathlib.Tactic

/-! Matching: what a matcher takes from a text that begins with what it looks for. -/
namespace Dialogue.Text

theorem after?_eq_some_iff {w : String} {cs rest : List Char} :
    after? w cs = some rest ↔ cs = w.toList ++ rest := by
  unfold after?
  constructor
  · intro h
    split_ifs at h with hw
    obtain ⟨r, rfl⟩ := List.isPrefixOf_iff_prefix.mp hw
    rw [← String.length_toList, List.drop_left] at h
    rw [Option.some.inj h]
  · rintro rfl
    rw [if_pos (List.isPrefixOf_iff_prefix.mpr (List.prefix_append _ _)), ← String.length_toList,
      List.drop_left]

theorem cut_append {mark : Char} {a : List Char} (h : mark ∉ a) (b : List Char) :
    cut mark (a ++ mark :: b) = some (a, b) := by
  induction a with
  | nil => simp [cut]
  | cons c a ih =>
    rw [List.cons_append, cut, if_neg (List.ne_of_not_mem_cons h).symm,
      ih (List.not_mem_of_not_mem_cons h)]
    rfl

/-- A text is split at the last of its marks in one way only. -/
theorem eq_of_append_mark {mark : Char} {a a' b b' : List Char} (hb : mark ∉ b) (hb' : mark ∉ b')
    (h : a ++ mark :: b = a' ++ mark :: b') : a = a' ∧ b = b' := by
  have hreverse : b.reverse ++ mark :: a.reverse = b'.reverse ++ mark :: a'.reverse := by
    simpa using congrArg List.reverse h
  have hcut := congrArg (cut mark) hreverse
  rw [cut_append (by simpa using hb), cut_append (by simpa using hb'), Option.some.injEq,
    Prod.mk.injEq, List.reverse_inj, List.reverse_inj] at hcut
  exact hcut.symm

/-- A span runs as far as all characters are of the kind, and no further. -/
theorem span_append {p : Char → Bool} {w rest : List Char} (hw : ∀ c ∈ w, p c = true)
    (hrest : ∀ c, rest.head? = some c → p c = false) : (w ++ rest).span p = (w, rest) := by
  have hstop : rest.takeWhile p = [] ∧ rest.dropWhile p = rest := by
    cases rest with
    | nil => exact ⟨rfl, rfl⟩
    | cons c rest => simp [hrest c rfl]
  rw [List.span_eq_takeWhile_dropWhile, List.takeWhile_append_of_pos hw, hstop.1,
    List.append_nil, List.dropWhile_append_of_pos hw, hstop.2]

theorem word?_append {w rest : List Char} (hw : ∀ c ∈ w, isWord c = true) (hne : w ≠ [])
    (hrest : ∀ c, rest.head? = some c → isWord c = false) : word? (w ++ rest) = some (w, rest) := by
  rw [word?, span_append hw hrest]
  cases w with
  | nil => exact absurd rfl hne
  | cons c w => rfl

theorem lastLine?_of_no_feed {cs : List Char} (h : '\n' ∉ cs) : lastLine? cs = some cs := by
  have hline : ∀ c ∈ cs, decide (c ≠ '\n') = true := by
    intro c hc
    rw [decide_eq_true_eq]
    rintro rfl
    exact h hc
  have hspan : (cs ++ []).span (· ≠ '\n') = (cs, []) := span_append hline (by simp)
  rw [List.append_nil] at hspan
  rw [lastLine?, hspan]
  rfl

end Dialogue.Text
