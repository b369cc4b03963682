import Dialogue.Text.Blank
import Mathlib.Data.List.DropRight
import Mathlib.Tactic

/-! Trimming: what stands between the blanks at both ends of a text. -/
namespace Dialogue.Text

/-- Nothing but blanks. -/
def AllBlank (cs : List Char) : Prop := ∀ c ∈ cs, isBlank c = true

section
variable {a b cs : List Char}

theorem isBlankText_iff {s : String} : isBlankText s = true ↔ AllBlank s.toList := by
  simp [isBlankText, AllBlank]

theorem dropBlank_append (ha : AllBlank a) (cs : List Char) :
    dropBlank (a ++ cs) = dropBlank cs :=
  List.dropWhile_append_of_pos ha

theorem dropBlank_eq_nil_iff : dropBlank cs = [] ↔ AllBlank cs := List.dropWhile_eq_nil_iff

theorem dropBlank_append_of_ne_nil (h : dropBlank cs ≠ []) (b : List Char) :
    dropBlank (cs ++ b) = dropBlank cs ++ b := by
  unfold dropBlank at h ⊢
  rw [List.dropWhile_append, if_neg (by simpa using h)]

theorem dropBlankEnd_append (hb : AllBlank b) (cs : List Char) :
    dropBlankEnd (cs ++ b) = dropBlankEnd cs := by
  rw [dropBlankEnd, List.reverse_append, dropBlank_append (by simpa [AllBlank] using hb)]
  rfl

theorem dropBlankEnd_eq_nil_iff : dropBlankEnd cs = [] ↔ AllBlank cs :=
  List.rdropWhile_eq_nil_iff

theorem dropBlankEnd_append_of_ne_nil (h : dropBlankEnd cs ≠ []) (a : List Char) :
    dropBlankEnd (a ++ cs) = a ++ dropBlankEnd cs := by
  have hcs : dropBlank cs.reverse ≠ [] := by simpa [dropBlankEnd] using h
  rw [dropBlankEnd, List.reverse_append, dropBlank_append_of_ne_nil hcs, List.reverse_append,
    List.reverse_reverse]
  rfl

theorem exists_dropBlank (cs : List Char) : ∃ a, AllBlank a ∧ cs = a ++ dropBlank cs :=
  ⟨cs.takeWhile isBlank, fun _ => List.mem_takeWhile_imp, List.takeWhile_append_dropWhile.symm⟩

theorem exists_dropBlankEnd (cs : List Char) : ∃ b, AllBlank b ∧ cs = dropBlankEnd cs ++ b :=
  ⟨cs.rtakeWhile isBlank, fun _ => List.mem_rtakeWhile_imp,
    List.rdropWhile_append_rtakeWhile.symm⟩

theorem dropBlankEnd_dropBlankEnd (cs : List Char) :
    dropBlankEnd (dropBlankEnd cs) = dropBlankEnd cs :=
  List.rdropWhile_idempotent _ _

theorem dropBlankEnd_eq_self_iff :
    dropBlankEnd cs = cs ↔ ∀ c, cs.getLast? = some c → ¬ isBlank c := by
  refine List.rdropWhile_eq_self_iff.trans ?_
  rcases eq_or_ne cs [] with rfl | hcs
  · simp
  · simp [List.getLast?_eq_some_getLast hcs, hcs]

theorem dropBlankEnd_of_append (h : dropBlankEnd (a ++ cs) = a ++ cs) : dropBlankEnd cs = cs := by
  rw [dropBlankEnd_eq_self_iff] at h ⊢
  intro c hc
  exact h c (by rw [List.getLast?_append, hc, Option.some_or])

theorem trimChars_append_left (ha : AllBlank a) (cs : List Char) :
    trimChars (a ++ cs) = trimChars cs := by
  rw [trimChars, dropBlank_append ha, trimChars]

theorem trimChars_append_right (hb : AllBlank b) (cs : List Char) :
    trimChars (cs ++ b) = trimChars cs := by
  by_cases hcs : dropBlank cs = []
  · have hblank := dropBlank_eq_nil_iff.mp hcs
    rw [trimChars, trimChars, hcs, dropBlank_append hblank, dropBlank_eq_nil_iff.mpr hb]
  · rw [trimChars, trimChars, dropBlank_append_of_ne_nil hcs, dropBlankEnd_append hb]

theorem trimChars_dropBlankEnd (cs : List Char) : trimChars (dropBlankEnd cs) = trimChars cs := by
  obtain ⟨b, hb, hcs⟩ := exists_dropBlankEnd cs
  conv_rhs => rw [hcs, trimChars_append_right hb]

theorem dropBlankEnd_trimChars (cs : List Char) : dropBlankEnd (trimChars cs) = trimChars cs :=
  dropBlankEnd_dropBlankEnd _

theorem trimChars_trimChars (cs : List Char) : trimChars (trimChars cs) = trimChars cs := by
  have hfront : dropBlank (dropBlank cs) = dropBlank cs := List.dropWhile_idempotent _ _
  conv_lhs => rw [trimChars.eq_def cs]
  rw [trimChars_dropBlankEnd, trimChars, hfront, trimChars]

theorem dropBlankEnd_dropBlank (h : dropBlankEnd cs = cs) :
    dropBlankEnd (dropBlank cs) = dropBlank cs := by
  obtain ⟨a, -, hcs⟩ := exists_dropBlank cs
  exact dropBlankEnd_of_append (a := a) (by rw [← hcs, h])

/-- It does not matter which end is trimmed first. -/
theorem dropBlank_dropBlankEnd (cs : List Char) : dropBlank (dropBlankEnd cs) = trimChars cs := by
  rw [← trimChars_dropBlankEnd, trimChars,
    dropBlankEnd_dropBlank (dropBlankEnd_dropBlankEnd cs)]

/-- Where there are no blanks at the end, trimming takes them away in front. -/
theorem exists_trimChars_of_dropBlankEnd (h : dropBlankEnd cs = cs) :
    ∃ a, AllBlank a ∧ cs = a ++ trimChars cs := by
  obtain ⟨a, ha, hcs⟩ := exists_dropBlank cs
  refine ⟨a, ha, ?_⟩
  rw [trimChars, dropBlankEnd_dropBlank h]
  exact hcs

/-- A word in front that is trimmed itself stays, and behind it only the end is trimmed. -/
theorem trimChars_word {w : List Char} (hfront : dropBlank w = w) (hend : dropBlankEnd w = w)
    (hw : w ≠ []) (cs : List Char) : trimChars (w ++ cs) = w ++ dropBlankEnd cs := by
  rw [trimChars, dropBlank_append_of_ne_nil (by rwa [hfront]), hfront]
  by_cases hcs : AllBlank cs
  · rw [dropBlankEnd_append hcs, hend, dropBlankEnd_eq_nil_iff.mpr hcs, List.append_nil]
  · rw [dropBlankEnd_append_of_ne_nil (mt dropBlankEnd_eq_nil_iff.mp hcs)]

end
end Dialogue.Text
