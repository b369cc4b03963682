import Dialogue.Player.Play
import Dialogue.Proofs.Text.Integer

/-! Replies: what asking makes of the lines typed. A number that is printed names its option, and
nothing but an option that is there is ever picked. -/
namespace Dialogue.Player
open Session Text

section Printed
variable {n : Nat}

theorem trim_repr (n : Nat) : trim n.repr = n.repr := by
  have hblank : ∀ c ∈ n.repr.toList, isBlank c = false :=
    fun _ hc => isBlank_of_isDigit (isDigit_of_mem_repr hc)
  rw [trim, trimChars, dropBlankEnd, dropBlank, dropBlank, dropWhile_of_forall_not hblank,
    dropWhile_of_forall_not (by simpa using hblank), List.reverse_reverse, String.ofList_toList]

theorem lowerAscii_repr (n : Nat) : lowerAscii n.repr = n.repr := by
  have hlower : n.repr.toList.map Char.toLower = n.repr.toList :=
    (List.map_congr_left fun _ hc => toLower_of_isDigit (isDigit_of_mem_repr hc)).trans
      (List.map_id _)
  rw [lowerAscii, hlower, String.ofList_toList]

theorem repr_ne_of_letter {w : String} {c : Char} (hc : c ∈ w.toList) (hletter : ¬ c.isDigit) :
    n.repr ≠ w := by
  rintro rfl
  exact hletter (isDigit_of_mem_repr hc)

theorem Reply.ofLine_repr (h : n < 10 ^ maxIntegerDigits) : ofLine n.repr = .number n := by
  have hquit : quitWords.contains n.repr = false := by
    simp only [quitWords, List.contains_cons, List.contains_nil, Bool.or_false,
      Bool.or_eq_false_iff, beq_eq_false_iff_ne]
    exact ⟨repr_ne_of_letter (c := 'q') (by decide) (by decide),
      repr_ne_of_letter (c := 'e') (by decide) (by decide),
      repr_ne_of_letter (c := 'q') (by decide) (by decide)⟩
  have hstate : n.repr ≠ "state" := repr_ne_of_letter (c := 's') (by decide) (by decide)
  rw [ofLine, trim_repr, lowerAscii_repr, hquit, if_neg Bool.false_ne_true, if_neg hstate,
    integer?_repr h]

end Printed

section Ask
variable {columns : Nat} {s : State} {commands : List String} {options : List Choice}

/-- The printed number of an option picks it. -/
theorem ask_repr {i : Nat} (hi : i < options.length) (h : i + 1 < 10 ^ maxIntegerDigits)
    (lines : List String) :
    (ask columns s commands options ((i + 1).repr :: lines)).2 = .option i lines := by
  have hoption : (if (1 : Int) ≤ ((i + 1 : Nat) : Int) then
      options[((i + 1 : Nat) : Int).toNat - 1]? else none) = some options[i] := by
    rw [if_pos (by omega), Int.toNat_natCast, Nat.add_sub_cancel, List.getElem?_eq_getElem hi]
  rw [ask, Reply.ofLine_repr h]
  dsimp only
  rw [hoption, Int.toNat_natCast, Nat.add_sub_cancel]

/-- Whatever is typed, only an option that is there is picked. -/
theorem lt_length_of_ask {i : Nat} {lines left : List String}
    (h : (ask columns s commands options lines).2 = .option i left) : i < options.length := by
  induction lines with
  | nil => simp [ask] at h
  | cons line lines ih =>
    rw [ask] at h
    dsimp only at h
    split at h
    · simp at h
    · exact ih h
    · exact ih h
    · next n _ =>
      split at h
      · next o ho =>
        split_ifs at ho
        obtain ⟨rfl, -⟩ := Pick.option.inj h
        exact (List.getElem?_eq_some_iff.mp ho).1
      · exact ih h

end Ask
end Dialogue.Player
