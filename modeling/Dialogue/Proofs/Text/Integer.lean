import Dialogue.Text.Integer
import Mathlib.Tactic

/-! Integers: a number is read as it is printed. -/
namespace Dialogue.Text

theorem dropWhile_of_forall_not {α : Type} {p : α → Bool} {xs : List α}
    (h : ∀ x ∈ xs, p x = false) : xs.dropWhile p = xs := by
  cases xs with
  | nil => rfl
  | cons x xs => rw [List.dropWhile_cons_of_neg (by simp [h x List.mem_cons_self])]

section Digits
variable {c : Char} {cs : List Char}

theorem toNat_of_isDigit (h : c.isDigit = true) : 48 ≤ c.toNat ∧ c.toNat ≤ 57 := by
  simpa [Char.isDigit, UInt32.le_iff_toNat_le] using h

theorem isBlank_of_isDigit (h : c.isDigit = true) : isBlank c = false := by
  have hle := toNat_of_isDigit h
  simp [isBlank]
  omega

theorem toLower_of_isDigit (h : c.isDigit = true) : c.toLower = c := by
  have hle := toNat_of_isDigit h
  refine dif_neg ?_
  rintro ⟨hlow, -⟩
  have : 65 ≤ c.toNat := by simpa [UInt32.le_iff_toNat_le] using hlow
  omega

theorem digitValue?_of_isDigit (h : c.isDigit = true) :
    digitValue? c = some (c.toNat - 48) := by
  have hle := toNat_of_isDigit h
  rw [digitValue?, if_pos (by omega), if_pos h]

theorem digits?_of_isDigit (hne : cs ≠ []) (h : ∀ c ∈ cs, c.isDigit = true) :
    digits? cs = some (cs.map fun c => c.toNat - 48) := by
  induction cs using digits?.induct with
  | case1 => exact absurd rfl hne
  | case2 c => rw [digits?, digitValue?_of_isDigit (h c List.mem_cons_self)]; rfl
  | case3 c cs ih =>
    have hscore := h '_' (List.mem_cons_of_mem _ List.mem_cons_self)
    simp [Char.isDigit] at hscore
  | case4 c cs hrest hscore ih =>
    rw [digits?, digitValue?_of_isDigit (h c List.mem_cons_self),
      ih (fun hnil => hrest hnil) fun d hd => h d (List.mem_cons_of_mem _ hd)]
    · rfl
    · exact hrest
    · exact hscore

theorem trimPadding_of_isDigit (h : ∀ c ∈ cs, c.isDigit = true) : trimPadding cs = cs := by
  have hpadding : ∀ c ∈ cs, isPadding c = false := by
    intro c hc
    rw [isPadding, isBlank_of_isDigit (h c hc), Bool.false_and]
  rw [trimPadding, dropWhile_of_forall_not hpadding,
    dropWhile_of_forall_not (by simpa using hpadding), List.reverse_reverse]

end Digits

section Printed
variable {n : Nat}

theorem isDigit_of_mem_repr {c : Char} (h : c ∈ n.repr.toList) : c.isDigit = true := by
  rw [Nat.toList_repr] at h
  exact Nat.isDigit_of_mem_toDigits (by decide) (by decide) h

theorem toList_repr_ne_nil (n : Nat) : n.repr.toList ≠ [] := by
  rw [Nat.toList_repr]
  exact Nat.toDigits_ne_nil

/-- A number is read as it is printed, unless it is longer than any number that is read. -/
theorem natural?_repr (h : n < 10 ^ maxIntegerDigits) : natural? n.repr.toList = some n := by
  have hlength : n.repr.toList.length ≤ maxIntegerDigits := by
    rw [Nat.toList_repr]
    exact (Nat.length_toDigits_le_iff (by decide) (by decide)).mpr h
  have hvalue : (n.repr.toList.map fun c => c.toNat - 48).foldl (fun n d => 10 * n + d) 0 = n := by
    rw [List.foldl_map, Nat.toList_repr]
    exact Nat.ofDigitChars_toDigits (by decide) (by decide)
  rw [natural?, digits?_of_isDigit (toList_repr_ne_nil n) fun _ => isDigit_of_mem_repr,
    Option.bind_eq_bind, Option.bind_some, List.length_map, if_pos hlength, hvalue]

theorem integer?_repr (h : n < 10 ^ maxIntegerDigits) : integer? n.repr = some (n : Int) := by
  have hsign : ∀ c ∈ n.repr.toList, c ≠ '-' ∧ c ≠ '+' := by
    intro c hc
    have hdigit := isDigit_of_mem_repr hc
    constructor <;> rintro rfl <;> simp [Char.isDigit] at hdigit
  rw [integer?, trimPadding_of_isDigit fun _ => isDigit_of_mem_repr]
  split
  · next cs heq => exact absurd rfl (hsign '-' (by simp [heq])).1
  · next cs heq => exact absurd rfl (hsign '+' (by simp [heq])).2
  · rw [natural?_repr h]
    rfl

/-- An integer is not written if it has more digits than that. -/
theorem integerText?_eq_none_iff {n : Int} :
    integerText? n = none ↔ 10 ^ maxIntegerDigits ≤ n.natAbs := by
  have hlength : n.natAbs.repr.length ≤ maxIntegerDigits ↔ n.natAbs < 10 ^ maxIntegerDigits := by
    rw [← String.length_toList, Nat.toList_repr]
    exact Nat.length_toDigits_le_iff (by decide) (by decide)
  rw [← Nat.not_lt, ← hlength, integerText?]
  split_ifs with h <;> simp [h]

end Printed
end Dialogue.Text
