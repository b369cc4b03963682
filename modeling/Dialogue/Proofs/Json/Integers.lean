import Dialogue.Json.Reader
import Dialogue.Json.Writer
import Dialogue.Proofs.Text.Integer
import Dialogue.Proofs.Text.Match

/-! Integers: an integer is read as it is written, unless it has more digits than any that is
read. -/
namespace Dialogue.Json
open Text

/-- What stands behind a written value: a comma, the end of the line, or nothing. -/
def Ends (rest : List Char) : Prop := ∀ c, rest.head? = some c → c = ',' ∨ c = '\n'

/-- Nothing that ends a value goes on with a number. -/
theorem Ends.stops {rest : List Char} (h : Ends rest) :
    (∀ c, rest.head? = some c → c.isDigit = false) ∧
      spanFraction rest = ([], rest) ∧ spanExponent? rest = none := by
  cases rest with
  | nil => exact ⟨by simp, rfl, rfl⟩
  | cons c rest =>
    rcases h c rfl with rfl | rfl
    all_goals exact ⟨by simp [Char.isDigit], rfl, rfl⟩

section Digits
variable {n : Nat} {rest : List Char}

theorem natOf_toDigits (n : Nat) : natOf (Nat.toDigits 10 n) = n :=
  Nat.ofDigitChars_ten_toDigits

theorem isDigit_of_mem_toDigits {c : Char} (h : c ∈ Nat.toDigits 10 n) : c.isDigit = true :=
  Nat.isDigit_of_mem_toDigits (by decide) (by decide) h

theorem exists_digits (n : Nat) : ∃ d ds, Nat.toDigits 10 n = d :: ds ∧ d.isDigit = true := by
  obtain ⟨d, ds, hds⟩ := List.exists_cons_of_ne_nil (Nat.toDigits_ne_nil (n := n) (b := 10))
  exact ⟨d, ds, hds, isDigit_of_mem_toDigits (n := n) (by simp [hds])⟩

/-- Only zero begins with a zero. -/
theorem eq_zero_of_head?_toDigits (h : (Nat.toDigits 10 n).head? = some '0') : n = 0 := by
  induction n using Nat.strongRecOn with
  | ind n ih =>
    by_cases hn : n < 10
    · rw [Nat.toDigits_of_lt_base hn] at h
      interval_cases n <;> simp [Nat.digitChar] at h ⊢
    · have hsplit : Nat.toDigits 10 n = Nat.toDigits 10 (n / 10) ++ [Nat.digitChar (n % 10)] :=
        Nat.toDigits_of_base_le (by decide) (by omega)
      have hhead : (Nat.toDigits 10 (n / 10)).head? = some '0' := by
        rw [hsplit, List.head?_append_of_ne_nil _ Nat.toDigits_ne_nil] at h
        exact h
      have hzero : n / 10 = 0 := ih (n / 10) (by omega) hhead
      omega

theorem spanInteger?_toDigits (n : Nat) (hrest : ∀ c, rest.head? = some c → c.isDigit = false) :
    spanInteger? (Nat.toDigits 10 n ++ rest) = some (Nat.toDigits 10 n, rest) := by
  have hspan := span_append (fun c => isDigit_of_mem_toDigits (n := n) (c := c)) hrest
  by_cases hn : n = 0
  · subst hn
    rfl
  · obtain ⟨d, ds, hds, hdigit⟩ := exists_digits n
    have hzero : d ≠ '0' := by
      rintro rfl
      exact hn (eq_zero_of_head?_toDigits (by simp [hds]))
    rw [hds, List.cons_append] at hspan ⊢
    rw [spanInteger?, hspan]
    · simp [hdigit]
    · intro r heq
      exact hzero (List.cons.inj heq).1

end Digits

section Numbers
variable {n : Int} {m : Nat} {rest : List Char}

theorem readNumber_digits (hm : m < 10 ^ maxDigits) (hrest : Ends rest) :
    readNumber (Nat.toDigits 10 m ++ rest) = .ok (int m, rest) ∧
      readNumber ('-' :: (Nat.toDigits 10 m ++ rest)) = .ok (int (-m), rest) := by
  obtain ⟨hdigit, hfraction, hexponent⟩ := hrest.stops
  have hlength : ¬ (Nat.toDigits 10 m).length > maxDigits :=
    Nat.not_lt.mpr ((Nat.length_toDigits_le_iff (by decide) (by decide)).mpr hm)
  have hspan := spanInteger?_toDigits m hdigit
  constructor
  · have hsign : ∀ r, Nat.toDigits 10 m ++ rest ≠ '-' :: r := by
      intro r heq
      obtain ⟨d, ds, hds, hd⟩ := exists_digits m
      rw [hds, List.cons_append] at heq
      obtain rfl := (List.cons.inj heq).1
      simp [Char.isDigit] at hd
    unfold readNumber
    simp [hspan, hfraction, hexponent, hlength, natOf_toDigits]
  · unfold readNumber
    simp [hspan, hfraction, hexponent, hlength, natOf_toDigits]

/-- An integer begins with a sign or with a digit. -/
theorem writeInt_head (n : Int) :
    ∃ c cs, writeInt n = c :: cs ∧ (c = '-' ∨ c.isDigit = true) := by
  obtain ⟨d, ds, hds, hd⟩ := exists_digits n.natAbs
  rw [writeInt, hds]
  split_ifs
  · exact ⟨'-', d :: ds, rfl, .inl rfl⟩
  · exact ⟨d, ds, rfl, .inr hd⟩

/-- No word begins as a number does. -/
theorem find?_keywords_digit {d : Char} (hd : d.isDigit = true) (cs : List Char) :
    keywords.find? (fun x => x.1.toList.isPrefixOf (d :: cs)) = none ∧
      keywords.find? (fun x => x.1.toList.isPrefixOf ('-' :: d :: cs)) = none := by
  have hne : ∀ c : Char, c.isDigit = false → c ≠ d := by
    rintro c hc rfl
    exact Bool.false_ne_true (hc.symm.trans hd)
  constructor
  all_goals
    rw [List.find?_eq_none]
    simp [keywords, hne]

/-- An integer is read as it is written, if that takes no more digits than are read. -/
theorem readScalar_writeInt (hn : n.natAbs < 10 ^ maxDigits) (hrest : Ends rest) :
    readScalar (writeInt n ++ rest) = .ok (int n, rest) := by
  obtain ⟨hpositive, hnegative⟩ := readNumber_digits hn hrest
  obtain ⟨d, ds, hds, hd⟩ := exists_digits n.natAbs
  unfold writeInt
  split_ifs with hsign
  · have hnone := (find?_keywords_digit hd (ds ++ rest)).2
    have hvalue : -(n.natAbs : Int) = n := by omega
    rw [hvalue] at hnegative
    rw [hds, List.cons_append] at hnegative ⊢
    rw [readScalar, List.cons_append, hnone]
    exact hnegative
  · have hnone := (find?_keywords_digit hd (ds ++ rest)).1
    have hvalue : (n.natAbs : Int) = n := by omega
    rw [hvalue] at hpositive
    rw [hds, List.cons_append] at hpositive ⊢
    rw [readScalar, hnone]
    exact hpositive

end Numbers
end Dialogue.Json
