import Dialogue.Json.Reader
import Dialogue.Json.Writer
import Mathlib.Tactic

/-! Strings: a string is read as it is written, whatever characters it holds. -/
namespace Dialogue.Json
open Text

section Escapes
variable {c : Char}

theorem hexValue?_hexDigit (n : Nat) : hexValue? (hexDigit n) = some (n % 16) := by
  have hdigits : ∀ k < 16, hexValue? (Nat.digitChar k) = some k := by decide
  exact hdigits (n % 16) (Nat.mod_lt n (by omega))

/-- Four hexadecimal digits tell a code unit. -/
theorem unicodeValue?_hex {n : Nat} (h : n < 0x10000) :
    ∃ a b c d, hex 4 n = [a, b, c, d] ∧ unicodeValue? a b c d = some n := by
  refine ⟨hexDigit (n / 16 / 16 / 16), hexDigit (n / 16 / 16), hexDigit (n / 16), hexDigit n,
    rfl, ?_⟩
  have hvalue : ((n / 16 / 16 / 16 % 16 * 16 + n / 16 / 16 % 16) * 16 + n / 16 % 16) * 16 +
      n % 16 = n := by omega
  simp only [unicodeValue?, hexValue?_hexDigit, Option.bind_eq_bind, Option.bind_some, hvalue]
  rfl

/-- A short escape is taken back by its letter. -/
theorem shortValue?_of_shortEscape? {e : Char} (h : shortEscape? c = some e) :
    shortValue? e = some c ∧ e ≠ 'u' := by
  unfold shortEscape? at h
  split_ifs at h
  all_goals
    obtain rfl := Option.some.inj h
    subst c
    decide

theorem unescaped_of_shortEscape? (h : shortEscape? c = none) : c ≠ '"' ∧ c ≠ '\\' := by
  constructor
  all_goals
    rintro rfl
    simp [shortEscape?] at h

end Escapes

section Pieces
variable (opening : List Char) {rest : List Char}

theorem readPieces_quote (rest : List Char) :
    readPieces opening ('"' :: rest) = .ok ([], rest) := by
  unfold readPieces
  rfl

theorem readPieces_short {e v : Char} (hvalue : shortValue? e = some v) (hne : e ≠ 'u') :
    readPieces opening ('\\' :: e :: rest) = consPiece (.char v) (readPieces opening rest) := by
  rw [readPieces.eq_def]
  simp [hvalue, hne]

theorem readPieces_unit {a b c d : Char} {n : Nat} (hvalue : unicodeValue? a b c d = some n)
    (hrest : rest ≠ []) : readPieces opening ('\\' :: 'u' :: a :: b :: c :: d :: rest) =
      consPiece (.unit n) (readPieces opening rest) := by
  rw [readPieces.eq_def]
  simp [hvalue, hrest]

theorem readPieces_char {c : Char} (hquote : c ≠ '"') (hslash : c ≠ '\\')
    (hcontrol : ¬ c.toNat < 0x20) :
    readPieces opening (c :: rest) = consPiece (.char c) (readPieces opening rest) := by
  rw [readPieces.eq_def]
  simp [hquote, hslash, hcontrol]

/-- What is read of the written form of a character. -/
def pieceOf (c : Char) : Piece :=
  if shortEscape? c = none ∧ c.toNat < 0x20 then .unit c.toNat else .char c

/-- A written character is read back, where more of the string follows. -/
theorem readPieces_escaped (c : Char) (hrest : rest ≠ []) :
    readPieces opening (escaped c ++ rest) =
      consPiece (pieceOf c) (readPieces opening rest) := by
  unfold escaped pieceOf
  cases hshort : shortEscape? c with
  | some e =>
    obtain ⟨hvalue, hne⟩ := shortValue?_of_shortEscape? hshort
    simpa using readPieces_short opening hvalue hne
  | none =>
    obtain ⟨hquote, hslash⟩ := unescaped_of_shortEscape? hshort
    by_cases hcontrol : c.toNat < 0x20
    · have hsize : c.toNat < 0x10000 := by omega
      obtain ⟨h₁, h₂, h₃, h₄, hhex, hvalue⟩ := unicodeValue?_hex hsize
      simpa [hcontrol, hhex] using readPieces_unit opening hvalue hrest
    · simpa [hcontrol] using readPieces_char opening hquote hslash hcontrol

end Pieces

theorem readPieces_written (opening cs rest : List Char) :
    readPieces opening (cs.flatMap escaped ++ '"' :: rest) = .ok (cs.map pieceOf, rest) := by
  induction cs with
  | nil => exact readPieces_quote opening rest
  | cons c cs ih =>
    have hne : cs.flatMap escaped ++ '"' :: rest ≠ [] := by simp
    rw [List.flatMap_cons, List.append_assoc, readPieces_escaped opening c hne, ih]
    rfl

/-- A code unit that is no half of a pair is a character of its own. -/
theorem join_unit {n : Nat} (h : isHighSurrogate n = false) (ps : List Piece) :
    join (.unit n :: ps) = unitChar n :: join ps := by
  match ps with
  | [] => rfl
  | .char c :: ps => rfl
  | .unit m :: ps => rw [join, h, Bool.false_and, if_neg Bool.false_ne_true]

theorem join_pieces (cs : List Char) : join (cs.map pieceOf) = cs.map .ok := by
  induction cs with
  | nil => rfl
  | cons c cs ih =>
    rw [List.map_cons, List.map_cons, pieceOf]
    split_ifs with hunit
    · -- Controls are far below the code units that are halves of a pair.
      have hsize := hunit.2
      have hhigh : isHighSurrogate c.toNat = false := by
        simp [isHighSurrogate]
        omega
      have hlow : isLowSurrogate c.toNat = false := by
        simp [isLowSurrogate]
        omega
      have hchar : unitChar c.toNat = .ok c := by
        rw [unitChar, hhigh, hlow, if_neg (by decide), Char.ofNat_toNat]
      rw [join_unit hhigh, hchar, ih]
    · rw [join, ih]

theorem textOf_ok (s : String) : textOf (s.toList.map .ok) = s := by
  rw [textOf, List.map_map]
  exact (congrArg String.ofList (List.map_id s.toList)).trans String.ofList_toList

theorem ofChars_ok (s : String) : ofChars (s.toList.map .ok) = str s := by
  have hwhole : (s.toList.map .ok).filterMap half? = [] := by
    simp [List.filterMap_map, half?, Function.comp_def]
  rw [ofChars, hwhole, textOf_ok]

/-- A string is read as it is written. -/
theorem readString_written (s : String) (rest : List Char) :
    readString (s.toList.flatMap escaped ++ '"' :: rest) = .ok (s.toList.map .ok, rest) := by
  rw [readString, readPieces_written]
  dsimp only
  rw [join_pieces]

end Dialogue.Json
