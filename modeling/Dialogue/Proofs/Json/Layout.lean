import Dialogue.Proofs.Json.Integers
import Dialogue.Text.LineBreak
import Mathlib.Tactic

/-! The layout of written values: how they begin, and which characters they are made of. -/
namespace Dialogue.Json
open Text

/-- Values that are read as they are written: without floating point, with no integer beyond the
digits that are read, under names that differ, and at most `room` levels deep. -/
inductive Plain : Nat → Json → Prop where
  | null {room : Nat} : Plain room null
  | bool {room : Nat} (b : Bool) : Plain room (bool b)
  | int {room : Nat} {n : Int} (hn : n.natAbs < 10 ^ maxDigits) : Plain room (int n)
  | str {room : Nat} (s : String) : Plain room (str s)
  | arr {room : Nat} {vs : List Json} (hvs : ∀ v ∈ vs, Plain room v) : Plain (room + 1) (arr vs)
  | obj {room : Nat} {ms : List (String × Json)} (hkeys : (ms.map Prod.fst).Nodup)
      (hms : ∀ m ∈ ms, Plain room m.2) : Plain (room + 1) (obj ms)

/-- A written value begins with neither a blank nor a closing bracket nor a byte order mark. -/
theorem write_head {room : Nat} {v : Json} (h : Plain room v) (depth : Nat) :
    ∃ c cs, write depth v = c :: cs ∧ isSpace c = false ∧ c ≠ ']' ∧ c ≠ '\uFEFF' := by
  cases h with
  | null => exact ⟨'n', _, rfl, by decide⟩
  | bool b =>
    cases b with
    | false => exact ⟨'f', _, rfl, by decide⟩
    | true => exact ⟨'t', _, rfl, by decide⟩
  | @int _ n hn =>
    obtain ⟨c, cs, hwrite, hc⟩ := writeInt_head n
    refine ⟨c, cs, hwrite, ?_, ?_, ?_⟩
    · rw [Bool.eq_false_iff]
      intro hspace
      simp only [isSpace, Bool.or_eq_true, decide_eq_true_eq] at hspace
      rcases hspace with ((rfl | rfl) | rfl) | rfl <;> simp [Char.isDigit] at hc
    all_goals
      rintro rfl
      simp [Char.isDigit] at hc
  | str s => exact ⟨'"', _, rfl, by decide⟩
  | @arr _ vs hvs =>
    cases vs with
    | nil => exact ⟨'[', _, rfl, by decide⟩
    | cons v vs => exact ⟨'[', _, rfl, by decide⟩
  | @obj _ ms hkeys hms =>
    cases ms with
    | nil => exact ⟨'\x7b', _, rfl, by decide⟩
    | cons m ms => exact ⟨'\x7b', _, rfl, by decide⟩

/-- Whether line feeds are the only controls in a text. -/
def Legible (cs : List Char) : Prop := ∀ c ∈ cs, c.toNat < 0x20 → c = '\n'

section Legible
variable {cs ds : List Char} {depth : Nat}

@[simp]
theorem legible_nil : Legible [] := by simp [Legible]

@[simp]
theorem legible_cons {c : Char} :
    Legible (c :: cs) ↔ (c.toNat < 0x20 → c = '\n') ∧ Legible cs := by
  simp [Legible]

@[simp]
theorem legible_append : Legible (cs ++ ds) ↔ Legible cs ∧ Legible ds := by
  simp [Legible, or_imp, forall_and]

theorem legible_hex (width n : Nat) : Legible (hex width n) := by
  have hdigits : ∀ k < 16, ¬ (Nat.digitChar k).toNat < 0x20 := by decide
  induction width generalizing n with
  | zero => exact legible_nil
  | succ width ih =>
    have hdigit : ¬ (hexDigit n).toNat < 0x20 := hdigits (n % 16) (Nat.mod_lt n (by omega))
    simp [hex, ih, hdigit]

theorem legible_escaped (c : Char) : Legible (escaped c) := by
  unfold escaped
  cases hshort : shortEscape? c with
  | some e =>
    have hletter : ¬ e.toNat < 0x20 := by
      unfold shortEscape? at hshort
      split_ifs at hshort
      all_goals
        obtain rfl := Option.some.inj hshort
        decide
    simp [hletter]
  | none =>
    dsimp only
    split_ifs with hcontrol
    · simp [legible_hex]
    · simp [hcontrol]

theorem legible_writeString (s : String) : Legible (writeString s) := by
  have hescaped : Legible (s.toList.flatMap escaped) := by
    intro c hc
    obtain ⟨x, -, hx⟩ := List.mem_flatMap.mp hc
    exact legible_escaped x c hx
  simp [writeString, hescaped]

theorem legible_writeInt (n : Int) : Legible (writeInt n) := by
  have hdigits : Legible (Nat.toDigits 10 n.natAbs) := by
    intro c hc hcontrol
    have hd := isDigit_of_mem_toDigits hc
    simp only [Char.isDigit, Bool.and_eq_true, decide_eq_true_eq] at hd
    have hvalue : 48 ≤ c.toNat := UInt32.le_iff_toNat_le.mp hd.1
    omega
  unfold writeInt
  split_ifs
  · simp [hdigits]
  · exact hdigits

theorem legible_newLine (depth : Nat) : Legible (newLine depth) := by
  have hblanks : Legible (List.replicate (2 * depth) ' ') := by
    intro c hc
    rw [List.eq_of_mem_replicate hc]
    decide
  simp [newLine, hblanks]

theorem legible_writeItems {vs : List Json} (h : ∀ v ∈ vs, Legible (write depth v)) :
    Legible (writeItems depth vs) := by
  induction vs with
  | nil => exact legible_nil
  | cons v vs ih =>
    obtain ⟨hv, hvs⟩ := List.forall_mem_cons.mp h
    simp [writeItems, legible_newLine, hv, ih hvs]

theorem legible_writeMember {m : String × Json} (h : Legible (write depth m.2)) :
    Legible (writeMember depth m) := by
  obtain ⟨k, v⟩ := m
  simpa [writeMember, legible_writeString] using h

theorem legible_writeMembers {ms : List (String × Json)}
    (h : ∀ m ∈ ms, Legible (write depth m.2)) : Legible (writeMembers depth ms) := by
  induction ms with
  | nil => exact legible_nil
  | cons m ms ih =>
    obtain ⟨hm, hms⟩ := List.forall_mem_cons.mp h
    simp [writeMembers, legible_newLine, legible_writeMember hm, ih hms]

/-- A value is written without controls but for the ends of lines. -/
theorem legible_write {room : Nat} {v : Json} (h : Plain room v) (depth : Nat) :
    Legible (write depth v) := by
  induction h generalizing depth with
  | null => simp [write]
  | bool b => cases b <;> simp [write]
  | int => exact legible_writeInt _
  | str s => exact legible_writeString s
  | @arr _ vs hvs ih =>
    cases vs with
    | nil => simp [write]
    | cons v vs =>
      obtain ⟨hv, hvs⟩ := List.forall_mem_cons.mp fun w hw => ih w hw (depth + 1)
      simp [write, legible_newLine, hv, legible_writeItems hvs]
  | @obj _ ms hkeys hms ih =>
    cases ms with
    | nil => simp [write]
    | cons m ms =>
      obtain ⟨hm, hms⟩ := List.forall_mem_cons.mp fun w hw => ih w hw (depth + 1)
      simp [write, legible_newLine, legible_writeMember hm, legible_writeMembers hms]

end Legible
end Dialogue.Json
