import Dialogue.Proofs.Json.Layout
import Dialogue.Proofs.Json.Strings
import Dialogue.Proofs.Table
import Dialogue.Proofs.Text.Lines

/-! Documents: what is written of a value is read as the value. -/
namespace Dialogue.Json
open Text

theorem skipSpace_newLine (depth : Nat) (cs : List Char) :
    skipSpace (newLine depth ++ cs) = skipSpace cs := by
  have hspaces : ∀ n, skipSpace (List.replicate n ' ' ++ cs) = skipSpace cs := by
    intro n
    induction n with
    | zero => rfl
    | succ n ih =>
      rw [List.replicate_succ, List.cons_append]
      exact ih
  exact hspaces (2 * depth)

theorem skipSpace_cons {c : Char} (h : isSpace c = false) : skipSpace (c :: cs) = c :: cs := by
  rw [skipSpace, List.dropWhile_cons, h, if_neg Bool.false_ne_true]

theorem writeString_append (s : String) (rest : List Char) :
    writeString s ++ rest = '"' :: (s.toList.flatMap escaped ++ '"' :: rest) := by
  simp [writeString]

section Steps
variable {room fuel : Nat} {v : Json} {k : String} {cs r after rest : List Char}

theorem readItems_last (hv : readValue room fuel cs = .ok (v, after))
    (hafter : skipSpace after = ']' :: rest) : readItems room (fuel + 1) cs = .ok ([v], rest) := by
  simp only [readItems, hv, hafter]

theorem readItems_comma {vs : List Json} (hv : readValue room fuel cs = .ok (v, ',' :: after))
    (hvs : readItems room fuel (skipSpace after) = .ok (vs, rest)) :
    readItems room (fuel + 1) cs = .ok (v :: vs, rest) := by
  have hcomma : skipSpace (',' :: after) = ',' :: after := skipSpace_cons rfl
  simp only [readItems, hv, hcomma, hvs]

theorem readMembers_last (k : String) (hv : readValue room fuel (skipSpace cs) = .ok (v, after))
    (hafter : skipSpace after = '\x7d' :: rest) :
    readMembers room (fuel + 1) (writeString k ++ ':' :: ' ' :: cs) = .ok ([(k, v)], rest) := by
  have hcolon : skipSpace (':' :: ' ' :: cs) = ':' :: ' ' :: cs := skipSpace_cons rfl
  have hblank : skipSpace (' ' :: cs) = skipSpace cs := rfl
  simp only [writeString_append, readMembers, readString_written, textOf_ok, hcolon, hblank, hv,
    hafter]

theorem readMembers_comma {ms : List (String × Json)} (k : String)
    (hv : readValue room fuel (skipSpace cs) = .ok (v, ',' :: after))
    (hms : readMembers room fuel (skipSpace after) = .ok (ms, rest)) :
    readMembers room (fuel + 1) (writeString k ++ ':' :: ' ' :: cs) = .ok ((k, v) :: ms, rest) := by
  have hcolon : skipSpace (':' :: ' ' :: cs) = ':' :: ' ' :: cs := skipSpace_cons rfl
  have hblank : skipSpace (' ' :: cs) = skipSpace cs := rfl
  have hcomma : skipSpace (',' :: after) = ',' :: after := skipSpace_cons rfl
  simp only [writeString_append, readMembers, readString_written, textOf_ok, hcolon, hblank, hv,
    hcomma, hms]

theorem readValue_items {vs : List Json} {c : Char} (hskip : skipSpace cs = c :: r)
    (hc : c ≠ ']') (hvs : readItems room fuel (c :: r) = .ok (vs, rest)) :
    readValue (room + 1) (fuel + 1) ('[' :: cs) = .ok (arr vs, rest) := by
  simp [readValue, hskip, hc, hvs]

theorem readValue_members {ms : List (String × Json)} (hskip : skipSpace cs = '"' :: r)
    (hms : readMembers room fuel ('"' :: r) = .ok (ms, rest)) :
    readValue (room + 1) (fuel + 1) ('\x7b' :: cs) = .ok (obj (Table.ofList ms), rest) := by
  simp [readValue, hskip, hms]

end Steps

/-- A value at this depth is read as it is written, with a call for each of its characters. -/
def ReadsBack (room depth : Nat) (v : Json) : Prop :=
  ∀ fuel rest, Ends rest → (write depth v).length ≤ fuel →
    readValue room fuel (write depth v ++ rest) = .ok (v, rest)

section Lists
variable {room depth : Nat}

theorem ends_newLine (depth : Nat) (rest : List Char) : Ends (newLine depth ++ rest) := by
  intro c hc
  exact .inr (Option.some.inj hc).symm

theorem ends_comma (rest : List Char) : Ends (',' :: rest) := by
  intro c hc
  exact .inl (Option.some.inj hc).symm

theorem skipSpace_write {v : Json} (h : Plain room v) (depth : Nat) (rest : List Char) :
    skipSpace (write depth v ++ rest) = write depth v ++ rest := by
  obtain ⟨c, cs, hwrite, hspace, -⟩ := write_head h depth
  rw [hwrite, List.cons_append, skipSpace_cons hspace]

theorem skipSpace_writeMember (depth : Nat) (m : String × Json) (rest : List Char) :
    skipSpace (writeMember depth m ++ rest) = writeMember depth m ++ rest := by
  rw [writeMember, List.append_assoc, writeString_append, skipSpace_cons rfl]

theorem readItems_write {v : Json} {vs : List Json} (hplain : ∀ w ∈ vs, Plain room w)
    (hread : ∀ w ∈ v :: vs, ReadsBack room depth w) (outer : Nat) (rest : List Char)
    {fuel : Nat} (hfuel : (write depth v ++ writeItems depth vs).length < fuel) :
    readItems room fuel (write depth v ++ (writeItems depth vs ++ (newLine outer ++ ']' :: rest))) =
      .ok (v :: vs, rest) := by
  -- A call is spent on each item, and what stands in front of the next one pays for it.
  induction vs generalizing v fuel with
  | nil =>
    obtain ⟨fuel, rfl⟩ := Nat.exists_eq_succ_of_ne_zero (Nat.ne_zero_of_lt hfuel)
    have hlength : (write depth v).length ≤ fuel := by simpa [writeItems] using hfuel
    have hvalue := hread v (by simp) fuel _ (ends_newLine outer (']' :: rest)) hlength
    have hafter : skipSpace (newLine outer ++ ']' :: rest) = ']' :: rest := by
      rw [skipSpace_newLine, skipSpace_cons rfl]
    exact readItems_last hvalue hafter
  | cons w vs ih =>
    obtain ⟨fuel, rfl⟩ := Nat.exists_eq_succ_of_ne_zero (Nat.ne_zero_of_lt hfuel)
    have hlength : (write depth v).length ≤ fuel ∧
        (write depth w ++ writeItems depth vs).length < fuel := by
      simp only [writeItems, List.length_append, List.length_cons] at hfuel ⊢
      omega
    have hvalue := hread v (by simp) fuel _
      (ends_comma (newLine depth ++ (write depth w ++
        (writeItems depth vs ++ (newLine outer ++ ']' :: rest))))) hlength.1
    have hitems := ih (fun u hu => hplain u (.tail w hu)) (fun u hu => hread u (.tail v hu))
      hlength.2
    rw [← skipSpace_write (hplain w (by simp)), ← skipSpace_newLine depth] at hitems
    simpa [writeItems] using readItems_comma hvalue hitems

theorem readMembers_write {m : String × Json} {ms : List (String × Json)}
    (hplain : ∀ w ∈ m :: ms, Plain room w.2)
    (hread : ∀ w ∈ m :: ms, ReadsBack room depth w.2) (outer : Nat) (rest : List Char)
    {fuel : Nat} (hfuel : (writeMember depth m ++ writeMembers depth ms).length < fuel) :
    readMembers room fuel
        (writeMember depth m ++ (writeMembers depth ms ++ (newLine outer ++ '\x7d' :: rest))) =
      .ok (m :: ms, rest) := by
  induction ms generalizing m fuel with
  | nil =>
    obtain ⟨fuel, rfl⟩ := Nat.exists_eq_succ_of_ne_zero (Nat.ne_zero_of_lt hfuel)
    obtain ⟨k, v⟩ := m
    have hlength : (write depth v).length ≤ fuel := by
      simp only [writeMember, List.length_append, List.length_cons] at hfuel
      omega
    have hvalue := hread (k, v) (by simp) fuel _ (ends_newLine outer ('\x7d' :: rest)) hlength
    have hafter : skipSpace (newLine outer ++ '\x7d' :: rest) = '\x7d' :: rest := by
      rw [skipSpace_newLine, skipSpace_cons rfl]
    rw [← skipSpace_write (hplain (k, v) (by simp))] at hvalue
    simpa [writeMember, writeMembers] using readMembers_last k hvalue hafter
  | cons m' ms ih =>
    obtain ⟨fuel, rfl⟩ := Nat.exists_eq_succ_of_ne_zero (Nat.ne_zero_of_lt hfuel)
    obtain ⟨k, v⟩ := m
    have hlength : (write depth v).length ≤ fuel ∧
        (writeMember depth m' ++ writeMembers depth ms).length < fuel := by
      simp only [writeMember, writeMembers, List.length_append, List.length_cons] at hfuel ⊢
      omega
    have hvalue := hread (k, v) (by simp) fuel _
      (ends_comma (newLine depth ++ (writeMember depth m' ++
        (writeMembers depth ms ++ (newLine outer ++ '\x7d' :: rest))))) hlength.1
    have hmembers := ih (fun w hw => hplain w (.tail (k, v) hw))
      (fun w hw => hread w (.tail (k, v) hw)) hlength.2
    rw [← skipSpace_write (hplain (k, v) (by simp))] at hvalue
    rw [← skipSpace_writeMember, ← skipSpace_newLine depth] at hmembers
    simpa [writeMember, writeMembers] using readMembers_comma k hvalue hmembers

end Lists

theorem readValue_scalar {c : Char} (h : c = '-' ∨ c.isDigit = true) (room fuel : Nat)
    (cs : List Char) : readValue room (fuel + 1) (c :: cs) = readScalar (c :: cs) := by
  rw [readValue]
  all_goals
    rintro r heq
    obtain ⟨rfl, -⟩ := List.cons.inj heq
    simp [Char.isDigit] at h

/-- Something is written of every value, so that a call can be made for it. -/
theorem ReadsBack.of_succ {room depth : Nat} {v : Json} (h : Plain room v)
    (hread : ∀ fuel rest, Ends rest → (write depth v).length ≤ fuel + 1 →
      readValue room (fuel + 1) (write depth v ++ rest) = .ok (v, rest)) :
    ReadsBack room depth v := by
  intro fuel rest hrest hfuel
  obtain ⟨c, cs, hwrite, -⟩ := write_head h depth
  cases fuel with
  | zero => simp [hwrite] at hfuel
  | succ fuel => exact hread fuel rest hrest hfuel

/-- Every plain value is read as it is written, at every depth. -/
theorem readsBack {room : Nat} {v : Json} (h : Plain room v) (depth : Nat) :
    ReadsBack room depth v := by
  induction h generalizing depth with
  | null => exact .of_succ .null fun fuel rest hrest hfuel => rfl
  | bool b =>
    apply ReadsBack.of_succ (.bool b)
    intro fuel rest hrest hfuel
    cases b with
    | false => rfl
    | true => rfl
  | @int _ n hn =>
    apply ReadsBack.of_succ (.int hn)
    intro fuel rest hrest hfuel
    obtain ⟨c, cs, hwrite, hc⟩ := writeInt_head n
    have hread := readScalar_writeInt hn hrest
    rw [hwrite, List.cons_append] at hread
    rw [write, hwrite, List.cons_append, readValue_scalar hc, hread]
  | str s =>
    apply ReadsBack.of_succ (.str s)
    intro fuel rest hrest hfuel
    rw [write, writeString_append, readValue, readString_written]
    dsimp only
    rw [ofChars_ok]
  | @arr room vs hvs ih =>
    apply ReadsBack.of_succ (.arr hvs)
    intro fuel rest hrest hfuel
    cases vs with
    | nil => rfl
    | cons v vs =>
      have hlength : (write (depth + 1) v ++ writeItems (depth + 1) vs).length < fuel := by
        simp only [write, List.length_append, List.length_cons] at hfuel ⊢
        omega
      have hitems := readItems_write (fun w hw => hvs w (.tail v hw))
        (fun w hw => ih w hw (depth + 1)) depth rest hlength
      obtain ⟨c, cs, hwrite, -, hclose, -⟩ := write_head (hvs v (by simp)) (depth + 1)
      have hskip := skipSpace_write (hvs v (by simp)) (depth + 1)
        (writeItems (depth + 1) vs ++ (newLine depth ++ ']' :: rest))
      rw [← skipSpace_newLine (depth + 1), hwrite, List.cons_append] at hskip
      rw [hwrite, List.cons_append] at hitems
      simpa [write, hwrite] using readValue_items hskip hclose hitems
  | @obj room ms hkeys hms ih =>
    apply ReadsBack.of_succ (.obj hkeys hms)
    intro fuel rest hrest hfuel
    cases ms with
    | nil => rfl
    | cons m ms =>
      have hlength : (writeMember (depth + 1) m ++ writeMembers (depth + 1) ms).length < fuel := by
        simp only [write, List.length_append, List.length_cons] at hfuel ⊢
        omega
      have hmembers := readMembers_write hms (fun w hw => ih w hw (depth + 1)) depth rest hlength
      have hskip := skipSpace_writeMember (depth + 1) m
        (writeMembers (depth + 1) ms ++ (newLine depth ++ '\x7d' :: rest))
      obtain ⟨k, v⟩ := m
      rw [← skipSpace_newLine (depth + 1)] at hskip
      rw [writeMember, List.append_assoc, writeString_append] at hmembers hskip
      have hread := readValue_members hskip hmembers
      -- The reader puts the members into a table, which changes nothing where names differ.
      rw [Table.ofList_eq_self hkeys] at hread
      simpa [write, writeMember, writeString] using hread

/-- A plain value is what is read of the text that is rendered of it. -/
theorem read_render {v : Json} (h : Plain maxNesting v) : read v.render = .ok v := by
  obtain ⟨c, cs, hwrite, hspace, -, hmark⟩ := write_head h 0
  have hread := readsBack h 0 (2 * (write 0 v).length + 2) [] (by simp [Ends]) (by omega)
  have hskip := skipSpace_write h 0 []
  rw [List.append_nil] at hread hskip
  rw [read, render, String.toList_ofList, readDocument]
  · rw [hskip, hread]
    rfl
  · intro r heq
    rw [hwrite] at heq
    exact hmark (List.cons.inj heq).1

/-- The breaks of a rendered text are in their one form already. -/
theorem normalizeBreaks_render {room : Nat} {v : Json} (h : Plain room v) :
    normalizeBreaks v.render = v.render := by
  apply normalizeBreaks_of_not_mem
  rw [render, String.toList_ofList]
  intro hbreak
  have hfeed := legible_write h 0 '\r' hbreak (by decide)
  simp at hfeed

end Dialogue.Json
