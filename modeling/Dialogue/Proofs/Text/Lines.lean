import Dialogue.Text.LineBreak
import Mathlib.Tactic

/-! Lines: what they hold, that they are the same once every break has been brought to one form, and
that a text which ends its last line shares none with what follows it. -/
namespace Dialogue.Text

/-- A character in front of the first line. -/
def inFront (c : Char) : List (List Char) → List (List Char)
  | [] => [[c]]
  | l :: ls => (c :: l) :: ls

theorem lines_crlf (cs : List Char) : lines ('\r' :: '\n' :: cs) = [] :: lines cs := by
  rw [lines]

theorem lines_cons {c : Char} {cs : List Char} (h : c = '\r' → cs.head? ≠ some '\n') :
    lines (c :: cs) = if isLineBreak c then [] :: lines cs else inFront c (lines cs) := by
  rw [lines]
  · rfl
  · rintro r rfl rfl
    exact h rfl rfl

theorem mem_inFront {c d : Char} {ls : List (List Char)} {l : List Char} (h : l ∈ inFront c ls)
    (hd : d ∈ l) : d = c ∨ ∃ l' ∈ ls, d ∈ l' := by
  cases ls with
  | nil =>
    obtain rfl := List.mem_singleton.mp h
    exact .inl (List.mem_singleton.mp hd)
  | cons l' ls =>
    rcases List.mem_cons.mp h with rfl | h
    · exact (List.mem_cons.mp hd).imp_right fun hd => ⟨l', List.mem_cons_self, hd⟩
    · exact .inr ⟨l, List.mem_cons_of_mem l' h, hd⟩

/-- The cases of reading a line: a break in two characters, and a character before the rest. -/
theorem lines_induction {P : List Char → Prop} (nil : P [])
    (crlf : ∀ cs, P cs → P ('\r' :: '\n' :: cs))
    (cons : ∀ c cs, (c = '\r' → cs.head? ≠ some '\n') → P cs → P (c :: cs)) (cs : List Char) :
    P cs := by
  induction cs using lineFeeds.induct with
  | case1 => exact nil
  | case2 r ih => exact crlf r ih
  | case3 c r hcrlf ih =>
    refine cons c r ?_ ih
    rintro rfl hr
    cases r with
    | nil => simp at hr
    | cons d r =>
      obtain rfl : d = '\n' := by simpa using hr
      exact hcrlf r rfl rfl

theorem lineFeeds_cons {c : Char} {cs : List Char} (h : c = '\r' → cs.head? ≠ some '\n') :
    lineFeeds (c :: cs) = (if c = '\r' then '\n' else c) :: lineFeeds cs := by
  rw [lineFeeds]
  rintro r rfl rfl
  exact h rfl rfl

theorem not_isLineBreak_of_mem_lines {cs l : List Char} (hl : l ∈ lines cs) {c : Char}
    (hc : c ∈ l) : isLineBreak c = false := by
  induction cs using lines_induction generalizing l with
  | nil => simp [lines] at hl
  | crlf cs ih =>
    rw [lines_crlf] at hl
    rcases List.mem_cons.mp hl with rfl | hl
    · simp at hc
    · exact ih hl hc
  | cons d cs hcrlf ih =>
    rw [lines_cons hcrlf] at hl
    split_ifs at hl with hd
    · rcases List.mem_cons.mp hl with rfl | hl
      · simp at hc
      · exact ih hl hc
    · rcases mem_inFront hl hc with rfl | ⟨l', hl', hc'⟩
      · exact Bool.not_eq_true _ ▸ hd
      · exact ih hl' hc'

/-- Lines are the same whether or not their breaks have been brought to one form. -/
theorem lines_lineFeeds (cs : List Char) : lines (lineFeeds cs) = lines cs := by
  induction cs using lines_induction with
  | nil => rfl
  | crlf cs ih =>
    rw [lineFeeds, lines_crlf, lines_cons (by simp), if_pos (by decide), ih]
  | cons c cs hcrlf ih =>
    rw [lineFeeds_cons hcrlf, lines_cons hcrlf]
    by_cases hc : c = '\r'
    · subst hc
      rw [if_pos rfl, lines_cons (by simp), ih]
      rfl
    · rw [if_neg hc, lines_cons (fun h => absurd h hc), ih]

theorem splitLines_normalizeBreaks (s : String) :
    splitLines (normalizeBreaks s) = splitLines s := by
  rw [splitLines, normalizeBreaks, String.toList_ofList, lines_lineFeeds, splitLines]

/-- A text has no more lines than characters. -/
theorem length_lines_le (cs : List Char) : (lines cs).length ≤ cs.length := by
  induction cs using lines_induction with
  | nil => simp [lines]
  | crlf cs ih =>
    rw [lines_crlf, List.length_cons, List.length_cons, List.length_cons]
    omega
  | cons c cs hcrlf ih =>
    rw [lines_cons hcrlf, List.length_cons]
    split_ifs
    · rw [List.length_cons]
      omega
    · cases hlines : lines cs with
      | nil => simp [inFront]
      | cons l ls =>
        rw [hlines, List.length_cons] at ih
        rw [inFront, List.length_cons]
        omega

theorem lineFeeds_of_not_mem {cs : List Char} (h : '\r' ∉ cs) : lineFeeds cs = cs := by
  induction cs with
  | nil => rfl
  | cons c cs ih =>
    rw [List.mem_cons, not_or] at h
    have hne : c ≠ '\r' := Ne.symm h.1
    rw [lineFeeds_cons (fun hc => absurd hc hne), if_neg hne, ih h.2]

/-- A text without carriage returns has its breaks in their one form. -/
theorem normalizeBreaks_of_not_mem {s : String} (h : '\r' ∉ s.toList) :
    normalizeBreaks s = s := by
  rw [normalizeBreaks, lineFeeds_of_not_mem h, String.ofList_toList]

theorem inFront_ne_nil (c : Char) (ls : List (List Char)) : inFront c ls ≠ [] := by
  cases ls <;> simp [inFront]

theorem inFront_append (c : Char) {ls : List (List Char)} (h : ls ≠ []) (rest : List (List Char)) :
    inFront c (ls ++ rest) = inFront c ls ++ rest := by
  cases ls with
  | nil => exact absurd rfl h
  | cons l ls => rfl

theorem lines_ne_nil {cs : List Char} (h : cs ≠ []) : lines cs ≠ [] := by
  cases cs using lines_induction with
  | nil => exact absurd rfl h
  | crlf cs => simp [lines_crlf]
  | cons c cs hcrlf =>
    rw [lines_cons hcrlf]
    split_ifs
    · exact List.cons_ne_nil _ _
    · exact inFront_ne_nil c (lines cs)

/-- A text that ends with a line feed shares no line with what is written behind it. -/
theorem lines_append {cs : List Char} (h : cs = [] ∨ cs.getLast? = some '\n')
    (rest : List Char) : lines (cs ++ rest) = lines cs ++ lines rest := by
  induction cs using lines_induction with
  | nil => rfl
  | crlf cs ih =>
    have hlast : cs = [] ∨ cs.getLast? = some '\n' := by
      cases cs <;> simp_all
    rw [List.cons_append, List.cons_append, lines_crlf, lines_crlf, ih hlast, List.cons_append]
  | cons c cs hcrlf ih =>
    rcases eq_or_ne cs [] with rfl | hcs
    · obtain rfl : c = '\n' := by simpa using h
      rw [List.cons_append, lines_cons (by simp), lines_cons hcrlf]
      rfl
    · obtain ⟨d, ds, rfl⟩ := List.exists_cons_of_ne_nil hcs
      have hlast : (d :: ds).getLast? = some '\n' := by simpa using h
      have hnext : c = '\r' → (d :: ds ++ rest).head? ≠ some '\n' := by simpa using hcrlf
      rw [List.cons_append, lines_cons hnext, lines_cons hcrlf, ih (.inr hlast),
        inFront_append c (lines_ne_nil hcs)]
      split_ifs <;> rfl

theorem splitLines_append {a : String} (h : a = "" ∨ a.toList.getLast? = some '\n')
    (b : String) : splitLines (a ++ b) = splitLines a ++ splitLines b := by
  have hchars : a.toList = [] ∨ a.toList.getLast? = some '\n' :=
    h.imp_left fun hempty => by rw [hempty]; rfl
  rw [splitLines, String.toList_append, lines_append hchars, List.map_append, splitLines,
    splitLines]

/-- No line break in a text. -/
def Unbroken (s : String) : Prop := ∀ c ∈ s.toList, isLineBreak c = false

instance (s : String) : Decidable (Unbroken s) := List.decidableBAll _ s.toList

theorem Unbroken.append {s t : String} (hs : Unbroken s) (ht : Unbroken t) :
    Unbroken (s ++ t) := by
  intro c hc
  rw [String.toList_append, List.mem_append] at hc
  exact hc.elim (hs c) (ht c)

theorem Unbroken.not_mem_feed {s : String} (h : Unbroken s) : '\n' ∉ s.toList := by
  intro hc
  have hbreak := h _ hc
  simp [isLineBreak] at hbreak

/-- Lines, each with a line feed behind it. -/
def unlines (ls : List String) : String := .ofList (ls.flatMap fun l => l.toList ++ ['\n'])

theorem lines_append_feed {l : List Char} (hl : ∀ c ∈ l, isLineBreak c = false)
    (rest : List Char) : lines (l ++ '\n' :: rest) = l :: lines rest := by
  induction l with
  | nil => rw [List.nil_append, lines_cons (by simp), if_pos (by decide)]
  | cons c l ih =>
    have hc : isLineBreak c = false := hl c List.mem_cons_self
    have hcr : c ≠ '\r' := by
      rintro rfl
      simp [isLineBreak] at hc
    rw [List.cons_append, lines_cons (fun h => absurd h hcr), if_neg (by simp [hc]),
      ih fun d hd => hl d (List.mem_cons_of_mem _ hd), inFront]

theorem splitLines_unlines {ls : List String} (h : ∀ l ∈ ls, Unbroken l) :
    splitLines (unlines ls) = ls := by
  rw [splitLines, unlines, String.toList_ofList]
  induction ls with
  | nil => rfl
  | cons l ls ih =>
    rw [List.flatMap_cons, List.append_assoc, List.singleton_append,
      lines_append_feed (h l List.mem_cons_self), List.map_cons,
      ih fun l' hl' => h l' (List.mem_cons_of_mem _ hl'), String.ofList_toList]

end Dialogue.Text
