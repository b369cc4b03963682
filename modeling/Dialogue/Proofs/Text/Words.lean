import Dialogue.Proofs.Text.Trimming

/-! Words: how a text falls apart at its blanks. -/
namespace Dialogue.Text
variable {a cs w : List Char}

/-- A blank stands between words and belongs to none. -/
theorem words_append_cons {c : Char} (hc : isBlank c = true) (a b : List Char) :
    words (a ++ c :: b) = words a ++ words b := by
  rw [words, List.splitOnP_append_cons a b hc, List.filter_append, words, words]

theorem words_append_left (ha : AllBlank a) (cs : List Char) : words (a ++ cs) = words cs := by
  induction a with
  | nil => rfl
  | cons c a ih =>
    have hc : isBlank c = true := ha c List.mem_cons_self
    rw [List.cons_append, ← List.nil_append (c :: (a ++ cs)), words_append_cons hc,
      ih fun d hd => ha d (List.mem_cons_of_mem _ hd)]
    rfl

theorem words_of_allBlank (h : AllBlank cs) : words cs = [] := by
  have hcs : words (cs ++ []) = words [] := words_append_left h []
  rwa [List.append_nil] at hcs

theorem words_append_right (ha : AllBlank a) (cs : List Char) : words (cs ++ a) = words cs := by
  cases a with
  | nil => rw [List.append_nil]
  | cons c a =>
    have hrest : words a = [] := words_of_allBlank fun d hd => ha d (List.mem_cons_of_mem _ hd)
    rw [words_append_cons (ha c List.mem_cons_self), hrest, List.append_nil]

theorem words_of_no_blank (hne : w ≠ []) (h : ∀ c ∈ w, isBlank c = false) : words w = [w] := by
  rw [words, List.splitOnP_eq_singleton h]
  simp [hne]

/-- A word with blanks behind it is the first of the words. -/
theorem words_word_append (hne : w ≠ []) (hw : ∀ c ∈ w, isBlank c = false) (ha : AllBlank a)
    (hgap : a ≠ []) (cs : List Char) : words (w ++ a ++ cs) = w :: words cs := by
  obtain ⟨c, a, rfl⟩ := List.exists_cons_of_ne_nil hgap
  have hrest : words (a ++ cs) = words cs :=
    words_append_left (fun d hd => ha d (List.mem_cons_of_mem _ hd)) cs
  rw [List.append_assoc, List.cons_append, words_append_cons (ha c List.mem_cons_self),
    words_of_no_blank hne hw, hrest]
  rfl

/-- A text that is not blank has a first word, which ends at a blank or with the text. -/
theorem exists_first_word (cs : List Char) : AllBlank cs ∨ ∃ gap w rest, AllBlank gap ∧ w ≠ [] ∧
    (∀ c ∈ w, isBlank c = false) ∧ (∀ c, rest.head? = some c → isBlank c = true) ∧
    cs = gap ++ w ++ rest := by
  obtain ⟨gap, hgap, hcs⟩ := exists_dropBlank cs
  rcases hfront : dropBlank cs with _ | ⟨c, r⟩
  · exact .inl (dropBlank_eq_nil_iff.mp hfront)
  right
  have hc : isBlank c = false := by
    have hstop := List.head?_dropWhile_not isBlank cs
    rw [← dropBlank, hfront] at hstop
    simpa using hstop
  refine ⟨gap, c :: r.takeWhile (!isBlank ·), r.dropWhile (!isBlank ·), hgap, List.cons_ne_nil _ _,
    List.forall_mem_cons.mpr ⟨hc, fun d hd => ?_⟩, fun d hd => ?_, ?_⟩
  · simpa using List.mem_takeWhile_imp hd
  · have hstop := List.head?_dropWhile_not (!isBlank ·) r
    rw [hd] at hstop
    simpa using hstop
  · rw [List.append_assoc, List.cons_append, List.takeWhile_append_dropWhile, ← hfront]
    exact hcs

end Dialogue.Text
