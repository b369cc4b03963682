import Dialogue.Proofs.Files.Tree

/-! Reading: a text that was written is found by every path to its place, and read as it was but
for its line breaks. -/
namespace Dialogue

namespace Text

/-- The bytes of a text are read as the text, its breaks brought to one form. -/
theorem decode_toUTF8 (s : String) : decode s.toUTF8 = .ok (normalizeBreaks s) := by
  have hbytes : String.fromUTF8? s.toUTF8 = some s := by
    rw [String.fromUTF8?, String.toUTF8_eq_toByteArray, dif_pos s.isValidUTF8]
    rfl
  rw [decode, hbytes]

end Text

namespace FileTree
variable {t t' : FileTree} {cwd place : Place} {p : Path}

section Directories
variable (h : ∀ q, t.entry? q = some .directory → t'.entry? q = some .directory)
include h

/-- Names lead where they did as long as no directory goes away. -/
theorem follow_of_directories {place' : Place} {names : List String}
    (hf : t.follow place names = .ok place') : t'.follow place names = .ok place' := by
  induction names generalizing place with
  | nil => exact hf
  | cons name names ih =>
    rw [follow] at hf ⊢
    split at hf
    · simp at hf
    · simp at hf
    · next hdirectory =>
      rw [h place hdirectory]
      dsimp only
      split_ifs at hf ⊢
      · exact ih hf
      · exact ih hf
      · exact ih hf

theorem locate_of_directories {path : String} (hl : t.locate cwd path = .ok place) :
    t'.locate cwd path = .ok place := by
  unfold locate at hl ⊢
  split_ifs at hl ⊢
  all_goals exact follow_of_directories h hl

end Directories

/-- Once it is written, the path of a file leads to it. -/
theorem locate_of_write {content : ByteArray} (hp : p.Proper)
    (h : t.write cwd p content = .ok t') : t'.locate cwd p.text = .ok (p.resolve cwd) := by
  obtain ⟨hfile, hentry⟩ := write_eq_ok hp h
  have hkept : ∀ q, t.entry? q = some .directory → t'.entry? q = some .directory := by
    intro q hq
    have hne : q ≠ p.resolve cwd := by
      rintro rfl
      exact hfile hq
    rw [hentry, if_neg hne, hq]
  unfold write at h
  cases hl : t.locate cwd p.text with
  | error f => simp [hl] at h
  | ok place =>
    obtain ⟨rfl, -⟩ := locate_eq_ok hl
    rw [hp.ofString_text] at hl
    exact locate_of_directories hkept hl

theorem locate_of_writeBytes {content : ByteArray} (hp : p.Proper)
    (h : t.writeBytes cwd p content = .ok t') : t'.locate cwd p.text = .ok (p.resolve cwd) := by
  unfold writeBytes at h
  split at h
  · simp at h
  next t₁ _ =>
    cases hw : t₁.write cwd p content with
    | error f => simp only [hw, Except.mapError, reduceCtorEq] at h
    | ok t₂ =>
      simp only [hw, Except.mapError, Except.ok.injEq] at h
      obtain rfl := h
      exact locate_of_write hp hw

theorem size_of_follow {place' : Place} {names : List String}
    (h : t.follow place names = .ok place') {n : String} (hn : n ∈ names) :
    n.utf8ByteSize ≤ maxName := by
  induction names generalizing place with
  | nil => exact absurd hn List.not_mem_nil
  | cons name names ih =>
    rw [follow] at h
    split at h
    · simp at h
    · simp at h
    rcases List.mem_cons.mp hn with rfl | hn
    · split_ifs at h with hskip hup hlong
      · rcases (by simpa using hskip : n = "" ∨ n = ".") with rfl | rfl <;> decide
      · subst hup
        decide
      · exact Nat.le_of_not_lt hlong
    · split_ifs at h <;> exact ih h hn

/-- A text that leads somewhere has no zero character, and none of its names is too long. -/
theorem plain_of_locate {path : String} (h : t.locate cwd path = .ok place) :
    '\x00' ∉ path.toList ∧ ∀ n ∈ Path.rawParts path, n.utf8ByteSize ≤ maxName := by
  unfold locate at h
  split at h
  · simp at h
  split at h
  · simp at h
  next hzero =>
    split at h
    · simp at h
    · exact ⟨by simpa using hzero, fun n hn => size_of_follow h hn⟩

/-- Names that are short enough can be followed through directories. -/
theorem follow_of_passed {names : List String}
    (hnames : ∀ n ∈ names, n ≠ "" ∧ n ≠ "." ∧ n.utf8ByteSize ≤ maxName)
    (hpassed : ∀ k < names.length,
      t.entry? (Path.walk place (names.take k)) = some .directory) :
    t.follow place names = .ok (Path.walk place names) := by
  induction names generalizing place with
  | nil => rfl
  | cons name names ih =>
    obtain ⟨hempty, hdot, hsize⟩ := hnames name List.mem_cons_self
    have hhere : t.entry? place = some .directory := hpassed 0 (Nat.zero_lt_succ _)
    have hnext : t.follow (if name = ".." then place.dropLast else place ++ [name]) names =
        .ok (Path.walk (if name = ".." then place.dropLast else place ++ [name]) names) :=
      ih (fun n hn => hnames n (List.mem_cons_of_mem _ hn))
        fun k hk => hpassed (k + 1) (Nat.succ_lt_succ hk)
    rw [follow, hhere, Path.walk_cons]
    dsimp only
    rw [if_neg (by simp [hempty, hdot])]
    split_ifs at hnext ⊢ with hup hlong
    · exact hnext
    · exact absurd hsize (Nat.not_le_of_lt hlong)
    · exact hnext

theorem follow_empty (t : FileTree) (n : Nat) (names : List String) :
    t.follow [] (List.replicate n "" ++ names) = t.follow [] names := by
  induction n with
  | zero => rfl
  | succ n ih => rw [List.replicate_succ, List.cons_append, follow, ← ih]; rfl

/-- A path that leads through directories, none of its names too long, leads somewhere. -/
theorem locate_of_passed (hp : p.Proper) (hne : p.parts ≠ []) (hzero : '\x00' ∉ p.text.toList)
    (hlong : p.text.utf8ByteSize < maxPath) (hsize : ∀ n ∈ p.parts, n.utf8ByteSize ≤ maxName)
    (hpassed : ∀ k < p.parts.length,
      t.entry? (Path.walk (p.origin cwd) (p.parts.take k)) = some .directory) :
    t.locate cwd p.text = .ok (p.resolve cwd) := by
  have hanchor : Path.anchorOf p.text = p.anchor := congrArg Path.anchor hp.ofString_text
  have hfollow : t.follow (p.origin cwd) p.parts = .ok (p.resolve cwd) :=
    follow_of_passed (fun n hn => ⟨(hp.parts n hn).1, (hp.parts n hn).2.1, hsize n hn⟩) hpassed
  unfold locate
  rw [if_neg (by simpa using hp.text_ne_empty hne), if_neg (by simpa using hzero),
    if_neg (Nat.not_le_of_lt hlong), hanchor, hp.rawParts_text hne, ← hfollow]
  by_cases ha : p.anchor = ""
  · simp [ha, Path.origin, Path.isAbsolute]
  · simp [ha, Path.origin, Path.isAbsolute, follow_empty]

/-- A file is read as what it holds, whatever path leads to it. -/
theorem readText_of_file {text : String} (hl : t.locate cwd p.text = .ok place)
    (he : t.entry? place = some (.file text.toUTF8)) :
    t.readText cwd p = .ok (Text.normalizeBreaks text) := by
  rw [readText, read, stat, hl]
  dsimp only
  rw [he]
  dsimp only
  rw [Text.decode_toUTF8]
  rfl

/-- A text that was written is read by the path it was written to. -/
theorem readText_of_writeText {text : String} (hp : p.Proper)
    (h : t.writeText cwd p text = .ok t') :
    t'.readText cwd p = .ok (Text.normalizeBreaks text) := by
  obtain ⟨t₁, -, -, hentry⟩ := writeBytes_ok hp h
  have hfile : t'.entry? (p.resolve cwd) = some (.file text.toUTF8) := by
    rw [hentry, if_pos rfl]
  exact readText_of_file (locate_of_writeBytes hp h) hfile

theorem isThere_of_file {content : ByteArray} (hl : t.locate cwd p.text = .ok place)
    (he : t.entry? place = some (.file content)) : t.isThere cwd p = .ok true := by
  rw [isThere, stat, hl]
  dsimp only
  rw [he]

end FileTree
end Dialogue
