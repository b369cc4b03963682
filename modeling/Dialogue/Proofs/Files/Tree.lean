import Dialogue.Proofs.Files.Path

/-! Trees of files: what stands at each place before and after a path is followed, directories are
made along it, and a file is written at its end. -/
namespace Dialogue

/-- The content of a file. -/
def Entry.content? : Entry → Option ByteArray
  | .directory => none
  | .file content => some content

namespace FileTree
variable {t t' t'' : FileTree}

def file? (t : FileTree) (place : Place) : Option ByteArray := (t.entry? place).bind Entry.content?

/-- What comes of a place: a directory can be made where there is nothing, and a file can be written
where there is no directory. Nothing goes away. -/
inductive Change (made written : Prop) : Option Entry → Option Entry → Prop
  | same (e : Option Entry) : Change made written e e
  | made (h : made) : Change made written none (some .directory)
  | written {e : Option Entry} (h : written) (he : e ≠ some .directory) (content : ByteArray) :
    Change made written e (some (.file content))

/-- What comes of all places: directories are made at some, and files are written at some. -/
def Changes (made written : Place → Prop) (t t' : FileTree) : Prop :=
  ∀ place, Change (made place) (written place) (t.entry? place) (t'.entry? place)

section Change
variable {m w m' w' : Prop} {a b c : Option Entry}

theorem Change.trans (h : Change m w a b) (h' : Change m w b c) : Change m w a c := by
  cases h' with
  | same => exact h
  | made hm =>
    cases h with
    | same => exact .made hm
  | written hw hb content =>
    cases h with
    | same => exact .written hw hb content
    | made => exact absurd rfl hb
    | written _ ha _ => exact .written hw ha content

theorem Change.mono (h : Change m w a b) (hm : a = none → m → m') (hw : w → w') :
    Change m' w' a b := by
  cases h with
  | same => exact .same a
  | made h => exact .made (hm rfl h)
  | written h he content => exact .written (hw h) he content

theorem Change.content?_eq (h : Change m False a b) :
    b.bind Entry.content? = a.bind Entry.content? := by
  cases h with
  | same => rfl
  | made => rfl
  | written hw => exact hw.elim

end Change

section Changes
variable {made written made' written' : Place → Prop}

theorem Changes.refl (made written : Place → Prop) (t : FileTree) : Changes made written t t :=
  fun place => .same (t.entry? place)

theorem Changes.trans (h : Changes made written t t') (h' : Changes made written t' t'') :
    Changes made written t t'' :=
  fun place => (h place).trans (h' place)

theorem Changes.mono (h : Changes made written t t')
    (hm : ∀ place, t.entry? place = none → made place → made' place)
    (hw : ∀ place, written place → written' place) : Changes made' written' t t' :=
  fun place => (h place).mono (hm place) (hw place)

/-- No directory goes away. -/
theorem Changes.directory (h : Changes made written t t') {place : Place}
    (hplace : t.entry? place = some .directory) : t'.entry? place = some .directory := by
  have hchange := h place
  rw [hplace] at hchange
  generalize t'.entry? place = e at hchange ⊢
  cases hchange with
  | same => rfl
  | written _ he => exact absurd rfl he

theorem Changes.file?_eq (h : Changes made (fun _ => False) t t') (place : Place) :
    t'.file? place = t.file? place :=
  (h place).content?_eq

end Changes

section Entries
variable {place : Place} {e : Entry}

theorem entry?_of_ne_nil (h : place ≠ []) : t.entry? place = t.entries.lookup place := by
  unfold entry?
  rw [if_neg (by simpa using h)]

theorem ne_nil_of_no_directory (h : t.entry? place ≠ some .directory) : place ≠ [] := by
  rintro rfl
  exact h rfl

theorem entry?_add (h : t.entry? place = none) (q : Place) :
    FileTree.entry? (t.add place e) q = if q = place then some e else t.entry? q := by
  have hne : place ≠ [] := ne_nil_of_no_directory (t := t) (by simp [h])
  rw [entry?_of_ne_nil hne] at h
  rcases eq_or_ne q [] with rfl | hq
  · rw [if_neg (Ne.symm hne)]
    rfl
  · rw [entry?_of_ne_nil hq, entry?_of_ne_nil hq, add, List.lookup_append]
    split_ifs with hqp
    · simp [hqp, h]
    · simp [List.lookup_cons, beq_eq_false_iff_ne.mpr hqp]

theorem lookup_map_replace (place : Place) (e : Entry) {f : Place × Entry → Place × Entry}
    (hf : ∀ x, f x = (x.1, if x.1 = place then e else x.2)) (entries : List (Place × Entry))
    (q : Place) : (entries.map f).lookup q =
      if q = place then (entries.lookup q).map fun _ => e else entries.lookup q := by
  induction entries with
  | nil => simp
  | cons x entries ih =>
    rw [List.map_cons, hf, List.lookup_cons, List.lookup_cons, ih]
    by_cases hq : q = x.1
    · rw [beq_iff_eq.mpr hq, ← hq]
      split_ifs <;> rfl
    · rw [beq_eq_false_iff_ne.mpr hq]

theorem entry?_put (h : place ≠ []) (q : Place) :
    FileTree.entry? (t.put place e) q = if q = place then some e else t.entry? q := by
  unfold put
  by_cases hany : t.entries.any (·.1 == place) = true
  · rw [if_pos hany]
    rcases eq_or_ne q [] with rfl | hq
    · rw [if_neg (Ne.symm h)]
      rfl
    · rw [entry?_of_ne_nil hq, entry?_of_ne_nil hq,
        lookup_map_replace place e fun x => by by_cases hx : x.1 = place <;> simp [hx]]
      split_ifs with hqp
      · obtain ⟨x, hx, hxp⟩ := List.any_eq_true.mp hany
        have hsome : (t.entries.lookup q).isSome = true :=
          List.lookup_isSome_iff.mpr ⟨x, hx, by simp [hqp, eq_of_beq hxp]⟩
        obtain ⟨old, hold⟩ := Option.isSome_iff_exists.mp hsome
        rw [hold, Option.map_some]
      · rfl
  · rw [if_neg hany]
    refine entry?_add ?_ q
    rw [entry?_of_ne_nil h, List.lookup_eq_none_iff]
    intro x hx
    rw [bne_iff_ne]
    intro hxp
    exact hany (List.any_eq_true.mpr ⟨x, hx, beq_iff_eq.mpr hxp.symm⟩)

end Entries

section Follow
variable {cwd place place' : Place} {names : List String}

/-- The names that lead somewhere else. -/
abbrev steps (names : List String) : List String := names.filter fun n => n != "" && n != "."

/-- Names that can be followed lead where they lead without a look at the tree, through
directories. -/
theorem follow_eq_ok (h : t.follow place names = .ok place') :
    place' = Path.walk place (steps names) ∧ ∀ k < (steps names).length,
      t.entry? (Path.walk place ((steps names).take k)) = some .directory := by
  induction names generalizing place with
  | nil =>
    obtain rfl := Except.ok.inj h
    simp
  | cons name names ih =>
    rw [follow] at h
    split at h
    · simp at h
    · simp at h
    · next hdir =>
      by_cases hskip : name = "" ∨ name = "."
      · have hsteps : steps (name :: names) = steps names := by
          rcases hskip with rfl | rfl <;> rfl
        rw [if_pos (by simpa using hskip)] at h
        rw [hsteps]
        exact ih h
      · have hsteps : steps (name :: names) = name :: steps names :=
          List.filter_cons_of_pos (by simpa using hskip)
        rw [if_neg (by simpa using hskip)] at h
        have hnext : t.follow (if name = ".." then place.dropLast else place ++ [name]) names =
            .ok place' := by
          split_ifs at h ⊢ <;> exact h
        obtain ⟨hplace, hpassed⟩ := ih hnext
        rw [hsteps, Path.walk_cons]
        refine ⟨hplace, fun k hk => ?_⟩
        cases k with
        | zero => exact hdir
        | succ k => exact hpassed k (Nat.lt_of_succ_lt_succ hk)

theorem locate_eq_ok {path : String} (h : t.locate cwd path = .ok place) :
    place = (Path.ofString path).resolve cwd ∧
      ∀ q, (Path.ofString path).Passes cwd q → q = place ∨ t.entry? q = some .directory := by
  unfold locate at h
  split at h
  · simp at h
  split at h
  · simp at h
  split at h
  · simp at h
  obtain ⟨hplace, hpassed⟩ := follow_eq_ok h
  have horigin : (if Path.anchorOf path == "" then cwd else []) =
      (Path.ofString path).origin cwd := by
    by_cases hanchor : Path.anchorOf path = "" <;>
      simp [Path.origin, Path.isAbsolute, Path.ofString, hanchor]
  rw [horigin] at hplace hpassed
  refine ⟨hplace, ?_⟩
  rintro q ⟨k, rfl⟩
  by_cases hk : k < (Path.ofString path).parts.length
  · exact .inr (hpassed k hk)
  · rw [List.take_of_length_le (Nat.le_of_not_lt hk)]
    exact .inl hplace.symm

theorem locate_of_isDirectory {p : Path} (hp : p.Proper) (h : t.isDirectory cwd p = true) :
    t.locate cwd p.text = .ok (p.resolve cwd) ∧
      t.entry? (p.resolve cwd) = some .directory := by
  have hstat : t.stat cwd p.text = .ok .directory := by
    unfold isDirectory at h
    split at h
    · assumption
    · simp at h
  unfold stat at hstat
  cases hl : t.locate cwd p.text with
  | error f => simp [hl] at hstat
  | ok place =>
    obtain ⟨rfl, -⟩ := locate_eq_ok hl
    rw [hp.ofString_text] at hl ⊢
    simp only [hl] at hstat
    cases he : t.entry? (p.resolve cwd) with
    | none => simp [he] at hstat
    | some e =>
      obtain rfl : e = .directory := by simpa [he] using hstat
      exact ⟨rfl, rfl⟩

/-- A directory that is there is reached through directories. -/
theorem entry?_of_isDirectory {p : Path} (hp : p.Proper) (h : t.isDirectory cwd p = true)
    {q : Place} (hq : p.Passes cwd q) : t.entry? q = some .directory := by
  obtain ⟨hl, he⟩ := locate_of_isDirectory hp h
  have hpassed := (locate_eq_ok hl).2 q
  rw [hp.ofString_text] at hpassed
  rcases hpassed hq with rfl | hdir
  · exact he
  · exact hdir

end Follow

section Make
variable {cwd : Place} {p : Path} {e : FileError} {content : ByteArray}

/-- What is left of a tree, also after an error. -/
def left : Except (FileTree × FileError) FileTree → FileTree
  | .ok t => t
  | .error (t, _) => t

theorem changes_add {made written : Place → Prop} {place : Place} (h : t.entry? place = none)
    (hm : made place) : Changes made written t (t.add place .directory) := by
  intro q
  rw [entry?_add h]
  split_ifs with hq
  · rw [hq, h]
    exact .made hm
  · exact .same _

/-- Directories are made on the way that the names lead. -/
theorem makeAlong_changes (t : FileTree) (p : Path) (n : Nat) (place : Place) (made : Bool)
    (names : List String) : Changes (Path.OnWay place names) (fun _ => False) t
      (left (t.makeAlong p n place made names)) := by
  fun_induction makeAlong t p n place made names with
  | case1 t => exact .refl _ _ t
  | case2 t n place made names ih => exact ih.mono (fun _ _ => Path.onWay_up) (fun _ => id)
  | case3 t => exact .refl _ _ t
  | case4 t n place made name names here hup _ _ ih =>
    exact ih.mono (fun _ _ => Path.onWay_down hup) (fun _ => id)
  | case5 t => exact .refl _ _ t
  | case6 t => exact .refl _ _ t
  | case7 t n place made name names here hup _ hnone _ ih =>
    refine (changes_add hnone ?_).trans (ih.mono (fun _ _ => Path.onWay_down hup) (fun _ => id))
    exact Path.onWay_down hup (Path.onWay_start here names)

theorem ensurePath_changes (t : FileTree) (cwd : Place) (p : Path) :
    Changes (p.Passes cwd) (fun _ => False) t (left (t.ensurePath cwd p)) := by
  unfold ensurePath
  split
  · exact .refl _ _ t
  split
  · exact .refl _ _ t
  · exact makeAlong_changes t p 0 _ false p.parts

theorem write_eq_ok (hp : p.Proper) (h : t.write cwd p content = .ok t') :
    t.entry? (p.resolve cwd) ≠ some .directory ∧
      ∀ q, t'.entry? q = if q = p.resolve cwd then some (.file content) else t.entry? q := by
  unfold write at h
  cases hl : t.locate cwd p.text with
  | error f => simp [hl] at h
  | ok place =>
    obtain ⟨hplace, -⟩ := locate_eq_ok hl
    rw [hp.ofString_text] at hplace
    simp only [hl] at h
    split at h
    · simp at h
    · next hdir =>
      obtain rfl := Except.ok.inj h
      rw [← hplace]
      exact ⟨hdir, entry?_put (ne_nil_of_no_directory hdir)⟩

/-- A file that could not be opened has left files as they were. -/
theorem writeBytes_error (h : t.writeBytes cwd p content = .error (t', e)) :
    Changes (p.parent.Passes cwd) (fun _ => False) t t' := by
  have hmade := t.ensurePath_changes cwd p.parent
  unfold writeBytes at h
  cases hd : t.ensurePath cwd p.parent with
  | error f =>
    simp only [hd, Except.error.injEq] at h
    rw [hd, h] at hmade
    exact hmade
  | ok t₁ =>
    rw [hd] at hmade
    cases hw : t₁.write cwd p content with
    | ok t₂ => simp only [hd, hw, Except.mapError, reduceCtorEq] at h
    | error f =>
      simp only [hd, hw, Except.mapError, Except.error.injEq, Prod.mk.injEq] at h
      rw [← h.1]
      exact hmade

/-- A file is written in one place, once the directories on the way are there. -/
theorem writeBytes_ok (hp : p.Proper) (h : t.writeBytes cwd p content = .ok t') :
    ∃ t₁, Changes (p.parent.Passes cwd) (fun _ => False) t t₁ ∧
      t₁.entry? (p.resolve cwd) ≠ some .directory ∧
      ∀ q, t'.entry? q = if q = p.resolve cwd then some (.file content) else t₁.entry? q := by
  have hmade := t.ensurePath_changes cwd p.parent
  unfold writeBytes at h
  cases hd : t.ensurePath cwd p.parent with
  | error f => simp only [hd, reduceCtorEq] at h
  | ok t₁ =>
    rw [hd] at hmade
    cases hw : t₁.write cwd p content with
    | error f => simp only [hd, hw, Except.mapError, reduceCtorEq] at h
    | ok t₂ =>
      simp only [hd, hw, Except.mapError, Except.ok.injEq] at h
      rw [← h]
      exact ⟨t₁, hmade, write_eq_ok hp hw⟩

theorem files_of_writeBytes (hp : p.Proper) (h : t.writeBytes cwd p content = .ok t') :
    (∀ q, q ≠ p.resolve cwd → t'.file? q = t.file? q) ∧
      t'.file? (p.resolve cwd) = some content := by
  obtain ⟨t₁, hmade, -, hentry⟩ := writeBytes_ok hp h
  constructor
  · intro q hq
    have hkept : t'.file? q = t₁.file? q := by
      unfold file?
      rw [hentry, if_neg hq]
    rw [hkept]
    exact hmade.file?_eq q
  · unfold file?
    rw [hentry, if_pos rfl]
    rfl

/-- A device that fails leaves files as they were, or the first bytes of the content in place of
what the file held. -/
theorem left_writeUpTo (t : FileTree) (cwd : Place) (p : Path) (content : ByteArray)
    (hitch : Hitch) :
    Changes (p.parent.Passes cwd) (fun _ => False) t (left (t.writeUpTo cwd p content hitch)) ∨
    ∃ bytes message, hitch = .inTheFile bytes message ∧
      t.writeBytes cwd p (content.extract 0 bytes) =
        .ok (left (t.writeUpTo cwd p content hitch)) := by
  cases hitch with
  | onTheWay names message =>
    exact .inl ((ensurePath_changes t cwd _).mono (fun _ _ => Path.passes_of_take) fun _ => id)
  | inTheFile bytes message =>
    rw [writeUpTo]
    cases h : t.writeBytes cwd p (content.extract 0 bytes) with
    | error f => exact .inl (writeBytes_error h)
    | ok t' => exact .inr ⟨bytes, message, rfl, h⟩

end Make

end FileTree
end Dialogue
