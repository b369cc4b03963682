import Dialogue.Proofs.Editor.Saving

/-! Containment: whatever is saved, files are written below the root only, and outside of it nothing
is made but directories on the way of a path that strays. -/
namespace Dialogue.Editor
open Web

namespace Store
variable {s s' : Store} {name : String} {content : Option String} {q : Place}

/-- The place of the root. -/
def base (s : Store) : Place := s.root.resolve s.cwd

/-- A place that is named like a script. -/
def IsScript (q : Place) : Prop := (Path.splitName (q.getLast?.getD "")).2 = suffix

/-- The path of a name strays to a place that is neither below the root nor on the way to it. -/
structure Strays (s : Store) (name : String) (q : Place) : Prop where
  passes : (s.locate name).Passes s.cwd q
  outside : ¬ s.base <+: q
  aside : ¬ s.root.Passes s.cwd q

theorem base_prefix_of_holds (h : s.holds (s.locate name) = true) :
    s.base <+: (s.locate name).resolve s.cwd := by
  rw [holds, Bool.and_eq_true] at h
  exact List.isPrefixOf_iff_prefix.mp h.2

/-- A path to a script ends at a place that is named like one. -/
theorem isScript_of_suffix {p : Path} (h : p.suffix = suffix) (cwd : Place) :
    IsScript (p.resolve cwd) := by
  obtain ⟨anchor, parts⟩ := p
  rcases List.eq_nil_or_concat parts with rfl | ⟨names, last, rfl⟩
  · have hempty : (Path.splitName "").2 ≠ suffix := by decide +kernel
    exact absurd h hempty
  · have hlast : (Path.splitName last).2 = suffix := by
      simpa [Path.suffix, Path.name] using h
    have hdots : last ≠ ".." := by
      rintro rfl
      exact absurd hlast (by decide +kernel)
    rw [Path.resolve_eq_walk, List.concat_eq_append, Path.walk_append, Path.walk_cons,
      if_neg hdots, Path.walk_nil, IsScript]
    simpa using hlast

theorem changes_of_writeBytes {tree : FileTree} {bytes : ByteArray} (hroot : s.root.Proper)
    (hheld : s.holds (s.locate name) = true) (hscript : (s.locate name).suffix = suffix)
    (h : s.tree.writeBytes s.cwd (s.locate name) bytes = .ok tree) :
    FileTree.Changes ((s.locate name).Passes s.cwd) (fun q => s.base <+: q ∧ IsScript q)
      s.tree tree := by
  obtain ⟨t, hmade, hdir, hentry⟩ := FileTree.writeBytes_ok (locate_proper hroot name) h
  refine (hmade.mono (fun _ _ => Path.passes_of_parent) (fun _ => False.elim)).trans fun q => ?_
  rw [hentry]
  split_ifs with hq
  · rw [hq]
    exact .written ⟨base_prefix_of_holds hheld, isScript_of_suffix hscript s.cwd⟩ hdir _
  · exact .same _

/-- What one save does to the store. -/
theorem Saves.changes {hitch : Option Hitch} {result : Saved} (hroot : s.root.Proper)
    (h : s.Saves name content hitch s' result) :
    s'.cwd = s.cwd ∧ s'.root = s.root ∧ FileTree.Changes ((s.locate name).Passes s.cwd)
      (fun q => s.base <+: q ∧ IsScript q) s.tree s'.tree := by
  cases h with
  | outside => exact ⟨rfl, rfl, .refl _ _ _⟩
  | noScript => exact ⟨rfl, rfl, .refl _ _ _⟩
  | @hitched hitch _ _ hheld hscript _ hleft =>
    have hwritten := s.tree.left_writeUpTo s.cwd (s.locate name) (content.getD "").toUTF8 hitch
    rw [hleft] at hwritten
    rcases hwritten with hmade | ⟨_, _, -, hwrite⟩
    · exact ⟨rfl, rfl, hmade.mono (fun _ _ => Path.passes_of_parent) (fun _ => False.elim)⟩
    · exact ⟨rfl, rfl, changes_of_writeBytes hroot hheld hscript hwrite⟩
  | failed _ _ hwrite =>
    refine ⟨rfl, rfl, (FileTree.writeBytes_error hwrite).mono ?_ (fun _ => False.elim)⟩
    exact fun _ _ => Path.passes_of_parent
  | noText hheld hscript _ hwrite =>
    exact ⟨rfl, rfl, changes_of_writeBytes hroot hheld hscript hwrite⟩
  | done hheld hscript _ hwrite =>
    exact ⟨rfl, rfl, changes_of_writeBytes hroot hheld hscript hwrite⟩

/-- The place from which the names that are asked for are followed. -/
def origin (s : Store) (name : String) : Place :=
  if (Path.ofString name).isAbsolute then [] else s.base

theorem resolve_locate (s : Store) (name : String) :
    (s.locate name).resolve s.cwd = Path.walk (s.origin name) (Path.ofString name).parts := by
  rw [locate, Path.child, Path.join, origin]
  split_ifs with habsolute
  · rw [Path.resolve_eq_walk, Path.origin, if_pos habsolute]
  · exact Path.walk_append _ _ _

/-- A path from the root leads along the path to the root, and on from there. -/
theorem onWay_of_passes (h : (s.locate name).Passes s.cwd q) :
    s.root.Passes s.cwd q ∨ Path.OnWay (s.origin name) (Path.ofString name).parts q := by
  rw [locate, Path.child, Path.join] at h
  rw [origin]
  split_ifs at h ⊢ with habsolute
  · rw [Path.Passes, Path.origin, if_pos habsolute] at h
    exact .inr h
  · obtain ⟨k, hk⟩ := h
    rw [List.take_append] at hk
    rcases Nat.le_total k s.root.parts.length with hle | hle
    · refine .inl ⟨k, ?_⟩
      rw [hk, Nat.sub_eq_zero_of_le hle, List.take_zero, List.append_nil]
      rfl
    · refine .inr ⟨k - s.root.parts.length, ?_⟩
      rw [hk, List.take_of_length_le hle, Path.walk_append]
      rfl

theorem passes_of_onWay (h : Path.OnWay (s.origin name) (Path.ofString name).parts q) :
    (s.locate name).Passes s.cwd q := by
  obtain ⟨k, rfl⟩ := h
  rw [locate, Path.child, Path.join, origin]
  split_ifs with habsolute
  · refine ⟨k, ?_⟩
    rw [Path.origin, if_pos habsolute]
  · refine ⟨s.root.parts.length + k, ?_⟩
    rw [List.take_length_add_append, Path.walk_append]
    rfl

/-- A name that strays is absolute or has double dots. -/
theorem Strays.shape (h : s.Strays name q) :
    (Path.ofString name).isAbsolute = true ∨ ".." ∈ (Path.ofString name).parts := by
  by_contra hname
  obtain ⟨hrelative, hdots⟩ := not_or.mp hname
  obtain ⟨k, hk⟩ := (onWay_of_passes h.passes).resolve_left h.aside
  rw [origin, if_neg hrelative, Path.walk_of_no_dots fun h => hdots (List.mem_of_mem_take h)] at hk
  exact h.outside ⟨_, hk.symm⟩

end Store

/-- The name under which a request asks to save a script. -/
def requestedName? (r : Request) : Option String := r.object?.bind saveName?

section Run
variable {s : Store} {terminating : List String} {e : Exchange}

theorem handle_changes {r : Request} {hitch : Option Hitch} (hroot : s.root.Proper)
    (h : handle s terminating r hitch = .ok e) :
    e.store.cwd = s.cwd ∧ e.store.root = s.root ∧ FileTree.Changes
      (fun q => ∃ name, requestedName? r = some name ∧ (s.locate name).Passes s.cwd q)
      (fun q => s.base <+: q ∧ Store.IsScript q) s.tree e.store.tree := by
  cases serves_of_handle h with
  | kept hkept =>
    rw [hkept]
    exact ⟨rfl, rfl, .refl _ _ _⟩
  | @saved body name result hbody hname hsave _ =>
    obtain ⟨hcwd, hsame, hchanges⟩ := hsave.changes hroot
    refine ⟨hcwd, hsame, hchanges.mono (fun q _ hq => ⟨name, ?_, hq⟩) (fun _ => id)⟩
    rw [requestedName?, hbody, Option.bind_some, hname]

theorem handleAll_cons (s : Store) (terminating : List String) (r : Request) (rs : List Request)
    (hitches : List (Option Hitch)) : handleAll s terminating (r :: rs) hitches =
      match handle s terminating r (hitches.headD none) with
      | .error f => ⟨[], some f⟩
      | .ok e => ⟨e :: (handleAll e.store terminating rs hitches.tail).exchanges,
          (handleAll e.store terminating rs hitches.tail).fault⟩ := (rfl)

theorem handleAll_changes {requests : List Request} {hitches : List (Option Hitch)}
    (hroot : s.root.Proper) (he : e ∈ (handleAll s terminating requests hitches).exchanges) :
    FileTree.Changes
      (fun q => ∃ r ∈ requests, ∃ name, requestedName? r = some name ∧
        (s.locate name).Passes s.cwd q)
      (fun q => s.base <+: q ∧ Store.IsScript q) s.tree e.store.tree := by
  induction requests generalizing s hitches with
  | nil => exact absurd he List.not_mem_nil
  | cons r rs ih =>
    rw [handleAll_cons] at he
    cases hr : handle s terminating r (hitches.headD none) with
    | error f =>
      rw [hr] at he
      exact absurd he List.not_mem_nil
    | ok e₁ =>
      simp only [hr] at he
      obtain ⟨hcwd, hsame, hfirst⟩ := handle_changes hroot hr
      have hstep : FileTree.Changes (fun q => ∃ r' ∈ r :: rs, ∃ name,
          requestedName? r' = some name ∧ (s.locate name).Passes s.cwd q)
          (fun q => s.base <+: q ∧ Store.IsScript q) s.tree e₁.store.tree :=
        hfirst.mono (fun q _ hq => ⟨r, List.mem_cons_self, hq⟩) (fun _ => id)
      rcases List.mem_cons.mp he with rfl | he
      · exact hstep
      · have hrest := ih (hsame ▸ hroot) he
        simp only [Store.locate, Store.base, hcwd, hsame] at hrest
        refine hstep.trans (hrest.mono (fun q _ hq => ?_) (fun _ => id))
        obtain ⟨r', hr', hq⟩ := hq
        exact ⟨r', List.mem_cons_of_mem r hr', hq⟩

end Run

/-- Whatever is requested, files are written below the root only and are named like scripts, and
nothing is taken away. Directories are made below the root, but for one slip: outside of it they are
made on the way of a saved path that strays, which takes a name that is absolute or has double
dots. -/
theorem changes_contained {s : Store} {dir : String} (hroot : s.root = .ofString dir)
    (hthere : s.tree.isDirectory s.cwd s.root = true) {terminating : List String}
    {requests : List Request} {hitches : List (Option Hitch)} {e : Exchange}
    (he : e ∈ (handleAll s terminating requests hitches).exchanges) :
    FileTree.Changes
      (fun q => s.base <+: q ∨ ∃ r ∈ requests, ∃ name, requestedName? r = some name ∧
        s.Strays name q)
      (fun q => s.base <+: q ∧ Store.IsScript q) s.tree e.store.tree ∧
    ∀ name q, s.Strays name q →
      (Path.ofString name).isAbsolute = true ∨ ".." ∈ (Path.ofString name).parts := by
  have hproper : s.root.Proper := hroot ▸ Path.ofString_proper dir
  refine ⟨(handleAll_changes hproper he).mono (fun q hnone hq => ?_) (fun _ => id),
    fun name q => Store.Strays.shape⟩
  obtain ⟨r, hr, name, hname, hpasses⟩ := hq
  by_cases hinside : s.base <+: q
  · exact .inl hinside
  · refine .inr ⟨r, hr, name, hname, hpasses, hinside, fun hroad => ?_⟩
    have hdir := FileTree.entry?_of_isDirectory hproper hthere hroad
    simp [hnone] at hdir

/-- A save by a path that leaves the root, comes back to it, and needs a directory outside. -/
private def straySave : Request where
  method := "POST"
  url := "/api/save"
  contentType := "application/json"
  body := "\x7b\"path\": \"../dialogue2/../dialogue/k.gab\", \"content\": \"x\"\x7d"

/-- Statuses, and whether a place is a directory after each exchange. -/
private def statusAndKind (place : Place) (c : Conversation) : List (Nat × Option Bool) :=
  c.exchanges.map fun e =>
    (e.response.status, (e.store.tree.entry? place).map fun x => x.content?.isNone)

private theorem exists_straySave : ∃ e ∈ (handleAll shelf [] [straySave]).exchanges,
    e.response.status = 200 ∧ e.store.tree.entry? ["dialogue2"] = some .directory := by
  have hseen : (200, some true) ∈ statusAndKind ["dialogue2"] (handleAll shelf [] [straySave]) := by
    decide +kernel
  obtain ⟨e, he, heq⟩ := List.mem_map.mp hseen
  obtain ⟨hstatus, hkind⟩ := Prod.mk.inj heq
  refine ⟨e, he, hstatus, ?_⟩
  cases hentry : e.store.tree.entry? ["dialogue2"] with
  | none => simp [hentry] at hkind
  | some x =>
    cases x with
    | directory => rfl
    | file content => simp [hentry, Entry.content?] at hkind

/-- A directory outside of the root is made for a script that ends up below it. -/
theorem stray_save_makes_directory : ∃ e ∈ (handleAll shelf [] [straySave]).exchanges,
    e.response.status = 200 ∧ shelf.tree.entry? ["dialogue2"] = none ∧
    e.store.tree.entry? ["dialogue2"] = some .directory ∧ ¬ shelf.base <+: ["dialogue2"] := by
  obtain ⟨e, he, hstatus, hmade⟩ := exists_straySave
  have hbase : shelf.base = ["dialogue"] := by decide +kernel
  refine ⟨e, he, hstatus, rfl, hmade, ?_⟩
  rw [hbase]
  decide +kernel

/-- The path of that save strays to the directory. -/
theorem changes_contained_straySave : shelf.tree.isDirectory shelf.cwd shelf.root = true ∧
    ∃ e ∈ (handleAll shelf [] [straySave]).exchanges,
      e.store.tree.entry? ["dialogue2"] = some .directory ∧
      ∃ name, requestedName? straySave = some name ∧ shelf.Strays name ["dialogue2"] := by
  have hthere : shelf.tree.isDirectory shelf.cwd shelf.root = true := by decide +kernel
  obtain ⟨e, he, -, hmade⟩ := exists_straySave
  refine ⟨hthere, e, he, hmade, ?_⟩
  have hroot : shelf.root = .ofString "dialogue" := rfl
  have hchange := (changes_contained hroot hthere he).1 ["dialogue2"]
  have hbefore : shelf.tree.entry? ["dialogue2"] = none := rfl
  rw [hbefore, hmade] at hchange
  cases hchange with
  | made h =>
    rcases h with hinside | ⟨r, hr, name, hname, hstrays⟩
    · have hbase : shelf.base = ["dialogue"] := by decide +kernel
      rw [hbase] at hinside
      exact absurd hinside (by decide +kernel)
    · obtain rfl := List.mem_singleton.mp hr
      exact ⟨name, hname, hstrays⟩

end Dialogue.Editor
