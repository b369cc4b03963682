import Dialogue.Proofs.Editor.Containment
import Dialogue.Proofs.Editor.Requests
import Dialogue.Proofs.Files.Listing
import Dialogue.Proofs.Files.Reading

/-! Keeping: what is saved in an empty store is listed, and is fetched as it was saved last. -/
namespace Dialogue.Editor
open Web

namespace Store
variable {s : Store} {t t' : FileTree} {asked : String → Prop} {saved : List (Place × String)}
  {name : String} {names : List String}

/-- A root that is there and has nothing in it. -/
structure Vacant (s : Store) : Prop where
  proper : s.root.Proper
  there : s.tree.isDirectory s.cwd s.root = true
  empty : s.tree.below s.base = []

/-- The text saved last at a place. -/
def lastText? (saved : List (Place × String)) (q : Place) : Option String :=
  saved.reverse.lookup q

theorem lastText?_concat (saved : List (Place × String)) (place q : Place) (text : String) :
    lastText? (saved ++ [(place, text)]) q =
      if q = place then some text else lastText? saved q := by
  rw [lastText?, List.reverse_append, List.reverse_singleton, List.singleton_append,
    List.lookup_cons]
  by_cases hq : q = place
  · rw [if_pos hq, beq_iff_eq.mpr hq]
  · rw [if_neg hq, beq_eq_false_iff_ne.mpr hq]
    rfl

theorem mem_of_lastText? {q : Place} {text : String} (h : lastText? saved q = some text) :
    (q, text) ∈ saved := by
  obtain ⟨before, after, heq, -⟩ := List.lookup_eq_some_iff.mp h
  rw [← List.mem_reverse, heq]
  simp

theorem lastText?_ne_none {q : Place} (h : ∃ x ∈ saved, x.1 = q) : lastText? saved q ≠ none := by
  obtain ⟨x, hx, rfl⟩ := h
  rw [← Option.isSome_iff_ne_none, lastText?, List.lookup_isSome_iff]
  exact ⟨x, List.mem_reverse.mpr hx, beq_self_eq_true _⟩

/-- What is named like a script is listed like one. -/
theorem endsWith_of_isScript {q : Place} (h : IsScript q) :
    (q.getLast?.getD "").endsWith suffix = true := by
  have hends := Path.suffix_of_splitName (q.getLast?.getD "")
  rw [IsScript] at h
  rw [h] at hends
  rwa [String.endsWith_eq_endsWith_toSlice, String.Slice.endsWith_string_iff,
    String.copy_toSlice]

/-- What is listed of a store whose root is there: what stands below it with a script's name. -/
theorem scripts_eq_ok (hplace : s.tree.locate s.cwd s.root.text = .ok s.base)
    (hdirectory : s.tree.entry? s.base = some .directory)
    (hdepth : ∀ names ∈ s.tree.below s.base, names.length ≤ maxDepth) :
    ∃ listed, s.scripts = .ok listed ∧ ((s.tree.below s.base).Nodup → listed.Nodup) ∧
      ∀ p, p ∈ listed ↔ ∃ names, p = ⟨"", names⟩ ∧ names ∈ s.tree.below s.base ∧
        (names.getLast?.getD "").endsWith suffix = true := by
  have hthere : s.tree.isThere s.cwd s.root = .ok true := by
    rw [FileTree.isThere, FileTree.stat, hplace]
    dsimp only
    rw [hdirectory]
  have hshallow :
      ((s.tree.below s.base).any fun names => decide (maxDepth < names.length)) = false := by
    simpa using hdepth
  refine ⟨_, by simp only [scripts, hthere, hplace, hshallow, Bool.false_eq_true, if_false]; rfl,
    fun honce => ?_, fun p => ?_⟩
  · refine (List.mergeSort_perm _ _).nodup_iff.mpr ((honce.filter _).map fun a b hab => ?_)
    exact congrArg Path.parts hab
  · rw [List.mem_mergeSort, List.mem_map]
    simp only [List.mem_filter, eq_comm (a := p), and_comm (b := _ = p)]

/-- A name that an entry of a directory can have. -/
structure Plain (n : String) : Prop where
  proper : n ≠ "" ∧ n ≠ "." ∧ '/' ∉ n.toList
  up : n ≠ ".."
  zero : '\x00' ∉ n.toList
  size : n.utf8ByteSize ≤ FileTree.maxName

/-- A script that a name leads to, through directories. -/
structure Leads (s : Store) (t : FileTree) (name : String) (q : Place) : Prop where
  held : s.base <+: q
  script : IsScript q
  located : t.locate s.cwd (s.locate name).text = .ok q

/-- How a tree keeps what was saved below the root, by place and text, since there was nothing. The
names that were asked for are those that `asked` holds of. -/
structure Keeps (s : Store) (asked : String → Prop) (saved : List (Place × String))
    (t : FileTree) : Prop where
  vacant : s.Vacant
  directories : ∀ q, s.tree.entry? q = some .directory → t.entry? q = some .directory
  once : (t.below s.base).Nodup
  files : ∀ q, s.base <+: q → t.file? q = (lastText? saved q).map String.toUTF8
  made : ∀ names ≠ [], t.entry? (s.base ++ names) = some .directory →
    ∃ name, asked name ∧ (s.locate name).Passes s.cwd (s.base ++ names)
  led : ∀ x ∈ saved, ∃ name, asked name ∧ s.Leads t name x.1

theorem Leads.resolve_eq (hroot : s.root.Proper) {q : Place} (h : s.Leads t name q) :
    q = (s.locate name).resolve s.cwd := by
  have hproper : (s.locate name).Proper := locate_proper hroot name
  have hplace := (FileTree.locate_eq_ok h.located).1
  rwa [hproper.ofString_text] at hplace

theorem Leads.mono {q : Place} (h : s.Leads t name q)
    (hkept : ∀ q, t.entry? q = some .directory → t'.entry? q = some .directory) :
    s.Leads t' name q :=
  ⟨h.held, h.script, FileTree.locate_of_directories hkept h.located⟩

section Vacant
variable (hvacant : s.Vacant)
include hvacant

theorem Vacant.entry?_base : s.tree.entry? s.base = some .directory :=
  (FileTree.locate_of_isDirectory hvacant.proper hvacant.there).2

theorem Vacant.entry?_below (hne : names ≠ []) : s.tree.entry? (s.base ++ names) = none := by
  by_contra hentry
  have hbelow := FileTree.mem_below.mpr ⟨hne, hentry⟩
  rw [hvacant.empty] at hbelow
  exact List.not_mem_nil hbelow

theorem Vacant.keeps (asked : String → Prop) : s.Keeps asked [] s.tree where
  vacant := hvacant
  directories _ := id
  once := by
    rw [hvacant.empty]
    exact List.nodup_nil
  files q hq := by
    obtain ⟨names, rfl⟩ := hq
    rcases eq_or_ne names [] with rfl | hne
    · rw [FileTree.file?, List.append_nil, hvacant.entry?_base]
      rfl
    · rw [FileTree.file?, hvacant.entry?_below hne]
      rfl
  made names hne hentry := by simp [hvacant.entry?_below hne] at hentry
  led x hx := absurd hx List.not_mem_nil

/-- What is made below an empty root for a name is not deeper than the name. -/
theorem Vacant.length_le (hne : names ≠ [])
    (h : (s.locate name).Passes s.cwd (s.base ++ names)) :
    names.length ≤ (Path.ofString name).parts.length := by
  have haside : ¬ s.root.Passes s.cwd (s.base ++ names) := by
    intro hpasses
    have hdirectory := FileTree.entry?_of_isDirectory hvacant.proper hvacant.there hpasses
    simp [hvacant.entry?_below hne] at hdirectory
  obtain ⟨k, hk⟩ := (onWay_of_passes h).resolve_left haside
  have hwalk := Path.length_walk_le (s.origin name) ((Path.ofString name).parts.take k)
  have horigin : (s.origin name).length ≤ s.base.length := by
    rw [origin]
    split_ifs <;> simp
  rw [← hk, List.length_append, List.length_take] at hwalk
  omega

end Vacant

section Step
variable (h : s.Keeps asked saved t) (hname : asked name)
include h hname

/-- What comes of the directories below the root when a name is saved. -/
theorem Keeps.made_of_changes {written : Place → Prop}
    (hchanges : FileTree.Changes ((s.locate name).Passes s.cwd) written t t')
    (hne : names ≠ []) (hentry : t'.entry? (s.base ++ names) = some .directory) :
    ∃ name, asked name ∧ (s.locate name).Passes s.cwd (s.base ++ names) := by
  have hchange := hchanges (s.base ++ names)
  rw [hentry] at hchange
  generalize hbefore : t.entry? (s.base ++ names) = before at hchange
  cases hchange with
  | same => exact h.made names hne hbefore
  | made hpasses => exact ⟨name, hname, hpasses⟩

/-- Directories on the way of a name keep what was saved. -/
theorem Keeps.of_made
    (hchanges : FileTree.Changes ((s.locate name).parent.Passes s.cwd) (fun _ => False) t t')
    (honce : (t'.below s.base).Nodup) : s.Keeps asked saved t' where
  vacant := h.vacant
  directories q hq := hchanges.directory (h.directories q hq)
  once := honce
  files q hq := (hchanges.file?_eq q).trans (h.files q hq)
  made names hne hentry := h.made_of_changes hname
    (hchanges.mono (fun _ _ => Path.passes_of_parent) (fun _ => id)) hne hentry
  led x hx := by
    obtain ⟨name, hname, hled⟩ := h.led x hx
    exact ⟨name, hname, hled.mono fun _ => hchanges.directory⟩

/-- A save that fails keeps what was saved. -/
theorem Keeps.failed {text : String} {e : FileError}
    (hwrite : t.writeText s.cwd (s.locate name) text = .error (t', e)) :
    s.Keeps asked saved t' := by
  have honce := FileTree.nodup_below_writeText h.once s.cwd (s.locate name) text
  rw [hwrite] at honce
  exact h.of_made hname (FileTree.writeBytes_error hwrite) honce

/-- So does a save that the device stops before the file is open. -/
theorem Keeps.hitched {content : ByteArray} {hitch : Hitch} (hearly : hitch.isEarly = true)
    (hleft : FileTree.left (t.writeUpTo s.cwd (s.locate name) content hitch) = t') :
    s.Keeps asked saved t' := by
  subst hleft
  cases hitch with
  | inTheFile bytes message => cases hearly
  | onTheWay names message =>
    refine h.of_made hname ?_ (FileTree.nodup_below_ensurePath h.once s.cwd _)
    exact (FileTree.ensurePath_changes t s.cwd _).mono (fun _ _ => Path.passes_of_take)
      fun _ => id

/-- A save that succeeds is kept with what was saved before. -/
theorem Keeps.done {text : String} (hheld : s.holds (s.locate name) = true)
    (hscript : (s.locate name).suffix = suffix)
    (hwrite : t.writeText s.cwd (s.locate name) text = .ok t') :
    s.Keeps asked (saved ++ [((s.locate name).resolve s.cwd, text)]) t' := by
  have hproper : (s.locate name).Proper := locate_proper h.vacant.proper name
  obtain ⟨t₁, hmade, -, hentry⟩ := FileTree.writeBytes_ok hproper hwrite
  have hchanges := changes_of_writeBytes (s := { s with tree := t }) h.vacant.proper hheld hscript
    hwrite
  have honce := FileTree.nodup_below_writeText h.once s.cwd (s.locate name) text
  rw [hwrite] at honce
  exact {
    vacant := h.vacant
    directories := fun q hq => hchanges.directory (h.directories q hq)
    once := honce
    files := fun q hq => by
      rw [lastText?_concat, FileTree.file?, hentry]
      split_ifs
      · rfl
      · exact (hmade.file?_eq q).trans (h.files q hq)
    made := fun names hne hentry => h.made_of_changes hname hchanges hne hentry
    led := fun x hx => by
      rcases List.mem_append.mp hx with hx | hx
      · obtain ⟨name, hname, hled⟩ := h.led x hx
        exact ⟨name, hname, hled.mono fun _ => hchanges.directory⟩
      · obtain rfl := List.mem_singleton.mp hx
        exact ⟨name, hname, base_prefix_of_holds hheld, isScript_of_suffix hscript s.cwd,
          FileTree.locate_of_writeBytes hproper hwrite⟩ }

end Step

section Fetch
variable (hroot : s.root.Proper)
include hroot

theorem Leads.walk_eq (h : s.Leads t name (s.base ++ names)) :
    Path.walk (s.origin name) (Path.ofString name).parts = s.base ++ names := by
  rw [← resolve_locate, h.resolve_eq hroot]

theorem Leads.plain (h : s.Leads t name (s.base ++ names)) {n : String} (hn : n ∈ names) :
    Plain n := by
  have hproper : (s.locate name).Proper := locate_proper hroot name
  obtain ⟨hzero, hsize⟩ := FileTree.plain_of_locate h.located
  have hparts : ∀ n ∈ (Path.ofString name).parts, n ≠ ".." → Plain n := by
    intro n hn hup
    have hmem : n ∈ (s.locate name).parts := by
      rw [locate, Path.child, Path.join]
      split_ifs
      · exact hn
      · exact List.mem_append_right _ hn
    have hne := List.ne_nil_of_mem hmem
    refine ⟨(Path.ofString_proper name).parts n hn, hup, fun hz => ?_, ?_⟩
    · exact hzero ((hproper.mem_text hne (by decide)).mpr ⟨n, hmem, hz⟩)
    · refine hsize n ?_
      rw [hproper.rawParts_text hne]
      exact List.mem_append_right _ hmem
  have horigin : ∀ n ∈ (s.origin name).drop s.base.length, Plain n := by
    have hnil : (s.origin name).drop s.base.length = [] := by
      rw [origin]
      split_ifs <;> simp
    simp [hnil]
  refine Path.forall_drop_walk horigin hparts n ?_
  rw [h.walk_eq hroot, List.drop_left]
  exact hn

/-- A script that was led to stands in directories below the root. -/
theorem Leads.directory (hbase : t.entry? s.base = some .directory)
    (h : s.Leads t name (s.base ++ names)) {k : Nat} (hk : k < names.length) :
    t.entry? (s.base ++ names.take k) = some .directory := by
  have hproper : (s.locate name).Proper := locate_proper hroot name
  have hfront :
      s.base ++ names.take k <+: Path.walk (s.origin name) (Path.ofString name).parts := by
    rw [h.walk_eq hroot]
    exact (List.prefix_append_right_inj _).mpr (List.take_prefix k names)
  rcases Path.onWay_of_prefix hfront with hstart | hway
  · rw [origin] at hstart
    split_ifs at hstart
    · rw [List.prefix_nil.mp hstart]
      rfl
    · obtain hnil : names.take k = [] := by simpa using hstart.length_le
      rw [hnil, List.append_nil, hbase]
  · have hpassed := (FileTree.locate_eq_ok h.located).2 (s.base ++ names.take k)
    rw [hproper.ofString_text] at hpassed
    rcases hpassed (passes_of_onWay hway) with heq | hdirectory
    · have hlength := congrArg List.length heq
      simp only [List.length_append, List.length_take] at hlength
      omega
    · exact hdirectory

/-- The names from the root to a script are a path. -/
theorem Leads.proper (h : s.Leads t name (s.base ++ names)) : Path.Proper ⟨"", names⟩ :=
  ⟨.inl rfl, fun _ hn => (h.plain hroot hn).proper⟩

theorem Leads.locate_eq (h : s.Leads t name (s.base ++ names)) :
    s.locate (Path.text ⟨"", names⟩) = { s.root with parts := s.root.parts ++ names } := by
  rw [locate, Path.child, (h.proper hroot).ofString_text]
  rfl

theorem Leads.resolve_locate (h : s.Leads t name (s.base ++ names)) :
    (s.locate (Path.text ⟨"", names⟩)).resolve s.cwd = s.base ++ names := by
  rw [h.locate_eq hroot, Path.resolve_eq_walk, Path.walk_append]
  exact Path.walk_of_no_dots (fun hn => (h.plain hroot hn).up rfl) s.base

end Fetch

section Answers
variable (h : s.Keeps asked saved t)
include h

theorem Keeps.locate_root : t.locate s.cwd s.root.text = .ok s.base :=
  FileTree.locate_of_directories h.directories
    (FileTree.locate_of_isDirectory h.vacant.proper h.vacant.there).1

theorem Keeps.entry?_base : t.entry? s.base = some .directory :=
  h.directories _ h.vacant.entry?_base

section Script
variable (hled : s.Leads t name (s.base ++ names)) (hne : names ≠ [])
include hled hne

theorem Keeps.plain_text : '\x00' ∉ (s.locate (Path.text ⟨"", names⟩)).text.toList := by
  have hproper := locate_proper h.vacant.proper (Path.text ⟨"", names⟩)
  have hzero := (FileTree.plain_of_locate h.locate_root).1
  rw [hled.locate_eq h.vacant.proper] at hproper ⊢
  rw [hproper.mem_text (by simp [hne]) (by decide)]
  rintro ⟨n, hn, hz⟩
  rcases List.mem_append.mp hn with hn | hn
  · exact hzero ((h.vacant.proper.mem_text (List.ne_nil_of_mem hn) (by decide)).mpr ⟨n, hn, hz⟩)
  · exact (hled.plain h.vacant.proper hn).zero hz

theorem Keeps.holds_text : s.holds (s.locate (Path.text ⟨"", names⟩)) = true := by
  have hzero := (FileTree.plain_of_locate h.locate_root).1
  have hplain := h.plain_text hled hne
  rw [holds, hled.resolve_locate h.vacant.proper]
  simp only [List.all_cons, List.all_nil, Bool.and_true, Bool.and_eq_true, Bool.not_eq_true',
    List.contains_eq_mem, decide_eq_false_iff_not]
  exact ⟨⟨hzero, hplain⟩, List.isPrefixOf_iff_prefix.mpr (List.prefix_append _ _)⟩

omit hne in
/-- The path from the root to a script leads through directories. -/
theorem Keeps.passed {k : Nat} (hk : k < s.root.parts.length + names.length) :
    t.entry? (Path.walk (s.root.origin s.cwd) ((s.root.parts ++ names).take k)) =
      some .directory := by
  rw [List.take_append]
  rcases Nat.lt_or_ge k s.root.parts.length with hlt | hge
  · rw [Nat.sub_eq_zero_of_le hlt.le, List.take_zero, List.append_nil]
    exact h.directories _ (FileTree.entry?_of_isDirectory h.vacant.proper h.vacant.there ⟨k, rfl⟩)
  · have hdots : ".." ∉ names.take (k - s.root.parts.length) := fun hn =>
      (hled.plain h.vacant.proper (List.mem_of_mem_take hn)).up rfl
    rw [List.take_of_length_le hge, Path.walk_append, Path.walk_of_no_dots hdots]
    exact hled.directory h.vacant.proper h.entry?_base (by omega)

/-- A script is found by its path from the root, if the whole path is not too long. -/
theorem Keeps.located
    (hlong : (s.locate (Path.text ⟨"", names⟩)).text.utf8ByteSize < FileTree.maxPath) :
    t.locate s.cwd (s.locate (Path.text ⟨"", names⟩)).text = .ok (s.base ++ names) := by
  have hproper := locate_proper h.vacant.proper (Path.text ⟨"", names⟩)
  have hzero := h.plain_text hled hne
  have hsize := (FileTree.plain_of_locate h.locate_root).2
  have hresolve := hled.resolve_locate h.vacant.proper
  rw [hled.locate_eq h.vacant.proper] at hproper hzero hlong hresolve ⊢
  rw [← hresolve]
  refine FileTree.locate_of_passed hproper (by simp [hne]) hzero hlong (fun n hn => ?_) fun k hk =>
    h.passed hled (by simpa using hk)
  rcases List.mem_append.mp hn with hn | hn
  · refine hsize n ?_
    rw [h.vacant.proper.rawParts_text (List.ne_nil_of_mem hn)]
    exact List.mem_append_right _ hn
  · exact (hled.plain h.vacant.proper hn).size

end Script

theorem Keeps.entry?_of_lastText {text : String}
    (hlast : lastText? saved (s.base ++ names) = some text) :
    names ≠ [] ∧ t.entry? (s.base ++ names) = some (.file text.toUTF8) := by
  have hfile := h.files _ (List.prefix_append s.base names)
  rw [hlast, FileTree.file?] at hfile
  obtain ⟨e, hentry, hcontent⟩ := Option.bind_eq_some_iff.mp hfile
  cases e with
  | directory => cases hcontent
  | file content =>
    obtain rfl := Option.some.inj hcontent
    refine ⟨?_, hentry⟩
    rintro rfl
    rw [List.append_nil, h.entry?_base] at hentry
    cases hentry

/-- What stands below the root is a script that was saved or a directory, and on the way of a name
that was asked for. -/
theorem Keeps.entry_below (hne : names ≠ []) (hentry : t.entry? (s.base ++ names) ≠ none) :
    (lastText? saved (s.base ++ names) ≠ none ∨
      t.entry? (s.base ++ names) = some .directory) ∧
    ∃ name, asked name ∧ (s.locate name).Passes s.cwd (s.base ++ names) := by
  obtain ⟨e, he⟩ := Option.ne_none_iff_exists'.mp hentry
  cases e with
  | directory => exact ⟨.inr he, h.made names hne he⟩
  | file content =>
    have hfile := h.files _ (List.prefix_append s.base names)
    rw [FileTree.file?, he] at hfile
    obtain ⟨text, hlast, -⟩ := Option.map_eq_some_iff.mp hfile.symm
    obtain ⟨name, hname, hled⟩ := h.led _ (mem_of_lastText? hlast)
    refine ⟨.inl (by simp [hlast]), name, hname, (s.locate name).parts.length, ?_⟩
    rw [List.take_length]
    exact hled.resolve_eq h.vacant.proper

/-- What was saved last in a place is fetched from it. -/
theorem Keeps.fetch_eq {text : String} (hlast : lastText? saved (s.base ++ names) = some text)
    (hlong : (s.locate (Path.text ⟨"", names⟩)).text.utf8ByteSize < FileTree.maxPath) :
    Store.fetch { s with tree := t } (Path.text ⟨"", names⟩) =
      .found (s.locate (Path.text ⟨"", names⟩)) (Text.normalizeBreaks text) := by
  obtain ⟨hne, hentry⟩ := h.entry?_of_lastText hlast
  obtain ⟨name, -, hled⟩ := h.led _ (mem_of_lastText? hlast)
  have hlocated := h.located hled hne hlong
  have hread := FileTree.readText_of_file hlocated hentry
  have hstat : t.stat s.cwd (s.locate (Path.text ⟨"", names⟩)).text =
      .ok (.file text.toUTF8) := by
    rw [FileTree.stat, hlocated]
    dsimp only
    rw [hentry]
  have hlocate : Store.locate { s with tree := t } (Path.text ⟨"", names⟩) =
      s.locate (Path.text ⟨"", names⟩) := rfl
  have hheld := h.holds_text hled hne
  have hholds : Store.holds { s with tree := t } (s.locate (Path.text ⟨"", names⟩)) = true := hheld
  rw [fetch, hlocate]
  simp only [hholds, hstat, hread, Bool.not_true, Bool.false_eq_true, if_false]

theorem Keeps.scripts_eq (hdepth : ∀ names ∈ t.below s.base, names.length ≤ maxDepth) :
    ∃ listed, Store.scripts { s with tree := t } = .ok listed ∧ listed.Nodup ∧
      ∀ p, p ∈ listed ↔ ∃ names, p = ⟨"", names⟩ ∧ names ∈ t.below s.base ∧
        (names.getLast?.getD "").endsWith suffix = true := by
  have hplace := h.locate_root
  have hdirectory := h.entry?_base
  obtain ⟨listed, hscripts, honce, hmem⟩ :=
    scripts_eq_ok (s := { s with tree := t }) hplace hdirectory hdepth
  exact ⟨listed, hscripts, honce h.once, hmem⟩

end Answers

end Store
end Dialogue.Editor
