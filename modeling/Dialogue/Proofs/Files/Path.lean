import Dialogue.Files.Tree
import Mathlib.Tactic

/-! Paths as texts and as ways from place to place. -/
namespace Dialogue

namespace Path
variable {p q : Path}

/-- A path that is written as it is read: its names are not empty, no single dots, and without
slashes. -/
structure Proper (p : Path) : Prop where
  anchor : p.anchor = "" ∨ p.anchor = "/" ∨ p.anchor = "//"
  parts : ∀ name ∈ p.parts, name ≠ "" ∧ name ≠ "." ∧ '/' ∉ name.toList

/-- Where names lead from a place: a double dot takes back the name before it. -/
def walk (place : Place) (names : List String) : Place :=
  names.foldl (fun place n => if n = ".." then place.dropLast else place ++ [n]) place

/-- Where a path sets out for someone in the directory `cwd`. -/
def origin (cwd : Place) (p : Path) : Place := if p.isAbsolute then [] else cwd

/-- A place on the way that names lead from a place, with both its ends. -/
def OnWay (place : Place) (names : List String) (q : Place) : Prop :=
  ∃ k, q = walk place (names.take k)

/-- A place that a path leads through before or when it arrives. -/
def Passes (cwd : Place) (p : Path) (q : Place) : Prop := OnWay (p.origin cwd) p.parts q

theorem resolve_eq_walk (cwd : Place) (p : Path) : p.resolve cwd = walk (p.origin cwd) p.parts :=
  rfl

@[simp] theorem walk_nil (place : Place) : walk place [] = place := rfl

theorem walk_cons (place : Place) (name : String) (names : List String) :
    walk place (name :: names) =
      walk (if name = ".." then place.dropLast else place ++ [name]) names := rfl

theorem onWay_up {place q : Place} {names : List String} (h : OnWay place.dropLast names q) :
    OnWay place (".." :: names) q := by
  obtain ⟨k, rfl⟩ := h
  exact ⟨k + 1, rfl⟩

theorem onWay_down {place q : Place} {name : String} {names : List String} (hname : name ≠ "..")
    (h : OnWay (place ++ [name]) names q) : OnWay place (name :: names) q := by
  obtain ⟨k, rfl⟩ := h
  exact ⟨k + 1, by rw [List.take_succ_cons, walk_cons, if_neg hname]⟩

theorem onWay_start (place : Place) (names : List String) : OnWay place names place := ⟨0, rfl⟩

theorem walk_append (place : Place) (names more : List String) :
    walk place (names ++ more) = walk (walk place names) more := List.foldl_append

theorem walk_of_no_dots {names : List String} (h : ".." ∉ names) (place : Place) :
    walk place names = place ++ names := by
  induction names generalizing place with
  | nil => simp
  | cons name names ih =>
    have hname : name ≠ ".." := (List.ne_of_not_mem_cons h).symm
    rw [walk_cons, if_neg hname, ih (List.not_mem_of_not_mem_cons h), List.append_assoc,
      List.singleton_append]

theorem length_walk_le (place : Place) (names : List String) :
    (walk place names).length ≤ place.length + names.length := by
  induction names generalizing place with
  | nil => simp
  | cons name names ih =>
    have hnext := ih (if name = ".." then place.dropLast else place ++ [name])
    rw [walk_cons, List.length_cons]
    split_ifs at hnext ⊢
    · rw [List.length_dropLast] at hnext
      omega
    · rw [List.length_append, List.length_singleton] at hnext
      omega

/-- What stands behind the first `m` names of a place that is walked to was there or is one of the
names. -/
theorem forall_drop_walk {P : String → Prop} {m : Nat} {place : Place} {names : List String}
    (hplace : ∀ n ∈ place.drop m, P n) (hnames : ∀ n ∈ names, n ≠ ".." → P n) :
    ∀ n ∈ (walk place names).drop m, P n := by
  induction names generalizing place with
  | nil => exact hplace
  | cons name names ih =>
    rw [walk_cons]
    refine ih ?_ fun n hn => hnames n (List.mem_cons_of_mem _ hn)
    split_ifs with hup
    · intro n hn
      rw [List.dropLast_eq_take, List.drop_take] at hn
      exact hplace n (List.mem_of_mem_take hn)
    · intro n hn
      rw [List.drop_append] at hn
      rcases List.mem_append.mp hn with hn | hn
      · exact hplace n hn
      · obtain rfl := List.mem_singleton.mp (List.mem_of_mem_drop hn)
        exact hnames n List.mem_cons_self hup

/-- Whatever leads to a place that is walked to lies before the walk or on its way. -/
theorem onWay_of_prefix {place front : Place} {names : List String}
    (h : front <+: walk place names) : front <+: place ∨ OnWay place names front := by
  induction names generalizing place with
  | nil => exact .inl h
  | cons name names ih =>
    rw [walk_cons] at h
    by_cases hup : name = ".."
    · subst hup
      rw [if_pos rfl] at h
      rcases ih h with hfront | hway
      · exact .inl (hfront.trans (List.dropLast_prefix place))
      · exact .inr (onWay_up hway)
    · rw [if_neg hup] at h
      rcases ih h with hfront | hway
      · rcases List.prefix_concat_iff.mp hfront with rfl | hfront
        · exact .inr (onWay_down hup (onWay_start _ names))
        · exact .inl hfront
      · exact .inr (onWay_down hup hway)

theorem passes_of_take {cwd place : Place} {n : Nat}
    (h : Passes cwd { p with parts := p.parts.take n } place) : p.Passes cwd place := by
  obtain ⟨k, rfl⟩ := h
  refine ⟨min k n, ?_⟩
  rw [← List.take_take]
  rfl

theorem passes_of_parent {cwd place : Place} (h : p.parent.Passes cwd place) :
    p.Passes cwd place := by
  rw [parent, List.dropLast_eq_take] at h
  exact passes_of_take h

section Text

theorem not_mem_of_mem_splitOn {c : Char} {cs w : List Char} (h : w ∈ cs.splitOn c) : c ∉ w := by
  induction cs generalizing w with
  | nil =>
    rw [List.splitOn_nil, List.mem_singleton] at h
    simp [h]
  | cons d cs ih =>
    rw [List.splitOn_cons_eq_if_modifyHead] at h
    split_ifs at h with hd
    · rcases List.mem_cons.mp h with rfl | h
      · exact List.not_mem_nil
      · exact ih h
    · obtain ⟨v, vs, hv⟩ := List.exists_cons_of_ne_nil (List.splitOn_ne_nil c cs)
      rw [hv] at h ih
      rcases List.mem_cons.mp h with rfl | h
      · have hdc : c ≠ d := fun he => hd (by simp [he])
        exact List.not_mem_cons_of_ne_of_not_mem hdc (ih List.mem_cons_self)
      · exact ih (List.mem_cons_of_mem _ h)

theorem ofString_proper (s : String) : (ofString s).Proper where
  anchor := by
    change anchorOf s = "" ∨ anchorOf s = "/" ∨ anchorOf s = "//"
    unfold anchorOf
    split
    · exact .inl rfl
    · exact .inr (.inr rfl)
    · exact .inr (.inl rfl)
  parts name h := by
    obtain ⟨hraw, hname⟩ := List.mem_filter.mp h
    obtain ⟨w, hw, rfl⟩ := List.mem_map.mp hraw
    rw [String.toList_ofList]
    simp only [Bool.and_eq_true, bne_iff_ne] at hname
    exact ⟨hname.1, hname.2, not_mem_of_mem_splitOn hw⟩

theorem Proper.join (hp : p.Proper) (hq : q.Proper) : (p.join q).Proper := by
  unfold Path.join
  split_ifs
  · exact hq
  · exact ⟨hp.anchor, fun name h => (List.mem_append.mp h).elim (hp.parts name) (hq.parts name)⟩

/-- The names of a path in the text between its slashes. -/
theorem parts_of_intercalate {names : List String}
    (h : ∀ name ∈ names, name ≠ "" ∧ name ≠ "." ∧ '/' ∉ name.toList) :
    (((['/'].intercalate (names.map String.toList)).splitOn '/').map String.ofList).filter
      (fun n => n != "" && n != ".") = names := by
  rcases eq_or_ne names [] with rfl | hne
  · rfl
  · rw [List.splitOn_intercalate '/' (by simpa using fun n hn => (h n hn).2.2) (by simpa using hne),
      List.map_map]
    have hid : names.map (String.ofList ∘ String.toList) = names := by simp [Function.comp_def]
    rw [hid, List.filter_eq_self]
    intro name hn
    simp [(h name hn).1, (h name hn).2.1]

theorem takeWhile_slash_of_intercalate {names : List String}
    (h : ∀ name ∈ names, name ≠ "" ∧ name ≠ "." ∧ '/' ∉ name.toList) :
    (['/'].intercalate (names.map String.toList)).takeWhile (· == '/') = [] := by
  cases names with
  | nil => rfl
  | cons name names =>
    obtain ⟨hname, -, hslash⟩ := h name List.mem_cons_self
    obtain ⟨c, cs, hc⟩ := List.exists_cons_of_ne_nil (by simpa using hname : name.toList ≠ [])
    have hcs : c ≠ '/' := (List.ne_of_not_mem_cons (hc ▸ hslash)).symm
    cases names with
    | nil => simp [hc, hcs]
    | cons more names => simp [hc, hcs]

/-- A proper path is read back from its text. -/
theorem Proper.ofString_text (h : p.Proper) : ofString p.text = p := by
  obtain ⟨anchor, names⟩ := p
  have hparts := parts_of_intercalate h.parts
  have hslash := takeWhile_slash_of_intercalate h.parts
  dsimp only at hparts hslash
  have hslashes : "/".toList = ['/'] := rfl
  by_cases hdot : anchor = "" ∧ names = []
  · obtain ⟨rfl, rfl⟩ := hdot
    decide +kernel
  · have htext : text ⟨anchor, names⟩ = anchor ++ "/".intercalate names := by
      rw [text, if_neg]
      simpa using hdot
    rw [htext, ofString, anchorOf, rawParts, String.toList_append, String.toList_intercalate,
      hslashes]
    rcases h.anchor with ha | ha | ha <;> dsimp only at ha <;> subst ha
    · simp [hslash, hparts]
    · simp [hslash, hparts, List.splitOn_cons_eq_if_modifyHead]
    · simp [hslash, hparts, List.splitOn_cons_eq_if_modifyHead]

theorem text_eq (h : p.parts ≠ []) : p.text = p.anchor ++ "/".intercalate p.parts := by
  rw [text, if_neg]
  simp [h]

/-- Between the slashes of its text a path has its names, behind the slashes of its anchor. -/
theorem Proper.rawParts_text (h : p.Proper) (hne : p.parts ≠ []) :
    rawParts p.text = List.replicate p.anchor.length "" ++ p.parts := by
  have hslashes : "/".toList = ['/'] := rfl
  have hnames : (['/'].intercalate (p.parts.map String.toList)).splitOn '/' =
      p.parts.map String.toList :=
    List.splitOn_intercalate '/' (by simpa using fun n hn => (h.parts n hn).2.2)
      (by simpa using hne)
  have hid : (p.parts.map String.toList).map String.ofList = p.parts := by
    simp [Function.comp_def]
  rw [text_eq hne, rawParts, String.toList_append, String.toList_intercalate, hslashes]
  rcases h.anchor with ha | ha | ha <;> rw [ha]
  · simp [hnames, Function.comp_def]
  · simp [hnames, List.splitOn_cons_eq_if_modifyHead, Function.comp_def]
    rfl
  · simp [hnames, List.splitOn_cons_eq_if_modifyHead, Function.comp_def]
    rfl

theorem Proper.text_ne_empty (h : p.Proper) (hne : p.parts ≠ []) : p.text ≠ "" := by
  intro hempty
  obtain ⟨n, hn⟩ := List.exists_mem_of_ne_nil p.parts hne
  have hmem : n ∈ rawParts "" := by
    rw [← hempty, h.rawParts_text hne]
    exact List.mem_append_right _ hn
  exact (h.parts n hn).1 (List.mem_singleton.mp hmem)

theorem mem_intercalate_slash {c : Char} (hc : c ≠ '/') {ls : List (List Char)} :
    c ∈ ['/'].intercalate ls ↔ ∃ l ∈ ls, c ∈ l := by
  induction ls with
  | nil => simp
  | cons l ls ih =>
    rcases eq_or_ne ls [] with rfl | hne
    · simp
    · rw [List.intercalate_cons_of_ne_nil hne, List.append_assoc, List.mem_append,
        List.mem_append, List.mem_singleton, ih]
      simp [hc]

/-- The characters of a path are those of its names, but for slashes. -/
theorem Proper.mem_text {c : Char} (h : p.Proper) (hne : p.parts ≠ []) (hc : c ≠ '/') :
    c ∈ p.text.toList ↔ ∃ n ∈ p.parts, c ∈ n.toList := by
  have hslashes : "/".toList = ['/'] := rfl
  have hanchor : c ∉ p.anchor.toList := by
    rcases h.anchor with ha | ha | ha <;> rw [ha] <;> simp [hc]
  rw [text_eq hne, String.toList_append, List.mem_append, String.toList_intercalate, hslashes,
    mem_intercalate_slash hc]
  simp [hanchor]

/-- What follows the last dot of a name, and the dot, end the name. -/
theorem suffix_of_splitName (name : String) : (splitName name).2.toList <:+ name.toList := by
  simp only [splitName]
  split_ifs with hsingle
  · exact List.nil_suffix
  · rw [Bool.or_eq_true, not_or, List.isEmpty_iff, List.isEmpty_iff, List.take_eq_nil_iff,
      ← String.length_toList] at hsingle
    have hsplit := List.takeWhile_append_dropWhile (p := (· ≠ '.')) (l := name.toList.reverse)
    generalize htail : name.toList.reverse.takeWhile (· ≠ '.') = tail at hsplit hsingle ⊢
    cases hrest : name.toList.reverse.dropWhile (· ≠ '.') with
    | nil =>
      rw [hrest, List.append_nil] at hsplit
      simp [hsplit] at hsingle
    | cons c rest =>
      have hdot : c = '.' := by
        have hhead := List.head?_dropWhile_not (· ≠ '.') name.toList.reverse
        rw [hrest] at hhead
        simpa using hhead
      rw [hrest, hdot, ← List.reverse_inj, List.reverse_reverse] at hsplit
      rw [← hsplit, String.toList_ofList]
      exact ⟨rest.reverse, by simp⟩

end Text

end Path
end Dialogue
