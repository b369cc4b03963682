import Dialogue.Proofs.Files.Reading
import Dialogue.Region.Room
import Mathlib.Tactic

/-! Checking: regions that are loaded from a file hold values of any kind. Which of them a check can
look up and sort, and so for which rooms it comes to an end with findings. -/
namespace Dialogue

section Results
variable {ε α β : Type} {f : α → Except ε β}

theorem mapM_cons_eq_ok_iff {x : α} {xs : List α} {zs : List β} :
    (x :: xs).mapM f = .ok zs ↔ ∃ y ys, f x = .ok y ∧ xs.mapM f = .ok ys ∧ zs = y :: ys := by
  rw [List.mapM_cons]
  cases hx : f x with
  | error e => simp [bind, Except.bind]
  | ok y =>
    cases hxs : xs.mapM f with
    | error e => simp [bind, Except.bind]
    | ok ys => simp [bind, Except.bind, pure, Except.pure, eq_comm]

theorem exists_mapM_eq_ok_iff {xs : List α} :
    (∃ ys, xs.mapM f = .ok ys) ↔ ∀ x ∈ xs, ∃ y, f x = .ok y := by
  induction xs with
  | nil => simp [pure, Except.pure]
  | cons x xs ih =>
    rw [List.forall_mem_cons, ← ih]
    simp only [mapM_cons_eq_ok_iff]
    constructor
    · rintro ⟨_, y, ys, hx, hxs, rfl⟩
      exact ⟨⟨y, hx⟩, ys, hxs⟩
    · rintro ⟨⟨y, hx⟩, ys, hxs⟩
      exact ⟨_, y, ys, hx, hxs, rfl⟩

theorem mapM_bind_pure_eq_ok_iff {γ : Type} {g : List β → γ} {xs : List α} {z : γ} :
    (do return g (← xs.mapM f)) = Except.ok z ↔ ∃ ys, xs.mapM f = .ok ys ∧ g ys = z := by
  cases xs.mapM f <;> simp [bind, Except.bind, pure, Except.pure]

theorem exists_mapM_bind_pure_eq_ok_iff {γ : Type} {g : List β → γ} {xs : List α} :
    (∃ z, (do return g (← xs.mapM f)) = Except.ok z) ↔ ∀ x ∈ xs, ∃ y, f x = .ok y := by
  simp only [mapM_bind_pure_eq_ok_iff, ← exists_mapM_eq_ok_iff]
  constructor
  · rintro ⟨_, ys, hys, -⟩
    exact ⟨ys, hys⟩
  · rintro ⟨ys, hys⟩
    exact ⟨_, ys, hys, rfl⟩

theorem eq_map_of_mapM_eq_ok {g : α → β} (hg : ∀ x y, f x = .ok y → y = g x) {xs : List α}
    {ys : List β} (h : xs.mapM f = .ok ys) : ys = xs.map g := by
  induction xs generalizing ys with
  | nil => exact (Except.ok.inj h).symm
  | cons x xs ih =>
    obtain ⟨y, ys, hx, hxs, rfl⟩ := mapM_cons_eq_ok_iff.mp h
    rw [List.map_cons, hg x y hx, ih hxs]

end Results

namespace Json

/-- A list or an object. -/
def IsNested (v : Json) : Prop := (∃ vs, v = .arr vs) ∨ ∃ ms, v = .obj ms

def isText : Json → Bool
  | .str _ | .unpaired _ _ => true
  | _ => false

end Json

namespace Region
variable {r : Region} {titles : Titles}

theorem key?_eq_none_iff {v : Json} : key? v = none ↔ v.IsNested := by
  cases v <;> simp [key?, Json.IsNested]

theorem exists_key?_iff {v : Json} : (∃ k, key? v = some k) ↔ ¬ v.IsNested := by
  rw [← key?_eq_none_iff, ← Ne, Option.ne_none_iff_exists']

/-- A region whose dialogue is looked for: it is of that kind and names a level and a node. -/
structure Refers (r : Region) : Prop where
  kind : r.hasKind "dialogue" = true
  level : isBlank r.level = false
  node : isBlank r.dialogueNode = false

/-- What it takes to look the dialogue up: the level is no list or object, and where there is a
script for it, the node is none either. -/
def Findable (titles : Titles) (r : Region) : Prop :=
  ∃ k, key? r.level = some k ∧ ∀ known, titles.lookup k = some known → ¬ r.dialogueNode.IsNested

theorem exists_targetErrors_iff : (∃ es, r.targetErrors titles = .ok es) ↔ r.Findable titles := by
  rw [targetErrors, Findable]
  cases key? r.level with
  | none => simp
  | some k =>
    simp only [Option.some.injEq, exists_eq_left', ← exists_key?_iff]
    cases titles.lookup k with
    | none => simp
    | some known =>
      simp only [Option.some.injEq, forall_eq']
      cases key? r.dialogueNode with
      | none => simp
      | some node =>
        refine ⟨fun _ => ⟨node, rfl⟩, fun _ => ?_⟩
        dsimp only
        split_ifs <;> exact ⟨_, rfl⟩

/-- A region is checked to the end unless its dialogue cannot be looked up. -/
theorem exists_errors_iff :
    (∃ es, r.errors titles = .ok es) ↔ (r.Refers → r.Findable titles) := by
  have hkinds : (∃ es, r.errors titles = .ok es) ↔ ∃ es, r.kindErrors titles = .ok es := by
    rw [errors]
    cases r.kindErrors titles <;> simp [Except.map]
  have hends : ∀ {es : Except Failure (List String)}, (∃ found, es = .ok found) → ¬ r.Refers →
      ((∃ found, es = .ok found) ↔ (r.Refers → r.Findable titles)) :=
    fun hes hfree => iff_of_true hes fun h => absurd h hfree
  rw [hkinds, kindErrors]
  by_cases hkind : r.hasKind "dialogue" = true
  · rw [if_pos hkind, dialogueErrors]
    by_cases hnode : isBlank r.dialogueNode = true
    · rw [if_pos hnode]
      exact hends ⟨_, rfl⟩ fun h => Bool.false_ne_true (h.node.symm.trans hnode)
    rw [if_neg hnode]
    by_cases hlevel : isBlank r.level = true
    · rw [if_pos hlevel]
      exact hends ⟨_, rfl⟩ fun h => Bool.false_ne_true (h.level.symm.trans hlevel)
    rw [if_neg hlevel, exists_targetErrors_iff]
    have hrefers : r.Refers :=
      ⟨hkind, Bool.eq_false_of_not_eq_true hlevel, Bool.eq_false_of_not_eq_true hnode⟩
    exact ⟨fun h _ => h, fun h => h hrefers⟩
  · rw [if_neg hkind]
    refine hends ?_ fun h => hkind h.kind
    split_ifs <;> exact ⟨_, rfl⟩

end Region

namespace Rooms
open Region
variable {rooms : Rooms} {t : FileTree} {cwd : Place} {root : Path} {ls : List Level}

/-- The regions that name a level. -/
def named (rooms : Rooms) : List Region := (rooms.flatMap (·.2)).filter fun r => !isBlank r.level

/-- The name that the script of a level goes by: the level as it is written where it is named first,
for equal levels may be written differently. -/
def scriptName? (rooms : Rooms) (k : Key) : Option String :=
  (rooms.named.find? fun r => key? r.level == some k).map (·.level.display)

/-- The level of a region, if it can be looked up. -/
def level? (r : Region) : Option Level := (key? r.level).map (·, r.level.display)

/-- The first of the levels of each key. -/
def firsts (ls : List Level) : List Level :=
  ls.foldl (fun ls l => if ls.any (·.1 == l.1) then ls else ls ++ [l]) []

theorem exists_levelOf_iff {r : Region} :
    (∃ o, levelOf r = .ok o) ↔ (isBlank r.level = false → ¬ r.level.IsNested) := by
  rw [levelOf, ← exists_key?_iff]
  cases isBlank r.level with
  | true => simp
  | false => cases key? r.level <;> simp

theorem eq_of_levelOf {r : Region} {o : Option Level} (h : levelOf r = .ok o) :
    o = if !isBlank r.level then level? r else none := by
  rw [levelOf] at h
  rw [level?]
  cases hblank : isBlank r.level with
  | true =>
    rw [hblank, if_pos rfl] at h
    exact (Except.ok.inj h).symm
  | false =>
    rw [hblank, if_neg Bool.false_ne_true] at h
    cases hkey : key? r.level with
    | none => rw [hkey] at h; cases h
    | some k => rw [hkey] at h; exact (Except.ok.inj h).symm

/-- The levels can be listed unless one is a list or an object, and then they are the first of each
key. -/
theorem levels_eq_ok_iff : rooms.levels = .ok ls ↔
    (∀ r ∈ rooms.named, ¬ r.level.IsNested) ∧ ls = firsts (rooms.named.filterMap level?) := by
  have hscalar : (∀ r ∈ rooms.named, ¬ r.level.IsNested) ↔
      ∃ os, (rooms.flatMap (·.2)).mapM levelOf = .ok os := by
    simp only [exists_mapM_eq_ok_iff, exists_levelOf_iff, named, List.mem_filter,
      Bool.not_eq_true', and_imp]
  have hlisted : ∀ os, (rooms.flatMap (·.2)).mapM levelOf = .ok os →
      os.filterMap id = rooms.named.filterMap level? := by
    intro os hos
    rw [eq_map_of_mapM_eq_ok (fun _ _ => eq_of_levelOf) hos, List.filterMap_map, named,
      List.filterMap_filter]
    rfl
  rw [hscalar, levels]
  cases hos : (rooms.flatMap (·.2)).mapM levelOf with
  | error f => simp [bind, Except.bind]
  | ok os =>
    rw [← hlisted os hos]
    exact ⟨fun h => ⟨⟨os, rfl⟩, (Except.ok.inj h).symm⟩, fun h => congrArg Except.ok h.2.symm⟩

theorem mem_foldl_firsts {acc : List Level} {l : Level} :
    l ∈ ls.foldl (fun ls l => if ls.any (·.1 == l.1) then ls else ls ++ [l]) acc ↔
      l ∈ acc ∨ (∀ y ∈ acc, y.1 ≠ l.1) ∧ ls.find? (·.1 == l.1) = some l := by
  induction ls generalizing acc with
  | nil => simp
  | cons x ls ih =>
    rw [List.foldl_cons, ih, List.find?_cons]
    -- A level with the key of `l` hides `l` from here on, whether it was listed before or is now.
    by_cases hx : x.1 = l.1
    · rw [beq_iff_eq.mpr hx]
      by_cases hacc : acc.any (·.1 == x.1) = true
      · obtain ⟨y, hy, hyx⟩ := List.any_eq_true.mp hacc
        have hknown : ¬ ∀ y ∈ acc, y.1 ≠ l.1 := fun h => h y hy ((beq_iff_eq.mp hyx).trans hx)
        simp only [if_pos hacc, hknown, false_and]
      · have hnew : ∀ y ∈ acc, y.1 ≠ l.1 := by
          intro y hy hyl
          exact hacc (List.any_eq_true.mpr ⟨y, hy, beq_iff_eq.mpr (hyl.trans hx.symm)⟩)
        have hlast : ¬ ∀ y ∈ acc ++ [x], y.1 ≠ l.1 := fun h => h x (by simp) hx
        rw [if_neg hacc, List.mem_append, List.mem_singleton, or_iff_left fun h => hlast h.1,
          and_iff_right hnew, Option.some_inj, eq_comm (a := x)]
    · rw [beq_eq_false_iff_ne.mpr hx]
      have hne : l ≠ x := fun h => hx (h ▸ rfl)
      split_ifs
      · rfl
      · rw [List.mem_append, List.mem_singleton, or_iff_left hne, List.forall_mem_append,
          List.forall_mem_singleton, and_iff_left hx]

theorem mem_firsts_iff {k : Key} {name : String} :
    (k, name) ∈ firsts (rooms.named.filterMap level?) ↔ rooms.scriptName? k = some name := by
  have hkey : ∀ r : Region, (level? r).any (·.1 == k) = (key? r.level == some k) := by
    intro r
    rw [level?]
    cases key? r.level <;> rfl
  rw [firsts, mem_foldl_firsts, List.find?_filterMap, scriptName?, funext hkey]
  cases hfound : rooms.named.find? fun r => key? r.level == some k with
  | none => simp
  | some r =>
    have hr : key? r.level = some k := beq_iff_eq.mp (List.find?_some hfound :)
    simp [level?, hr]

theorem exists_scriptName?_iff {k : Key} :
    (∃ name, rooms.scriptName? k = some name) ↔ ∃ r ∈ rooms.named, key? r.level = some k := by
  simp only [scriptName?, Option.map_eq_some_iff, exists_comm (α := String), exists_eq_right',
    ← Option.isSome_iff_exists, List.find?_isSome, beq_iff_eq]

theorem mem_named_of_scriptName? {k : Key} {name : String} (h : rooms.scriptName? k = some name) :
    ∃ r ∈ rooms.named, key? r.level = some k ∧ r.level.display = name := by
  obtain ⟨r, hr, hname⟩ := Option.map_eq_some_iff.mp h
  exact ⟨r, List.mem_of_find?_eq_some hr, beq_iff_eq.mp (List.find?_some hr :), hname⟩

theorem isText_eq {v : Json} {k : Key} (hk : key? v = some k) (name : String) :
    isText (k, name) = v.isText := by
  cases v <;> cases hk <;> rfl

/-- The listed levels are texts, or are none, where the levels that the regions name are. -/
theorem forall_firsts_isText_iff (hscalar : ∀ r ∈ rooms.named, ¬ r.level.IsNested) {b : Bool} :
    (∀ l ∈ firsts (rooms.named.filterMap level?), isText l = b) ↔
      ∀ r ∈ rooms.named, r.level.isText = b := by
  constructor
  · intro h r hr
    obtain ⟨k, hk⟩ := exists_key?_iff.mpr (hscalar r hr)
    obtain ⟨name, hname⟩ := exists_scriptName?_iff.mpr ⟨r, hr, hk⟩
    exact (isText_eq hk name).symm.trans (h (k, name) (mem_firsts_iff.mpr hname))
  · rintro h ⟨k, name⟩ hl
    obtain ⟨r, hr, hk⟩ := exists_scriptName?_iff.mp ⟨name, mem_firsts_iff.mp hl⟩
    exact (isText_eq hk name).trans (h r hr)

theorem sortLevels_eq_ok_iff {sorted : List Level} : sortLevels ls = .ok sorted ↔
    ((∀ l ∈ ls, isText l = true) ∨ ∀ l ∈ ls, isText l = false) ∧
      ls.mergeSort levelLe = sorted := by
  simp only [sortLevels, Bool.or_eq_true, List.all_eq_true, Bool.not_eq_true']
  split_ifs with h
  · rw [Except.ok.injEq, and_iff_right h]
  · exact iff_of_false nofun fun hsorted => h hsorted.1

section Scripts
variable {name : String} {k : Key} {ts : Titles}

/-- Where the script of a level is looked for. -/
def scriptPath (root : Path) (name : String) : Path := root.child (name ++ ".gab")

/-- There is nothing at the path, or there is a text. -/
def Readable (t : FileTree) (cwd : Place) (p : Path) : Prop :=
  (∀ e, t.stat cwd p.text ≠ .ok e) ∨ ∃ text, t.readText cwd p = .ok text

/-- A script is there with its titles, or it is missing, or its name is too long. -/
theorem levelTitles_cases (h : Readable t cwd (scriptPath root name)) :
    (∃ e known, t.stat cwd (scriptPath root name).text = .ok e ∧
      levelTitles t cwd root name = .ok (some known)) ∨
    (∃ f, f ≠ .nameTooLong ∧ t.stat cwd (scriptPath root name).text = .error f ∧
      levelTitles t cwd root name = .ok none) ∨
    t.stat cwd (scriptPath root name).text = .error .nameTooLong ∧
      ∃ f, levelTitles t cwd root name = .error f := by
  unfold levelTitles FileTree.isThere
  rw [← scriptPath]
  cases hstat : t.stat cwd (scriptPath root name).text with
  | error f => cases f <;> simp [hstat]
  | ok e =>
    obtain hmissing | ⟨text, htext⟩ := h
    · exact absurd hstat (hmissing e)
    · simp [hstat, htext]

theorem exists_levelTitles_iff (h : Readable t cwd (scriptPath root name)) :
    (∃ o, levelTitles t cwd root name = .ok o) ↔
      t.stat cwd (scriptPath root name).text ≠ .error .nameTooLong := by
  rcases levelTitles_cases h with ⟨e, known, hstat, htitles⟩ | ⟨f, hf, hstat, htitles⟩ |
    ⟨hstat, f, htitles⟩
  · simp [hstat, htitles]
  · simp [hstat, htitles, hf]
  · simp [hstat, htitles]

theorem exists_levelTitles_some_iff (h : Readable t cwd (scriptPath root name)) :
    (∃ known, levelTitles t cwd root name = .ok (some known)) ↔
      ∃ e, t.stat cwd (scriptPath root name).text = .ok e := by
  rcases levelTitles_cases h with ⟨e, known, hstat, htitles⟩ | ⟨f, -, hstat, htitles⟩ |
    ⟨hstat, f, htitles⟩ <;> simp [hstat, htitles]

theorem titles_nil : titles t cwd root [] = .ok [] := rfl

section
-- Opened here, the path of a script would be computed from characters that are not known.
attribute [local irreducible] levelTitles

theorem titles_cons {l : Level} : titles t cwd root (l :: ls) =
    match levelTitles t cwd root l.2 with
    | .error f => .error f
    | .ok found =>
      match titles t cwd root ls with
      | .error f => .error f
      | .ok rest => .ok ((found.map (l.1, ·)).toList ++ rest) := by rfl

end

theorem titles_cons_eq_ok_iff {l : Level} : titles t cwd root (l :: ls) = .ok ts ↔
    ∃ found rest, levelTitles t cwd root l.2 = .ok found ∧ titles t cwd root ls = .ok rest ∧
      ts = (found.map (l.1, ·)).toList ++ rest := by
  rw [titles_cons]
  cases levelTitles t cwd root l.2 with
  | error f => simp
  | ok found => cases titles t cwd root ls <;> simp [eq_comm]

theorem exists_titles_iff : (∃ ts, titles t cwd root ls = .ok ts) ↔
    ∀ l ∈ ls, ∃ o, levelTitles t cwd root l.2 = .ok o := by
  induction ls with
  | nil => simp [titles_nil]
  | cons l ls ih =>
    rw [List.forall_mem_cons, ← ih]
    simp only [titles_cons_eq_ok_iff]
    constructor
    · rintro ⟨_, found, rest, hfound, hrest, rfl⟩
      exact ⟨⟨found, hfound⟩, rest, hrest⟩
    · rintro ⟨⟨found, hfound⟩, rest, hrest⟩
      exact ⟨_, found, rest, hfound, hrest, rfl⟩

theorem exists_lookup_iff (h : titles t cwd root ls = .ok ts) :
    (∃ known, ts.lookup k = some known) ↔
      ∃ name, (k, name) ∈ ls ∧ ∃ known, levelTitles t cwd root name = .ok (some known) := by
  induction ls generalizing ts with
  | nil =>
    obtain rfl := Except.ok.inj h
    simp
  | cons l ls ih =>
    obtain ⟨found, rest, hfound, hrest, rfl⟩ := titles_cons_eq_ok_iff.mp h
    obtain ⟨k', shown⟩ := l
    cases found with
    | none => simp [ih hrest, or_and_right, exists_or, hfound]
    | some known =>
      by_cases hk : k = k'
      · subst hk
        refine iff_of_true ⟨known, ?_⟩ ⟨shown, List.mem_cons_self, known, hfound⟩
        simp
      · have hnext : ((some known).map (k', ·)).toList ++ rest = (k', known) :: rest := rfl
        rw [hnext, List.lookup_cons, beq_eq_false_iff_ne.mpr hk]
        simp [ih hrest, hk]

end Scripts

theorem exists_findings_iff {ts : Titles} : (∃ found, rooms.findings ts = .ok found) ↔
    ∀ r ∈ rooms.flatMap (·.2), ∃ es, r.errors ts = .ok es := by
  rw [findings, exists_mapM_bind_pure_eq_ok_iff]
  have hregions : rooms.flatMap (·.2) = (rooms.flatMap fun x => x.2.zipIdx.map fun y =>
      (location x.1 y.2, y.1)).map (·.2) := by
    simp [List.map_flatMap, List.zipIdx_map_fst, Function.comp_def]
  rw [hregions, List.forall_mem_map]
  refine forall₂_congr fun x _ => ?_
  cases hes : x.2.errors ts <;> simp [hes]

theorem exists_check_iff : (∃ found, rooms.check t cwd root = .ok found) ↔
    ∃ ls sorted ts, rooms.levels = .ok ls ∧ sortLevels ls = .ok sorted ∧
      titles t cwd root sorted = .ok ts ∧ ∃ found, rooms.findings ts = .ok found := by
  rw [check]
  cases hls : rooms.levels with
  | error f => simp [bind, Except.bind]
  | ok ls =>
    cases hsorted : sortLevels ls with
    | error f => simp [bind, Except.bind, hsorted]
    | ok sorted =>
      cases hts : titles t cwd root sorted with
      | error f => simp [bind, Except.bind, hsorted, hts]
      | ok ts => simp [bind, Except.bind, hsorted, hts]

/-- What a check needs of the regions, where the scripts can be read: the levels are no lists or
objects, and all of them texts or none; no name of a script is too long for a file; and a node that
is looked for in a script is no list or object. -/
structure Checkable (rooms : Rooms) (t : FileTree) (cwd : Place) (root : Path) : Prop where
  scalar : ∀ r ∈ rooms.named, ¬ r.level.IsNested
  alike : (∀ r ∈ rooms.named, r.level.isText = true) ∨ ∀ r ∈ rooms.named, r.level.isText = false
  short : ∀ k name, rooms.scriptName? k = some name →
    t.stat cwd (scriptPath root name).text ≠ .error .nameTooLong
  node : ∀ r ∈ rooms.flatMap (·.2), r.Refers → ∀ k name e, key? r.level = some k →
    rooms.scriptName? k = some name → t.stat cwd (scriptPath root name).text = .ok e →
    ¬ r.dialogueNode.IsNested

section Checks
variable (hscripts : ∀ k name, rooms.scriptName? k = some name →
  Readable t cwd (scriptPath root name))
include hscripts

theorem findable_iff {ts : Titles} {r : Region} (hls : ∀ k name, (k, name) ∈ ls ↔
    rooms.scriptName? k = some name) (hts : titles t cwd root ls = .ok ts) :
    r.Findable ts ↔ ∃ k, key? r.level = some k ∧ ∀ name e, rooms.scriptName? k = some name →
      t.stat cwd (scriptPath root name).text = .ok e → ¬ r.dialogueNode.IsNested := by
  refine exists_congr fun k => and_congr_right fun _ => ?_
  constructor
  · intro h name e hname he
    have hknown := (exists_levelTitles_some_iff (hscripts k name hname)).mpr ⟨e, he⟩
    obtain ⟨known, hlookup⟩ := (exists_lookup_iff hts).mpr ⟨name, (hls k name).mpr hname, hknown⟩
    exact h known hlookup
  · intro h known hlookup
    obtain ⟨name, hl, hknown⟩ := (exists_lookup_iff hts).mp ⟨known, hlookup⟩
    have hname := (hls k name).mp hl
    obtain ⟨e, he⟩ := (exists_levelTitles_some_iff (hscripts k name hname)).mp hknown
    exact h name e hname he

/-- Rooms can be checked, the scripts being readable, exactly as far as their regions can. -/
theorem exists_check_iff_checkable :
    (∃ found, rooms.check t cwd root = .ok found) ↔ rooms.Checkable t cwd root := by
  have hsorted : ∀ k name, (k, name) ∈ (firsts (rooms.named.filterMap level?)).mergeSort levelLe ↔
      rooms.scriptName? k = some name := fun k name => by rw [List.mem_mergeSort, mem_firsts_iff]
  rw [exists_check_iff]
  constructor
  · rintro ⟨ls, sorted, ts, hls, hsort, hts, hfound⟩
    obtain ⟨hscalar, rfl⟩ := levels_eq_ok_iff.mp hls
    obtain ⟨halike, rfl⟩ := sortLevels_eq_ok_iff.mp hsort
    simp only [forall_firsts_isText_iff hscalar] at halike
    refine ⟨hscalar, halike, fun k name hname => ?_, fun r hr hrefers k name e hk hname he => ?_⟩
    · exact (exists_levelTitles_iff (hscripts k name hname)).mp
        (exists_titles_iff.mp ⟨ts, hts⟩ (k, name) ((hsorted k name).mpr hname))
    · have hfindable := exists_errors_iff.mp (exists_findings_iff.mp hfound r hr) hrefers
      obtain ⟨k', hk', hnode⟩ := (findable_iff hscripts hsorted hts).mp hfindable
      obtain rfl : k = k' := Option.some.inj (hk.symm.trans hk')
      exact hnode name e hname he
  · rintro ⟨hscalar, halike, hshort, hnode⟩
    simp only [← forall_firsts_isText_iff hscalar] at halike
    obtain ⟨ts, hts⟩ : ∃ ts, titles t cwd root
        ((firsts (rooms.named.filterMap level?)).mergeSort levelLe) = .ok ts := by
      refine exists_titles_iff.mpr fun ⟨k, name⟩ hl => ?_
      have hname := (hsorted k name).mp hl
      exact (exists_levelTitles_iff (hscripts k name hname)).mpr (hshort k name hname)
    refine ⟨_, _, ts, levels_eq_ok_iff.mpr ⟨hscalar, rfl⟩, sortLevels_eq_ok_iff.mpr ⟨halike, rfl⟩,
      hts, exists_findings_iff.mpr fun r hr => exists_errors_iff.mpr fun hrefers => ?_⟩
    have hnamed : r ∈ rooms.named := List.mem_filter.mpr ⟨hr, by rw [hrefers.level]; rfl⟩
    obtain ⟨k, hk⟩ := exists_key?_iff.mpr (hscalar r hnamed)
    exact (findable_iff hscripts hsorted hts).mpr
      ⟨k, hk, fun name e => hnode r hr hrefers k name e hk⟩

/-- Rooms whose scripts are missing or can be read are checked to the end exactly if they are
checkable; a region is, against whatever scripts, exactly if it refers to no dialogue or to one that
can be looked up. -/
theorem check_returns_iff :
    ((∃ found, rooms.check t cwd root = .ok found) ↔ rooms.Checkable t cwd root) ∧
    ∀ ts : Titles, ∀ r ∈ rooms.flatMap (·.2),
      (∃ es, r.errors ts = .ok es) ↔ (r.Refers → r.Findable ts) :=
  ⟨exists_check_iff_checkable hscripts, fun _ _ _ => exists_errors_iff⟩

end Checks

private def hallText : String := "title: Desk\n---\nNobody is here.\n==="

/-- A hall with a desk to talk to. -/
private def hall : Region where
  x := .int 1
  y := .int 1
  width := .int 4
  height := .int 4
  kind := .str "dialogue"
  level := .str "hall"
  dialogueNode := .str "Desk"
  item := .null
  args := .null

private def hallTree : FileTree := ⟨[(["hall.gab"], .file hallText.toUTF8)]⟩

private theorem locate_hall :
    hallTree.locate [] (scriptPath (.ofString ".") hall.level.display).text = .ok ["hall.gab"] := by
  decide +kernel

private theorem readable_hall (k : Key) (name : String)
    (h : scriptName? [("hall", [hall])] k = some name) :
    Readable hallTree [] (scriptPath (.ofString ".") name) := by
  obtain ⟨r, hr, -, rfl⟩ := mem_named_of_scriptName? h
  obtain rfl := List.mem_singleton.mp (List.mem_of_mem_filter hr)
  have hfile : hallTree.entry? ["hall.gab"] = some (.file hallText.toUTF8) := rfl
  exact .inr ⟨_, FileTree.readText_of_file locate_hall hfile⟩

/-- The hall is checked, and so is its region against no script at all. -/
theorem check_returns_hall :
    (∀ k name, scriptName? [("hall", [hall])] k = some name →
      Readable hallTree [] (scriptPath (.ofString ".") name)) ∧
    (∃ found, check [("hall", [hall])] hallTree [] (.ofString ".") = .ok found) ∧
    ∃ es, hall.errors [] = .ok es := by
  have hnamed : ∀ r ∈ named [("hall", [hall])], r = hall := fun r hr =>
    List.mem_singleton.mp (List.mem_of_mem_filter hr)
  refine ⟨readable_hall, (check_returns_iff readable_hall).1.mpr ⟨?_, .inl ?_, ?_, ?_⟩,
    ((check_returns_iff readable_hall).2 [] hall (List.mem_singleton_self _)).mpr fun _ => ?_⟩
  · intro r hr
    rw [hnamed r hr]
    exact exists_key?_iff.mp ⟨_, rfl⟩
  · intro r hr
    rw [hnamed r hr]
    rfl
  · intro k name hname
    obtain ⟨r, hr, -, rfl⟩ := mem_named_of_scriptName? hname
    rw [hnamed r hr, FileTree.stat, locate_hall]
    intro h
    cases h
  · intro r hr _ k name e _ _ _
    rw [List.mem_singleton.mp hr]
    exact exists_key?_iff.mp ⟨_, rfl⟩
  · refine ⟨_, rfl, fun known hknown => ?_⟩
    cases hknown

private def listedText : String :=
  "\x7b\"hall\": [\x7b\"x\": 1, \"y\": 1, \"width\": 4, \"height\": 4, \"args\": \"look\", " ++
    "\"level\": [\"hall\"]\x7d]\x7d"

/-- A corner of the hall whose level is a list. -/
private def listed : Region where
  x := .int 1
  y := .int 1
  width := .int 4
  height := .int 4
  kind := .str "none"
  level := .arr [.str "hall"]
  dialogueNode := .null
  item := .null
  args := .str "look"

/-- Its room is loaded, and there is no script that could not be read; yet it cannot be checked. -/
theorem check_fails_listed : Rooms.ofText "rooms.json" listedText = .ok [("hall", [listed])] ∧
    (∀ e, FileTree.stat ⟨[]⟩ [] (scriptPath (.ofString ".") listed.level.display).text ≠ .ok e) ∧
    check [("hall", [listed])] ⟨[]⟩ [] (.ofString ".") = .error (.region .unhashable) := by
  have hlocated : FileTree.locate ⟨[]⟩ [] (scriptPath (.ofString ".") listed.level.display).text =
      .ok ["['hall'].gab"] := by decide +kernel
  have hread : Json.read listedText = .ok (.obj [("hall", .arr [.obj [("x", .int 1), ("y", .int 1),
      ("width", .int 4), ("height", .int 4), ("args", .str "look"),
      ("level", .arr [.str "hall"])]])]) := by cbv
  refine ⟨?_, fun e he => ?_, rfl⟩
  · rw [Rooms.ofText, hread]
    rfl
  · rw [FileTree.stat, hlocated] at he
    cases he

end Rooms
end Dialogue
