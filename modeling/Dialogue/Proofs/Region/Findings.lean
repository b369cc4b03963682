import Dialogue.Proofs.Region.Checking
import Dialogue.Proofs.Table
import Dialogue.Proofs.Text.Integer
import Dialogue.Proofs.Text.Match

/-! Findings: a check has an entry for every region with problems, under a location that no other
region has, and no other entry. -/
namespace Dialogue.Rooms
open Region
variable {rooms : Rooms} {t : FileTree} {cwd : Place} {root : Path} {ls : List Level} {ts : Titles}
  {found : Table (List String)}

section Locations
variable {room room' : String} {i i' : Nat}

theorem toList_location (room : String) (i : Nat) :
    (location room i).toList = room.toList ++ '[' :: (i.repr.toList ++ [']']) := by
  have htext : location room i = room ++ "[" ++ i.repr ++ "]" := rfl
  simp [htext]

theorem not_mem_index (i : Nat) : '[' ∉ i.repr.toList ++ [']'] := by
  intro hmem
  rcases List.mem_append.mp hmem with hdigit | hclose
  · have := Text.isDigit_of_mem_repr hdigit
    simp [Char.isDigit] at this
  · simp at hclose

/-- The last opening bracket of a location ends the name of the room, whatever the name. -/
theorem location_inj : location room i = location room' i' ↔ room = room' ∧ i = i' := by
  constructor
  · intro h
    have hchars : room.toList ++ '[' :: (i.repr.toList ++ [']']) =
        room'.toList ++ '[' :: (i'.repr.toList ++ [']']) := by
      rw [← toList_location, ← toList_location, h]
    obtain ⟨hroom, hindex⟩ := Text.eq_of_append_mark (not_mem_index i) (not_mem_index i') hchars
    have hdigits : Nat.toDigits 10 i = Nat.toDigits 10 i' := by
      simpa only [Nat.toList_repr] using List.append_cancel_right hindex
    have hvalue := congrArg (Nat.ofDigitChars 10 · 0) hdigits
    simp only [Nat.ofDigitChars_ten_toDigits] at hvalue
    exact ⟨String.toList_injective hroom, hvalue⟩
  · rintro ⟨rfl, rfl⟩
    rfl

end Locations

/-- A region that stands in a room with a number. -/
def Stands (rooms : Rooms) (room : String) (i : Nat) (r : Region) : Prop :=
  ∃ rs, (room, rs) ∈ rooms ∧ rs[i]? = some r

theorem Stands.mem {room : String} {i : Nat} {r : Region} (h : rooms.Stands room i r) :
    r ∈ rooms.flatMap (·.2) := by
  obtain ⟨rs, hroom, hr⟩ := h
  exact List.mem_flatMap.mpr ⟨(room, rs), hroom, List.mem_of_getElem? hr⟩

theorem Stands.unique (hrooms : rooms.keys.Nodup) {room : String} {i : Nat} {r r' : Region}
    (h : rooms.Stands room i r) (h' : rooms.Stands room i r') : r = r' := by
  obtain ⟨rs, hroom, hr⟩ := h
  obtain ⟨rs', hroom', hr'⟩ := h'
  have hrs := (Table.get?_eq_some_iff hrooms).mpr hroom
  rw [(Table.get?_eq_some_iff hrooms).mpr hroom', Option.some.injEq] at hrs
  subst hrs
  exact Option.some.inj (hr.symm.trans hr')

/-- The regions of all rooms with their locations. -/
def located (rooms : Rooms) : List (String × Region) :=
  rooms.flatMap fun (room, rs) => rs.zipIdx.map fun (r, i) => (location room i, r)

theorem mem_located_iff {place : String} {r : Region} :
    (place, r) ∈ rooms.located ↔ ∃ room i, rooms.Stands room i r ∧ place = location room i := by
  simp only [located, List.mem_flatMap, List.mem_map, Prod.exists, Prod.mk.injEq]
  constructor
  · rintro ⟨room, rs, hroom, r', i, hr, rfl, rfl⟩
    exact ⟨room, i, ⟨rs, hroom, List.mk_mem_zipIdx_iff_getElem?.mp hr⟩, rfl⟩
  · rintro ⟨room, i, ⟨rs, hroom, hr⟩, rfl⟩
    exact ⟨room, rs, hroom, r, i, List.mk_mem_zipIdx_iff_getElem?.mpr hr, rfl, rfl⟩

/-- In rooms of different names no two regions have one location. -/
theorem nodup_located (h : rooms.keys.Nodup) : (rooms.located.map (·.1)).Nodup := by
  have hplaces : rooms.located.map (·.1) =
      rooms.flatMap fun x => x.2.zipIdx.map fun y => location x.1 y.2 := by
    simp [located, List.map_flatMap, Function.comp_def]
  rw [hplaces, List.nodup_flatMap]
  constructor
  · intro x _
    have hindices : (x.2.zipIdx.map (·.2)).Nodup := by
      rw [List.zipIdx_map_snd]
      exact List.nodup_range'
    have hmap : x.2.zipIdx.map (fun y => location x.1 y.2) =
        (x.2.zipIdx.map (·.2)).map (location x.1) := by
      rw [List.map_map]
      rfl
    rw [hmap]
    exact hindices.map fun i i' hi => (location_inj.mp hi).2
  · have hnames : rooms.Pairwise fun x y => x.1 ≠ y.1 := List.pairwise_map.mp h
    apply hnames.imp
    intro x y hxy place hx hy
    obtain ⟨_, -, rfl⟩ := List.mem_map.mp hx
    obtain ⟨_, -, heq⟩ := List.mem_map.mp hy
    exact hxy (location_inj.mp heq.symm).1

section Scripts
variable {k : Key} {known : List String}

theorem levelTitles_eq_some_iff {name : String} :
    levelTitles t cwd root name = .ok (some known) ↔
      t.isThere cwd (scriptPath root name) = .ok true ∧
      ∃ text, t.readText cwd (scriptPath root name) = .ok text ∧
        known = (Script.read text).1.titles := by
  unfold levelTitles
  rw [← scriptPath]
  cases hthere : t.isThere cwd (scriptPath root name) with
  | error e => simp [hthere]
  | ok b =>
    cases b with
    | false => simp [hthere]
    | true =>
      cases htext : t.readText cwd (scriptPath root name) with
      | error f => simp [hthere, htext]
      | ok text => simp [hthere, htext, eq_comm]

/-- Under a key that stands once among the levels, the titles of its script are found. -/
theorem lookup_titles_iff (hls : ∀ k n n', (k, n) ∈ ls → (k, n') ∈ ls → n = n')
    (h : titles t cwd root ls = .ok ts) : ts.lookup k = some known ↔
      ∃ name, (k, name) ∈ ls ∧ levelTitles t cwd root name = .ok (some known) := by
  induction ls generalizing ts with
  | nil =>
    obtain rfl := Except.ok.inj h
    simp
  | cons l ls ih =>
    obtain ⟨o, rest, ho, hrest, rfl⟩ := titles_cons_eq_ok_iff.mp h
    obtain ⟨k', shown⟩ := l
    have htail := ih (fun k n n' hn hn' =>
      hls k n n' (List.mem_cons_of_mem _ hn) (List.mem_cons_of_mem _ hn')) hrest
    cases o with
    | none => simp [htail, or_and_right, exists_or, ho]
    | some titles =>
      have hnext : ((some titles).map (k', ·)).toList ++ rest = (k', titles) :: rest := rfl
      rw [hnext, List.lookup_cons]
      by_cases hk : k = k'
      · subst hk
        rw [beq_self_eq_true]
        constructor
        · intro hknown
          exact ⟨shown, List.mem_cons_self, ho.trans (congrArg Except.ok hknown)⟩
        · rintro ⟨name, hname, hknown⟩
          obtain rfl := hls k name shown hname List.mem_cons_self
          exact Except.ok.inj (ho.symm.trans hknown)
      · rw [beq_eq_false_iff_ne.mpr hk]
        simp [htail, hk]

/-- Titles as they are found: under each level that a region names and that has a script, the titles
of its script, and nothing else. -/
def TitlesFound (rooms : Rooms) (t : FileTree) (cwd : Place) (root : Path) (ts : Titles) : Prop :=
  ∀ k known, ts.lookup k = some known ↔ ∃ name text, rooms.scriptName? k = some name ∧
    t.isThere cwd (scriptPath root name) = .ok true ∧
    t.readText cwd (scriptPath root name) = .ok text ∧ known = (Script.read text).1.titles

/-- A check that ends with findings has looked up the titles of all levels. -/
theorem titlesFound_of_check (h : rooms.check t cwd root = .ok found) :
    ∃ ts, rooms.TitlesFound t cwd root ts ∧ rooms.findings ts = .ok found := by
  unfold check at h
  cases hlevels : rooms.levels with
  | error f => simp [hlevels, bind, Except.bind] at h
  | ok ls =>
    cases hsort : sortLevels ls with
    | error f => simp [hlevels, hsort, bind, Except.bind] at h
    | ok sorted =>
      cases htitles : titles t cwd root sorted with
      | error f => simp [hlevels, hsort, htitles, bind, Except.bind] at h
      | ok ts =>
        simp only [hlevels, hsort, htitles, bind, Except.bind] at h
        refine ⟨ts, ?_, h⟩
        obtain ⟨-, rfl⟩ := levels_eq_ok_iff.mp hlevels
        obtain ⟨-, rfl⟩ := sortLevels_eq_ok_iff.mp hsort
        have hsorted : ∀ k name, (k, name) ∈ (firsts (rooms.named.filterMap level?)).mergeSort
            levelLe ↔ rooms.scriptName? k = some name := fun k name => by
          rw [List.mem_mergeSort, mem_firsts_iff]
        intro k known
        rw [lookup_titles_iff _ htitles]
        · simp only [hsorted, levelTitles_eq_some_iff, exists_and_left]
        · intro k n n' hn hn'
          exact Option.some.inj (((hsorted k n).mp hn).symm.trans ((hsorted k n').mp hn'))

end Scripts

/-- The problems of a region, or none if it cannot be checked. -/
def problems (ts : Titles) (r : Region) : List String := (r.errors ts).toOption.getD []

theorem problems_eq {r : Region} {es : List String} (h : r.errors ts = .ok es) :
    problems ts r = es := by
  rw [problems, h]
  rfl

/-- The problems of all regions that have some, in the order of the regions. -/
def troubled (rooms : Rooms) (ts : Titles) : Table (List String) :=
  (rooms.located.map fun x => (x.1, problems ts x.2)).filter fun e => !e.2.isEmpty

theorem nodup_keys_troubled (h : rooms.keys.Nodup) (ts : Titles) :
    (rooms.troubled ts).keys.Nodup := by
  have hplaces : (rooms.located.map fun x => (x.1, problems ts x.2)).map Prod.fst =
      rooms.located.map (·.1) := List.map_map
  apply (List.filter_sublist.map Prod.fst).nodup
  rw [hplaces]
  exact nodup_located h

theorem mem_troubled_iff {e : String × List String} : e ∈ rooms.troubled ts ↔
    ∃ room i r, rooms.Stands room i r ∧ e = (location room i, problems ts r) ∧
      problems ts r ≠ [] := by
  rw [troubled, List.mem_filter, List.mem_map]
  constructor
  · rintro ⟨⟨⟨place, r⟩, hmem, rfl⟩, hproblems⟩
    obtain ⟨room, i, hstands, rfl⟩ := mem_located_iff.mp hmem
    exact ⟨room, i, r, hstands, rfl, by simpa using hproblems⟩
  · rintro ⟨room, i, r, hstands, rfl, hproblems⟩
    have hmem := mem_located_iff.mpr ⟨room, i, hstands, rfl⟩
    exact ⟨⟨_, hmem, rfl⟩, by simpa using hproblems⟩

theorem findings_eq_troubled (hrooms : rooms.keys.Nodup) (h : rooms.findings ts = .ok found) :
    found = rooms.troubled ts := by
  unfold findings at h
  obtain ⟨es, hmapped, rfl⟩ := mapM_bind_pure_eq_ok_iff.mp h
  have hes : es = rooms.located.map fun x => (x.1, problems ts x.2) := by
    apply eq_map_of_mapM_eq_ok _ hmapped
    intro x y hy
    cases hx : x.2.errors ts with
    | error f => simp [hx] at hy
    | ok es => simpa [hx, problems_eq hx, eq_comm] using hy
  rw [hes]
  exact Table.ofList_eq_self (nodup_keys_troubled hrooms ts)

/-- Under the location of a region stand its problems, if it has some. -/
theorem get?_troubled (hrooms : rooms.keys.Nodup) {room : String} {i : Nat} {r : Region}
    (h : rooms.Stands room i r) : (rooms.troubled ts).get? (location room i) =
      if problems ts r = [] then none else some (problems ts r) := by
  have hkeys := nodup_keys_troubled hrooms ts
  split_ifs with hnone
  · -- An entry at this location would be that of this very region, which has no problems.
    rw [Option.eq_none_iff_forall_ne_some]
    intro es hes
    have hmem := (Table.get?_eq_some_iff hkeys).mp hes
    obtain ⟨room', i', r', hstands, heq, hproblems⟩ := mem_troubled_iff.mp hmem
    obtain ⟨rfl, rfl⟩ := location_inj.mp (congrArg Prod.fst heq)
    obtain rfl := h.unique hrooms hstands
    exact hproblems hnone
  · have hmem : (location room i, problems ts r) ∈ rooms.troubled ts :=
      mem_troubled_iff.mpr ⟨room, i, r, h, rfl, hnone⟩
    exact (Table.get?_eq_some_iff hkeys).mpr hmem

theorem exists_stands_of_mem_keys {place : String} (h : place ∈ (rooms.troubled ts).keys) :
    ∃ room i r, rooms.Stands room i r ∧ place = location room i := by
  obtain ⟨e, he, rfl⟩ := List.mem_map.mp h
  obtain ⟨room, i, r, hstands, rfl, -⟩ := mem_troubled_iff.mp he
  exact ⟨room, i, r, hstands, rfl⟩

/-- Whatever rooms are called, a location tells the room and the number of its region; and a check
that comes to an end has found titles against which every region could be checked, has an entry for
each region with problems, which is those problems, and has no other entry. -/
theorem check_exact (hrooms : rooms.keys.Nodup) (h : rooms.check t cwd root = .ok found) :
    (∀ room i room' i', location room i = location room' i' → room = room' ∧ i = i') ∧
    found.keys.Nodup ∧
    ∃ ts, rooms.TitlesFound t cwd root ts ∧
      (∀ room i r, rooms.Stands room i r → ∃ es, r.errors ts = .ok es ∧
        found.get? (location room i) = if es = [] then none else some es) ∧
      ∀ place ∈ found.keys, ∃ room i r, rooms.Stands room i r ∧ place = location room i := by
  obtain ⟨ts, htitles, hfindings⟩ := titlesFound_of_check h
  have hregions := exists_findings_iff.mp ⟨found, hfindings⟩
  obtain rfl := findings_eq_troubled hrooms hfindings
  refine ⟨fun room i room' i' => location_inj.mp, nodup_keys_troubled hrooms ts, ts, htitles, ?_,
    fun place => exists_stands_of_mem_keys⟩
  intro room i r hstands
  obtain ⟨es, hes⟩ := hregions r hstands.mem
  refine ⟨es, hes, ?_⟩
  rw [get?_troubled hrooms hstands, problems_eq hes]

private def deskText : String := "title: Desk\n---\nNobody is here.\n==="

private def deskTree : FileTree := ⟨[(["hall.gab"], .file deskText.toUTF8)]⟩

/-- A door that is said to lead to a node of the hall, which has no such node. -/
private def door : Region where
  x := .int 1
  y := .int 1
  width := .int 4
  height := .int 4
  kind := .str "dialogue"
  level := .str "hall"
  dialogueNode := .str "Door"
  item := .null
  args := .null

/-- A drawer without anything in it. -/
private def drawer : Region := { door with kind := .str "inventory" }

/-- Two rooms, the second of them called like the first region of the first. -/
private def wing : Rooms := [("hall", [door]), ("hall[0]", [drawer])]

private def wingFindings : Table (List String) :=
  [("hall[0]", ["Dialogue node 'Door' not found in hall.gab"]),
    ("hall[0][0]", ["Missing item parameter for inventory region"])]

/-- Both rooms keep their findings. -/
theorem check_exact_wing :
    wing.keys.Nodup ∧ wing.check deskTree [] (.ofString ".") = .ok wingFindings ∧
    wingFindings.keys.Nodup ∧
    ∃ ts, wing.TitlesFound deskTree [] (.ofString ".") ts ∧
      (∃ es, door.errors ts = .ok es ∧ wingFindings.get? "hall[0]" = some es) ∧
      ∃ es, drawer.errors ts = .ok es ∧ wingFindings.get? "hall[0][0]" = some es := by
  have hrooms : wing.keys.Nodup := by decide
  have hcheck : wing.check deskTree [] (.ofString ".") = .ok wingFindings := by decide +kernel
  obtain ⟨-, hkeys, ts, htitles, hentries, -⟩ := check_exact hrooms hcheck
  have hentry : ∀ {place : String} {es : List String},
      (wingFindings.get? place = if es = [] then none else some es) →
      wingFindings.get? place ≠ none → wingFindings.get? place = some es := by
    intro place es h hsome
    split_ifs at h
    · exact absurd h hsome
    · exact h
  refine ⟨hrooms, hcheck, hkeys, ts, htitles, ?_, ?_⟩
  · obtain ⟨es, hes, hdoor⟩ := hentries "hall" 0 door ⟨[door], by simp [wing], rfl⟩
    exact ⟨es, hes, hentry hdoor (by decide)⟩
  · obtain ⟨es, hes, hdrawer⟩ := hentries "hall[0]" 0 drawer ⟨[drawer], by simp [wing], rfl⟩
    exact ⟨es, hes, hentry hdrawer (by decide)⟩

end Dialogue.Rooms
