import Dialogue.Proofs.Editor.Keeping

/-! The ledger of a conversation: after saves in an empty store, the list of scripts and each of the
scripts in it are answered as the saves have left them. -/
namespace Dialogue.Editor
open Web

/-- A request to save a text under a name, itself a text, that does not lead too deep. -/
structure AsksToSave (r : Request) : Prop where
  asks : Asks r .post "/api/save"
  path : ∀ body name, r.object? = some body → saveName? body = some name →
    (field body "path" (.str "")).text? = some name
  text : ∀ body, r.object? = some body → saveText? body ≠ none
  depth : ∀ name, requestedName? r = some name →
    (Path.ofString name).parts.length ≤ Store.maxDepth

/-- The answer with a list of scripts. -/
def listAnswer (s : Store) (listed : List Path) : Response :=
  ⟨200, some (.obj [("files", .arr (listed.map (scriptEntry s)))])⟩

/-- The answer with the text of a script. -/
def textAnswer (p : Path) (content : String) : Response :=
  ⟨200, some (.obj [("content", .str content), ("path", .str p.text), ("name", .str p.stem)])⟩

/-- The place and the text of a save that is answered with success. -/
def Store.saved? (s : Store) (r : Request) (e : Exchange) : Option (Place × String) :=
  if e.response.status = 200 then
    r.object?.bind fun body => (saveName? body).bind fun name =>
      (saveText? body).map fun text => ((s.locate name).resolve s.cwd, text)
  else none

/-- The saves of a conversation that were answered with success, in order. -/
def Store.savedBy (s : Store) (requests : List Request) (c : Conversation) :
    List (Place × String) :=
  (requests.zip c.exchanges).filterMap fun x => s.saved? x.1 x.2

/-- The store that a conversation leaves behind. -/
def Conversation.store (s : Store) (c : Conversation) : Store :=
  (c.exchanges.getLast?.map (·.store)).getD s

theorem Conversation.store_cons (s : Store) (e : Exchange) (c : Conversation) :
    Conversation.store s ⟨e :: c.exchanges, c.fault⟩ = c.store e.store := by
  rw [Conversation.store, Conversation.store, List.getLast?_cons]
  cases c.exchanges.getLast? <;> rfl

theorem Store.savedBy_cons (s : Store) (r : Request) (requests : List Request) (e : Exchange)
    (c : Conversation) : s.savedBy (r :: requests) ⟨e :: c.exchanges, c.fault⟩ =
      (s.saved? r e).toList ++ s.savedBy requests c := by
  simp only [savedBy, List.zip_cons_cons, List.filterMap_cons]
  cases s.saved? r e <;> rfl

section Run
variable {s : Store} {t : FileTree} {asked : String → Prop} {saved : List (Place × String)}
  {terminating : List String} {r : Request} {hitch : Option Hitch} {e : Exchange}

theorem served_of_asks (hr : AsksToSave r) (he : handle s terminating r hitch = .ok e) :
    e.store = s ∧ e.response.status ≠ 200 ∨
    ∃ body name result, r.object? = some body ∧ saveName? body = some name ∧
      s.Saves name (saveText? body) hitch e.store result ∧ e.response.status = result.status := by
  rw [handle_of_asks hr.asks ofPath?_save rfl (.inr rfl)] at he
  obtain rfl := Except.ok.inj he
  rw [routed]
  cases hbody : r.object? with
  | none => exact .inl ⟨rfl, (by decide : (500 : Nat) ≠ 200)⟩
  | some body =>
    rcases save_store s ⟨r, "/api/save"⟩ body hitch with
      hkept | ⟨name, result, hname, hsave, hstatus⟩
    · exact .inl hkept
    · exact .inr ⟨body, name, result, rfl, hname, hsave, hstatus⟩

/-- A request to save keeps the ledger, which it adds to where it is answered with success. -/
theorem Store.Keeps.handle (h : s.Keeps asked saved t)
    (hr : AsksToSave r) (hasked : ∀ name, requestedName? r = some name → asked name)
    (hearly : ∀ h ∈ hitch, h.isEarly = true)
    (he : handle { s with tree := t } terminating r hitch = .ok e) :
    ∃ t', e.store = { s with tree := t' } ∧ s.Keeps asked (saved ++ (s.saved? r e).toList) t' := by
  rcases served_of_asks hr he with
    ⟨hkept, hrefused⟩ | ⟨body, name, result, hbody, hname, hsave, hstatus⟩
  · refine ⟨t, hkept, ?_⟩
    rw [saved?, if_neg hrefused]
    simpa using h
  · have hknown : asked name := hasked name (by rw [requestedName?, hbody, Option.bind_some, hname])
    obtain ⟨text, htext⟩ := Option.ne_none_iff_exists'.mp (hr.text body hbody)
    have hentered : s.saved? r e = if result.status = 200 then
        some ((s.locate name).resolve s.cwd, text) else none := by
      rw [saved?, hstatus, hbody, Option.bind_some, hname, Option.bind_some, htext, Option.map_some]
    rw [htext] at hsave
    rw [hentered]
    generalize e.store = s' at hsave ⊢
    cases hsave with
    | outside => exact ⟨t, rfl, by simpa [Saved.status] using h⟩
    | noScript => exact ⟨t, rfl, by simpa [Saved.status] using h⟩
    | hitched _ _ hfailed hleft =>
      exact ⟨_, rfl, by simpa [hfailed] using h.hitched hknown (hearly _ rfl) hleft⟩
    | failed _ _ hwrite => exact ⟨_, rfl, by simpa [Saved.status] using h.failed hknown hwrite⟩
    | noText _ _ hnone => cases hnone
    | done hheld hscript _ hwrite => exact ⟨_, rfl, h.done hknown hheld hscript hwrite⟩

/-- Every request of a conversation of saves is answered, and the ledger has those answered with
success. -/
theorem Store.Keeps.handleAll (terminating : List String) {requests : List Request}
    {hitches : List (Option Hitch)} (h : s.Keeps asked saved t)
    (hsaves : ∀ r ∈ requests, AsksToSave r)
    (hasked : ∀ r ∈ requests, ∀ name, requestedName? r = some name → asked name)
    (hearly : ∀ h, some h ∈ hitches → h.isEarly = true) :
    let c := Editor.handleAll { s with tree := t } terminating requests hitches
    (c.fault = none ∧ c.exchanges.length = requests.length) ∧
      ∃ t', c.store { s with tree := t } = { s with tree := t' } ∧
        s.Keeps asked (saved ++ s.savedBy requests c) t' := by
  induction requests generalizing saved t hitches with
  | nil =>
    refine ⟨⟨rfl, rfl⟩, t, rfl, ?_⟩
    rw [savedBy, List.zip_nil_left, List.filterMap_nil, List.append_nil]
    exact h
  | cons r rs ih =>
    have hr := hsaves r List.mem_cons_self
    obtain ⟨e, he⟩ : ∃ e,
        Editor.handle { s with tree := t } terminating r (hitches.headD none) = .ok e :=
      ⟨_, handle_of_asks hr.asks ofPath?_save rfl (.inr rfl) _ _ _⟩
    have hfirst : ∀ h ∈ hitches.headD none, h.isEarly = true := by
      intro h hh
      cases hitches with
      | nil => cases hh
      | cons hitch hitches =>
        obtain rfl : hitch = some h := hh
        exact hearly h List.mem_cons_self
    obtain ⟨t₁, hstore, hkeeps⟩ := h.handle hr (hasked r List.mem_cons_self) hfirst he
    obtain ⟨⟨hfault, hlength⟩, t', hlast, hkept⟩ := ih hkeeps
      (fun r' hr' => hsaves r' (List.mem_cons_of_mem _ hr'))
      (fun r' hr' => hasked r' (List.mem_cons_of_mem _ hr'))
      fun h hh => hearly h (List.mem_of_mem_tail hh)
    rw [handleAll_cons, he]
    dsimp only
    rw [hstore, Conversation.store_cons, hstore, savedBy_cons, ← List.append_assoc]
    exact ⟨⟨hfault, by rw [List.length_cons, hlength, List.length_cons]⟩, t', hlast, hkept⟩

end Run

/-- A directory that is taken for a script since it is named like one. It was made on the way of a
name that was asked for. -/
structure Store.Poses (s : Store) (requests : List Request) (t : FileTree)
    (names : List String) : Prop where
  named : (names.getLast?.getD "").endsWith suffix = true
  directory : t.entry? (s.base ++ names) = some .directory
  made : ∃ r ∈ requests, ∃ name, requestedName? r = some name ∧
    (s.locate name).Passes s.cwd (s.base ++ names)

section Answers
variable {s : Store} {t : FileTree} {saved : List (Place × String)} {requests : List Request}
  (h : s.Keeps (fun name => ∃ r ∈ requests, requestedName? r = some name) saved t)
include h

theorem Store.Keeps.depth_le (hsaves : ∀ r ∈ requests, AsksToSave r) {names : List String}
    (hnames : names ∈ t.below s.base) : names.length ≤ maxDepth := by
  obtain ⟨hne, hentry⟩ := FileTree.mem_below.mp hnames
  obtain ⟨-, name, ⟨r, hr, hname⟩, hpasses⟩ := h.entry_below hne hentry
  exact (h.vacant.length_le hne hpasses).trans ((hsaves r hr).depth name hname)

/-- What is listed below the root is what was saved, and directories that are taken for scripts. -/
theorem Store.Keeps.mem_listed_iff {names : List String} :
    names ∈ t.below s.base ∧ (names.getLast?.getD "").endsWith suffix = true ↔
      lastText? saved (s.base ++ names) ≠ none ∨ s.Poses requests t names := by
  constructor
  · rintro ⟨hbelow, hnamed⟩
    obtain ⟨hne, hentry⟩ := FileTree.mem_below.mp hbelow
    obtain ⟨hlast | hdirectory, name, ⟨r, hr, hname⟩, hpasses⟩ :=
      h.entry_below hne hentry
    · exact .inl hlast
    · exact .inr ⟨hnamed, hdirectory, r, hr, name, hname, hpasses⟩
  · rintro (hlast | ⟨hnamed, hdirectory, -⟩)
    · obtain ⟨text, hlast⟩ := Option.ne_none_iff_exists'.mp hlast
      obtain ⟨hne, hentry⟩ := h.entry?_of_lastText hlast
      obtain ⟨name, -, hled⟩ := h.led _ (mem_of_lastText? hlast)
      have hends := endsWith_of_isScript hled.script
      rw [List.getLast?_append_of_ne_nil _ hne] at hends
      exact ⟨FileTree.mem_below.mpr ⟨hne, by simp [hentry]⟩, hends⟩
    · have hne : names ≠ [] := by
        rintro rfl
        exact absurd hnamed (by decide +kernel)
      exact ⟨FileTree.mem_below.mpr ⟨hne, by simp [hdirectory]⟩, hnamed⟩

theorem Store.Keeps.list_answered (hsaves : ∀ r ∈ requests, AsksToSave r)
    (terminating : List String) : ∃ listed : List Path, listed.Nodup ∧
      (∀ r, Asks r .get "/api/dialogues" →
        (Editor.handle { s with tree := t } terminating r).map (·.response) =
          .ok (listAnswer { s with tree := t } listed)) ∧
      ∀ p, p ∈ listed ↔ ∃ names, p = ⟨"", names⟩ ∧
        (lastText? saved (s.base ++ names) ≠ none ∨ s.Poses requests t names) := by
  obtain ⟨listed, hscripts, hnodup, hmem⟩ := h.scripts_eq fun names => h.depth_le hsaves
  refine ⟨listed, hnodup, fun r hr => ?_, fun p => ?_⟩
  · rw [handle_of_asks hr ofPath?_dialogues rfl (.inl rfl), routed, dialogues, hscripts]
    rfl
  · simp only [hmem, h.mem_listed_iff]

theorem Store.Keeps.text_answered {names : List String} {text : String}
    (hlast : lastText? saved (s.base ++ names) = some text)
    (hline : '\n' ∉ (Path.text ⟨"", names⟩).toList.tail)
    (hlong : (s.locate (Path.text ⟨"", names⟩)).text.utf8ByteSize < FileTree.maxPath) {r : Request}
    (hr : Asks r .get ("/api/file/" ++ Path.text ⟨"", names⟩)) (terminating : List String) :
    (Editor.handle { s with tree := t } terminating r).map (·.response) =
      .ok (textAnswer (s.locate (Path.text ⟨"", names⟩)) (Text.normalizeBreaks text)) := by
  obtain ⟨name, -, hled⟩ := h.led _ (mem_of_lastText? hlast)
  have hne := (h.entry?_of_lastText hlast).1
  have hfetch := h.fetch_eq hlast hlong
  have hroute := ofPath?_file (hled.proper h.vacant.proper) rfl hne hline
  rw [handle_of_asks hr hroute rfl (.inl rfl), routed, file, hfetch]
  rfl

end Answers

/-- After saves in an empty store each script that was saved is listed once, and it is fetched with
the text that was saved last in its place, also where the device has failed before a file was open.
The list holds nothing else, but for one slip: it takes directories for scripts that are named like
them. -/
theorem ledger_of_saves {s : Store} (hvacant : s.Vacant) (terminating : List String)
    {requests : List Request} (hsaves : ∀ r ∈ requests, AsksToSave r)
    {hitches : List (Option Hitch)} (hearly : ∀ h, some h ∈ hitches → h.isEarly = true) :
    let c := handleAll s terminating requests hitches
    let s' := c.store s
    let saved := s.savedBy requests c
    c.exchanges.length = requests.length ∧
    (∀ x ∈ saved, ∃ names, names ≠ [] ∧ x.1 = s.base ++ names) ∧
    (∃ listed : List Path, listed.Nodup ∧
      (∀ r, Asks r .get "/api/dialogues" →
        (handle s' terminating r).map (·.response) = .ok (listAnswer s' listed)) ∧
      ∀ p, p ∈ listed ↔ ∃ names, p = ⟨"", names⟩ ∧
        (Store.lastText? saved (s.base ++ names) ≠ none ∨ s.Poses requests s'.tree names)) ∧
    ∀ names text, Store.lastText? saved (s.base ++ names) = some text →
      '\n' ∉ (Path.text ⟨"", names⟩).toList.tail →
      (s'.locate (Path.text ⟨"", names⟩)).text.utf8ByteSize < FileTree.maxPath →
      ∀ r, Asks r .get ("/api/file/" ++ Path.text ⟨"", names⟩) →
        (handle s' terminating r).map (·.response) =
          .ok (textAnswer (s'.locate (Path.text ⟨"", names⟩)) (Text.normalizeBreaks text)) := by
  intro c s' saved
  obtain ⟨⟨-, hlength⟩, t, hstore, hkept⟩ :=
    (hvacant.keeps fun name => ∃ r ∈ requests, requestedName? r = some name).handleAll
      terminating hsaves (fun r hr _ hname => ⟨r, hr, hname⟩) hearly
  have hs' : s' = { s with tree := t } := hstore
  rw [hs']
  refine ⟨hlength, fun x hx => ?_, hkept.list_answered hsaves terminating, ?_⟩
  · obtain ⟨name, -, ⟨names, hnames⟩, -⟩ := hkept.led x hx
    obtain ⟨text, hlast⟩ := Option.ne_none_iff_exists'.mp
      (Store.lastText?_ne_none ⟨x, hx, hnames.symm⟩)
    exact ⟨names, (hkept.entry?_of_lastText hlast).1, hnames.symm⟩
  · exact fun names text hlast hline hlong r hr =>
      hkept.text_answered hlast hline hlong hr terminating

/-- A store with an empty root. -/
private def barren : Store := ⟨⟨[(["dialogue"], .directory)]⟩, [], .ofString "dialogue"⟩

private def saving (body : String) : Request where
  method := "POST"
  url := "/api/save"
  contentType := "application/json"
  body := body

private def firstSave : Request := saving "\x7b\"path\": \"b.gab\", \"content\": \"old\"\x7d"

/-- A save in the same place, by another path to it. -/
private def secondSave : Request :=
  saving "\x7b\"path\": \"sub/../b.gab\", \"content\": \"a\\r\\nb\"\x7d"

private theorem asksToSave {r : Request} (name text : String)
    (hasks : r.verb = .post ∧ (r.target.toOption.map fun t => (t.isSocket, t.decodedPath)) =
      some (false, "/api/save"))
    (hpath : (r.object?.bind fun body => (field body "path" (.str "")).text?) = some name)
    (hname : requestedName? r = some name) (htext : r.object?.bind saveText? = some text)
    (hdepth : (Path.ofString name).parts.length ≤ Store.maxDepth) : AsksToSave r where
  asks := .of_target hasks.1 hasks.2
  path body other hbody hother := by
    rw [requestedName?, hbody, Option.bind_some, hother] at hname
    rw [hbody, Option.bind_some, ← hname] at hpath
    exact hpath
  text body hbody := by
    rw [hbody, Option.bind_some] at htext
    simp [htext]
  depth other hother := by
    obtain rfl := Option.some.inj (hname.symm.trans hother)
    exact hdepth

private def fetchSaved : Request := { url := "/api/file/b.gab" }

/-- A device that is full, before a third save can open its file. -/
private def fullDevice : List (Option Hitch) :=
  [none, none, some (.onTheWay 1 "[Errno 28] No space left on device")]

/-- The text that was saved last is fetched, its line break brought to the one form. -/
theorem ledger_of_saves_twice :
    (handle ((handleAll barren [] [firstSave, secondSave, firstSave] fullDevice).store barren) []
      fetchSaved).map (·.response) = .ok (textAnswer (.ofString "dialogue/b.gab") "a\nb") := by
  have hvacant : barren.Vacant :=
    ⟨Path.ofString_proper "dialogue", by decide +kernel, by decide +kernel⟩
  have hfirst : AsksToSave firstSave := asksToSave "b.gab" "old"
    (by decide +kernel) (by decide +kernel) (by decide +kernel) (by decide +kernel)
    (by decide +kernel)
  have hsecond : AsksToSave secondSave := asksToSave "sub/../b.gab" "a\r\nb"
    (by decide +kernel) (by decide +kernel) (by decide +kernel) (by decide +kernel)
    (by decide +kernel)
  have hsaves : ∀ r ∈ [firstSave, secondSave, firstSave], AsksToSave r := by
    simp only [List.forall_mem_cons]
    exact ⟨hfirst, hsecond, hfirst, fun _ h => absurd h List.not_mem_nil⟩
  have hearly : ∀ h, some h ∈ fullDevice → h.isEarly = true := by
    simp [fullDevice, Hitch.isEarly]
  obtain ⟨-, -, -, hfetch⟩ := ledger_of_saves hvacant [] hsaves hearly
  have hasks : Asks fetchSaved .get "/api/file/b.gab" :=
    .of_target (by decide +kernel) (by decide +kernel)
  have hanswer := hfetch ["b.gab"] "a\r\nb" (by decide +kernel) (by decide +kernel)
    (by decide +kernel) fetchSaved hasks
  have hpath : (((handleAll barren [] [firstSave, secondSave, firstSave] fullDevice).store
      barren).locate (Path.text ⟨"", ["b.gab"]⟩)) = .ofString "dialogue/b.gab" := by
    decide +kernel
  have hcontent : Text.normalizeBreaks "a\r\nb" = "a\nb" := by decide +kernel
  rw [hpath, hcontent] at hanswer
  exact hanswer

/-- A save in a directory that is named like a script. -/
private def nestedSave : Request :=
  saving "\x7b\"path\": \"a.gab/b.gab\", \"content\": \"x\"\x7d"

/-- The directory is listed beside the one script that was saved, and it cannot be fetched. -/
theorem directory_listed :
    let c := handleAll barren [] [nestedSave]
    let s' := c.store barren
    c.exchanges.map (·.response.status) = [200] ∧
    barren.savedBy [nestedSave] c = [(["dialogue", "a.gab", "b.gab"], "x")] ∧
    (∃ listed : List Path, (handle s' [] { url := "/api/dialogues" }).map (·.response) =
        .ok (listAnswer s' listed) ∧
      ⟨"", ["a.gab"]⟩ ∈ listed) ∧
    (handle s' [] { url := "/api/file/a.gab" }).map (·.response.status) = .ok 404 := by
  intro c s'
  refine ⟨by decide +kernel, by decide +kernel, ?_, by decide +kernel⟩
  have hroot : s'.root = .ofString "dialogue" := by decide +kernel
  have hbelow : s'.tree.below s'.base = [["a.gab"], ["a.gab", "b.gab"]] := by decide +kernel
  obtain ⟨hplace, hdirectory⟩ := FileTree.locate_of_isDirectory (hroot ▸ Path.ofString_proper _)
    (by decide +kernel : s'.tree.isDirectory s'.cwd s'.root = true)
  obtain ⟨listed, hscripts, -, hmem⟩ := Store.scripts_eq_ok hplace hdirectory (by
    rw [hbelow]
    decide +kernel)
  refine ⟨listed, ?_, (hmem _).mpr ⟨["a.gab"], rfl, by simp [hbelow], by decide +kernel⟩⟩
  rw [handle_of_asks (.of_target (by decide +kernel) (by decide +kernel)) ofPath?_dialogues rfl
    (.inl rfl), routed, dialogues, hscripts]
  rfl

end Dialogue.Editor
