import Dialogue.Editor.Service
import Dialogue.Proofs.Files.Tree

/-! Saving: the only service that changes the store, and what it leaves behind where it fails. -/
namespace Dialogue.Editor
open Web

namespace Store
variable {s s' : Store} {name : String} {content : Option String} {hitch : Option Hitch}

theorem locate_proper (hroot : s.root.Proper) (name : String) : (s.locate name).Proper :=
  hroot.join (Path.ofString_proper name)

/-- The status of the answer to a save. -/
def Saved.status : Saved → Nat
  | .done _ => 200
  | .outside => 403
  | .noScript => 400
  | .failed _ _ | .brokenOff _ _ | .noText => 500

/-- What a save does. A file is opened only for a path to a script that stays below the root. -/
inductive Saves (s : Store) (name : String) (content : Option String) :
    Option Hitch → Store → Saved → Prop
  | outside {hitch : Option Hitch} : Saves s name content hitch s .outside
  | noScript {hitch : Option Hitch} : Saves s name content hitch s .noScript
  | hitched {hitch : Hitch} {tree : FileTree} {result : Saved}
      (hheld : s.holds (s.locate name) = true) (hscript : (s.locate name).suffix = suffix)
      (hresult : result.status = 500) (h : FileTree.left
        (s.tree.writeUpTo s.cwd (s.locate name) (content.getD "").toUTF8 hitch) = tree) :
      Saves s name content (some hitch) { s with tree } result
  | failed {tree : FileTree} {e : FileError} (hheld : s.holds (s.locate name) = true)
      (hscript : (s.locate name).suffix = suffix)
      (h : s.tree.writeText s.cwd (s.locate name) (content.getD "") = .error (tree, e)) :
      Saves s name content none { s with tree } (.failed (s.locate name) e)
  | noText {tree : FileTree} (hheld : s.holds (s.locate name) = true)
      (hscript : (s.locate name).suffix = suffix) (hc : content = none)
      (h : s.tree.writeText s.cwd (s.locate name) (content.getD "") = .ok tree) :
      Saves s name content none { s with tree } .noText
  | done {tree : FileTree} (hheld : s.holds (s.locate name) = true)
      (hscript : (s.locate name).suffix = suffix) (hc : content ≠ none)
      (h : s.tree.writeText s.cwd (s.locate name) (content.getD "") = .ok tree) :
      Saves s name content none { s with tree } (.done (s.locate name))

theorem saves_save (s : Store) (name : String) (content : Option String) (hitch : Option Hitch) :
    Saves s name content hitch (s.save name content hitch).1 (s.save name content hitch).2 := by
  unfold save
  dsimp only
  split
  · exact .outside
  next hheld =>
    rw [Bool.not_eq_true', Bool.not_eq_false] at hheld
    split
    · exact .noScript
    next hscript =>
      have hsuffix := not_not.mp hscript
      cases hitch with
      | some h =>
        dsimp only
        cases hleft : s.tree.writeUpTo s.cwd (s.locate name) (content.getD "").toUTF8 h with
        | error r => exact .hitched hheld hsuffix rfl (congrArg FileTree.left hleft)
        | ok tree => exact .hitched hheld hsuffix rfl (congrArg FileTree.left hleft)
      | none =>
        cases h : s.tree.writeText s.cwd (s.locate name) (content.getD "") with
        | error r => exact .failed hheld hsuffix h
        | ok tree =>
          cases content with
          | none => exact .noText hheld hsuffix rfl h
          | some text => exact .done hheld hsuffix (Option.some_ne_none text) h

/-- A save that succeeds has written its text, on a device without a hitch. -/
theorem Saves.done_of_status {result : Saved} (h : Saves s name content hitch s' result)
    (hstatus : result.status = 200) :
    hitch = none ∧ Saves s name content none s' (.done (s.locate name)) := by
  cases h with
  | done hheld hscript hc hwrite => exact ⟨rfl, .done hheld hscript hc hwrite⟩
  | hitched _ _ hresult _ => simp [hresult] at hstatus
  | outside | noScript | failed | noText => simp [Saved.status] at hstatus

end Store

/-- The name under which a request asks to save a script, if it gives one. -/
def saveName? (body : Json) : Option String := pathName? (field body "path" (.str ""))

/-- The text that a request asks to save, if it gives none but texts. -/
def saveText? (body : Json) : Option String := (field body "content" (.str "")).text?

/-- What a request does to the store. -/
inductive Serves (s : Store) (r : Request) (hitch : Option Hitch) (e : Exchange) : Prop
  | kept (h : e.store = s)
  | saved {body : Json} {name : String} {result : Store.Saved} (hbody : r.object? = some body)
      (hname : saveName? body = some name)
      (hsave : s.Saves name (saveText? body) hitch e.store result)
      (hstatus : e.response.status = result.status)

section Serves
variable {s : Store} {terminating : List String} {c : Call} {r : Request} {e : Exchange}

/-- What the service for saves does to the store. It is a save alone that it answers with success.
-/
theorem save_store (s : Store) (c : Call) (body : Json) (hitch : Option Hitch) :
    (save s c body hitch).store = s ∧ (save s c body hitch).response.status ≠ 200 ∨
    ∃ name result, saveName? body = some name ∧
      s.Saves name (saveText? body) hitch (save s c body hitch).store result ∧
      (save s c body hitch).response.status = result.status := by
  unfold save
  dsimp only
  split
  · exact .inl ⟨rfl, (by decide : (400 : Nat) ≠ 200)⟩
  · split
    · next name hname =>
      have hsave := s.saves_save name (saveText? body) hitch
      refine .inr ⟨name, (s.save name (saveText? body) hitch).2, hname, ?_⟩
      cases hresult : s.save name (saveText? body) hitch with
      | mk s' result =>
        rw [hresult] at hsave
        rw [saveText?] at hresult
        rw [hresult]
        cases result with
        | failed p e =>
          dsimp only
          split
          · exact ⟨hsave, rfl⟩
          · exact ⟨hsave, rfl⟩
        | _ => exact ⟨hsave, rfl⟩
    · split
      · exact .inl ⟨rfl, (by decide : (403 : Nat) ≠ 200)⟩
      · exact .inl ⟨rfl, (by decide : (500 : Nat) ≠ 200)⟩

theorem serves_save (s : Store) (c : Call) {body : Json} (hbody : c.request.object? = some body)
    (hitch : Option Hitch) : Serves s c.request hitch (save s c body hitch) := by
  rcases save_store s c body hitch with ⟨hkept, -⟩ | ⟨name, result, hname, hsave, hstatus⟩
  · exact .kept hkept
  · exact .saved hbody hname hsave hstatus

theorem replayed_store (s : Store) (c : Call) (r : Except Replay.Failure Replay.Result) :
    (replayed s c r).store = s := by
  unfold replayed
  split
  · split <;> rfl
  · rfl

theorem dialogues_store (s : Store) (c : Call) : (dialogues s c).store = s := by
  unfold dialogues
  split <;> rfl

theorem file_store (s : Store) (c : Call) (name : String) : (file s c name).store = s := by
  unfold file
  split <;> rfl

theorem parse_store (s : Store) (terminating : List String) (c : Call) (body : Json) :
    (parse s terminating c body).store = s := by
  unfold parse
  dsimp only
  split
  · split <;> rfl
  · rfl

theorem replay_store (s : Store) (c : Call) (body : Json) : (replay s c body).store = s := by
  unfold replay
  split
  · rfl
  · split
    · split
      · exact replayed_store s c _
      · split
        · exact replayed_store s c _
        · rfl
    · rfl

theorem exportScript_store (s : Store) (c : Call) (body : Json) :
    (exportScript s c body).store = s := by
  unfold exportScript
  split <;> rfl

/-- No route but the one for saves has a hand in the store. -/
theorem serves_routed (s : Store) (terminating : List String) (c : Call) (route : Route)
    (hitch : Option Hitch) : Serves s c.request hitch (routed s terminating c route hitch) := by
  unfold routed
  dsimp only
  cases route with
  | dialogues => exact .kept (dialogues_store s c)
  | file name => exact .kept (file_store s c name)
  | asset => exact .kept rfl
  | save =>
    cases hbody : c.request.object? with
    | none => exact .kept rfl
    | some body => exact serves_save s c hbody hitch
  | parse =>
    cases c.request.object? with
    | none => exact .kept rfl
    | some body => exact .kept (parse_store s terminating c body)
  | replay =>
    cases c.request.object? with
    | none => exact .kept rfl
    | some body => exact .kept (replay_store s c body)
  | exportScript =>
    cases c.request.object? with
    | none => exact .kept rfl
    | some body => exact .kept (exportScript_store s c body)

theorem serves_dispatched (s : Store) (terminating : List String) (socket : Bool) (c : Call)
    (hitch : Option Hitch) :
    Serves s c.request hitch (dispatched s terminating socket c hitch) := by
  unfold dispatched
  split
  · exact .kept rfl
  · exact .kept rfl
  · exact .kept rfl
  · exact .kept rfl
  · next route _ =>
    split
    · exact .kept rfl
    · have hrouted := serves_routed s terminating c route hitch
      dsimp only
      split
      · cases hrouted with
        | kept h => exact .kept h
        | saved hbody hname hsave hstatus => exact .saved hbody hname hsave hstatus
      · exact hrouted

theorem serves_of_handle {hitch : Option Hitch} (h : handle s terminating r hitch = .ok e) :
    Serves s r hitch e := by
  unfold handle at h
  cases ht : r.target with
  | error f => simp [ht, Except.map] at h
  | ok t =>
    simp only [ht, Except.map, Except.ok.injEq] at h
    rw [← h]
    exact serves_dispatched s terminating t.isSocket ⟨r, t.decodedPath⟩ hitch

end Serves

/-- What a failed save leaves of the file that it has opened: nothing where there was no text to
write, and the first bytes of the text where the device failed. -/
inductive Leavings (hitch : Option Hitch) : Option String → ByteArray → Prop
  | noText : Leavings hitch none .empty
  | brokenOff {text message : String} {bytes : Nat} (h : hitch = some (.inTheFile bytes message)) :
      Leavings hitch (some text) (text.toUTF8.extract 0 bytes)

/-- A request that is not answered with success leaves all files as they were and creates none, but
for one slip: a save opens its file, which empties it, before it is known that the text can be
written. If the content is given and is no text, or if the device fails with the file open, what the
file held is lost. Of a path that is a name of bytes no more is said than that all other files are
as they were, since replacement characters stand for the bytes in this tree. -/
theorem files_of_failure {s : Store} {dir : String} (hroot : s.root = .ofString dir)
    {terminating : List String} {r : Request} {hitch : Option Hitch} {e : Exchange}
    (h : handle s terminating r hitch = .ok e) (hstatus : e.response.status ≠ 200) :
    (∀ place, e.store.tree.file? place = s.tree.file? place) ∨
    ∃ body name content, r.object? = some body ∧ saveName? body = some name ∧
      Leavings hitch (saveText? body) content ∧ e.response.status = 500 ∧
      s.holds (s.locate name) = true ∧ (s.locate name).suffix = Store.suffix ∧
      (∀ place, place ≠ (s.locate name).resolve s.cwd →
        e.store.tree.file? place = s.tree.file? place) ∧
      ((field body "path" (.str "")).text? = some name →
        e.store.tree.file? ((s.locate name).resolve s.cwd) = some content) := by
  cases serves_of_handle h with
  | kept hkept =>
    rw [hkept]
    exact .inl fun _ => rfl
  | @saved body name result hbody hname hsave hresult =>
    have hproper : (s.locate name).Proper :=
      Store.locate_proper (hroot ▸ Path.ofString_proper dir) name
    rw [hresult] at hstatus ⊢
    generalize e.store = s' at hsave ⊢
    cases hsave with
    | outside => exact .inl fun _ => rfl
    | noScript => exact .inl fun _ => rfl
    | failed _ _ hwrite => exact .inl (FileTree.writeBytes_error hwrite).file?_eq
    | noText hheld hscript htext hwrite =>
      rw [htext] at hwrite
      obtain ⟨hothers, hemptied⟩ := FileTree.files_of_writeBytes hproper hwrite
      refine .inr ⟨body, name, .empty, hbody, hname, ?_, rfl, hheld, hscript, hothers,
        fun _ => hemptied⟩
      rw [htext]
      exact .noText
    | @hitched hitch tree _ hheld hscript hfailed hleft =>
      have hwritten := s.tree.left_writeUpTo s.cwd (s.locate name)
        ((saveText? body).getD "").toUTF8 hitch
      rw [hleft] at hwritten
      rcases hwritten with hkept | ⟨bytes, message, hopen, hwrite⟩
      · exact .inl hkept.file?_eq
      · obtain ⟨hothers, hcut⟩ := FileTree.files_of_writeBytes hproper hwrite
        refine .inr ⟨body, name, _, hbody, hname, ?_, hfailed, hheld, hscript, hothers,
          fun _ => hcut⟩
        cases saveText? body with
        | none =>
          have hnothing : "".toUTF8.extract 0 bytes = .empty := by simp
          rw [Option.getD_none, hnothing]
          exact .noText
        | some text => exact .brokenOff (congrArg some hopen)
    | done => exact absurd rfl hstatus

/-- A store with one script. -/
def shelf : Store where
  tree := ⟨[(["dialogue"], .directory), (["dialogue", "a.gab"], .file "title: A\n===\n".toUTF8)]⟩
  cwd := []
  root := .ofString "dialogue"

/-- A save with a null where the text should be. -/
private def nullSave : Request where
  method := "POST"
  url := "/api/save"
  contentType := "application/json"
  body := "\x7b\"path\": \"a.gab\", \"content\": null\x7d"

private def statusAndSize (place : Place) : Except SendFault Exchange → Option (Nat × Option Nat)
  | .ok e => some (e.response.status, (e.store.tree.file? place).map ByteArray.size)
  | .error _ => none

private theorem exists_nullSave : ∃ e, handle shelf [] nullSave = .ok e ∧
    e.response.status = 500 ∧
    (e.store.tree.file? ["dialogue", "a.gab"]).map ByteArray.size = some 0 := by
  have hseen : statusAndSize ["dialogue", "a.gab"] (handle shelf [] nullSave) =
      some (500, some 0) := by decide +kernel
  cases h : handle shelf [] nullSave with
  | error f => simp [h, statusAndSize] at hseen
  | ok e =>
    rw [h] at hseen
    obtain ⟨hstatus, hsize⟩ := Prod.mk.inj (Option.some.inj hseen)
    exact ⟨e, rfl, hstatus, hsize⟩

/-- The save that fails takes the text of the script away. -/
theorem failed_save_empties : ∃ e, handle shelf [] nullSave = .ok e ∧ e.response.status = 500 ∧
    (shelf.tree.file? ["dialogue", "a.gab"]).map ByteArray.size = some 13 ∧
    (e.store.tree.file? ["dialogue", "a.gab"]).map ByteArray.size = some 0 := by
  obtain ⟨e, h, hstatus, hsize⟩ := exists_nullSave
  exact ⟨e, h, hstatus, by decide +kernel, hsize⟩

/-- Nothing but the script that the request names is touched. -/
theorem files_of_failure_nullSave : ∃ e, handle shelf [] nullSave = .ok e ∧
    e.response.status ≠ 200 ∧ ∀ place, e.store.tree.file? place =
      if place = ["dialogue", "a.gab"] then some .empty else shelf.tree.file? place := by
  obtain ⟨e, h, hstatus, hsize⟩ := exists_nullSave
  have hfailed : e.response.status ≠ 200 := by simp [hstatus]
  refine ⟨e, h, hfailed, ?_⟩
  rcases files_of_failure (rfl : shelf.root = .ofString "dialogue") h hfailed with
    hkept | ⟨body, name, content, hbody, hname, hleft, -, -, -, hothers, hemptied⟩
  · have hfull : (shelf.tree.file? ["dialogue", "a.gab"]).map ByteArray.size = some 13 := by
      decide +kernel
    rw [← hkept, hsize] at hfull
    simp at hfull
  · have hpath : nullSave.object?.bind saveName? = some "a.gab" := by decide +kernel
    rw [hbody, Option.bind_some, hname] at hpath
    obtain rfl := Option.some.inj hpath
    have hplace : (shelf.locate "a.gab").resolve shelf.cwd = ["dialogue", "a.gab"] := by
      decide +kernel
    have htext : nullSave.object?.map saveText? = some none := by decide +kernel
    rw [hbody, Option.map_some, Option.some_inj] at htext
    rw [htext] at hleft
    cases hleft
    have hgiven : (nullSave.object?.bind fun body => (field body "path" (.str "")).text?) =
        some "a.gab" := by
      decide +kernel
    rw [hbody, Option.bind_some] at hgiven
    rw [hplace] at hothers hemptied
    intro place
    by_cases hsame : place = ["dialogue", "a.gab"]
    · rw [if_pos hsame, hsame]
      exact hemptied hgiven
    · rw [if_neg hsame]
      exact hothers place hsame

end Dialogue.Editor
