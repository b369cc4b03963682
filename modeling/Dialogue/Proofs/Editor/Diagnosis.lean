import Dialogue.Proofs.Editor.Saving
import Dialogue.Proofs.Files.Reading
import Dialogue.Proofs.Script.Division
import Dialogue.Program.Launch

/-! Diagnosis: a text is found to be as good in the editor as in the file that it is saved in. -/
namespace Dialogue

namespace Validation

/-- A diagnosis does not depend on the form of the breaks in the text. -/
theorem run_normalizeBreaks (text : String) (start : Start) (terminating : List String) :
    run (Text.normalizeBreaks text) start terminating = run text start terminating := by
  simp only [run, Text.splitLines_normalizeBreaks, Script.read_normalizeBreaks]

end Validation

namespace Program
variable {w : World} {p : Path} {text : String}

/-- What is found of a file is what is found of its text. -/
theorem validation_of_text (h : w.tree.readText w.cwd p = .ok (Text.normalizeBreaks text))
    (start : Start) :
    validation w p start none = .ok (Validation.run text start defaultTerminating) := by
  rw [validation, h]
  dsimp only
  rw [Validation.run_normalizeBreaks]

theorem exit_validate {start : Start} {regions : Option Path} {v : Validation}
    (h : validation w p start regions = .ok v) (detailed : Bool) :
    (validate w p start regions detailed).exit = if v.ok then 0 else 1 := by
  rw [validate, h]
  dsimp only
  cases v.ok <;> rfl

theorem exit_validateOrMiss (hthere : w.tree.isThere w.cwd p = .ok true)
    (h : w.tree.readText w.cwd p = .ok (Text.normalizeBreaks text)) (start : Start) :
    (validateOrMiss w p start).exit =
      if (Validation.run text start defaultTerminating).ok then 0 else 1 := by
  rw [validateOrMiss, hthere]
  dsimp only
  rw [h]
  dsimp only
  rw [Validation.run_normalizeBreaks]
  rfl

/-- Words that ask the main program to validate the file of a path, without regions. -/
def AsksToValidate (w : World) (words : List String) (p : Path) (start : Option String) : Prop :=
  ∃ b, (Task.validate.synopsis w).bind w words = .ok b ∧ b.wantsHelp = false ∧
    Path.ofString (b.argument 0) = p ∧ b.option? "--start" = start ∧
    Settings.given? (b.option? "--regions") = none

theorem exit_runTask {words : List String} {start : Option String} {v : Validation}
    (hasked : AsksToValidate w words p start)
    (h : validation w p (.ofTitle? start) none = .ok v) :
    (runTask w .validate words).exit = if v.ok then 0 else 1 := by
  obtain ⟨b, hbound, hhelp, rfl, rfl, hregions⟩ := hasked
  rw [runTask, hbound]
  dsimp only
  rw [hhelp, if_neg Bool.false_ne_true, Task.run, hregions]
  exact exit_validate h _

end Program

namespace Editor

theorem startOf?_ofOption (start : Option String) :
    startOf? (.ofOption .str start) = some (.ofTitle? start) := by
  cases start with
  | none => rfl
  | some name =>
    rw [Json.ofOption, startOf?, Json.isEmpty, Start.ofTitle?]
    split_ifs <;> rfl

/-- A request to diagnose a text from a start. -/
structure AsksToDiagnose (body : Json) (text : String) (start : Option String) : Prop where
  name : isName (field body "name" .null) = true
  content : field body "content" (.str "") = .str text
  start : field body "start" .null = .ofOption .str start

theorem response_parse {body : Json} {text : String} {start : Option String}
    (h : AsksToDiagnose body text start) (s : Store) (terminating : List String) (c : Call) :
    (parse s terminating c body).response = ⟨200, some (diagnosis
      (Validation.run text (.ofTitle? start) terminating) (.ofTitle? start)
      (.ofOption .str start))⟩ := by
  rw [parse, h.name, h.content, h.start, startOf?_ofOption]
  rfl

/-- A save is answered with success only once the text is written. -/
theorem saves_of_success {s : Store} {c : Call} {body : Json} {name : String}
    (hname : saveName? body = some name) (hstatus : (save s c body).response.status = 200) :
    s.Saves name (saveText? body) none (save s c body).store (.done (s.locate name)) := by
  rcases save_store s c body none with ⟨-, hrefused⟩ | ⟨name', result, hname', hsave, hresult⟩
  · exact absurd hstatus hrefused
  · obtain rfl := Option.some.inj (hname.symm.trans hname')
    exact (hsave.done_of_status (hresult.symm.trans hstatus)).2

/-- What a save that succeeds leaves behind: the path that it was asked for leads to a file with
the text. -/
theorem saved_text {s : Store} (hroot : s.root.Proper) {c : Call} {body : Json}
    {name text : String} (hname : saveName? body = some name) (htext : saveText? body = some text)
    (hstatus : (save s c body).response.status = 200) :
    (save s c body).store.tree.locate s.cwd (s.locate name).text =
        .ok ((s.locate name).resolve s.cwd) ∧
      (save s c body).store.tree.entry? ((s.locate name).resolve s.cwd) =
        some (.file text.toUTF8) := by
  have hproper : (s.locate name).Proper := Store.locate_proper hroot name
  have hsaves := saves_of_success hname hstatus
  generalize (save s c body).store = s' at hsaves ⊢
  cases hsaves with
  | done hheld hscript hc hwrite =>
    obtain ⟨t, -, -, hentry⟩ := FileTree.writeBytes_ok hproper hwrite
    refine ⟨FileTree.locate_of_writeBytes hproper hwrite, ?_⟩
    rw [hentry, if_pos rfl, htext]
    rfl

/-- A text that the editor has saved is diagnosed in its file, by whatever path it is reached, as
the editor diagnoses the text itself: what is found is the same, and the programs that validate end
with success where the editor says that the text is valid. -/
theorem diagnosis_of_saved {s : Store} (hroot : s.root.Proper) {c : Call} {body : Json}
    {name text : String} (hname : saveName? body = some name) (htext : saveText? body = some text)
    (hstatus : (save s c body).response.status = 200) (start : Option String) :
    let saved := (save s c body).store
    let place := (s.locate name).resolve s.cwd
    let v := Validation.run text (.ofTitle? start) defaultTerminating
    saved.tree.locate s.cwd (s.locate name).text = .ok place ∧
    (∀ (w : Program.World) (p : Path), w.tree = saved.tree →
      w.tree.locate w.cwd p.text = .ok place →
      Program.validation w p (.ofTitle? start) none = .ok v ∧
      (∀ words, Program.AsksToValidate w words p start →
        (Program.runTask w .validate words).exit = if v.ok then 0 else 1) ∧
      (Program.validateOrMiss w p (.ofTitle? start)).exit = if v.ok then 0 else 1) ∧
    ∀ (s' : Store) (c' : Call) (asked : Json), AsksToDiagnose asked text start →
      ∃ answer, (parse s' defaultTerminating c' asked).response = ⟨200, some answer⟩ ∧
        answer = diagnosis v (.ofTitle? start) (.ofOption .str start) ∧
        answer.member? "valid" = some (.bool v.ok) := by
  intro saved place v
  obtain ⟨hplace, hfile⟩ := saved_text hroot hname htext hstatus
  refine ⟨hplace, fun w p htree hpath => ?_, fun s' c' asked hasked => ?_⟩
  · have hentry : w.tree.entry? place = some (.file text.toUTF8) := by rw [htree, hfile]
    have hread := FileTree.readText_of_file hpath hentry
    have hfound := Program.validation_of_text hread (.ofTitle? start)
    exact ⟨hfound, fun words hasked => Program.exit_runTask hasked hfound,
      Program.exit_validateOrMiss (FileTree.isThere_of_file hpath hentry) hread _⟩
  · exact ⟨_, response_parse hasked s' defaultTerminating c', rfl, rfl⟩

/-- A script that leads to a node it does not have, with breaks of three forms. -/
private def adriftText : String := "title: A\r\n---\r<<jump B>>\n===\r"

private def adriftSave : Json := .obj [("path", .str "b.gab"), ("content", .str adriftText)]

private def adriftCall : Call := ⟨{ method := "POST", url := "/api/save" }, "/api/save"⟩

/-- The files that the save leaves, as a program finds them. -/
private def adriftWorld : Program.World where
  tree := (save shelf adriftCall adriftSave).store.tree
  cwd := []

/-- The missing node is found in the file and in the editor. -/
theorem diagnosis_of_saved_adrift :
    (Program.runTask adriftWorld .validate ["dialogue/b.gab", "--start", "A"]).exit = 1 ∧
    ∃ answer, (parse shelf defaultTerminating adriftCall (.obj [("content", .str adriftText),
      ("start", .str "A")])).response = ⟨200, some answer⟩ ∧
      answer.member? "valid" = some (.bool false) := by
  have hroot : shelf.root.Proper := Path.ofString_proper "dialogue"
  have hstatus : (save shelf adriftCall adriftSave).response.status = 200 := by decide +kernel
  have hinvalid :
      (Validation.run adriftText (.ofTitle? (some "A")) defaultTerminating).ok = false := by
    decide +kernel
  have hname : saveName? adriftSave = some "b.gab" := rfl
  have htext : saveText? adriftSave = some adriftText := rfl
  obtain ⟨hplace, hfile, heditor⟩ := diagnosis_of_saved hroot hname htext hstatus (some "A")
  have hpath : shelf.locate "b.gab" = .ofString "dialogue/b.gab" := by decide +kernel
  have hwords : Program.AsksToValidate adriftWorld ["dialogue/b.gab", "--start", "A"]
      (shelf.locate "b.gab") (some "A") :=
    ⟨⟨[("--start", "A")], [some "dialogue/b.gab"], []⟩, by decide +kernel, rfl, hpath.symm,
      by decide +kernel, by decide +kernel⟩
  obtain ⟨-, hexit, -⟩ := hfile adriftWorld (shelf.locate "b.gab") rfl hplace
  have hasked : AsksToDiagnose (.obj [("content", .str adriftText), ("start", .str "A")]) adriftText
      (some "A") := ⟨by decide +kernel, rfl, rfl⟩
  obtain ⟨answer, hanswer, -, hvalid⟩ := heditor shelf adriftCall _ hasked
  rw [hinvalid] at hexit hvalid
  exact ⟨hexit _ hwords, answer, hanswer, hvalid⟩

end Editor
end Dialogue
