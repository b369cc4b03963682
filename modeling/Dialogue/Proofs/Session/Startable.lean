import Dialogue.Settings
import Dialogue.Validation
import Dialogue.Proofs.Script.Division
import Dialogue.Proofs.Session.Turns

/-! A text that is found valid makes a session, and which of its starts the session takes. -/
namespace Dialogue

namespace Validation
variable {text : String} {start : Start} {terminating : List String}

/-- What a valid text is free of. -/
theorem ok_iff : (run text start terminating).ok = true ↔
    (Script.read text).2 = [] ∧ duplicates [] (Script.read text).1.nodes = [] ∧
      ((Script.read text).1.nodes = [] ∨ hasStart (Script.read text).1 start = true) ∧
      (Graph.report (Script.read text).1 (startNode? (Script.read text).1 start)
        terminating).dangling = [] := by
  simp only [ok, run, titleErrors, graphErrors, List.isEmpty_iff, List.map_eq_nil_iff,
    List.append_eq_nil_iff, ite_eq_left_iff, Bool.or_eq_true, or_iff_not_imp_left, and_assoc]
  simp

theorem startTitle_ofTitle? (s : Script) (start : Option String) :
    startTitle s (.ofTitle? start) =
      (Settings.given? start).getD (((s.nodes.head?).map (·.title)).getD "") := by
  cases start with
  | none => rfl
  | some name =>
    rw [Start.ofTitle?, Settings.given?]
    by_cases hname : name.isEmpty = true <;> simp [hname, startTitle, Option.filter_some]

theorem startNode?_ofTitle? (s : Script) (start : Option String) :
    startNode? s (.ofTitle? start) = some (startTitle s (.ofTitle? start)) := by
  cases start with
  | none => rfl
  | some name =>
    rw [Start.ofTitle?]
    split_ifs <;> rfl

theorem hasStart_ofTitle? (s : Script) (start : Option String) :
    hasStart s (.ofTitle? start) = s.hasTitle (startTitle s (.ofTitle? start)) := by
  rw [hasStart, startNode?_ofTitle?, Option.any_some]

/-- The start of a validation is empty where none is given and the first node has no title. -/
theorem startTitle_eq_empty_iff {s : Script} (hnodes : s.nodes ≠ []) (start : Option String) :
    startTitle s (.ofTitle? start) = "" ↔
      Settings.given? start = none ∧ ∃ n, s.nodes.head? = some n ∧ n.title = "" := by
  obtain ⟨n, ns, hns⟩ := List.exists_cons_of_ne_nil hnodes
  rw [startTitle_ofTitle?, hns]
  cases hgiven : Settings.given? start with
  | none => simp
  | some name =>
    have hname : name ≠ "" := by
      rintro rfl
      simp [Settings.given?, Option.filter_eq_some_iff] at hgiven
    simp [hname]

end Validation

namespace Session
open Validation
variable {text : String} {start : Option String} {terminating : List String}

theorem Host.ofText_of_ok {start : Start} (h : (Validation.run text start terminating).ok = true) :
    Host.ofText text [] [] = .ok ⟨(Script.read text).1, [], {}⟩ := by
  have hread : Script.readStrict text = .ok (Script.read text).1 :=
    Script.readStrict_eq_ok_iff.mpr (Prod.ext rfl (ok_iff.mp h).1)
  rw [Host.ofText, hread]
  exact Host.create_without_handlers _ []

theorem Host.start_of_hasTitle {h : Host} {title : String} (hne : title ≠ "")
    (htitle : h.script.hasTitle title = true) :
    (h.start title).result = .ok none ∧ (h.start title).host.state.phase = .emitting ∧
      (h.start title).host.state.current = some title := by
  obtain ⟨node, hnode⟩ := exists_openNode_iff.mpr ⟨hne, htitle⟩
  have hstart := (start_eq_ok_iff (s := h.state)).mpr ⟨node, hnode, rfl⟩
  rw [Host.start, hstart]
  exact ⟨rfl, rfl, congrArg some (title_of_openNode hnode)⟩

theorem Host.start_empty (h : Host) : (h.start "").result = .error (.session .emptyTitle) ∧
    (h.start "").host = h := by
  have hstart : Session.start h.script h.state "" = .error .emptyTitle :=
    goto_eq_error_iff.mpr rfl
  rw [Host.start, hstart]
  exact ⟨rfl, rfl⟩

/-- A valid text that has nodes makes a session, which starts at the start of the validation. Only
where no start is given and the first node has no title there is nothing to start at, and the
session refuses to. -/
theorem starts_of_valid (hnodes : (Script.read text).1.nodes ≠ [])
    (hok : (Validation.run text (.ofTitle? start) terminating).ok = true) :
    let title := (Validation.run text (.ofTitle? start) terminating).start
    ∃ h, Host.ofText text [] [] = .ok h ∧
      (title ≠ "" → (h.start title).result = .ok none ∧
        (h.start title).host.state.phase = .emitting ∧
        (h.start title).host.state.current = some title) ∧
      (title = "" → (h.start title).result = .error (.session .emptyTitle) ∧
        (h.start title).host = h) ∧
      (title = "" ↔ Settings.given? start = none ∧
        ∃ n, (Script.read text).1.nodes.head? = some n ∧ n.title = "") := by
  intro title
  obtain ⟨-, -, hstart, -⟩ := ok_iff.mp hok
  rw [hasStart_ofTitle?] at hstart
  refine ⟨_, Host.ofText_of_ok hok, fun hne => ?_, fun hempty => ?_,
    startTitle_eq_empty_iff hnodes start⟩
  · exact Host.start_of_hasTitle hne (hstart.resolve_left hnodes)
  · rw [hempty]
    exact Host.start_empty _

private def gateText : String :=
  "title: Gate\n---\nHalt.\n<<jump Court>>\n===\ntitle: Court\n---\n===\n"

/-- The session starts at the second of two nodes. -/
theorem starts_of_valid_court : ∃ h, Host.ofText gateText [] [] = .ok h ∧
    (h.start "Court").result = .ok none := by
  have hnodes : (Script.read gateText).1.nodes ≠ [] := by decide +kernel
  have hok : (Validation.run gateText (.ofTitle? (some "Court")) defaultTerminating).ok = true := by
    decide +kernel
  obtain ⟨h, hh, hstarts, -⟩ := starts_of_valid hnodes hok
  have htitle :
      (Validation.run gateText (.ofTitle? (some "Court")) defaultTerminating).start = "Court" := by
    decide +kernel
  rw [htitle] at hstarts
  exact ⟨h, hh, (hstarts (by decide)).1⟩

private def untitledText : String := "title:\n---\nHello.\n===\n"

/-- A script whose only node has no title is valid, and no session starts at it. -/
theorem valid_not_started : (Script.read untitledText).1.nodes ≠ [] ∧
    (Validation.run untitledText (.ofTitle? none) defaultTerminating).ok = true ∧
    ∃ h, Host.ofText untitledText [] [] = .ok h ∧
      (h.start (Validation.run untitledText (.ofTitle? none) defaultTerminating).start).result =
        .error (.session .emptyTitle) := by
  have hok : (Validation.run untitledText (.ofTitle? none) defaultTerminating).ok = true := by
    decide +kernel
  have hstart : (Validation.run untitledText (.ofTitle? none) defaultTerminating).start = "" := by
    decide +kernel
  refine ⟨by decide +kernel, hok, _, Host.ofText_of_ok hok, ?_⟩
  rw [hstart]
  exact (Host.start_empty _).1

end Session
end Dialogue
