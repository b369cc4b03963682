import Dialogue.Proofs.Body.Speakers
import Dialogue.Proofs.Session.Loop
import Dialogue.Proofs.Session.Turns

/-! Speakers of a session: whoever talks was named by a line that a node of the script delivers, and
so a script without a report on its speakers never leaves a session without an animation to play. -/
namespace Dialogue.Session

/-- Names of speakers that some visited titles make a node of the script deliver. -/
def Voiced (script : Script) (name : String) : Prop :=
  ∃ n ∈ script.nodes, ∃ k visited text, n.Delivers visited k text ∧
    (Speech.ofLine text).speaker = some name

theorem Turn.allowed_of_forall {allowed : String → Prop} (h : ∀ title, allowed title) (t : Turn) :
    t.Allowed allowed := by
  cases t with
  | start title => exact h title
  | _ => exact True.intro

section Voiced
variable {script : Script} {s u : State}

theorem State.talking_eq_some {line name : String} (h : s.talking line = some name) :
    (Speech.ofLine line).speaker = some name ∨ s.activeSpeaker = some name := by
  unfold State.talking at h
  cases hs : (Speech.ofLine line).speaker with
  | none => exact .inr (by simpa [hs] using h)
  | some speaker =>
    simp only [hs] at h
    split_ifs at h
    · exact .inr h
    · exact .inl h

theorem activeSpeaker_proceed {answer : Option Answer} (h : proceed script s answer = .ok u) :
    u.activeSpeaker = s.activeSpeaker := by
  cases proceeds_of_proceed h with
  | resolve _ hr =>
    obtain ⟨options, o, title, node, -, -, -, -, rfl⟩ := resolve_eq_ok hr
    rw [State.entering_activeSpeaker, State.leaving]
    split_ifs <;> rfl
  | navigate _ hn => exact activeSpeaker_navigate hn
  | stay => rfl

/-- A state at which a line is shown stands in a node of the script. -/
theorem Coherent.voiced_shows (hc : Coherent script s) {e : Option Event} (h : Shows s u e)
    {name : String} (hu : u.activeSpeaker = some name) :
    Voiced script name ∨ s.activeSpeaker = some name := by
  cases h with
  | @line c line hp hcontent hl =>
    rcases State.talking_eq_some hu with hspeaker | hactive
    · obtain ⟨node, before, ho, -, rfl⟩ := hc.opened_of_content hp hcontent
      obtain ⟨k, hk⟩ := Node.mem_lines_iff.mp (List.mem_of_getElem? hl)
      exact .inl ⟨node, mem_of_openNode ho.opens, k, before, line, hk, hspeaker⟩
    · exact .inr hactive
  | _ => exact .inr hu

/-- Whoever talks has been voiced since the session was started, or has been talking before. -/
theorem Moment.voiced {allowed : String → Prop} (hc : Coherent script s)
    (h : Moment script allowed s u) {name : String} (hu : u.activeSpeaker = some name) :
    Voiced script name ∨ s.activeSpeaker = some name := by
  induction h with
  | here => exact .inr hu
  | start _ _ hs =>
    obtain ⟨node, -, rfl⟩ := start_eq_ok_iff.mp hs
    simp at hu
  | proceed _ hp ih => exact ih ((activeSpeaker_proceed hp).symm.trans hu)
  | quiet _ _ hn ih => exact ih ((activeSpeaker_navigate hn).symm.trans hu)
  | shown hm ih =>
    rcases (hm.coherent hc).voiced_shows (shows_show? _) hu with hvoiced | hactive
    · exact .inl hvoiced
    · exact ih hactive

/-- Only a name that the report has an entry for can be without an animation. -/
theorem exists_issue_of_voiced {name : String} (h : Voiced script name)
    (hnone : script.speakers.get? name = none) :
    ∃ i ∈ script.undefinedSpeakers, i.speaker = name := by
  obtain ⟨n, hn, k, visited, text, hdelivers, hspeaker⟩ := h
  exact ⟨⟨n.title, name, n.bodyLine + k⟩, Script.mem_undefinedSpeakers_iff.mpr
    ⟨n, hn, k, visited, text, rfl, rfl, hdelivers, hspeaker, hnone⟩, rfl⟩

theorem currentAnimation_error {h : Host} {name : String}
    (he : h.currentAnimation = .error name) :
    h.state.activeSpeaker = some name ∧ h.script.speakers.get? name = none := by
  unfold Host.currentAnimation at he
  cases hs : h.state.activeSpeaker with
  | none => simp [hs] at he
  | some speaker =>
    cases ha : h.animation? speaker with
    | some a => simp [hs, ha] at he
    | none =>
      obtain rfl : speaker = name := by simpa [hs, ha] using he
      exact ⟨rfl, Option.map_eq_none_iff.mp ha⟩

/-- At no moment of a fresh session, handlers at work or not, an animation is asked for that the
report does not name. -/
theorem exists_issue_of_error {allowed : String → Prop} {visited : List String}
    (hm : Moment script allowed { visited := visited } s) {handlers : Table Handler}
    {name : String} (he : Host.currentAnimation ⟨script, handlers, s⟩ = .error name) :
    ∃ i ∈ script.undefinedSpeakers, i.speaker = name := by
  obtain ⟨hactive, hnone⟩ := currentAnimation_error he
  rcases hm.voiced (.idle rfl) hactive with hvoiced | hbefore
  · exact exists_issue_of_voiced hvoiced hnone
  · simp at hbefore

end Voiced

end Dialogue.Session

namespace Dialogue
open Session

/-- The report on the speakers of a text is exact. -/
theorem undefinedSpeakers_exact (text : String) : ∃ script issues,
    Script.read text = (script, issues) ∧
    script.undefinedSpeakers =
      (script.nodes.flatMap fun n => scanSpeakers script.speakers n.title n.bodyLine n.body) ∧
    (script.undefinedSpeakers.Pairwise fun i j => i.line < j.line) ∧
    (∀ i, i ∈ script.undefinedSpeakers ↔ ∃ n ∈ script.nodes, ∃ k l visited spoken,
      i.node = n.title ∧ i.line = n.bodyLine + k ∧ n.body[k]? = some l ∧
      (Source.lines text)[i.line - 1]? = some l ∧ (Gate.split (Text.trim l)).2 = spoken ∧
      n.Delivers visited k spoken ∧ (Speech.ofLine spoken).speaker = some i.speaker ∧
      ∀ b ∈ Block.ofText text, b.head ≠ .speaker i.speaker) ∧
    (script.undefinedSpeakers = [] → ∀ handlers seed h,
      Host.create script handlers seed = .ok h →
      (∀ s, Moment script (fun _ => True) h.state s →
        ∃ a, Host.currentAnimation { h with state := s } = .ok a) ∧
      ∀ turns, ∃ a, (h.after turns).currentAnimation = .ok a) := by
  refine ⟨(Script.read text).1, (Script.read text).2, rfl, Script.undefinedSpeakers_eq_scan _,
    Script.undefinedSpeakers_pairwise text, fun i => ?_, ?_⟩
  · rw [Script.mem_undefinedSpeakers_iff]
    refine exists_congr fun n => and_congr_right fun hn => ?_
    constructor
    · rintro ⟨k, visited, spoken, htitle, hline, hdelivers, hspeaker, hnone⟩
      obtain ⟨l, hl, htext⟩ := hdelivers.exists_line
      refine ⟨k, l, visited, spoken, htitle, hline, hl, ?_, htext, hdelivers, hspeaker,
        Script.speakers_get?_eq_none_iff.mp hnone⟩
      rw [hline]
      exact Script.getElem?_body hn hl
    · rintro ⟨k, l, visited, spoken, htitle, hline, -, -, -, hdelivers, hspeaker, hnone⟩
      exact ⟨k, visited, spoken, htitle, hline, hdelivers, hspeaker,
        Script.speakers_get?_eq_none_iff.mpr hnone⟩
  · intro hempty handlers seed h hh
    obtain rfl := Host.create_eq_ok hh
    have hanimated : ∀ s, Moment (Script.read text).1 (fun _ => True)
        { visited := seed.foldl visit [] } s →
        ∃ a, Host.currentAnimation ⟨(Script.read text).1, handlers, s⟩ = .ok a := by
      intro s hm
      cases ha : Host.currentAnimation ⟨(Script.read text).1, handlers, s⟩ with
      | ok a => exact ⟨a, rfl⟩
      | error name =>
        obtain ⟨i, hi, -⟩ := exists_issue_of_error hm ha
        simp [hempty] at hi
    refine ⟨hanimated, fun turns => ?_⟩
    have hmoment := Host.after_moment
      (h := ⟨(Script.read text).1, handlers, { visited := seed.foldl visit [] }⟩)
      (fun t (_ : t ∈ turns) => Turn.allowed_of_forall (fun _ => True.intro) t) .here
    rw [Host.after_host]
    exact hanimated _ hmoment

/-- A blank line above the body moves the report down, a gate does not hide it, and below an option
there is none. -/
example :
    let text := "title: Hall\n---\n\n\x7bYard\x7d Ada: Back?\nBo: Hi.\n-> Cy: No\n===\n" ++
      "speaker: Bo\n"
    (Script.read text).1.undefinedSpeakers = [⟨"Hall", "Ada", 4⟩] := by decide +kernel

end Dialogue
