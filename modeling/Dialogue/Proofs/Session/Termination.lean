import Dialogue.Proofs.Graph.Report
import Dialogue.Proofs.Session.Confinement

/-! Nodes reported as non-terminating: no session started at one comes to a node or a command that
ends a dialogue. -/
namespace Dialogue.Session
open Dialogue.Graph

/-- A title that no node has, or one from which no path of links leads to an end. -/
def Trapped (script : Script) (terminating : List String) (title : String) : Prop :=
  script.hasTitle title = true → ¬ CanEnd script terminating title

section Trapped
variable {script : Script} {terminating : List String} {s : State} {node : Node}
  {before seed : List String}

theorem closed_trapped (script : Script) (terminating : List String) :
    Closed script (Trapped script terminating) := by
  intro n hn htrapped l hl ht hend
  have htitle : script.hasTitle n.title = true := (script.hasTitle_iff n.title).mpr ⟨n, hn, rfl⟩
  exact htrapped htitle (hend.of_link hn hl ht)

theorem not_isTerminal_of_trapped (hn : node ∈ script.nodes)
    (h : Trapped script terminating node.title) : ¬ isTerminal terminating node = true := by
  intro hend
  have htitle : script.hasTitle node.title = true :=
    (script.hasTitle_iff node.title).mpr ⟨node, hn, rfl⟩
  exact h htitle (canEnd_of_isTerminal hn hend)

theorem Opened.not_isTerminal (ho : Opened script s node before)
    (h : Confined (Trapped script terminating) seed s) : ¬ isTerminal terminating node = true :=
  not_isTerminal_of_trapped (mem_of_openNode ho.opens) (h.current _ ho.current)

/-- A command is shown by the node that it is the last command of. -/
theorem Coherent.command_of_shows (hc : Coherent script s) {s' : State} {k : Command}
    {c : Compiled} (h : Shows s s' (some (.command k c))) :
    ∃ node before, Opened script s node before ∧ node.skeleton.command? = some k := by
  cases h with
  | command hp hcontent _ _ hk =>
    obtain ⟨node, before, ho, -, rfl⟩ := hc.opened_of_content hp hcontent
    exact ⟨node, before, ho, hk⟩

/-- A dialogue ends only at a dead end: without gates a node shows all its options. -/
theorem Coherent.isTerminal_of_ended (hc : Coherent script s) (hp : s.phase = .ended)
    (hgates : ∀ n ∈ script.nodes, ∀ o ∈ n.skeleton.options, o.gate = none)
    (hcommands : ∀ n ∈ script.nodes, ∀ k ∈ n.skeleton.commands, k.name ∈ terminating) :
    ∃ node before, Opened script s node before ∧ isTerminal terminating node = true := by
  obtain ⟨node, before, ho, -, hopt, hjump, -⟩ := hc.opened_ended hp
  have hn := mem_of_openNode ho.opens
  refine ⟨node, before, ho, isTerminal_iff.mpr ?_⟩
  cases hk : node.skeleton.command? with
  | some k => exact .inl ⟨k, rfl, hcommands node hn k (List.mem_of_getLast? hk)⟩
  | none =>
    have hoptions : node.skeleton.options = [] := by
      rw [Node.compile, Skeleton.shownOptions_of_ungated (hgates node hn)] at hopt
      exact List.map_eq_nil_iff.mp hopt
    have hjumps : node.skeleton.jumps = [] := List.getLast?_eq_none_iff.mp hjump
    exact .inr (.inl ⟨rfl, Skeleton.links_eq_nil_iff.mpr ⟨hjumps, by simp [hoptions]⟩⟩)

end Trapped

/-- A session started at a non-terminating title only never enters a final node and never shows a
terminating command, and where options have no gates and all commands terminate it never ends. -/
theorem Moment.not_terminated {script : Script} {start : Option String} {terminating : List String}
    {title : String} (h : title ∈ (report script start terminating).nonterminating)
    {seed : List String} {s : State} (hm : Moment script (· = title) { visited := seed } s) :
    (∀ n ∈ script.nodes, n.hasTag finalTag = true → s.current ≠ some n.title) ∧
    (∀ answer s' k c, Session.step script s answer = .ok (s', some (.command k c)) →
      k.name ∉ terminating) ∧
    ((∀ n ∈ script.nodes, ∀ o ∈ n.skeleton.options, o.gate = none) →
      (∀ n ∈ script.nodes, ∀ k ∈ n.skeleton.commands, k.name ∈ terminating) →
      s.phase ≠ .ended) := by
  have hstart : ∀ t, t = title → Trapped script terminating t := by
    rintro t rfl -
    exact not_canEnd_of_mem_nonterminating h
  have htrapped : ∀ {u}, Moment script (· = title) { visited := seed } u →
      Coherent script u ∧ Confined (Trapped script terminating) seed u := fun hu =>
    hu.of_fresh (closed_trapped script terminating) hstart
  obtain ⟨hcoh, hconf⟩ := htrapped hm
  refine ⟨fun n hn htag hcur => ?_, fun answer s' k c hs hk => ?_, fun hgates hcommands hp => ?_⟩
  · have hend : isTerminal terminating n = true := isTerminal_iff.mpr (.inr (.inr htag))
    exact not_isTerminal_of_trapped hn (hconf.current _ hcur) hend
  · obtain ⟨v, hv, hshow⟩ := hm.exists_shows hs
    have hshows := shows_show? v
    rw [hshow] at hshows
    obtain ⟨hvcoh, hvconf⟩ := htrapped hv
    obtain ⟨node, before, ho, hlast⟩ := hvcoh.command_of_shows hshows
    exact ho.not_isTerminal hvconf (isTerminal_iff.mpr (.inl ⟨k, hlast, hk⟩))
  · obtain ⟨node, before, ho, hend⟩ := hcoh.isTerminal_of_ended hp hgates hcommands
    exact ho.not_isTerminal hconf hend

/-- Two nodes that only lead to each other, one way by a detour. -/
private def parlour : Script where
  nodes := [
    { title := "Parlour", body := ["-> Look", "<<detour Mirror>>", "-> Wait", "<<jump Parlour>>"] },
    { title := "Mirror", body := ["-> Turn", "<<jump Parlour>>"] },
    { title := "Door", metadata := [("tags", "final")] }]

private def parlourStart : State where
  phase := .emitting
  current := some "Parlour"
  content := some {
    title := "Parlour"
    options := [⟨"Look", some "Mirror", false, true⟩, ⟨"Wait", some "Parlour", false, false⟩] }
  visited := ["Parlour"]

private def parlourMirror : State where
  phase := .emitting
  current := some "Mirror"
  content := some { title := "Mirror", options := [⟨"Turn", some "Parlour", true, false⟩] }
  visited := ["Parlour", "Mirror"]
  returnStack := ["Parlour"]

/-- At the mirror, with the parlour to return to. -/
theorem not_terminated_parlour :
    "Parlour" ∈ (report parlour (some "Parlour") defaultTerminating).nonterminating ∧
    Moment parlour (· = "Parlour") {} parlourMirror ∧
    (∀ answer s' k c, step parlour parlourMirror answer = .ok (s', some (.command k c)) →
      k.name ∉ defaultTerminating) ∧
    parlourMirror.phase ≠ .ended := by
  have h : "Parlour" ∈ (report parlour (some "Parlour") defaultTerminating).nonterminating := by
    decide +kernel
  have hstart : Moment parlour (· = "Parlour") {} parlourStart :=
    .start .here rfl (by decide +kernel : start parlour {} "Parlour" = .ok parlourStart)
  have hm : Moment parlour (· = "Parlour") {} parlourMirror :=
    .proceed hstart.shown (by decide +kernel :
      proceed parlour (show? parlourStart).1 (some (.ofInt 0)) = .ok parlourMirror)
  have hgates : ∀ n ∈ parlour.nodes, ∀ o ∈ n.skeleton.options, o.gate = none := by decide +kernel
  have hcommands : ∀ n ∈ parlour.nodes, ∀ k ∈ n.skeleton.commands, k.name ∈ defaultTerminating := by
    decide +kernel
  obtain ⟨-, hcommand, hended⟩ := hm.not_terminated h
  exact ⟨h, hm, hcommand, hended hgates hcommands⟩

end Dialogue.Session
