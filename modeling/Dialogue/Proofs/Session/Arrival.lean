import Dialogue.Proofs.Session.Following

/-! Calls that follow the links of a script: what the report does not name as non-terminating comes
to an end by some choices, unless nodes hide links from a session. -/
namespace Dialogue.Session
open Dialogue.Graph

/-- Scripts in which no gate hides anything, no link is a detour and every link leads to one node.
-/
structure Plain (script : Script) : Prop where
  unique : script.titles.Nodup
  ungated : ∀ n ∈ script.nodes, (∀ l ∈ n.skeleton.lines, l.gate = none) ∧
    ∀ o ∈ n.skeleton.options, o.gate = none
  direct : ∀ n ∈ script.nodes, ∀ l ∈ n.skeleton.links, l.detour = false
  linked : ∀ n ∈ script.nodes, ∀ o ∈ n.skeleton.options, o.link ≠ none
  present : dangling script = []

/-- A node whose links can all be followed and whose command is run if it terminates: its jumps
agree, and beside options it has neither a jump nor such a command. -/
structure Unmixed (terminating : List String) (n : Node) : Prop where
  jumps : ∀ a ∈ n.skeleton.jumps, ∀ b ∈ n.skeleton.jumps, a = b
  options : n.skeleton.options ≠ [] → n.skeleton.jumps = [] ∧
    ∀ k, n.skeleton.command? = some k → k.name ∉ terminating

/-- A title that the report lets pass: it can be reached, it is not examined, and it is not named as
non-terminating. -/
structure Cleared (script : Script) (start : Option String) (terminating : List String)
    (title : String) : Prop where
  plain : Plain script
  reachable : Reachable script start title
  unexamined : ∀ n ∈ script.nodes, n.title = title → n.hasTag examineTag = false
  unreported : title ∉ (report script start terminating).nonterminating

/-- A call enters a node of a title, if only on its way through silent nodes. It then has visited
the title, or it fails because the silent nodes lead nowhere. -/
structure Enters (script : Script) (s : State) (answer : Option Answer) (title : String) :
    Prop where
  entered : ∃ u v, proceed script s answer = .ok u ∧ Silently script u v ∧ v.current = some title
  outcome : (∃ v e, step script s answer = .ok (v, e) ∧ title ∈ v.visited) ∨
    ∃ t, step script s answer = .error (.loop t)

/-- A call that comes to the end of the dialogue, shows a terminating command, or enters a final
node. -/
inductive Concludes (script : Script) (terminating : List String) (s : State)
    (answer : Option Answer) : Prop
  | ended {v : State} (h : step script s answer = .ok (v, none)) (hp : v.phase = .ended)
  | command {v : State} {k : Command} {c : Compiled}
      (h : step script s answer = .ok (v, some (.command k c))) (hk : k.name ∈ terminating)
  | final {n : Node} (hn : n ∈ script.nodes) (ht : n.hasTag finalTag = true)
      (h : Enters script s answer n.title)

/-- Some choices drive a session from a state to a conclusion. -/
def Concludable (script : Script) (terminating : List String) (s : State) : Prop :=
  ∃ choices u i, Called script s choices u ∧ Concludes script terminating u (reply i)

/-- A state of a call in which it is about to come to its conclusion. -/
inductive Arrived (script : Script) (terminating : List String) (s : State) : Prop
  | ended (h : s.phase = .ended)
  | command {v : State} {k : Command} {c : Compiled} (h : Shows s v (some (.command k c)))
      (hk : k.name ∈ terminating)
  | final {n : Node} (hn : n ∈ script.nodes) (ht : n.hasTag finalTag = true)
      (hc : s.current = some n.title)

/-- Where calls pass a state that is about to conclude, one of them concludes. -/
theorem Arrived.concludable {script : Script} {terminating : List String} {s u : State}
    {choices : List Nat} (h : Arrived script terminating u) (hopen : Unbroken script)
    (hs : Running script s) (hu : Passes script s choices u) :
    Concludable script terminating s := by
  obtain ⟨before, x, i, w, hx, -, hp, hw⟩ := hu.exists_call hs
  have hxc := hx.coherent hs.coherent
  refine ⟨before, x, i, hx, ?_⟩
  cases h with
  | ended hphase =>
    have hq : ¬ u.Quiet := fun hq => by simp [hq.1] at hphase
    have hstep := step_of_silently hxc hp hw hq
    rw [show show? u = (u, none) by simp [show?, hphase]] at hstep
    exact .ended hstep hphase
  | command hshow hk =>
    have hstep := step_of_silently hxc hp hw hshow.not_quiet
    rw [hshow.show?_eq] at hstep
    exact .command hstep hk
  | final hn ht hcur =>
    have hrun := hw.running (running_of_proceed hxc hp)
    have hmem := hrun.coherent.mem_visited_of_current hcur
    exact .final hn ht ⟨⟨w, u, hp, hw, hcur⟩, visited_of_silently hopen hxc hp hw hmem⟩

/-- A state in a node that was compiled against some titles, with no caller to return to. -/
structure Inside (n : Node) (before : List String) (s : State) : Prop where
  phase : s.phase = .emitting
  current : s.current = some n.title
  content : s.content = some (n.compile before)
  callers : s.returnStack = []

theorem inside_entering {s : State} (h : s.returnStack = []) (n : Node) :
    Inside n s.visited (s.entering n false) := ⟨rfl, rfl, rfl, h⟩

theorem Inside.within {n : Node} {before : List String} {s : State} (h : Inside n before s) :
    Within n before s := ⟨h.phase, h.current, h.content⟩

theorem Plain.followable {script : Script} {terminating : List String} {n : Node}
    (hp : Plain script) (hn : n ∈ script.nodes) (hmix : Unmixed terminating n) : Followable n :=
  ⟨(hp.ungated n hn).2, hmix.jumps, fun h => (hmix.options h).1⟩

section Plain
variable {script : Script} {terminating : List String} {s u : State} {choices : List Nat}
  {n : Node} {before : List String} (hp : Plain script) (hn : n ∈ script.nodes)
include hp hn

theorem Plain.options_compile (before : List String) :
    (n.compile before).options = n.skeleton.options.map (·.choice before) :=
  Skeleton.shownOptions_of_ungated (hp.ungated n hn).2 before

/-- Some calls bring a node that ends the dialogue to its end. -/
theorem Plain.exists_arrived (hmix : Unmixed terminating n)
    (hend : Graph.isTerminal terminating n = true) (h : Passes script s choices u)
    (hu : Inside n before u) :
    ∃ choices' v, Passes script s choices' v ∧ Arrived script terminating v := by
  obtain ⟨v, hv, hin, hstack, hdone⟩ := h.exists_delivered hu.within
  rcases isTerminal_iff.mp hend with ⟨k, hk, hmem⟩ | ⟨-, hlinks⟩ | hfinal
  · have hnone : n.skeleton.options = [] := by
      by_contra hne
      exact (hmix.options hne).2 k hk hmem
    have hoptions : (n.compile before).options = [] := by simp [hp.options_compile hn, hnone]
    exact ⟨choices, v, hv, .command (.command hin.phase hin.content hdone hoptions hk) hmem⟩
  · obtain ⟨hjumps, hunlinked⟩ := Skeleton.links_eq_nil_iff.mp hlinks
    have hnone : n.skeleton.options = [] :=
      List.eq_nil_iff_forall_not_mem.mpr fun o ho => hp.linked n hn o ho (hunlinked o ho)
    have hlast : (n.compile before).jump = none := List.getLast?_eq_none_iff.mpr hjumps
    have hnav : navigate script v = .ok { v with phase := .ended, pending := none } := by
      rw [navigate_eq, State.jump?, hin.content, Option.bind_some, hlast, hstack, hu.callers]
      rfl
    exact ⟨choices, _, hv.leave hin hdone (by simp [hp.options_compile hn, hnone]) hnav,
      .ended rfl⟩
  · exact ⟨choices, u, h, .final hn hfinal hu.current⟩

/-- Calls can follow every path of links to its end. -/
theorem Plain.exists_arrived_of_leads (hmix : ∀ n ∈ script.nodes, Unmixed terminating n)
    {m : Node} (hm : m ∈ script.nodes) (hend : Graph.isTerminal terminating m = true)
    (hpath : Leads (edges script) n.title m.title) (h : Passes script s choices u)
    (hu : Inside n before u) :
    ∃ choices' v, Passes script s choices' v ∧ Arrived script terminating v := by
  have hinj := List.inj_on_of_nodup_map hp.unique
  generalize ht : n.title = title at hpath
  induction hpath using Relation.ReflTransGen.head_induction_on
    generalizing n before choices u with
  | refl =>
    obtain rfl := hinj hn hm ht
    exact hp.exists_arrived hn (hmix n hn) hend h hu
  | head hedge _ ih =>
    obtain ⟨n', hn', l, hl, -, ⟨hsource, htarget⟩ | ⟨hdetour, -, -⟩⟩ :=
      exists_link_of_mem_edges hedge
    · obtain rfl := hinj hn' hn (hsource.trans ht.symm)
      obtain ⟨choices', v, k, hv, hopen, hstack⟩ :=
        h.follow (hp.followable hn (hmix _ hn)) hp.present hn hl hu.within
      have hin := inside_entering ((hstack (hp.direct _ hn l hl)).trans hu.callers) k
      exact ih (mem_of_openNode hopen) hv hin ((title_of_openNode hopen).trans htarget)
    · exact absurd (hp.direct n' hn' l hl) (by simp [hdetour])

end Plain

/-- What the report lets pass can be brought to a conclusion, unless nodes hide links or commands
from a session. -/
theorem Cleared.exists_concludable {script : Script} {start : Option String}
    {terminating : List String} {title : String} (h : Cleared script start terminating title)
    (hmix : ∀ n ∈ script.nodes, Unmixed terminating n) (ht : title ≠ "") (s₀ : State) :
    ∃ s, Session.start script s₀ title = .ok s ∧ Concludable script terminating s := by
  obtain ⟨m, hm, hend, hpath⟩ :=
    canEnd_of_not_mem_nonterminating h.reachable h.unexamined h.unreported
  obtain ⟨n, hopen⟩ := exists_openNode_iff.mpr ⟨ht, h.reachable.hasTitle⟩
  obtain rfl := title_of_openNode hopen
  have hstart := start_eq_ok_iff (s := s₀) |>.mpr ⟨n, hopen, rfl⟩
  have hrun := running_of_start hstart
  have hunbroken : Unbroken script := fun m hm l hl =>
    exists_openNode_of_link h.plain.present (mem_of_openNode hm) hl
  have hin := inside_entering (s := { s₀ with returnStack := [], activeSpeaker := none }) rfl n
  obtain ⟨choices, u, hu, harrived⟩ := h.plain.exists_arrived_of_leads (mem_of_openNode hopen)
    hmix hm hend hpath .here hin
  exact ⟨_, hstart, harrived.concludable hunbroken hrun hu⟩

/-- A choice between staying and a level. -/
private def crossing : Script where
  nodes := [
    { title := "Crossing", body := ["Halt.", "-> Stay", "<<jump Crossing>>", "-> Go on",
      "<<jump Road>>"] },
    { title := "Road", body := ["Onward.", "<<loadLevel Hills>>"] }]

theorem exists_concludable_crossing :
    Cleared crossing (some "Crossing") defaultTerminating "Crossing" ∧
    (∀ n ∈ crossing.nodes, Unmixed defaultTerminating n) ∧
    ∃ s, start crossing {} "Crossing" = .ok s ∧ Concludable crossing defaultTerminating s := by
  have hplain : Plain crossing := by constructor <;> decide +kernel
  have hcleared : Cleared crossing (some "Crossing") defaultTerminating "Crossing" :=
    ⟨hplain, reachable_start (by decide +kernel), by decide +kernel, by decide +kernel⟩
  have hmix : ∀ n ∈ crossing.nodes, Unmixed defaultTerminating n := by
    intro n hn
    fin_cases hn
    · exact ⟨by decide +kernel, by decide +kernel⟩
    · exact ⟨by decide +kernel, by decide +kernel⟩
  exact ⟨hcleared, hmix, hcleared.exists_concludable hmix (by decide) {}⟩

/-- Where calls keep to some states and never show the end or a terminating command, there is no
conclusion without a final node. -/
theorem not_concludable_of_invariant {script : Script} {terminating : List String} {s : State}
    (P : State → Prop) (hfinal : ∀ n ∈ script.nodes, n.hasTag finalTag = false)
    (hstep : ∀ u i v e, P u → step script u (reply i) = .ok (v, e) →
      P v ∧ ∃ f, e = some f ∧ ∀ k c, f = .command k c → k.name ∉ terminating)
    (hs : P s) : ¬ Concludable script terminating s := by
  rintro ⟨choices, u, i, hu, hend⟩
  have hpu : P u := by
    clear hend
    induction hu with
    | here => exact hs
    | call j _ hj ih => exact (hstep _ j _ _ ih hj).1
  cases hend with
  | ended h =>
    obtain ⟨-, f, hf, -⟩ := hstep u i _ _ hpu h
    simp at hf
  | command h hk =>
    obtain ⟨-, f, hf, hcommand⟩ := hstep u i _ _ hpu h
    exact hcommand _ _ (Option.some.inj hf).symm hk
  | final hn ht => simp [hfinal _ hn] at ht

/-- A node with two jumps, of which the second takes the place of the first. -/
private def ring : Script where
  nodes := [
    { title := "Ring", body := ["Round again.", "<<jump Way>>", "<<jump Ring>>"] },
    { title := "Way", body := ["Out."] }]

private def ringStart : State where
  phase := .emitting
  current := some "Ring"
  content := some { title := "Ring", lines := ["Round again."], jump := some "Ring" }
  visited := ["Ring"]

private def ringSaid : State := { ringStart with lineIndex := 1 }

private theorem cleared_ring : Cleared ring (some "Ring") defaultTerminating "Ring" := by
  have hplain : Plain ring := by constructor <;> decide +kernel
  exact ⟨hplain, reachable_start (by decide +kernel), by decide +kernel, by decide +kernel⟩

private theorem not_concludable_ring : ¬ Concludable ring defaultTerminating ringStart := by
  have hcall : ∀ u ∈ [ringStart, ringSaid], ∃ c ∈ ringStart.content,
      step ring u none = .ok (ringSaid, some (.line none "Round again." c)) := by decide +kernel
  refine not_concludable_of_invariant (· ∈ [ringStart, ringSaid]) (by decide +kernel) ?_
    List.mem_cons_self
  intro u i v e hu h
  have hphase : u.phase = .emitting := by
    clear h
    revert u
    decide
  cases i with
  | none =>
    obtain ⟨c, -, hc⟩ := hcall u hu
    obtain ⟨rfl, rfl⟩ := Prod.mk.inj (Except.ok.inj (hc.symm.trans h))
    exact ⟨by simp, _, rfl, by simp⟩
  | some i => simp [step, proceed, reply, hphase] at h

/-- A node with an option that stays, below a jump or a command. -/
private def lure (above : String) : Script where
  nodes := [
    { title := "Lure", body := [above, "-> Stay", "<<jump Lure>>"] },
    { title := "Way", body := ["Out."] }]

private def lureStart (above : String) : State where
  phase := .emitting
  current := some "Lure"
  content := ((lure above).node? "Lure").map (·.compile [])
  visited := ["Lure"]

private def lureChoice (above : String) (again : Bool) : State where
  phase := .choicePending
  current := some "Lure"
  content := ((lure above).node? "Lure").map (·.compile (if again then ["Lure"] else []))
  visited := ["Lure"]
  pending := some [⟨"Stay", some "Lure", again, false⟩]

section Lure
variable {above : String} (h : above ∈ ["<<jump Way>>", "<<loadLevel Hall>>"])
include h

private theorem cleared_lure : Cleared (lure above) (some "Lure") defaultTerminating "Lure" := by
  have hplain : Plain (lure above) := by
    constructor <;> (revert above; decide +kernel)
  refine ⟨hplain, reachable_start ?_, ?_, ?_⟩ <;> (clear hplain; revert above; decide +kernel)

private theorem not_concludable_lure :
    ¬ Concludable (lure above) defaultTerminating (lureStart above) := by
  have hfinal : ∀ n ∈ (lure above).nodes, n.hasTag finalTag = false := by
    revert above
    decide +kernel
  have hopen : ∃ c ∈ (lureStart above).content, step (lure above) (lureStart above) none =
      .ok (lureChoice above false, some (.choice [⟨"Stay", some "Lure", false, false⟩] c)) := by
    revert above
    decide +kernel
  have hstay : ∀ b, ∃ c ∈ (lureChoice above true).content,
      step (lure above) (lureChoice above b) (some (.ofInt 0)) =
      .ok (lureChoice above true, some (.choice [⟨"Stay", some "Lure", true, false⟩] c)) := by
    revert above
    decide +kernel
  refine not_concludable_of_invariant
    (fun u => u = lureStart above ∨ ∃ b, u = lureChoice above b) hfinal ?_ (.inl rfl)
  rintro u i v e (rfl | ⟨b, rfl⟩) h
  · cases i with
    | none =>
      obtain ⟨c, -, hc⟩ := hopen
      obtain ⟨rfl, rfl⟩ := Prod.mk.inj (Except.ok.inj (hc.symm.trans h))
      exact ⟨.inr ⟨false, rfl⟩, _, rfl, by simp⟩
    | some i => simp [step, proceed, reply, lureStart] at h
  · rcases i with _ | _ | i
    · simp [step, proceed, reply, lureChoice] at h
    · obtain ⟨c, -, hc⟩ := hstay b
      obtain ⟨rfl, rfl⟩ := Prod.mk.inj (Except.ok.inj (hc.symm.trans h))
      exact ⟨.inr ⟨true, rfl⟩, _, rfl, by simp⟩
    · simp [step, proceed, reply, lureChoice, resolve_eq, option?, Answer.ofInt] at h

end Lure

/-- A node without a title. -/
private def nameless : Script where
  nodes := [{ title := "", body := ["Hello."] }]

private theorem cleared_nameless : Cleared nameless (some "") defaultTerminating "" := by
  have hplain : Plain nameless := by constructor <;> decide +kernel
  exact ⟨hplain, reachable_start (by decide +kernel), by decide +kernel, by decide +kernel⟩

/-- A final node in a silent circle. -/
private def mist : Script where
  nodes := [
    { title := "Mist", body := ["<<jump Veil>>"] },
    { title := "Veil", metadata := [("tags", "final")], body := ["<<jump Mist>>"] }]

private def mistStart : State where
  phase := .emitting
  current := some "Mist"
  content := some { title := "Mist", jump := some "Veil" }
  visited := ["Mist"]

private theorem cleared_mist : Cleared mist (some "Mist") defaultTerminating "Mist" := by
  have hplain : Plain mist := by constructor <;> decide +kernel
  exact ⟨hplain, reachable_start (by decide +kernel), by decide +kernel, by decide +kernel⟩

private theorem eq_of_called_mist {choices : List Nat} {u : State}
    (h : Called mist mistStart choices u) : u = mistStart := by
  have hcall : step mist mistStart none = .error (.loop (some "Veil")) := by decide +kernel
  induction h with
  | here => rfl
  | @call _ _ _ _ i _ hs ih =>
    subst ih
    cases i with
    | none => simp [reply, hcall] at hs
    | some i => simp [step, proceed, reply, mistStart] at hs

/-- Where the report promises too much: of two jumps it counts the one that is not taken, beside
options it counts jumps and commands that a session never comes to, a title that opens no node
passes, and so does a silent circle whose final node no call returns from. -/
theorem cleared_not_concludable :
    (Cleared ring (some "Ring") defaultTerminating "Ring" ∧
      start ring {} "Ring" = .ok ringStart ∧ ¬ Concludable ring defaultTerminating ringStart) ∧
    (∀ above ∈ ["<<jump Way>>", "<<loadLevel Hall>>"],
      Cleared (lure above) (some "Lure") defaultTerminating "Lure" ∧
      start (lure above) {} "Lure" = .ok (lureStart above) ∧
      ¬ Concludable (lure above) defaultTerminating (lureStart above)) ∧
    (Cleared nameless (some "") defaultTerminating "" ∧
      start nameless {} "" = .error .emptyTitle) ∧
    (Cleared mist (some "Mist") defaultTerminating "Mist" ∧
      start mist {} "Mist" = .ok mistStart ∧
      ∀ choices u, Called mist mistStart choices u → "Veil" ∉ u.visited ∧ u.phase ≠ .ended) := by
  have hlure : ∀ above ∈ ["<<jump Way>>", "<<loadLevel Hall>>"],
      start (lure above) {} "Lure" = .ok (lureStart above) := by decide +kernel
  refine ⟨⟨cleared_ring, by decide +kernel, not_concludable_ring⟩,
    fun above h => ⟨cleared_lure h, hlure above h, not_concludable_lure h⟩,
    ⟨cleared_nameless, by decide +kernel⟩, ⟨cleared_mist, by decide +kernel, ?_⟩⟩
  rintro choices u hu
  obtain rfl := eq_of_called_mist hu
  decide

end Dialogue.Session
