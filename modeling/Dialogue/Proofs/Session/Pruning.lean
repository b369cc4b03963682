import Dialogue.Proofs.Graph.Report
import Dialogue.Proofs.Session.Turns

/-! Nodes reported as unreachable: no session enters one, and no session misses one. -/
namespace Dialogue.Session
open Dialogue.Graph

/-- Where a session may be started for a report to hold: at the start of the report, or at an
examined node. -/
def Entrance (script : Script) (start : Option String) (title : String) : Prop :=
  start = some title ∨ ∃ n ∈ script.nodes, n.title = title ∧ n.hasTag examineTag = true

/-- A title that no node has, or one that can be reached. -/
def Alive (script : Script) (start : Option String) (title : String) : Prop :=
  script.hasTitle title = true → Reachable script start title

section Alive
variable {script : Script} {start : Option String} {title : String}

theorem alive_of_entrance (h : Entrance script start title) : Alive script start title := by
  intro ht
  rcases h with rfl | ⟨n, hn, rfl, hexamine⟩
  · exact reachable_start ht
  · exact reachable_examined hn hexamine

/-- Whatever gates and visited titles let through, it is an edge of the graph. -/
theorem closed_alive (script : Script) (start : Option String) :
    Closed script (Alive script start) := by
  intro n hn halive l hl ht
  have htitle : script.hasTitle n.title = true := (script.hasTitle_iff n.title).mpr ⟨n, hn, rfl⟩
  have hreach : Reachable script start n.title := halive htitle
  exact hreach.link hn hl ht

theorem not_mem_unreachable (h : Alive script start title) (terminating : List String) :
    title ∉ (report script start terminating).unreachable := by
  intro hmem
  obtain ⟨ht, hreach⟩ := not_reachable_of_mem_unreachable hmem
  exact hreach (h ht)

theorem Moment.alive {visited : List String} {s : State}
    (h : Moment script (Entrance script start) { visited := visited } s) :
    Coherent script s ∧ Confined (Alive script start) visited s :=
  h.of_fresh (closed_alive script start) fun _ => alive_of_entrance

theorem node?_without_unreachable (h : Alive script start title) (terminating : List String) :
    (script.without (report script start terminating).unreachable).node? title =
      script.node? title :=
  script.node?_without _ (not_mem_unreachable h terminating)

end Alive

theorem twins_without_unreachable (script : Script) (handlers : Table Handler)
    (visited : List String) (start : Option String) (terminating : List String) :
    Host.Twins (Entrance script start) { visited } ⟨script, handlers, { visited }⟩
      ⟨script.without (report script start terminating).unreachable, handlers, { visited }⟩ where
  handlers := rfl
  state := rfl
  step s answer hs := by
    obtain ⟨hcoh, hconf⟩ := hs.alive
    exact step_congr (fun t ht => node?_without_unreachable ht terminating)
      (closed_alive script start) hcoh hconf answer
  start s title ht :=
    start_congr (node?_without_unreachable (alive_of_entrance ht) terminating) s

/-- A session started at entrances only never enters an unreachable node, not even on its way
through silent ones, and without those nodes every run stays the same: its results, the calls of its
handlers and its states. -/
theorem without_unreachable {script : Script} {handlers : Table Handler} {seed : List String}
    {h : Host} (hh : Host.create script handlers seed = .ok h) (start : Option String)
    (terminating : List String) :
    (∀ s, Moment script (Entrance script start) h.state s →
      ∀ t ∈ (report script start terminating).unreachable,
        s.current ≠ some t ∧ (t ∈ s.visited → t ∈ seed)) ∧
    ∃ h', Host.create (script.without (report script start terminating).unreachable) handlers seed =
        .ok h' ∧ h'.state = h.state ∧
      ∀ turns, (∀ t ∈ turns, t.Allowed (Entrance script start)) →
        Moment script (Entrance script start) h.state (h.after turns).state ∧
        (h'.after turns).state = (h.after turns).state ∧
        ∀ t, t.Allowed (Entrance script start) →
          ((h.after turns).turn t).Same ((h'.after turns).turn t) := by
  have hcreate := Host.create_congr hh
    (script.without (report script start terminating).unreachable) seed
  obtain rfl := Host.create_eq_ok hh
  refine ⟨fun s hs t ht => ?_, _, hcreate, rfl, fun turns hturns => ?_⟩
  · have hconf := hs.alive.2
    refine ⟨fun hcur => ?_, fun hvisited => ?_⟩
    · exact not_mem_unreachable (hconf.current t hcur) terminating ht
    · rcases hconf.visited t hvisited with hseed | halive
      · simpa using (Host.mem_foldl_visit seed [] t).mp hseed
      · exact absurd ht (not_mem_unreachable halive terminating)
  · have htwins := (twins_without_unreachable script handlers (seed.foldl visit []) start
      terminating).after hturns .here
    have hmoment := Host.after_moment (h := ⟨script, handlers, { visited := seed.foldl visit [] }⟩)
      hturns .here
    refine ⟨hmoment, htwins.state, fun t ht => htwins.turn_same ht ?_⟩
    rw [Host.after_script]
    exact hmoment

/-- A house whose attic leads down but cannot be reached. -/
private def house : Script where
  nodes := [
    { title := "Hall", body := ["Dark here.", "<<jump Cellar>>"] },
    { title := "Attic", body := ["<<jump Hall>>"] },
    { title := "Cellar", body := ["{Attic} No way out."] }]

/-- Visited before, the attic opens a gate in either script, and nothing else of it counts. -/
theorem without_unreachable_attic :
    Host.create house [] ["Attic"] = .ok ⟨house, [], { visited := ["Attic"] }⟩ ∧
    (report house (some "Hall") []).unreachable = ["Attic"] ∧
    ∃ h', Host.create (house.without ["Attic"]) [] ["Attic"] = .ok h' ∧
      (h'.after [.start "Hall", .advance, .advance]).state =
        (Host.after ⟨house, [], { visited := ["Attic"] }⟩
          [.start "Hall", .advance, .advance]).state := by
  have hcreate : Host.create house [] ["Attic"] = .ok ⟨house, [], { visited := ["Attic"] }⟩ :=
    Host.create_without_handlers house ["Attic"]
  have hdead : (report house (some "Hall") []).unreachable = ["Attic"] := by decide +kernel
  obtain ⟨-, h', hh', -, hrun⟩ := without_unreachable hcreate (some "Hall") []
  rw [hdead] at hh'
  refine ⟨hcreate, hdead, h', hh', (hrun _ ?_).2.1⟩
  intro t ht
  rcases List.mem_cons.mp ht with rfl | ht
  · exact .inl rfl
  · obtain rfl : t = .advance := by simpa using ht
    trivial

end Dialogue.Session
