import Dialogue.Proofs.Session.Following
import Dialogue.Proofs.Session.Pruning

/-! Entries: what the report does not name as unreachable is entered by some run, unless the graph
comes to it against a detour that no run takes. -/
namespace Dialogue.Session
open Dialogue.Graph

/-- Scripts in which every node speaks, no gate hides anything and no link stands in the way of
another. -/
structure Lucid (script : Script) : Prop where
  unique : script.titles.Nodup
  ungated : ∀ n ∈ script.nodes, (∀ l ∈ n.skeleton.lines, l.gate = none) ∧
    ∀ o ∈ n.skeleton.options, o.gate = none
  spoken : ∀ n ∈ script.nodes, n.skeleton.lines ≠ []
  single : ∀ n ∈ script.nodes, n.skeleton.jumps.length ≤ 1
  apart : ∀ n ∈ script.nodes, n.skeleton.jumps = [] ∨ n.skeleton.options = []
  present : dangling script = []

/-- Whatever was visited before, some choices bring a session started at an entrance to a title. -/
def Entered (script : Script) (start : Option String) (title : String) : Prop :=
  ∀ seed, ∃ root s choices u, Entrance script start root ∧
    Session.start script { visited := seed } root = .ok s ∧ Called script s choices u ∧
    u.current = some title

/-- No session started at entrances only comes to a title, not even on its way through silent
nodes. -/
def Missed (script : Script) (start : Option String) (title : String) : Prop :=
  ∀ seed s, Moment script (Entrance script start) { visited := seed } s → s.current ≠ some title

/-- A title that the graph comes to from where no session does: from an entrance without a title, or
against a detour into an entered node, from a node that is missed. -/
inductive Shadowed (script : Script) (start : Option String) (title : String) : Prop
  | nameless (h : Entrance script start "") (ht : script.hasTitle "" = true)
      (hp : Leads (edges script) "" title)
  | detour {n : Node} {l : Link} (hn : n ∈ script.nodes) (hl : l ∈ n.skeleton.links)
      (hd : l.detour = true) (ht : Entered script start l.target)
      (hm : Missed script start n.title) (hp : Leads (edges script) n.title title)

/-- The titles that links, each in its own direction, join to an entrance that opens a node. -/
inductive Onward (script : Script) (start : Option String) : String → Prop
  | entrance {title : String} {n : Node} (h : Entrance script start title)
      (ho : openNode script title = .ok n) : Onward script start title
  | link {n : Node} {l : Link} (h : Onward script start n.title) (hn : n ∈ script.nodes)
      (hl : l ∈ n.skeleton.links) : Onward script start l.target

/-- Some choices bring a session started at an entrance to where the node of a title has just been
entered, if only on the way through it. -/
def Approached (script : Script) (start : Option String) (seed : List String) (title : String) :
    Prop :=
  ∃ (root : String) (s : State) (choices : List Nat) (u : State) (m : Node),
    Entrance script start root ∧ Session.start script { visited := seed } root = .ok s ∧
    openNode script title = .ok m ∧ Passes script s choices (u.entering m false)

section Onward
variable {script : Script} {start : Option String} {title : String}

/-- A start succeeds only at a title that opens a node. -/
theorem Moment.opened {allowed : String → Prop} {s u : State} (h : Moment script allowed s u) :
    Moment script (fun t => allowed t ∧ ∃ n, openNode script t = .ok n) s u := by
  induction h with
  | here => exact .here
  | start _ ha h ih =>
    obtain ⟨n, ho, -⟩ := start_eq_ok_iff.mp h
    exact ih.start ⟨ha, n, ho⟩ h
  | proceed _ h ih => exact ih.proceed h
  | quiet _ hq h ih => exact ih.quiet hq h
  | shown _ ih => exact ih.shown

theorem Lucid.followable (h : Lucid script) {n : Node} (hn : n ∈ script.nodes) :
    Followable n where
  ungated := (h.ungated n hn).2
  jumps a ha b hb := by
    obtain ⟨t, ht⟩ := List.length_eq_one_iff.mp
      (le_antisymm (h.single n hn) (List.length_pos_of_mem ha))
    simp_all
  options := (h.apart n hn).resolve_right

theorem Lucid.approached (h : Lucid script) (ht : Onward script start title)
    (seed : List String) : Approached script start seed title := by
  induction ht with
  | @entrance title n hentrance ho =>
    exact ⟨title, _, [], _, n, hentrance, start_eq_ok_iff.mpr ⟨n, ho, rfl⟩, ho, .here⟩
  | @link n l _ hn hl ih =>
    obtain ⟨root, s, choices, u, m, hentrance, hs, ho, hu⟩ := ih
    obtain rfl : m = n :=
      List.inj_on_of_nodup_map h.unique (mem_of_openNode ho) hn (title_of_openNode ho)
    obtain ⟨choices', v, k, hv, hk, -⟩ :=
      hu.follow (h.followable hn) h.present hn hl (within_entering u m)
    exact ⟨root, s, choices', v, k, hentrance, hs, hk, hv⟩

/-- A node with a line to deliver ends the call that enters it. -/
theorem Lucid.entered (h : Lucid script) (ht : Onward script start title) :
    Entered script start title := by
  intro seed
  obtain ⟨root, s, choices, u, m, hentrance, hs, ho, hu⟩ := h.approached ht seed
  have hm := mem_of_openNode ho
  have hlines : (m.compile u.visited).lines ≠ [] :=
    Skeleton.shownLines_ne_nil_of_ungated (h.spoken m hm) (h.ungated m hm).1 u.visited
  have hspeaks : ¬ (u.entering m false).Quiet := by
    rw [State.quiet_iff (State.entering_content u m false)]
    rintro ⟨-, hl, -⟩
    exact hlines (List.length_eq_zero_iff.mp (Nat.le_zero.mp hl))
  obtain ⟨before, x, i, w, hx, -, hp, hw⟩ := hu.exists_call (running_of_start hs)
  have hstep := step_of_silently (hx.coherent (coherent_start hs)) hp hw hspeaks
  have hcur : (show? (u.entering m false)).1.current = some title := by
    rw [(shows_show? _).current, State.entering_current, title_of_openNode ho]
  exact ⟨root, s, _, _, hentrance, hs, hx.call i hstep, hcur⟩

theorem Shadowed.tail {a b : String} (h : Shadowed script start a) (he : (a, b) ∈ edges script) :
    Shadowed script start b := by
  cases h with
  | nameless hroot ht hp => exact .nameless hroot ht (hp.tail he)
  | detour hn hl hd ht hm hp => exact .detour hn hl hd ht hm (hp.tail he)

end Onward

end Dialogue.Session
