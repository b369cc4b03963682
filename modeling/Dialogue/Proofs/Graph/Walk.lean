import Dialogue.Graph
import Mathlib.Tactic

/-! The walk over the edges of a graph: the titles that it meets are those that a path of edges
reaches from the roots, for its bound leaves room for every edge once. -/
namespace Dialogue.Graph

/-- A path of edges leads from the first title to the second. -/
def Leads (edges : List Edge) : String → String → Prop :=
  Relation.ReflTransGen fun a b => (a, b) ∈ edges

/-- A path along the edges turned round leads back. -/
theorem leads_turned {edges : List Edge} {a b : String} :
    Leads (edges.map fun (a, b) => (b, a)) a b ↔ Leads edges b a := by
  have hturn : (fun a b => (a, b) ∈ edges.map fun (a, b) => (b, a)) =
      Function.swap fun a b => (a, b) ∈ edges := by
    ext x y
    simp [Function.swap]
  rw [Leads, hturn, Relation.reflTransGen_swap]
  rfl

theorem mem_successors {edges : List Edge} {a b : String} :
    b ∈ successors edges a ↔ (a, b) ∈ edges := by
  simp only [successors, List.mem_filterMap]
  constructor
  · rintro ⟨⟨x, y⟩, hm, h⟩
    split_ifs at h with hx
    obtain rfl := Option.some.inj h
    obtain rfl : x = a := by simpa using hx
    exact hm
  · intro hm
    exact ⟨(a, b), hm, by simp⟩

/-- What the walk keeps from step to step. -/
private structure Walking (edges : List Edge) (roots todo seen : List String) : Prop where
  rooted : ∀ r ∈ roots, r ∈ seen ∨ r ∈ todo
  closed : ∀ a ∈ seen, ∀ b, (a, b) ∈ edges → b ∈ seen ∨ b ∈ todo
  sound : ∀ t, t ∈ seen ∨ t ∈ todo → ∃ r ∈ roots, Leads edges r t

/-- The edges whose source has not been seen. -/
private def unused (edges : List Edge) (seen : List String) : List Edge :=
  edges.filter fun e => !seen.contains e.1

private theorem length_unused_snoc (edges : List Edge) {seen : List String} {t : String}
    (ht : t ∉ seen) :
    (unused edges (seen ++ [t])).length + (successors edges t).length =
      (unused edges seen).length := by
  induction edges with
  | nil => rfl
  | cons e es ih =>
    obtain ⟨a, b⟩ := e
    simp only [unused, successors, List.filter_cons, List.filterMap_cons] at ih ⊢
    by_cases ha : a = t
    · subst ha
      simp [ht] at ih ⊢
      omega
    · by_cases hs : a ∈ seen
      · simp [ha, hs] at ih ⊢
        omega
      · simp [ha, hs] at ih ⊢
        omega

private theorem Walking.skip {edges : List Edge} {roots todo seen : List String} {t : String}
    (h : Walking edges roots (t :: todo) seen) (ht : t ∈ seen) :
    Walking edges roots todo seen where
  rooted r hr := by
    rcases h.rooted r hr with hs | hs
    · exact .inl hs
    · rcases List.mem_cons.mp hs with rfl | hs
      · exact .inl ht
      · exact .inr hs
  closed a ha b hb := by
    rcases h.closed a ha b hb with hs | hs
    · exact .inl hs
    · rcases List.mem_cons.mp hs with rfl | hs
      · exact .inl ht
      · exact .inr hs
  sound u hu := h.sound u (hu.imp_right (List.mem_cons_of_mem t))

private theorem Walking.enter {edges : List Edge} {roots todo seen : List String} {t : String}
    (h : Walking edges roots (t :: todo) seen) :
    Walking edges roots (todo ++ successors edges t) (seen ++ [t]) where
  rooted r hr := by
    rcases h.rooted r hr with hs | hs
    · exact .inl (List.mem_append_left _ hs)
    · rcases List.mem_cons.mp hs with rfl | hs
      · exact .inl (by simp)
      · exact .inr (List.mem_append_left _ hs)
  closed a ha b hb := by
    rcases List.mem_append.mp ha with ha | ha
    · rcases h.closed a ha b hb with hs | hs
      · exact .inl (List.mem_append_left _ hs)
      · rcases List.mem_cons.mp hs with rfl | hs
        · exact .inl (by simp)
        · exact .inr (List.mem_append_left _ hs)
    · obtain rfl := List.mem_singleton.mp ha
      exact .inr (List.mem_append_right _ (mem_successors.mpr hb))
  sound u hu := by
    obtain ⟨r, hr, hl⟩ := h.sound t (.inr List.mem_cons_self)
    rcases hu with hu | hu
    · rcases List.mem_append.mp hu with hu | hu
      · exact h.sound u (.inl hu)
      · exact List.mem_singleton.mp hu ▸ ⟨r, hr, hl⟩
    · rcases List.mem_append.mp hu with hu | hu
      · exact h.sound u (.inr (List.mem_cons_of_mem t hu))
      · exact ⟨r, hr, hl.tail (mem_successors.mp hu)⟩

/-- Each step takes one title from those to see, and a title brings its edges once. -/
private theorem walking_walk {edges : List Edge} {roots : List String} (n : Nat)
    {todo seen : List String} (h : Walking edges roots todo seen)
    (hn : todo.length + (unused edges seen).length < n) :
    Walking edges roots [] (walk edges n todo seen) := by
  induction n generalizing todo seen with
  | zero => omega
  | succ n ih =>
    cases todo with
    | nil => exact h
    | cons t todo =>
      rw [List.length_cons] at hn
      rw [walk]
      split_ifs with ht
      · exact ih (h.skip (List.contains_iff_mem.mp ht)) (by omega)
      · refine ih h.enter ?_
        have hu := length_unused_snoc edges (mt List.contains_iff_mem.mpr ht)
        rw [List.length_append]
        omega

theorem mem_reached_iff (edges : List Edge) (roots : List String) (t : String) :
    t ∈ reached edges roots ↔ ∃ r ∈ roots, Leads edges r t := by
  have hw : Walking edges roots [] (reached edges roots) := by
    refine walking_walk _ ⟨fun r hr => .inr hr, by simp, fun u hu => ?_⟩ ?_
    · exact ⟨u, by simpa using hu, .refl⟩
    · have := List.length_filter_le (fun e : Edge => !([] : List String).contains e.1) edges
      simp only [unused]
      omega
  constructor
  · exact fun h => hw.sound t (.inl h)
  · rintro ⟨r, hr, hl⟩
    induction hl with
    | refl => simpa using hw.rooted r hr
    | tail _ hb ih => simpa using hw.closed _ ih _ hb

end Dialogue.Graph
