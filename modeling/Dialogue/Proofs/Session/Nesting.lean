import Mathlib.Tactic

/-! Detours as brackets: which of them have been returned from, and which are still open. -/
namespace Dialogue.Session

/-- What a move of a session means for detours: it takes one, it returns from one, or neither. -/
inductive Act where
  | detour (caller : String)
  | back (caller : String)
  | onward
  deriving DecidableEq, Repr

/-- Acts in which every detour is returned from, the latest one first. -/
inductive Balanced : List Act → Prop
  | nil : Balanced []
  | onward {l : List Act} (h : Balanced l) : Balanced (l ++ [.onward])
  | detour {l m : List Act} {caller : String} (hl : Balanced l) (hm : Balanced m) :
      Balanced (l ++ .detour caller :: (m ++ [.back caller]))

/-- The detour at one place is returned from at another one, and all detours between them are
returned from there. -/
def Returned (acts : List Act) (i j : Nat) : Prop :=
  ∃ l caller m r, acts = l ++ .detour caller :: (m ++ .back caller :: r) ∧ Balanced m ∧
    i = l.length ∧ j = l.length + 1 + m.length

/-- A detour that has not been returned from. -/
def Unreturned (acts : List Act) (i : Nat) : Prop :=
  (∃ caller, acts[i]? = some (.detour caller)) ∧ ∀ j, ¬ Returned acts i j

/-- The callers of the detours that have not been returned from, the oldest one first. -/
def Outstanding (acts : List Act) (callers : List String) : Prop :=
  ∃ places : List Nat, places.Pairwise (· < ·) ∧ (∀ i, i ∈ places ↔ Unreturned acts i) ∧
    places.map (acts[·]?) = callers.map fun caller => some (.detour caller)

def Act.weight : Act → Int
  | .detour _ => 1
  | .back _ => -1
  | .onward => 0

/-- Detours taken less detours returned from. -/
def depth (acts : List Act) : Int := (acts.map Act.weight).sum

@[simp] theorem depth_nil : depth [] = 0 := rfl

@[simp] theorem depth_cons (a : Act) (l : List Act) : depth (a :: l) = a.weight + depth l := rfl

@[simp] theorem depth_append (l m : List Act) : depth (l ++ m) = depth l + depth m := by
  simp [depth]

/-- Acts that never return from a detour taken before them. -/
def Guarded (acts : List Act) : Prop := ∀ p r, acts = p ++ r → 0 ≤ depth p

section Guarded
variable {l m : List Act} {a : Act} {caller : String}

theorem guarded_nil : Guarded [] := by
  intro p r h
  obtain ⟨rfl, -⟩ := List.append_eq_nil_iff.mp h.symm
  rfl

theorem Guarded.depth_nonneg (h : Guarded l) : 0 ≤ depth l := h l [] (by simp)

theorem Guarded.append (hl : Guarded l) (hm : Guarded m) : Guarded (l ++ m) := by
  intro p r h
  rcases List.append_eq_append_iff.mp h with ⟨q, rfl, hq⟩ | ⟨q, rfl, -⟩
  · have hpos := hl.depth_nonneg
    have hrest := hm q r hq
    rw [depth_append]
    omega
  · exact hl p q rfl

theorem Guarded.cons (h : Guarded l) (ha : 0 ≤ a.weight) : Guarded (a :: l) := by
  intro p r hp
  cases p with
  | nil => rfl
  | cons b p =>
    obtain ⟨rfl, hl⟩ := List.cons.inj hp
    have hrest := h p r hl
    rw [depth_cons]
    omega

theorem Guarded.concat (h : Guarded l) (ha : 0 ≤ depth l + a.weight) : Guarded (l ++ [a]) := by
  intro p r hp
  rcases List.append_eq_append_iff.mp hp with ⟨q, rfl, hq⟩ | ⟨q, rfl, -⟩
  · cases q with
    | nil => simpa using h.depth_nonneg
    | cons b q =>
      obtain ⟨rfl, hnil⟩ := List.cons.inj hq
      obtain ⟨rfl, -⟩ := List.append_eq_nil_iff.mp hnil.symm
      simpa using ha
  · exact h p q rfl

/-- A return after as many returns as detours is one too many. -/
theorem Guarded.depth_ne_zero_of_back (h : Guarded (m ++ .back caller :: l)) : depth m ≠ 0 := by
  intro hm
  have hle := h (m ++ [.back caller]) l (by simp)
  simp [hm, Act.weight] at hle

end Guarded

namespace Balanced
variable {l m : List Act}

theorem guarded_and_depth (h : Balanced l) : Guarded l ∧ depth l = 0 := by
  induction h with
  | nil => exact ⟨guarded_nil, rfl⟩
  | onward _ ih =>
    obtain ⟨hg, hd⟩ := ih
    exact ⟨hg.concat (by simp [hd, Act.weight]), by simp [hd, Act.weight]⟩
  | detour _ _ ihl ihm =>
    obtain ⟨hgl, hdl⟩ := ihl
    obtain ⟨hgm, hdm⟩ := ihm
    refine ⟨hgl.append (Guarded.concat (hgm.cons ?_) ?_), ?_⟩ <;> simp [hdl, hdm, Act.weight]

theorem guarded (h : Balanced l) : Guarded l := h.guarded_and_depth.1

theorem depth_eq_zero (h : Balanced l) : depth l = 0 := h.guarded_and_depth.2

theorem append (hl : Balanced l) (hm : Balanced m) : Balanced (l ++ m) := by
  induction hm with
  | nil => simpa using hl
  | onward _ ih =>
    rw [← List.append_assoc]
    exact ih.onward
  | detour _ hm ih _ =>
    rw [← List.append_assoc]
    exact ih.detour hm

end Balanced

namespace Returned
variable {l m : List Act} {i j k : Nat}

theorem append_right (h : Returned l i j) (m : List Act) : Returned (l ++ m) i j := by
  obtain ⟨x, caller, y, z, rfl, hy, hi, hj⟩ := h
  exact ⟨x, caller, y, z ++ m, by simp, hy, hi, hj⟩

theorem append_left (h : Returned m i j) (l : List Act) :
    Returned (l ++ m) (l.length + i) (l.length + j) := by
  obtain ⟨x, caller, y, z, rfl, hy, rfl, rfl⟩ := h
  exact ⟨l ++ x, caller, y, z, by simp, hy, by simp, by simp; omega⟩

/-- A detour is returned from once. -/
theorem unique (h : Returned l i j) (h' : Returned l i k) : j = k := by
  obtain ⟨x, caller, y, z, rfl, hy, rfl, rfl⟩ := h
  obtain ⟨x', caller', y', z', heq, hy', hlen, rfl⟩ := h'
  obtain ⟨rfl, htail⟩ := List.append_inj heq hlen
  obtain ⟨-, hrest⟩ := List.cons.inj htail
  -- Of two balanced stretches that begin together none ends in the middle of the other.
  rcases List.append_eq_append_iff.mp hrest with ⟨q, rfl, hq⟩ | ⟨q, rfl, hq⟩
  · cases q with
    | nil => simp
    | cons a q =>
      obtain ⟨rfl, -⟩ := List.cons.inj hq
      exact absurd hy.depth_eq_zero hy'.guarded.depth_ne_zero_of_back
  · cases q with
    | nil => simp
    | cons a q =>
      obtain ⟨rfl, -⟩ := List.cons.inj hq
      exact absurd hy'.depth_eq_zero hy.guarded.depth_ne_zero_of_back

/-- What follows a detour that is returned from goes below its depth. -/
theorem not_guarded (h : Returned l i j) : ¬ Guarded (l.drop (i + 1)) := by
  obtain ⟨x, caller, y, z, rfl, hy, rfl, rfl⟩ := h
  intro hg
  have hdrop : (x ++ Act.detour caller :: (y ++ .back caller :: z)).drop (x.length + 1) =
      y ++ .back caller :: z := by simp [List.drop_append]
  rw [hdrop] at hg
  exact hg.depth_ne_zero_of_back hy.depth_eq_zero

end Returned

private theorem getElem?_append_cons {l m : List Act} {a b : Act} {i : Nat}
    (h : (l ++ a :: m)[i]? = some b) :
    (i < l.length ∧ l[i]? = some b) ∨ (i = l.length ∧ a = b) ∨
      ∃ k, i = l.length + 1 + k ∧ m[k]? = some b := by
  rcases lt_trichotomy i l.length with hlt | rfl | hlt
  · exact .inl ⟨hlt, by rwa [List.getElem?_append_left hlt] at h⟩
  · exact .inr (.inl ⟨rfl, by simpa using h⟩)
  · obtain ⟨k, rfl⟩ : ∃ k, i = l.length + 1 + k := ⟨i - l.length - 1, by omega⟩
    refine .inr (.inr ⟨k, rfl, ?_⟩)
    rw [List.getElem?_append_right (by omega)] at h
    simpa [show l.length + 1 + k - l.length = k + 1 by omega] using h

/-- A return between two acts is one after an act. -/
private theorem Returned.append_cons {l m : List Act} {i j : Nat} (h : Returned m i j) (a : Act) :
    Returned (l ++ a :: m) (l.length + 1 + i) (l.length + 1 + j) := by
  simpa using h.append_left (l ++ [a])

theorem Balanced.returned {l : List Act} (h : Balanced l) {i : Nat} {caller : String}
    (hi : l[i]? = some (.detour caller)) : ∃ j, Returned l i j := by
  induction h generalizing i with
  | nil => simp at hi
  | onward _ ih =>
    rcases getElem?_append_cons hi with ⟨-, hl⟩ | ⟨-, ha⟩ | ⟨k, -, hk⟩
    · obtain ⟨j, hj⟩ := ih hl
      exact ⟨j, hj.append_right _⟩
    · simp at ha
    · simp at hk
  | @detour l m c _ hm ihl ihm =>
    rcases getElem?_append_cons hi with ⟨-, hl⟩ | ⟨rfl, -⟩ | ⟨k, rfl, hk⟩
    · obtain ⟨j, hj⟩ := ihl hl
      exact ⟨j, hj.append_right _⟩
    · exact ⟨_, l, c, m, [], rfl, hm, rfl, rfl⟩
    · rcases getElem?_append_cons hk with ⟨-, hm⟩ | ⟨-, ha⟩ | ⟨n, -, hn⟩
      · obtain ⟨j, hj⟩ := ihm hm
        exact ⟨_, (hj.append_right _).append_cons _⟩
      · simp at ha
      · simp at hn

/-- Acts that a run has made with the detours of some callers still open, the oldest one first. -/
inductive Awaiting : List Act → List String → Prop
  | balanced {l : List Act} (h : Balanced l) : Awaiting l []
  | detour {l m : List Act} {callers : List String} {caller : String} (h : Awaiting l callers)
      (hm : Balanced m) : Awaiting (l ++ .detour caller :: m) (callers ++ [caller])

namespace Awaiting
variable {l m : List Act} {callers : List String} {caller : String}

theorem append (h : Awaiting l callers) (hm : Balanced m) : Awaiting (l ++ m) callers := by
  cases h with
  | balanced h => exact .balanced (h.append hm)
  | detour h hl =>
    rw [List.append_assoc, List.cons_append]
    exact h.detour (hl.append hm)

theorem onward (h : Awaiting l callers) : Awaiting (l ++ [.onward]) callers :=
  h.append (Balanced.nil.onward)

theorem back (h : Awaiting l (callers ++ [caller])) : Awaiting (l ++ [.back caller]) callers := by
  generalize hc : callers ++ [caller] = all at h
  cases h with
  | balanced => simp at hc
  | detour h hm =>
    obtain ⟨rfl, hlast⟩ := List.append_inj' hc rfl
    obtain rfl := List.singleton_inj.mp hlast
    rw [List.append_assoc, List.cons_append]
    exact h.append (Balanced.nil.detour hm)

/-- The open detours have their places, and after each of them the acts stay above its depth. -/
theorem exists_places (h : Awaiting l callers) : ∃ places : List Nat,
    places.Pairwise (· < ·) ∧ (∀ i ∈ places, i < l.length ∧ Guarded (l.drop (i + 1))) ∧
      (∀ i c, l[i]? = some (.detour c) → i ∉ places → ∃ j, Returned l i j) ∧
      places.map (l[·]?) = callers.map fun c => some (.detour c) := by
  induction h with
  | balanced h => exact ⟨[], .nil, by simp, fun i c hi _ => h.returned hi, rfl⟩
  | @detour l m callers caller _ hm ih =>
    obtain ⟨places, hsorted, hopen, hclosed, hmap⟩ := ih
    have hlt : ∀ i ∈ places, i < l.length := fun i hi => (hopen i hi).1
    refine ⟨places ++ [l.length], ?_, ?_, ?_, ?_⟩
    · rw [List.pairwise_append]
      refine ⟨hsorted, by simp, ?_⟩
      simpa using hlt
    · intro i hi
      rcases List.mem_append.mp hi with hi | hi
      · obtain ⟨hil, hg⟩ := hopen i hi
        refine ⟨by simp; omega, ?_⟩
        rw [List.drop_append_of_le_length (by omega)]
        exact hg.append (hm.guarded.cons (by simp [Act.weight]))
      · obtain rfl := List.mem_singleton.mp hi
        refine ⟨by simp, ?_⟩
        have hdrop : (l ++ Act.detour caller :: m).drop (l.length + 1) = m := by
          simp [List.drop_append]
        rw [hdrop]
        exact hm.guarded
    · intro i c hi hnot
      rcases getElem?_append_cons hi with ⟨-, hl⟩ | ⟨rfl, -⟩ | ⟨k, rfl, hk⟩
      · obtain ⟨j, hj⟩ := hclosed i c hl fun hp => hnot (List.mem_append_left _ hp)
        exact ⟨j, hj.append_right _⟩
      · exact absurd (List.mem_append_right _ (List.mem_singleton.mpr rfl)) hnot
      · obtain ⟨j, hj⟩ := hm.returned hk
        exact ⟨_, hj.append_cons _⟩
    · have hleft : places.map ((l ++ Act.detour caller :: m)[·]?) = places.map (l[·]?) :=
        List.map_congr_left fun i hi => List.getElem?_append_left (hlt i hi)
      simp [hleft, hmap]

theorem outstanding (h : Awaiting l callers) : Outstanding l callers := by
  obtain ⟨places, hsorted, hopen, hclosed, hmap⟩ := h.exists_places
  refine ⟨places, hsorted, fun i => ⟨fun hi => ⟨?_, fun j hj => ?_⟩, fun hi => ?_⟩, hmap⟩
  · have hmem : l[i]? ∈ places.map (l[·]?) := List.mem_map_of_mem hi
    rw [hmap] at hmem
    obtain ⟨c, -, hc⟩ := List.mem_map.mp hmem
    exact ⟨c, hc.symm⟩
  · exact hj.not_guarded (hopen i hi).2
  · by_contra hnot
    obtain ⟨⟨c, hc⟩, hnever⟩ := hi
    obtain ⟨j, hj⟩ := hclosed i c hc hnot
    exact hnever j hj

end Awaiting

/-- Where no detour is outstanding, each has been returned from exactly once. -/
theorem Outstanding.existsUnique_returned {acts : List Act} (h : Outstanding acts []) {i : Nat}
    {caller : String} (hi : acts[i]? = some (.detour caller)) : ∃! j, Returned acts i j := by
  obtain ⟨places, -, hplaces, hmap⟩ := h
  obtain rfl : places = [] := List.map_eq_nil_iff.mp hmap
  have hreturned : ∃ j, Returned acts i j := by
    by_contra hnever
    simpa using (hplaces i).mpr ⟨⟨caller, hi⟩, not_exists.mp hnever⟩
  obtain ⟨j, hj⟩ := hreturned
  exact ⟨j, hj, fun k hk => hk.unique hj⟩

end Dialogue.Session
