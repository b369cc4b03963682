import Dialogue.Proofs.Files.Tree

/-! Listings: what stands below a place is listed, and nothing twice. -/
namespace Dialogue.FileTree
variable {t t' : FileTree} {base place : Place} {names : List String} {e : Entry}

/-- How the entry at a place is listed below another one, if it is. -/
def seenFrom? (base place : Place) : Option (List String) :=
  if base.isPrefixOf place && place.length != base.length then some (place.drop base.length)
  else none

theorem below_eq (t : FileTree) (base : Place) :
    t.below base = (t.entries.map Prod.fst).filterMap (seenFrom? base) := by
  rw [List.filterMap_map]
  rfl

theorem seenFrom?_eq_some_iff :
    seenFrom? base place = some names ↔ names ≠ [] ∧ place = base ++ names := by
  unfold seenFrom?
  simp only [Bool.and_eq_true, List.isPrefixOf_iff_prefix, bne_iff_ne]
  constructor
  · intro h
    split_ifs at h with hbelow
    obtain ⟨⟨more, rfl⟩, hlength⟩ := hbelow
    obtain rfl : more = names := by simpa using h
    exact ⟨by rintro rfl; simp at hlength, rfl⟩
  · rintro ⟨hne, rfl⟩
    simp [hne]

theorem mem_below : names ∈ t.below base ↔ names ≠ [] ∧ t.entry? (base ++ names) ≠ none := by
  rw [below_eq, List.mem_filterMap]
  simp only [seenFrom?_eq_some_iff]
  constructor
  · rintro ⟨place, hplace, hne, rfl⟩
    refine ⟨hne, ?_⟩
    rw [entry?_of_ne_nil (by simp [hne]), ← Option.isSome_iff_ne_none, List.lookup_isSome_iff]
    obtain ⟨x, hx, hxp⟩ := List.mem_map.mp hplace
    exact ⟨x, hx, by simp [hxp]⟩
  · rintro ⟨hne, hentry⟩
    rw [entry?_of_ne_nil (by simp [hne]), ← Option.isSome_iff_ne_none, List.lookup_isSome_iff]
      at hentry
    obtain ⟨x, hx, hxp⟩ := hentry
    exact ⟨_, List.mem_map.mpr ⟨x, hx, (beq_iff_eq.mp hxp).symm⟩, hne, rfl⟩

theorem below_add (t : FileTree) (base place : Place) (e : Entry) :
    (t.add place e).below base = t.below base ++ (seenFrom? base place).toList := by
  rw [below_eq, below_eq, add, List.map_append, List.filterMap_append]
  cases h : seenFrom? base place <;> simp [h]

theorem nodup_below_add (hnone : t.entry? place = none) (h : (t.below base).Nodup) :
    ((t.add place e).below base).Nodup := by
  rw [below_add]
  cases hseen : seenFrom? base place with
  | none => simpa using h
  | some names =>
    obtain ⟨-, rfl⟩ := seenFrom?_eq_some_iff.mp hseen
    refine List.nodup_append.mpr ⟨h, List.nodup_singleton names, ?_⟩
    rintro a ha b hb rfl
    obtain rfl := List.mem_singleton.mp hb
    exact (mem_below.mp ha).2 hnone

theorem nodup_below_put (hplace : place ≠ []) (h : (t.below base).Nodup) :
    ((t.put place e).below base).Nodup := by
  unfold put
  split_ifs with hany
  · have hkeys : (t.entries.map fun x => if x.1 == place then (x.1, e) else (x.1, x.2)).map
        Prod.fst = t.entries.map Prod.fst := by
      rw [List.map_map]
      refine List.map_congr_left fun x _ => ?_
      dsimp only [Function.comp]
      split <;> rfl
    rw [below_eq] at h ⊢
    rwa [hkeys]
  · refine nodup_below_add ?_ h
    rw [entry?_of_ne_nil hplace, List.lookup_eq_none_iff]
    intro x hx
    rw [bne_iff_ne]
    intro hxp
    exact hany (List.any_eq_true.mpr ⟨x, hx, beq_iff_eq.mpr hxp.symm⟩)

section Preserves
variable {P : FileTree → Prop}
  (hadd : ∀ t place, P t → t.entry? place = none → P (t.add place .directory))
include hadd

/-- What every new directory keeps, making directories keeps. -/
theorem makeAlong_preserves (h : P t) (p : Path) (n : Nat) (place : Place) (made : Bool)
    (names : List String) : P (left (t.makeAlong p n place made names)) := by
  fun_induction makeAlong t p n place made names with
  | case1 => exact h
  | case2 _ _ _ _ _ ih => exact ih h
  | case3 => exact h
  | case4 _ _ _ _ _ _ _ _ _ _ ih => exact ih h
  | case5 => exact h
  | case6 => exact h
  | case7 _ _ _ _ _ _ _ _ _ hnone _ ih => exact ih (hadd _ _ h hnone)

theorem ensurePath_preserves (h : P t) (cwd : Place) (p : Path) :
    P (left (t.ensurePath cwd p)) := by
  unfold ensurePath
  split
  · exact h
  split
  · exact h
  · exact makeAlong_preserves hadd h _ _ _ _ _

/-- What every new directory and every file keeps, writing a text keeps, also where it fails. -/
theorem writeText_preserves
    (hput : ∀ t place content, P t → place ≠ [] → P (t.put place (.file content))) (h : P t)
    (cwd : Place) (p : Path) (text : String) : P (left (t.writeText cwd p text)) := by
  have hmade := ensurePath_preserves hadd h cwd p.parent
  unfold writeText writeBytes
  cases hd : t.ensurePath cwd p.parent with
  | error f =>
    rw [hd] at hmade
    exact hmade
  | ok t₁ =>
    rw [hd] at hmade
    dsimp only
    unfold write
    cases t₁.locate cwd p.text with
    | error f => exact hmade
    | ok place =>
      dsimp only
      split
      · exact hmade
      · next hdir => exact hput _ _ _ hmade (ne_nil_of_no_directory hdir)

end Preserves

theorem nodup_below_ensurePath (h : (t.below base).Nodup) (cwd : Place) (p : Path) :
    ((left (t.ensurePath cwd p)).below base).Nodup :=
  ensurePath_preserves (P := fun t => (t.below base).Nodup)
    (fun _ _ h hnone => nodup_below_add hnone h) h cwd p

theorem nodup_below_writeText (h : (t.below base).Nodup) (cwd : Place) (p : Path)
    (text : String) : ((left (t.writeText cwd p text)).below base).Nodup :=
  writeText_preserves (P := fun t => (t.below base).Nodup)
    (fun _ _ h hnone => nodup_below_add hnone h) (fun _ _ _ h hplace => nodup_below_put hplace h)
    h cwd p text

end Dialogue.FileTree
