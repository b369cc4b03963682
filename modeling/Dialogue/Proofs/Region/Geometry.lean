import Dialogue.Region.Room
import Mathlib.Data.EReal.Operations
import Mathlib.Tactic

/-! Geometry: which coordinates and extents of a region are accepted. -/
namespace Dialogue

namespace Binary64

/-- The real number that a sign, a significand and an exponent make. -/
noncomputable def real (negative : Bool) (m : Nat) (e : Int) : ℝ :=
  (if negative then -1 else 1) * (m * 2 ^ e)

/-- The number that is meant, on the real line with both infinities. The undefined one is none. -/
noncomputable def value? : Binary64 → Option EReal
  | nan => none
  | infinity negative => some (if negative then ⊥ else ⊤)
  | finite negative m e => some (real negative m e)

theorem real_eq_zero_iff {negative : Bool} {m : Nat} {e : Int} : real negative m e = 0 ↔ m = 0 := by
  have hpow : (2 : ℝ) ^ e ≠ 0 := by positivity
  have hsign : (if negative then -1 else 1 : ℝ) ≠ 0 := by split_ifs <;> norm_num
  rw [real, mul_eq_zero, or_iff_right hsign, mul_eq_zero, or_iff_left hpow, Nat.cast_eq_zero]

theorem real_neg_iff {negative : Bool} {m : Nat} {e : Int} :
    real negative m e < 0 ↔ negative = true ∧ m ≠ 0 := by
  have hpow : (0 : ℝ) < 2 ^ e := by positivity
  cases negative with
  | false =>
    have hreal : 0 ≤ real false m e := by
      rw [real, if_neg Bool.false_ne_true, one_mul]
      positivity
    simpa using hreal
  | true =>
    rw [real, if_pos rfl, neg_one_mul, neg_lt_zero, mul_pos_iff_of_pos_right hpow, Nat.cast_pos,
      Nat.pos_iff_ne_zero]
    simp

theorem isNegative_iff {x : Binary64} : x.isNegative = true ↔ ∃ a, x.value? = some a ∧ a < 0 := by
  cases x with
  | nan => simp [isNegative, value?]
  | infinity negative => cases negative <;> simp [isNegative, value?]
  | finite negative m e => simp [isNegative, value?, real_neg_iff]

theorem isZero_iff {x : Binary64} : x.isZero = true ↔ x.value? = some 0 := by
  cases x with
  | nan => simp [isZero, value?]
  | infinity negative => cases negative <;> simp [isZero, value?]
  | finite negative m e => simp [isZero, value?, real_eq_zero_iff]

theorem value?_eq_none_iff {x : Binary64} : x.value? = none ↔ x = nan := by
  cases x <;> simp [value?]

end Binary64

/-- The number that an integer or a floating point number is; truth values and all else are none. -/
noncomputable def Json.number? : Json → Option EReal
  | int n => some ((n : ℝ) : EReal)
  | float x => x.value?
  | _ => none

namespace Region

/-- A number that is not below zero. -/
def IsCoordinate (v : Json) : Prop := ∃ a, v.number? = some a ∧ 0 ≤ a

/-- A number above zero. -/
def IsExtent (v : Json) : Prop := ∃ a, v.number? = some a ∧ 0 < a

section
variable {label : String} {allowZero : Bool} {v : Json} {a : EReal}

theorem numberError_of_number? (h : v.number? = some a) :
    numberError label allowZero v = none ↔ 0 < a ∨ allowZero = true ∧ a = 0 := by
  cases v with
  | int n =>
    obtain rfl : ((n : ℝ) : EReal) = a := Option.some.inj h
    have hpos : (0 : EReal) < ((n : ℝ) : EReal) ↔ 0 < n := by
      rw [EReal.coe_pos, Int.cast_pos]
    have hzero : ((n : ℝ) : EReal) = 0 ↔ n = 0 := by
      rw [EReal.coe_eq_zero, Int.cast_eq_zero]
    rw [hpos, hzero]
    cases allowZero <;> simp [numberError] <;> omega
  | float x =>
    have hnegative : x.isNegative = true ↔ a < 0 := by
      rw [Binary64.isNegative_iff, show x.value? = some a from h]
      simp
    have hzero : x.isZero = true ↔ a = 0 := by
      rw [Binary64.isZero_iff, show x.value? = some a from h, Option.some_inj]
    cases allowZero <;> simp [numberError, hnegative, hzero]
    · exact ⟨fun h => lt_of_le_of_ne h.1 (Ne.symm h.2), fun h => ⟨h.le, h.ne'⟩⟩
    · rw [le_iff_lt_or_eq, eq_comm (a := (0 : EReal))]
  | null | bool | str | unpaired | arr | obj => cases h

theorem numberError_of_no_number (h : v.number? = none) :
    numberError label allowZero v = none ↔ v = .float .nan := by
  cases v with
  | int n => cases h
  | float x =>
    obtain rfl := Binary64.value?_eq_none_iff.mp h
    simp [numberError, Binary64.isNegative, Binary64.isZero]
  | null | bool | str | unpaired | arr | obj => simp [numberError]

/-- A value is complained of unless it is a number of the right sign or the undefined number. -/
theorem numberError_eq_none_iff : numberError label allowZero v = none ↔
    v = .float .nan ∨ ∃ a, v.number? = some a ∧ (0 < a ∨ allowZero = true ∧ a = 0) := by
  cases h : v.number? with
  | none => simp [numberError_of_no_number h]
  | some a =>
    have hne : v ≠ .float .nan := by
      rintro rfl
      cases h
    simp [numberError_of_number? h, hne]

theorem numberError_coordinate : numberError label true v = none ↔
    v = .float .nan ∨ IsCoordinate v := by
  simp only [numberError_eq_none_iff, IsCoordinate, le_iff_lt_or_eq, true_and,
    eq_comm (a := (0 : EReal))]

theorem numberError_extent : numberError label false v = none ↔ v = .float .nan ∨ IsExtent v := by
  simp only [numberError_eq_none_iff, IsExtent, Bool.false_eq_true, false_and, or_false]

/-- A complaint begins with what it is about. -/
theorem prefix_of_numberError {m : String} (h : numberError label allowZero v = some m) :
    s!"Invalid {label}: ".toList <+: m.toList := by
  unfold numberError at h
  have hm : m = s!"Invalid {label}: {v.literal}" := by
    split at h
    · split_ifs at h
      exact (Option.some.inj h).symm
    · split_ifs at h
      exact (Option.some.inj h).symm
    · exact (Option.some.inj h).symm
  rw [hm]
  simp [String.toList_append]

end

/-- What the messages about the geometry of a region are about. -/
def geometryLabels : List String := ["x coordinate", "y coordinate", "width", "height"]

/-- A message about the geometry of a region. -/
def OfGeometry (m : String) : Prop :=
  ∃ label ∈ geometryLabels, s!"Invalid {label}: ".toList <+: m.toList

section
variable {r : Region} {titles : Titles} {es : List String} {m : String}

theorem ofGeometry_of_mem (h : m ∈ r.geometryErrors) : OfGeometry m := by
  simp only [geometryErrors, List.mem_filterMap, List.mem_cons, List.not_mem_nil, or_false, id_eq,
    exists_eq_right] at h
  rcases h with h | h | h | h <;> exact ⟨_, by simp [geometryLabels], prefix_of_numberError h.symm⟩

theorem geometryErrors_eq_nil_iff : r.geometryErrors = [] ↔
    (r.x = .float .nan ∨ IsCoordinate r.x) ∧ (r.y = .float .nan ∨ IsCoordinate r.y) ∧
    (r.width = .float .nan ∨ IsExtent r.width) ∧ (r.height = .float .nan ∨ IsExtent r.height) := by
  simp only [geometryErrors, List.filterMap_eq_nil_iff, List.forall_mem_cons, id_eq,
    List.not_mem_nil, false_imp_iff, implies_true, and_true, numberError_coordinate (v := r.x),
    numberError_coordinate (v := r.y), numberError_extent (v := r.width), numberError_extent]

/-- How messages begin that are about the kind of a region and what it needs. -/
def kindOpenings : List String :=
  ["Missing ", "No dialogue script for level '", "Dialogue node '", "Unknown region type '"]

/-- A message about the kind of a region. -/
def OfKind (m : String) : Prop := ∃ opening ∈ kindOpenings, opening.toList <+: m.toList

instance (m : String) : Decidable (OfKind m) := List.decidableBEx _ _

theorem ofKind_append {opening : String} (h : opening ∈ kindOpenings) (rest : String) :
    OfKind (opening ++ rest) :=
  ⟨opening, h, rest.toList, String.toList_append.symm⟩

/-- The two sorts of messages differ in their first character. -/
theorem OfKind.not_ofGeometry (h : OfKind m) : ¬ OfGeometry m := by
  obtain ⟨opening, hopening, r, hr⟩ := h
  rintro ⟨label, -, r', hr'⟩
  have hgeometry : m.toList.head? = some 'I' := by
    rw [← hr', List.head?_append]
    change (("Invalid " ++ label ++ ": ").toList.head?.or _) = _
    rw [String.append_assoc, String.toList_append, List.head?_append]
    rfl
  have hkind : ∀ opening ∈ kindOpenings,
      opening.toList.head?.isSome = true ∧ opening.toList.head? ≠ some 'I' := by
    decide
  obtain ⟨hsome, hne⟩ := hkind opening hopening
  rw [← hr, List.head?_append, Option.or_of_isSome hsome] at hgeometry
  exact hne hgeometry

theorem eq_of_mem_ok {found : String} (h : (.ok [found] : Except Failure (List String)) = .ok es)
    (hm : m ∈ es) : m = found := by
  obtain rfl := Except.ok.inj h
  exact List.mem_singleton.mp hm

theorem ofKind_of_targetErrors (h : r.targetErrors titles = .ok es) (hm : m ∈ es) : OfKind m := by
  unfold targetErrors at h
  split at h
  · cases h
  split at h
  · rw [eq_of_mem_ok h hm]
    change OfKind ("No dialogue script for level '" ++ r.level.display ++ "'")
    rw [String.append_assoc]
    exact ofKind_append (by decide) _
  split at h
  · cases h
  split_ifs at h
  · obtain rfl := Except.ok.inj h
    cases hm
  · rw [eq_of_mem_ok h hm]
    change OfKind ("Dialogue node '" ++ r.dialogueNode.display ++ "' not found in " ++
      r.level.display ++ ".gab")
    simp only [String.append_assoc]
    exact ofKind_append (by decide) _

theorem ofKind_of_dialogueErrors (h : r.dialogueErrors titles = .ok es) (hm : m ∈ es) :
    OfKind m := by
  have hmissing : ∀ m ∈ (if isBlank r.level then ["Missing level parameter for dialogue region"]
      else []), OfKind m := by
    split_ifs
    · exact List.forall_mem_singleton.mpr (by decide)
    · exact List.forall_mem_nil _
  unfold dialogueErrors at h
  dsimp only at h
  by_cases hnode : isBlank r.dialogueNode = true
  · rw [if_pos hnode] at h
    obtain rfl := Except.ok.inj h
    rcases List.mem_append.mp hm with hm | hm
    · exact hmissing m hm
    · rw [List.mem_singleton.mp hm]
      decide
  rw [if_neg hnode] at h
  by_cases hlevel : isBlank r.level = true
  · rw [if_pos hlevel] at h
    obtain rfl := Except.ok.inj h
    exact hmissing m hm
  · rw [if_neg hlevel] at h
    exact ofKind_of_targetErrors h hm

/-- Everything that is found about the kind of a region is told in such a message. -/
theorem ofKind_of_mem (h : r.kindErrors titles = .ok es) (hm : m ∈ es) : OfKind m := by
  unfold kindErrors at h
  split_ifs at h
  case pos => exact ofKind_of_dialogueErrors h hm
  case pos =>
    rw [eq_of_mem_ok h hm]
    decide
  case neg =>
    obtain rfl := Except.ok.inj h
    cases hm
  case pos =>
    rw [eq_of_mem_ok h hm]
    decide
  case neg =>
    obtain rfl := Except.ok.inj h
    cases hm
  case neg =>
    rw [eq_of_mem_ok h hm]
    change OfKind ("Unknown region type '" ++ r.kind.display ++
      "', expected one of none, dialogue, inventory")
    rw [String.append_assoc]
    exact ofKind_append (by decide) _

/-- A region is told to have a bad geometry exactly if one of its coordinates is not a number that
is at least zero, or one of its extents not a number above zero. The undefined number passes as any
of them. -/
theorem geometry_accepted_iff (h : r.errors titles = .ok es) : (∀ m ∈ es, ¬ OfGeometry m) ↔
    (r.x = .float .nan ∨ IsCoordinate r.x) ∧ (r.y = .float .nan ∨ IsCoordinate r.y) ∧
    (r.width = .float .nan ∨ IsExtent r.width) ∧ (r.height = .float .nan ∨ IsExtent r.height) := by
  rw [← geometryErrors_eq_nil_iff]
  obtain ⟨found, hfound, rfl⟩ : ∃ found, r.kindErrors titles = .ok found ∧
      es = r.geometryErrors ++ found := by
    rw [errors] at h
    cases hkind : r.kindErrors titles with
    | error f => rw [hkind] at h; cases h
    | ok found => rw [hkind] at h; exact ⟨found, rfl, (Except.ok.inj h).symm⟩
  constructor
  · intro hnone
    refine List.eq_nil_iff_forall_not_mem.mpr fun m hm => ?_
    exact hnone m (List.mem_append_left found hm) (ofGeometry_of_mem hm)
  · intro hnil m hm
    rw [hnil, List.nil_append] at hm
    exact (ofKind_of_mem hfound hm).not_ofGeometry

end

private def patchText : String :=
  "\x7b\"lab\": [\x7b\"x\": NaN, \"y\": -0.0, \"width\": Infinity, \"height\": 3, " ++
    "\"args\": \"look\"\x7d]\x7d"

/-- A region that begins nowhere and does not end on one side. -/
private def patch : Region where
  x := .float .nan
  y := .float (.zero true)
  width := .float (.infinity false)
  height := .int 3
  kind := .str "none"
  level := .null
  dialogueNode := .null
  item := .null
  args := .str "look"

private theorem patch_loaded : Rooms.ofText "rooms.json" patchText = .ok [("lab", [patch])] := by
  have hread : Json.read patchText = .ok (.obj [("lab", .arr [.obj [("x", .float .nan),
      ("y", .float (.zero true)), ("width", .float (.infinity false)), ("height", .int 3),
      ("args", .str "look")]])]) := by cbv
  rw [Rooms.ofText, hread]
  rfl

private theorem patch_errors : patch.errors [] = .ok [] := rfl

/-- A region is accepted of which three numbers have the right sign and the fourth is undefined. -/
theorem geometry_accepted_patch : patch.errors [] = .ok [] ∧
    (patch.x = .float .nan ∨ IsCoordinate patch.x) ∧ IsCoordinate patch.y ∧
    IsExtent patch.width ∧ IsExtent patch.height := by
  obtain ⟨hx, hy, hwidth, hheight⟩ :=
    (geometry_accepted_iff patch_errors).mp (List.forall_mem_nil _)
  exact ⟨patch_errors, hx, hy.resolve_left (by simp [patch, Binary64.zero]),
    hwidth.resolve_left (by simp [patch]), hheight.resolve_left (by simp [patch])⟩

/-- A region whose first coordinate is no number is loaded and found to be in order. -/
theorem undefined_accepted : ∃ r, Rooms.ofText "rooms.json" patchText = .ok [("lab", [r])] ∧
    r.errors [] = .ok [] ∧ ¬ IsCoordinate r.x := by
  refine ⟨patch, patch_loaded, patch_errors, ?_⟩
  rintro ⟨a, ha, -⟩
  cases ha

end Region
end Dialogue
