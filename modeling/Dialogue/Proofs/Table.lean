import Dialogue.Table
import Mathlib.Tactic

/-! Tables: which entries they keep, in which order, and what they find under a name. -/
namespace Dialogue.Table
variable {α : Type}

theorem get?_cons (t : Table α) (k k' : String) (v : α) :
    get? ((k', v) :: t) k = if k = k' then some v else t.get? k := by
  rw [get?, List.lookup_cons]
  split_ifs with h
  · rw [beq_iff_eq.mpr h]
  · rw [beq_eq_false_iff_ne.mpr h, get?]

theorem get?_put (t : Table α) (k k' : String) (v : α) :
    (t.put k v).get? k' = if k' = k then some v else t.get? k' := by
  induction t with
  | nil => rw [put, get?_cons]
  | cons e t ih =>
    obtain ⟨k₀, v₀⟩ := e
    rw [put]
    split_ifs with h₀ h h
    · rw [get?_cons, if_pos h]
    · rw [get?_cons, if_neg h, get?_cons, h₀, if_neg h]
    · rw [get?_cons, ih, if_pos h, if_neg (h.trans_ne (Ne.symm h₀))]
    · rw [get?_cons, ih, if_neg h, get?_cons]

theorem get?_foldl_put_eq_none_iff (t : Table α) (es : List (String × α)) (k : String) :
    (es.foldl (fun t e => t.put e.1 e.2) t).get? k = none ↔
      t.get? k = none ∧ ∀ e ∈ es, e.1 ≠ k := by
  induction es generalizing t with
  | nil => simp
  | cons e es ih =>
    rw [List.foldl_cons, ih, get?_put, List.forall_mem_cons]
    split_ifs with h
    · simp [h]
    · simp [Ne.symm h]

/-- A table knows the names of its entries. -/
theorem get?_ofList_eq_none_iff {es : List (String × α)} {k : String} :
    (ofList es).get? k = none ↔ ∀ e ∈ es, e.1 ≠ k :=
  (get?_foldl_put_eq_none_iff [] es k).trans (and_iff_right rfl)

section Entries
variable {e : String × α}

theorem mem_of_mem_put {t : Table α} {k : String} {v : α} (h : e ∈ t.put k v) :
    e = (k, v) ∨ e ∈ t := by
  induction t with
  | nil => exact .inl (List.mem_singleton.mp h)
  | cons e' t ih =>
    obtain ⟨k', v'⟩ := e'
    rw [put] at h
    split_ifs at h
    · exact (List.mem_cons.mp h).imp_right (List.mem_cons_of_mem _)
    · rcases List.mem_cons.mp h with rfl | h
      · exact .inr List.mem_cons_self
      · exact (ih h).imp_right (List.mem_cons_of_mem _)

theorem mem_of_mem_foldl_put {t : Table α} {es : List (String × α)}
    (h : e ∈ es.foldl (fun t e => t.put e.1 e.2) t) : e ∈ t ∨ e ∈ es := by
  induction es generalizing t with
  | nil => exact .inl h
  | cons e' es ih =>
    rcases ih h with hput | hes
    · rcases mem_of_mem_put hput with rfl | ht
      · exact .inr List.mem_cons_self
      · exact .inl ht
    · exact .inr (List.mem_cons_of_mem _ hes)

theorem mem_of_mem_ofList {es : List (String × α)} (h : e ∈ ofList es) : e ∈ es :=
  (mem_of_mem_foldl_put h).resolve_left List.not_mem_nil

end Entries

theorem ofList_concat (es : List (String × α)) (k : String) (v : α) :
    ofList (es ++ [(k, v)]) = (ofList es).put k v := by
  rw [ofList, List.foldl_append]
  rfl

theorem put_of_not_mem {t : Table α} {k : String} (h : k ∉ t.keys) (v : α) :
    t.put k v = t ++ [(k, v)] := by
  induction t with
  | nil => rfl
  | cons e t ih =>
    rw [keys, List.map_cons, List.mem_cons, not_or] at h
    rw [put, if_neg (Ne.symm h.1), ih h.2, List.cons_append]

theorem keys_put_of_mem {t : Table α} {k : String} (h : k ∈ t.keys) (v : α) :
    (t.put k v).keys = t.keys := by
  induction t with
  | nil => simp [keys] at h
  | cons e t ih =>
    obtain ⟨k', v'⟩ := e
    rw [put]
    split_ifs with hk
    · rw [keys, keys, List.map_cons, List.map_cons, hk]
    · rw [keys, List.map_cons, List.mem_cons] at h
      rw [keys, keys, List.map_cons, List.map_cons]
      exact congrArg _ (ih (h.resolve_left (Ne.symm hk)))

theorem length_put_le (t : Table α) (k : String) (v : α) : (t.put k v).length ≤ t.length + 1 := by
  by_cases h : k ∈ t.keys
  · have hlength := congrArg List.length (keys_put_of_mem h v)
    rw [keys, keys, List.length_map, List.length_map] at hlength
    omega
  · rw [put_of_not_mem h, List.length_append, List.length_singleton]

theorem length_ofList_le (es : List (String × α)) : (ofList es).length ≤ es.length := by
  induction es using List.reverseRecOn with
  | nil => exact le_rfl
  | append_singleton es e ih =>
    have hput := length_put_le (ofList es) e.1 e.2
    rw [ofList_concat, List.length_append, List.length_singleton]
    omega

/-- Names that are put one after the other stand in the order in which they came first. -/
theorem keys_ofList (es : List (String × α)) : (ofList es).keys = (es.map Prod.fst).eraseDups := by
  induction es using List.reverseRecOn with
  | nil => rfl
  | append_singleton es e ih =>
    obtain ⟨k, v⟩ := e
    have hmem : k ∈ (ofList es).keys ↔ k ∈ es.map Prod.fst := by rw [ih, List.mem_eraseDups]
    rw [ofList_concat, List.map_append, List.eraseDups_append, ← ih]
    by_cases h : k ∈ (ofList es).keys
    · have hold : [k].removeAll (es.map Prod.fst) = [] := by
        rw [List.removeAll, List.filter_eq_nil_iff]
        simpa using hmem.mp h
      rw [keys_put_of_mem h, List.map_singleton, hold, List.eraseDups_nil, List.append_nil]
    · have hnew : [k].removeAll (es.map Prod.fst) = [k] := by
        rw [List.removeAll, List.filter_eq_self]
        simpa using mt hmem.mpr h
      rw [put_of_not_mem h, List.map_singleton, hnew, keys, List.map_append]
      rfl

/-- Entries under different names stay as they are. -/
theorem ofList_eq_self {es : List (String × α)} (h : (es.map Prod.fst).Nodup) :
    ofList es = es := by
  induction es using List.reverseRecOn with
  | nil => rfl
  | append_singleton es e ih =>
    rw [List.map_append, List.nodup_append] at h
    have hk : e.1 ∉ keys (ofList es) := by
      rw [ih h.1]
      exact fun hmem => h.2.2 _ hmem _ (by simp) rfl
    rw [ofList_concat, put_of_not_mem hk, ih h.1]

/-- Of several entries under a name the last is found. -/
theorem get?_ofList (es : List (String × α)) (k : String) :
    (ofList es).get? k = (es.findRev? (·.1 == k)).map Prod.snd := by
  rw [List.findRev?_eq_find?_reverse]
  induction es using List.reverseRecOn with
  | nil => rfl
  | append_singleton es e ih =>
    rw [ofList_concat, get?_put, ih, List.reverse_concat, List.find?_cons]
    split_ifs with h
    · rw [beq_iff_eq.mpr h.symm]
      rfl
    · rw [beq_eq_false_iff_ne.mpr (Ne.symm h)]

/-- Under names that differ, what is found under a name is the entry with the name. -/
theorem get?_eq_some_iff {t : Table α} (h : t.keys.Nodup) {k : String} {v : α} :
    t.get? k = some v ↔ (k, v) ∈ t := by
  induction t with
  | nil => simp [get?]
  | cons e t ih =>
    obtain ⟨k', v'⟩ := e
    rw [keys, List.map_cons, List.nodup_cons] at h
    have hfresh : (k', v) ∉ t := fun hmem => h.1 (List.mem_map.mpr ⟨_, hmem, rfl⟩)
    rw [get?_cons, List.mem_cons, Prod.mk.injEq]
    split_ifs with hk
    · subst hk
      simp [hfresh, eq_comm]
    · simp [hk, ih h.2]

section Update
variable {β : Type}

/-- The entries of `u` put into `t` one after the other. -/
def update (t u : Table α) : Table α := u.foldl (fun t (k, v) => t.put k v) t

theorem update_cons (t u : Table α) (k : String) (v : α) :
    update t ((k, v) :: u) = update (t.put k v) u := rfl

theorem put_put (t : Table α) (k : String) (v w : α) : (t.put k v).put k w = t.put k w := by
  induction t with
  | nil => simp [put]
  | cons e t ih =>
    obtain ⟨k', v'⟩ := e
    by_cases h : k' = k <;> simp [put, h, ih]

theorem mem_keys_put_self (t : Table α) (k : String) (v : α) : k ∈ (t.put k v).keys := by
  by_cases hk : k ∈ t.keys
  · rwa [keys_put_of_mem hk]
  · simp [put_of_not_mem hk, keys]

theorem mem_keys_put {t : Table α} {k k' : String} (h : k ∈ t.keys) (v : α) :
    k ∈ (t.put k' v).keys := by
  by_cases hk : k' ∈ t.keys
  · rwa [keys_put_of_mem hk]
  · rw [put_of_not_mem hk, keys, List.map_append]
    exact List.mem_append_left _ h

/-- A name that has its place already can be put before or after another one. -/
theorem put_comm {t : Table α} {k k' : String} (hk : k ∈ t.keys) (hne : k ≠ k') (v v' : α) :
    (t.put k v).put k' v' = (t.put k' v').put k v := by
  induction t with
  | nil => simp [keys] at hk
  | cons e t ih =>
    obtain ⟨k₀, v₀⟩ := e
    by_cases h : k₀ = k
    · subst h
      simp [put, hne]
    · have hmem : k ∈ keys t := (List.mem_cons.mp hk).resolve_left (Ne.symm h)
      by_cases h' : k₀ = k'
      · subst h'
        simp [put, h]
      · simp [put, h, h', ih hmem]

theorem update_put_left {t : Table α} {k : String} (hk : k ∈ t.keys) {u : Table α}
    (hu : k ∉ u.keys) (v : α) : update (t.put k v) u = (update t u).put k v := by
  induction u generalizing t with
  | nil => rfl
  | cons e u ih =>
    obtain ⟨k', v'⟩ := e
    rw [keys, List.map_cons, List.mem_cons, not_or] at hu
    rw [update_cons, update_cons, put_comm hk hu.1]
    exact ih (mem_keys_put hk v') hu.2

theorem update_put (t : Table α) {u : Table α} (hu : u.keys.Nodup) (k : String) (v : α) :
    update t (u.put k v) = (update t u).put k v := by
  induction u generalizing t with
  | nil => rfl
  | cons e u ih =>
    obtain ⟨k', v'⟩ := e
    rw [keys, List.map_cons, List.nodup_cons] at hu
    rw [put]
    split_ifs with h
    · subst h
      have hmem : k' ∈ (t.put k' v').keys := mem_keys_put_self t k' v'
      rw [update_cons, update_cons, ← put_put t k' v' v]
      exact update_put_left hmem hu.1 v
    · rw [update_cons, update_cons]
      exact ih (t.put k' v') hu.2

theorem nodup_keys_ofList (es : List (String × α)) : (ofList es).keys.Nodup := by
  induction es using List.reverseRecOn with
  | nil => exact List.nodup_nil
  | append_singleton es e ih =>
    obtain ⟨k, v⟩ := e
    rw [ofList_concat]
    by_cases hk : k ∈ (ofList es).keys
    · rwa [keys_put_of_mem hk]
    · have hnew : k ∉ (ofList es).map Prod.fst := hk
      rw [put_of_not_mem hk, keys, List.map_append, List.nodup_append]
      refine ⟨ih, List.nodup_singleton k, ?_⟩
      rintro k₁ h₁ k₂ h₂ rfl
      obtain rfl := List.mem_singleton.mp h₂
      exact hnew h₁

/-- Putting many entries comes to the same as putting those that are left of them. -/
theorem update_ofList (t : Table α) (es : List (String × α)) :
    update t (ofList es) = update t es := by
  induction es using List.reverseRecOn with
  | nil => rfl
  | append_singleton es e ih =>
    obtain ⟨k, v⟩ := e
    rw [ofList_concat, update_put t (nodup_keys_ofList es), ih, update, update, List.foldl_append]
    rfl

theorem keys_map (f : α → β) (t : Table α) : keys (t.map fun e => (e.1, f e.2)) = t.keys := by
  rw [keys, List.map_map]
  rfl

theorem get?_map (f : α → β) (t : Table α) (k : String) :
    get? (t.map fun e => (e.1, f e.2)) k = (t.get? k).map f := by
  induction t with
  | nil => rfl
  | cons e t ih =>
    rw [List.map_cons, get?_cons, get?_cons, ih]
    split_ifs <;> rfl

theorem put_map (f : α → β) (t : Table α) (k : String) (v : α) :
    (t.put k v).map (fun e => (e.1, f e.2)) =
      put (t.map fun e => (e.1, f e.2)) k (f v) := by
  induction t with
  | nil => rfl
  | cons e t ih =>
    obtain ⟨k', v'⟩ := e
    by_cases h : k' = k <;> simp [put, h, ih]

theorem ofList_map (f : α → β) (es : List (String × α)) :
    ofList (es.map fun e => (e.1, f e.2)) = (ofList es).map fun e => (e.1, f e.2) := by
  induction es using List.reverseRecOn with
  | nil => rfl
  | append_singleton es e ih =>
    obtain ⟨k, v⟩ := e
    rw [List.map_append, List.map_singleton, ofList_concat, ofList_concat, put_map, ih]

end Update
end Dialogue.Table
