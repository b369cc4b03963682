import Dialogue.Proofs.Body.Blanks
import Dialogue.Proofs.Script.Concatenation
import Dialogue.Proofs.Script.Positions

/-! Spacing: what becomes of the blocks of a text when one more blank line stands between its
lines. -/
namespace Dialogue

section Stop
variable {α : Type} {p : α → Bool} {x : α} (h : p x = false) (xs ys : List α)
include h

theorem takeWhile_append_of_stop : (xs ++ x :: ys).takeWhile p = xs.takeWhile p := by
  induction xs with
  | nil => exact List.takeWhile_cons_of_neg (by simp [h])
  | cons y xs ih => cases hy : p y <;> simp [hy, ih]

theorem dropWhile_append_of_stop : (xs ++ x :: ys).dropWhile p = xs.dropWhile p ++ x :: ys := by
  induction xs with
  | nil => exact List.dropWhile_cons_of_neg (by simp [h])
  | cons y xs ih => cases hy : p y <;> simp [hy, ih]

theorem rdropWhile_append_of_stop : (xs ++ x :: ys).rdropWhile p = xs ++ x :: ys.rdropWhile p := by
  induction ys using List.reverseRecOn with
  | nil => rw [List.rdropWhile_concat_neg _ _ _ (by simp [h]), List.rdropWhile_nil]
  | append_singleton ys y ih =>
    rw [← List.cons_append, ← List.append_assoc, List.rdropWhile_concat, List.rdropWhile_concat]
    split_ifs
    · exact ih
    · simp

end Stop

/-- A line of the body, the source line `k`, is an option, and the line right below it is read as
its link. -/
def Node.CouplesAt (n : Node) (k : Nat) : Prop :=
  ∃ i l below, n.bodyLine + i = k ∧ n.body[i]? = some l ∧ n.body[i + 1]? = some below ∧
    Skeleton.Coupled l below

theorem Node.couplesAt_iff {n : Node} {k : Nat} : n.CouplesAt k ↔
    n.bodyLine ≤ k ∧ (n.body[k - n.bodyLine]?.any fun l =>
      n.body[k - n.bodyLine + 1]?.any fun below => decide (Skeleton.Coupled l below)) = true := by
  simp only [Option.any_eq_true, decide_eq_true_eq]
  constructor
  · rintro ⟨i, l, below, rfl, hl, hbelow, hcoupled⟩
    rw [Nat.add_sub_cancel_left]
    exact ⟨by omega, l, hl, below, hbelow, hcoupled⟩
  · rintro ⟨hk, l, hl, below, hbelow, hcoupled⟩
    exact ⟨k - n.bodyLine, l, below, by omega, hl, hbelow, hcoupled⟩

instance (n : Node) (k : Nat) : Decidable (n.CouplesAt k) :=
  decidable_of_iff' _ Node.couplesAt_iff

/-- A node before and after a blank line is put below the source line `k`: it means the same unless
the blank line parts an option from its link. -/
structure Node.Respaced (k : Nat) (n n' : Node) : Prop where
  title : n'.title = n.title
  metadata : n'.metadata = n.metadata
  alike : ¬ n.CouplesAt k → n.Alike n'
  apart : n.CouplesAt k → ∃ visited, n'.compile visited ≠ n.compile visited

/-- A block before and after a blank line is put below the source line `k`. -/
inductive Block.Spaced (k : Nat) : Block → Block → Prop
  | above {b : Block} (h : b.line + b.content.length < k) : Spaced k b b
  | within {head : Head} {line : Nat} {xs ys : List String} (h : line + xs.length = k) :
    Spaced k ⟨head, line, xs ++ ys⟩ ⟨head, line, xs ++ "" :: ys⟩
  | below {b : Block} (h : k < b.line) : Spaced k b (b.shift 1)

namespace Source

theorem isTerminator_blank : isTerminator "" = false := by decide

theorem isSeparator_blank : isSeparator "" = false := by decide

theorem head?_blank : head? "" = none := by decide

end Source

namespace Block
open Source

/-- The lines from `n` on, with an open block that reaches down to them: every block is spaced at
the line above the blank one. -/
theorem scan_spaced {k n : Nat} {pending : Option Block} {above : List String}
    (hn : n + above.length = k + 1)
    (hpending : ∀ b ∈ pending, b.line + b.content.length + 1 = n) (below : List String) :
    List.Forall₂ (Spaced k) (scan n pending (above ++ below))
      (scan n pending (above ++ "" :: below)) := by
  -- Blocks that begin below the blank line move down by it.
  have hrest (m : Nat) (hm : k < m) (ls : List String) :
      List.Forall₂ (Spaced k) (scan m none ls) (scan (m + 1) none ls) := by
    have hshift : scan (m + 1) none ls = (scan m none ls).map (shift 1) := scan_shift 1 m none ls
    rw [hshift, List.forall₂_map_right_iff, List.forall₂_same]
    intro b hb
    have hline := (scan_pairwise m ls).1 b hb
    exact .below (by omega)
  induction above generalizing n pending with
  | nil =>
    rw [List.length_nil] at hn
    rw [List.nil_append, List.nil_append]
    cases pending with
    | none =>
      rw [scan_of_no_head n below head?_blank]
      exact hrest n (by omega) below
    | some b =>
      -- The open block takes the blank line along, which closes nothing.
      have hb := hpending b rfl
      rw [scan_some, scan_some, inside_of_line below isTerminator_blank,
        extent_of_line below isTerminator_blank, List.drop_succ_cons, ← Nat.add_assoc]
      refine .cons (.within (by omega)) (hrest _ (by omega) _)
  | cons l above ih =>
    rw [List.length_cons] at hn
    rw [List.cons_append, List.cons_append]
    cases pending with
    | none =>
      rw [scan, scan]
      refine ih (by omega) fun b hb => ?_
      obtain ⟨h, -, rfl⟩ := Option.map_eq_some_iff.mp hb
      rfl
    | some b =>
      have hb := hpending b rfl
      rw [scan, scan]
      split_ifs
      · exact .cons (.above (by omega)) (ih (by omega) (by simp))
      · refine ih (by omega) fun c hc => ?_
        obtain rfl := Option.some.inj hc
        dsimp only
        rw [List.length_append, List.length_singleton]
        omega

/-- The fields alone, without their lines. -/
theorem fields_map_snd (b : Block) : b.fields.map (·.2) = b.header.filterMap fun l =>
    if (Text.trim l).isEmpty then none else some (readField (Text.trim l)) := by
  rw [fields, List.map_filterMap]
  conv_rhs => rw [← List.zipIdx_map_fst (b.line + 1) b.header, List.filterMap_map]
  refine List.filterMap_congr ?_
  rintro ⟨l, n⟩ -
  dsimp only [Function.comp]
  by_cases hblank : (Text.trim l).isEmpty = true
  · rw [if_pos hblank, if_pos hblank, Option.map_none]
  · rw [if_neg hblank, if_neg hblank, Option.map_some]

theorem metadata_eq (b : Block) :
    b.metadata = .ofList ((b.fields.map (·.2)).filterMap Except.toOption) := by
  rw [metadata, List.filterMap_map]
  rfl

/-- The problems without their lines. -/
theorem issues_map (b : Block) : b.issues.map (fun i => (i.title, i.fault)) =
    match b.head with
    | .title title => (b.fields.map (·.2)).filterMap fun
      | .error fault => some (title, fault)
      | .ok _ => none
    | .speaker _ => [] := by
  rw [issues]
  cases b.head with
  | speaker name => rfl
  | title title =>
    dsimp only
    rw [List.map_filterMap, List.filterMap_map]
    refine List.filterMap_congr ?_
    rintro ⟨n, f⟩ -
    cases f <;> rfl

section Unseparated
variable {head : Head} {line : Nat} {front : List String}
  (hfront : ∀ l ∈ front, isSeparator l = false)
include hfront

theorem header_append (ls : List String) : (Block.mk head line (front ++ ls)).header =
    front ++ (Block.mk head line ls).header :=
  List.takeWhile_append_of_pos fun l hl => by simp [hfront l hl]

theorem rawBody_append (ls : List String) : (Block.mk head line (front ++ ls)).rawBody =
    (Block.mk head line ls).rawBody :=
  congrArg (List.drop 1) (List.dropWhile_append_of_pos fun l hl => by simp [hfront l hl])

end Unseparated

section Separated
variable {head : Head} {line : Nat} {xs : List String}
  (hs : (Block.mk head line xs).hasSeparator = true) (ys : List String)
include hs

/-- Behind a separator more lines belong to the body. -/
theorem parts_of_separated :
    (Block.mk head line (xs ++ ys)).header = (Block.mk head line xs).header ∧
    (Block.mk head line (xs ++ ys)).rawBody = (Block.mk head line xs).rawBody ++ ys ∧
    (Block.mk head line (xs ++ ys)).hasSeparator = true := by
  obtain ⟨sep, hsep, hcontent⟩ := content_eq_of_separator hs
  have hsplit : xs ++ ys = (Block.mk head line xs).header ++
      sep :: ((Block.mk head line xs).rawBody ++ ys) := by
    rw [← List.cons_append, ← List.append_assoc, ← hcontent]
  have hfront : ∀ l ∈ (Block.mk head line xs).header, isSeparator l = false := fun l hl => by
    simpa using List.mem_takeWhile_imp hl
  refine ⟨?_, ?_, ?_⟩
  · rw [hsplit, header_append hfront, header_of_separator hsep, List.append_nil]
  · rw [hsplit, rawBody_append hfront, rawBody_of_separator hsep]
  · rw [hasSeparator, List.any_append, Bool.or_eq_true]
    exact .inl hs

theorem length_of_separated : xs.length =
    (Block.mk head line xs).header.length + 1 + (Block.mk head line xs).rawBody.length := by
  obtain ⟨sep, -, hcontent⟩ := content_eq_of_separator hs
  have hlength := congrArg List.length hcontent
  rw [List.length_append, List.length_cons] at hlength
  dsimp only at hlength
  omega

end Separated

theorem not_isSeparator_of_mem {b : Block} (hs : ¬ b.hasSeparator = true) :
    ∀ l ∈ b.content, isSeparator l = false := by
  simpa [hasSeparator] using hs

/-- The blank lines at the ends of a body do not reach past a line that is not blank. -/
theorem body_of_line {b : Block} {xs ys : List String} {l : String}
    (hraw : b.rawBody = xs ++ l :: ys) (hl : Text.isBlankText l = false) :
    b.rawBody.takeWhile Text.isBlankText = xs.takeWhile Text.isBlankText ∧
    b.body = xs.dropWhile Text.isBlankText ++ l :: ys.rdropWhile Text.isBlankText := by
  have hbody : b.body = (b.rawBody.dropWhile Text.isBlankText).rdropWhile Text.isBlankText := rfl
  rw [hbody, hraw]
  exact ⟨takeWhile_append_of_stop hl xs ys, by
    rw [dropWhile_append_of_stop hl, rdropWhile_append_of_stop hl]⟩

theorem alike_rawBody (b : Block) :
    (Skeleton.ofBody b.rawBody).Alike (Skeleton.ofBody b.body) :=
  Skeleton.alike_trimmed b.rawBody

/-- A couple in the body of a block is a couple of neighbours below its separator. -/
theorem couplesAt_iff_neighbours {b : Block} {n : Node} {k : Nat} {xs ys : List String}
    (hbody : n.body = b.body) (hline : n.bodyLine = b.bodyLine) (hraw : b.rawBody = xs ++ ys)
    (hs : b.hasSeparator = true) (hk : b.line + b.header.length + 1 + xs.length = k) :
    n.CouplesAt k ↔ Skeleton.Meet xs ys := by
  have hbodyLine : b.bodyLine =
      b.line + b.header.length + 2 + (b.rawBody.takeWhile Text.isBlankText).length := by
    rw [bodyLine, if_pos hs]
  constructor
  · rintro ⟨i, l, l', hi, hl, hl', hcoupled⟩
    rw [hbody] at hl hl'
    have hget := getElem?_of_front b.body_prefix hl
    have hget' := getElem?_of_front b.body_prefix hl'
    have hlast : (b.rawBody.takeWhile Text.isBlankText).length + i = xs.length - 1 := by omega
    have hhead : (b.rawBody.takeWhile Text.isBlankText).length + (i + 1) = xs.length := by omega
    rw [List.getElem?_drop, hlast, hraw, List.getElem?_append_left (by omega),
      ← List.getLast?_eq_getElem?] at hget
    rw [List.getElem?_drop, hhead, hraw, List.getElem?_append_right le_rfl, Nat.sub_self,
      ← List.head?_eq_getElem?] at hget'
    exact ⟨l, hget, l', hget', hcoupled⟩
  · rintro ⟨l, hl, l', hl', hcoupled⟩
    obtain ⟨xs, rfl⟩ := List.getLast?_eq_some_iff.mp hl
    obtain ⟨ys, rfl⟩ := List.head?_eq_some_iff.mp hl'
    rw [List.append_assoc, List.singleton_append] at hraw
    obtain ⟨hblank, htrimmed⟩ := body_of_line hraw hcoupled.not_blank.1
    have hbelow : (l' :: ys).rdropWhile Text.isBlankText =
        l' :: ys.rdropWhile Text.isBlankText :=
      rdropWhile_append_of_stop hcoupled.not_blank.2 [] ys
    rw [hbelow] at htrimmed
    have hlength : (xs.takeWhile Text.isBlankText).length +
        (xs.dropWhile Text.isBlankText).length = xs.length := by
      rw [← List.length_append, List.takeWhile_append_dropWhile]
    rw [List.length_append, List.length_singleton] at hk
    refine ⟨(xs.dropWhile Text.isBlankText).length, l, l', ?_, ?_, ?_, hcoupled⟩
    · rw [hline, hbodyLine, hblank]
      omega
    · simp [hbody, htrimmed]
    · simp [hbody, htrimmed]

/-- Couples stand inside of their block. -/
theorem couplesAt_bounds {b : Block} {n : Node} {k : Nat} (hn : b.node? = some n)
    (h : n.CouplesAt k) : b.line < k ∧ k < b.line + b.content.length := by
  obtain ⟨hbody, hline⟩ := node?_body hn
  obtain ⟨i, l, l', hi, hl, hl', -⟩ := h
  rw [hbody] at hl hl'
  obtain ⟨habove, -⟩ := getElem?_content_of_body hl
  obtain ⟨-, hget⟩ := getElem?_content_of_body hl'
  have hlt := (List.getElem?_eq_some_iff.mp hget).1
  omega

/-- The blank line is no field. -/
theorem Spaced.fields {k : Nat} {b b' : Block} (h : Spaced k b b') :
    b'.fields.map (·.2) = b.fields.map (·.2) := by
  cases h with
  | above => rfl
  | below =>
    rw [fields_shift, List.map_map]
    rfl
  | @within head line xs ys hk =>
    rw [fields_map_snd, fields_map_snd]
    by_cases hs : (Block.mk head line xs).hasSeparator = true
    · rw [(parts_of_separated hs ys).1, (parts_of_separated hs ("" :: ys)).1]
    · have hxs := not_isSeparator_of_mem hs
      have hblank : (Text.trim "").isEmpty = true := by decide
      rw [header_append hxs, header_append hxs, header_of_line isSeparator_blank,
        List.filterMap_append, List.filterMap_append]
      exact congrArg (_ ++ ·) (List.filterMap_cons_none (if_pos hblank))

theorem Spaced.head {k : Nat} {b b' : Block} (h : Spaced k b b') : b'.head = b.head := by
  cases h <;> rfl

theorem Spaced.issues {k : Nat} {b b' : Block} (h : Spaced k b b') :
    b'.issues.map (fun i => (i.title, i.fault)) = b.issues.map fun i => (i.title, i.fault) := by
  rw [issues_map, issues_map, h.head, h.fields]

/-- In the body of a block the blank line changes what is said where it parts an option from its
link, and nowhere else. -/
theorem skeleton_of_separated {head : Head} {line : Nat} {xs ys : List String}
    (hs : (Block.mk head line xs).hasSeparator = true) :
    (¬ Skeleton.Meet (Block.mk head line xs).rawBody ys →
      (Skeleton.ofBody (Block.mk head line (xs ++ ys)).body).Alike
        (.ofBody (Block.mk head line (xs ++ "" :: ys)).body)) ∧
    (Skeleton.Meet (Block.mk head line xs).rawBody ys → ∃ visited,
      (Skeleton.ofBody (Block.mk head line (xs ++ "" :: ys)).body).shownOptions visited ≠
        (Skeleton.ofBody (Block.mk head line (xs ++ ys)).body).shownOptions visited) := by
  have htrimmed := alike_rawBody (Block.mk head line (xs ++ ys))
  have htrimmed' := alike_rawBody (Block.mk head line (xs ++ "" :: ys))
  rw [(parts_of_separated hs ys).2.1] at htrimmed
  rw [(parts_of_separated hs ("" :: ys)).2.1] at htrimmed'
  refine ⟨fun hmeet => ?_, fun hmeet => ?_⟩
  · have hblank := Skeleton.alike_blank (e := "") rfl (Block.mk head line xs).rawBody ys hmeet
    exact htrimmed.symm.trans (hblank.trans htrimmed')
  · obtain ⟨visited, hvisited⟩ := Skeleton.shownOptions_blank_ne (e := "") rfl hmeet
    refine ⟨visited, fun heq => hvisited ?_⟩
    rw [← htrimmed'.shownOptions, ← htrimmed.shownOptions]
    exact heq

/-- Above the separator the blank line does not touch the body, and couples stand further down. -/
theorem body_of_unseparated {head : Head} {line : Nat} {xs : List String}
    (hs : ¬ (Block.mk head line xs).hasSeparator = true) (ys : List String) :
    (Block.mk head line (xs ++ "" :: ys)).body = (Block.mk head line (xs ++ ys)).body ∧
    ∀ n : Node, n.body = (Block.mk head line (xs ++ ys)).body →
      n.bodyLine = (Block.mk head line (xs ++ ys)).bodyLine → ¬ n.CouplesAt (line + xs.length) := by
  have hxs := not_isSeparator_of_mem hs
  refine ⟨?_, fun n hbody hline => ?_⟩
  · have hraw : (Block.mk head line (xs ++ "" :: ys)).rawBody =
        (Block.mk head line (xs ++ ys)).rawBody := by
      rw [rawBody_append hxs, rawBody_append hxs, rawBody_of_line isSeparator_blank]
      rfl
    rw [Block.body, Block.body, hraw]
  · rintro ⟨i, l, l', hi, hl, -⟩
    rw [hbody] at hl
    have hbodyLine : n.bodyLine = _ := hline.trans (if_pos (hasSeparator_of_body hl))
    rw [header_append hxs, List.length_append] at hbodyLine
    dsimp only at hbodyLine
    omega

theorem Spaced.skeleton {k : Nat} {b b' : Block} {n n' : Node} (h : Spaced k b b')
    (hn : b.node? = some n) (hn' : b'.node? = some n') :
    (¬ n.CouplesAt k → n.skeleton.Alike n'.skeleton) ∧
    (n.CouplesAt k → ∃ visited,
      n'.skeleton.shownOptions visited ≠ n.skeleton.shownOptions visited) := by
  obtain ⟨hbody, hline⟩ := node?_body hn
  have hbody' := (node?_body hn').1
  rw [Node.skeleton, Node.skeleton, hbody, hbody']
  cases h with
  | above hk =>
    refine ⟨fun _ => .refl _, fun hcouple => ?_⟩
    have hbounds := couplesAt_bounds hn hcouple
    omega
  | below hk =>
    refine ⟨fun _ => .refl _, fun hcouple => ?_⟩
    have hbounds := couplesAt_bounds hn hcouple
    omega
  | @within head line xs ys hk =>
    by_cases hs : (Block.mk head line xs).hasSeparator = true
    · obtain ⟨hheader, hraw, hseparator⟩ := parts_of_separated hs ys
      have hlength := length_of_separated hs
      have hmeet : n.CouplesAt k ↔ Skeleton.Meet (Block.mk head line xs).rawBody ys := by
        refine couplesAt_iff_neighbours hbody hline hraw hseparator ?_
        rw [hheader]
        dsimp only
        omega
      rw [hmeet]
      exact skeleton_of_separated hs
    · obtain ⟨hsame, hnone⟩ := body_of_unseparated hs ys
      rw [hsame]
      refine ⟨fun _ => .refl _, fun hcouple => ?_⟩
      subst hk
      exact absurd hcouple (hnone n hbody hline)

theorem Spaced.node? {k : Nat} {b b' : Block} (h : Spaced k b b') :
    Option.Rel (Node.Respaced k) b.node? b'.node? := by
  have hfields := h.fields
  have hhead := h.head
  have hskeleton := @Spaced.skeleton k b b'
  unfold Block.node? at hskeleton ⊢
  rw [hhead] at hskeleton ⊢
  cases hb : b.head with
  | speaker name => exact .none
  | title title =>
    rw [hb] at hskeleton
    obtain ⟨halike, hapart⟩ := hskeleton h rfl rfl
    have hmetadata : b'.metadata = b.metadata := by rw [metadata_eq, metadata_eq, hfields]
    refine .some ⟨rfl, hmetadata, fun hk => ⟨rfl, hmetadata, halike hk⟩, fun hk => ?_⟩
    obtain ⟨visited, hvisited⟩ := hapart hk
    exact ⟨visited, fun heq => hvisited (congrArg Compiled.options heq)⟩

/-- A speaker keeps its name and its animation. -/
theorem Spaced.speaker? {k : Nat} {b b' : Block} (h : Spaced k b b') :
    b'.speaker?.map (fun sp => (sp.name, sp.talk)) =
      b.speaker?.map fun sp => (sp.name, sp.talk) := by
  cases h with
  | above => rfl
  | below =>
    rw [speaker?_shift, Option.map_map]
    rfl
  | @within head line xs ys hk =>
    have htalk : (Block.mk head line (xs ++ "" :: ys)).talk =
        (Block.mk head line (xs ++ ys)).talk := by
      rw [talk, talk, List.filterMap_append, List.filterMap_append,
        List.filterMap_cons_none (by decide)]
    rw [Block.speaker?, Block.speaker?, htalk]

end Block
end Dialogue
