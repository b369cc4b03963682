import Dialogue.Proofs.Body.Reading
import Dialogue.Proofs.Text.Trimming

/-! Blank lines of a body: they say nothing, and only one that stands between an option and its link
changes what the body says. -/
namespace Dialogue

namespace Skeleton

/-- Skeletons that say the same, wherever in their bodies the lines stand. -/
structure Alike (k k' : Skeleton) : Prop where
  lines : ∀ visited, k'.shownLines visited = k.shownLines visited
  jumps : k'.jumps = k.jumps
  commands : k'.commands = k.commands
  options : k'.options = k.options

/-- An option line and a line that is read as its link. -/
def Coupled (l below : String) : Prop :=
  (optionText? l).isSome = true ∧ (Directive.link? (Text.trim below)).isSome = true

instance (l below : String) : Decidable (Coupled l below) :=
  inferInstanceAs (Decidable (_ ∧ _))

/-- Lines of which the last is a couple with the first of the lines below them. -/
def Meet (xs ys : List String) : Prop := ∃ l ∈ xs.getLast?, ∃ l' ∈ ys.head?, Coupled l l'

theorem Alike.refl (k : Skeleton) : Alike k k := ⟨fun _ => rfl, rfl, rfl, rfl⟩

theorem Alike.trans {k k' k'' : Skeleton} (h : Alike k k') (h' : Alike k' k'') : Alike k k'' where
  lines visited := (h'.lines visited).trans (h.lines visited)
  jumps := h'.jumps.trans h.jumps
  commands := h'.commands.trans h.commands
  options := h'.options.trans h.options

theorem Alike.symm {k k' : Skeleton} (h : Alike k k') : Alike k' k where
  lines visited := (h.lines visited).symm
  jumps := h.jumps.symm
  commands := h.commands.symm
  options := h.options.symm

theorem Alike.links {k k' : Skeleton} (h : Alike k k') : k'.links = k.links := by
  rw [Skeleton.links, Skeleton.links, h.jumps, h.options]

theorem Alike.shownOptions {k k' : Skeleton} (h : Alike k k') (visited : List String) :
    k'.shownOptions visited = k.shownOptions visited := by
  rw [Skeleton.shownOptions, Skeleton.shownOptions, h.options]

theorem gatedOptions_cons_congr {l : String} {ls ls' : List String}
    (hnext : Directive.link? (Text.trim (ls.headD "")) = Directive.link? (Text.trim (ls'.headD "")))
    (hrest : gatedOptions ls = gatedOptions ls') :
    gatedOptions (l :: ls) = gatedOptions (l :: ls') := by
  cases hl : optionText? l with
  | none => rw [gatedOptions_of_none ls hl, gatedOptions_of_none ls' hl, hrest]
  | some s => rw [gatedOptions_of_some hl, gatedOptions_of_some hl, hnext, hrest]

/-- What stands above a line does not see what stands below it. -/
theorem gatedOptions_append (l : String) (xs : List String) :
    ∃ front, ∀ ys, gatedOptions (xs ++ l :: ys) = front ++ gatedOptions (l :: ys) := by
  induction xs with
  | nil => exact ⟨[], fun ys => rfl⟩
  | cons x xs ih =>
    obtain ⟨front, hfront⟩ := ih
    cases hx : optionText? x with
    | none =>
      refine ⟨front, fun ys => ?_⟩
      rw [List.cons_append, gatedOptions_of_none _ hx, hfront]
    | some s =>
      -- The line below `x` is the first of `xs`, or `l` itself.
      have hnext (ys : List String) : (xs ++ l :: ys).headD "" = (xs ++ [l]).headD "" := by
        cases xs <;> rfl
      refine ⟨⟨(Gate.split s).1, (Gate.split s).2,
        Directive.link? (Text.trim ((xs ++ [l]).headD ""))⟩ :: front, fun ys => ?_⟩
      rw [List.cons_append, gatedOptions_of_some hx, hfront, hnext, List.cons_append]

section Blank
variable {e : String} (he : Text.isBlankText e = true)
include he

theorem trim_of_blank : Text.trim e = "" := by
  have hfront : Text.dropBlank e.toList = [] :=
    Text.dropBlank_eq_nil_iff.mpr (Text.isBlankText_iff.mp he)
  rw [Text.trim, Text.trimChars, hfront]
  rfl

theorem optionText?_of_blank : optionText? e = none := by
  have htrim : Text.trimChars e.toList = [] := by
    rw [← String.toList_ofList (l := Text.trimChars e.toList)]
    exact congrArg String.toList (trim_of_blank he)
  rw [optionText?, htrim]
  rfl

theorem link?_of_blank : Directive.link? (Text.trim e) = none := by
  rw [trim_of_blank he]
  rfl

theorem ofLine_of_blank : BodyLine.ofLine e = .blank := by
  rw [BodyLine.ofLine, trim_of_blank he]
  rfl

/-- Between lines that are no couple a blank line takes no link from an option. -/
theorem gatedOptions_blank (xs ys : List String) (h : ¬ Meet xs ys) :
    gatedOptions (xs ++ e :: ys) = gatedOptions (xs ++ ys) := by
  induction xs with
  | nil => exact gatedOptions_of_none ys (optionText?_of_blank he)
  | cons x xs ih =>
    cases xs with
    | cons x' xs =>
      rw [Meet, List.getLast?_cons_cons] at h
      exact gatedOptions_cons_congr rfl (ih h)
    | nil =>
      have hblank : gatedOptions (e :: ys) = gatedOptions ys :=
        gatedOptions_of_none ys (optionText?_of_blank he)
      cases hx : optionText? x with
      | none =>
        rw [List.singleton_append, List.singleton_append, gatedOptions_of_none _ hx,
          gatedOptions_of_none _ hx, hblank]
      | some s =>
        have hlink : Directive.link? (Text.trim (ys.headD "")) = none := by
          cases ys with
          | nil => rfl
          | cons y ys =>
            have hxy : ¬ Coupled x y := fun hxy => h ⟨x, rfl, y, rfl, hxy⟩
            simpa [Coupled, hx] using hxy
        exact gatedOptions_cons_congr ((link?_of_blank he).trans hlink.symm) hblank

/-- Between a couple a blank line takes the link from the option, and whoever sees the option sees
it. -/
theorem shownOptions_blank_ne {xs ys : List String} (h : Meet xs ys) :
    ∃ visited, (ofBody (xs ++ e :: ys)).shownOptions visited ≠
      (ofBody (xs ++ ys)).shownOptions visited := by
  obtain ⟨l, hl, below, hbelow, hoption, hlinked⟩ := h
  obtain ⟨xs, rfl⟩ := List.getLast?_eq_some_iff.mp hl
  obtain ⟨ys, rfl⟩ := List.head?_eq_some_iff.mp hbelow
  obtain ⟨s, hs⟩ := Option.isSome_iff_exists.mp hoption
  obtain ⟨link, hlink⟩ := Option.isSome_iff_exists.mp hlinked
  obtain ⟨front, hfront⟩ := gatedOptions_append l xs
  rw [List.append_assoc, List.append_assoc, List.singleton_append, List.singleton_append]
  have htogether : (ofBody (xs ++ l :: below :: ys)).options =
      front ++ ⟨(Gate.split s).1, (Gate.split s).2, some link⟩ :: gatedOptions (below :: ys) := by
    rw [ofBody, hfront, gatedOptions_of_some hs, List.headD_cons, hlink]
  have hparted : (ofBody (xs ++ l :: e :: below :: ys)).options =
      front ++ ⟨(Gate.split s).1, (Gate.split s).2, none⟩ :: gatedOptions (below :: ys) := by
    rw [ofBody, hfront, gatedOptions_of_some hs, List.headD_cons, link?_of_blank he,
      gatedOptions_of_none _ (optionText?_of_blank he)]
  obtain ⟨visited, hvisited⟩ := Gate.exists_allows (Gate.split s).1
  refine ⟨visited, fun heq => ?_⟩
  rw [shownOptions_eq, shownOptions_eq, htogether, hparted] at heq
  simp only [List.filter_append, List.filter_cons, hvisited, if_true, List.map_append,
    List.map_cons] at heq
  have hchoice := (List.cons.inj (List.append_cancel_left heq)).1
  simp [GatedOption.choice] at hchoice

theorem filterMap_spokenPart_blank {α : Type} {f : BodyLine → Option α} (hf : f .blank = none)
    (xs ys : List String) :
    (spokenPart (xs ++ e :: ys)).filterMap f = (spokenPart (xs ++ ys)).filterMap f := by
  induction xs with
  | nil =>
    rw [List.nil_append, spokenPart_of_none (optionText?_of_blank he), ofLine_of_blank he,
      List.filterMap_cons_none hf]
    rfl
  | cons x xs ih =>
    cases hx : optionText? x with
    | some s => simp [spokenPart, hx]
    | none =>
      rw [List.cons_append, List.cons_append, spokenPart_of_none hx, spokenPart_of_none hx,
        List.filterMap_cons, List.filterMap_cons, ih]

theorem alike_blank (xs ys : List String) (h : ¬ Meet xs ys) :
    Alike (ofBody (xs ++ ys)) (ofBody (xs ++ e :: ys)) where
  lines visited := by
    rw [shownLines_ofBody, shownLines_ofBody]
    exact filterMap_spokenPart_blank he rfl xs ys
  jumps := filterMap_spokenPart_blank he rfl xs ys
  commands := filterMap_spokenPart_blank he rfl xs ys
  options := gatedOptions_blank he xs ys h

end Blank

theorem Coupled.not_blank {l below : String} (h : Coupled l below) :
    Text.isBlankText l = false ∧ Text.isBlankText below = false := by
  constructor
  · by_contra hl
    have hnone := optionText?_of_blank (e := l) (by simpa using hl)
    simpa [hnone] using h.1
  · by_contra hl
    have hnone := link?_of_blank (e := below) (by simpa using hl)
    simpa [hnone] using h.2

theorem alike_blanks_front (front : List String) (h : ∀ e ∈ front, Text.isBlankText e = true)
    (body : List String) : Alike (ofBody body) (ofBody (front ++ body)) := by
  induction front with
  | nil => exact .refl _
  | cons e front ih =>
    have hrest := ih fun e' he' => h e' (List.mem_cons_of_mem e he')
    have hblank := alike_blank (h e List.mem_cons_self) [] (front ++ body) (by simp [Meet])
    exact hrest.trans hblank

theorem alike_blanks_end (rest : List String) (h : ∀ e ∈ rest, Text.isBlankText e = true)
    (body : List String) : Alike (ofBody body) (ofBody (body ++ rest)) := by
  induction rest using List.reverseRecOn with
  | nil =>
    rw [List.append_nil]
    exact .refl _
  | append_singleton rest e ih =>
    have hrest := ih fun e' he' => h e' (List.mem_append_left _ he')
    have hblank := alike_blank (h e (by simp)) (body ++ rest) [] (by simp [Meet])
    rw [List.append_nil, List.append_assoc] at hblank
    exact hrest.trans hblank

/-- Blank lines at the ends of a body do not count. -/
theorem alike_trimmed (body : List String) : Alike (ofBody body)
    (ofBody ((body.dropWhile Text.isBlankText).reverse.dropWhile Text.isBlankText).reverse) := by
  have hfront := alike_blanks_front (body.takeWhile Text.isBlankText)
    (fun e he => List.mem_takeWhile_imp he) (body.dropWhile Text.isBlankText)
  have hend := alike_blanks_end ((body.dropWhile Text.isBlankText).rtakeWhile Text.isBlankText)
    (fun e he => List.mem_rtakeWhile_imp he)
    ((body.dropWhile Text.isBlankText).rdropWhile Text.isBlankText)
  rw [List.takeWhile_append_dropWhile] at hfront
  rw [List.rdropWhile_append_rtakeWhile] at hend
  exact (hend.trans hfront).symm

end Skeleton

/-- Nodes that mean the same, wherever they stand in their texts. -/
structure Node.Alike (n n' : Node) : Prop where
  title : n'.title = n.title
  metadata : n'.metadata = n.metadata
  skeleton : n.skeleton.Alike n'.skeleton

namespace Node.Alike
variable {n n' : Node} (h : n.Alike n')
include h

theorem tags : n'.tags = n.tags := by
  rw [Node.tags, Node.tags, h.metadata]

theorem hasTag (tag : String) : n'.hasTag tag = n.hasTag tag := by
  rw [Node.hasTag, Node.hasTag, h.tags]

theorem compile (visited : List String) : n'.compile visited = n.compile visited := by
  rw [Node.compile, Node.compile, h.title, h.tags, h.skeleton.lines, h.skeleton.jumps,
    h.skeleton.shownOptions, Skeleton.command?, Skeleton.command?, h.skeleton.commands]

end Node.Alike
end Dialogue
