import Dialogue.Line.Directive
import Dialogue.Proofs.Text.Match
import Dialogue.Proofs.Text.Words

/-! Load directives: which texts are taken for one, and with which arguments. -/
namespace Dialogue.Directive
open Text

/-- An argument of a command: some characters, none of them blank and none a closing bracket. -/
def IsArgument (w : List Char) : Prop := w ≠ [] ∧ ∀ c ∈ w, isBlank c = false ∧ c ≠ '>'

/-- Arguments, at least one, with blanks between any two neighbours. -/
inductive Separated : List (List Char) → List Char → Prop
  | one {w : List Char} (hw : IsArgument w) : Separated [w] w
  | more {w gap cs : List Char} {ws : List (List Char)} (hw : IsArgument w) (hgap : AllBlank gap)
      (hne : gap ≠ []) (h : Separated ws cs) : Separated (w :: ws) (w ++ gap ++ cs)

/-- A directive with `inside` behind its keyword, blanks on both sides of it, and perhaps a line
feed after the closing mark. -/
def Encloses (keyword : String) (gap inside tail : List Char) (s : String) : Prop :=
  AllBlank gap ∧ gap ≠ [] ∧ AllBlank tail ∧
    ∃ lead ending, AllBlank lead ∧ (ending = [] ∨ ending = ['\n']) ∧
      s.toList = mark.toList ++ lead ++ keyword.toList ++ gap ++ inside ++ tail ++ ">>".toList ++
        ending

section Parts
variable {cs rest : List Char}

theorem atEnd_iff : atEnd cs = true ↔ cs = [] ∨ cs = ['\n'] := by
  simp [atEnd]

theorem opened?_eq_some_iff : opened? cs = some rest ↔
    dropBlank rest = rest ∧ ∃ lead, AllBlank lead ∧ cs = mark.toList ++ lead ++ rest := by
  simp only [opened?, Option.map_eq_some_iff, after?_eq_some_iff]
  constructor
  · rintro ⟨r, rfl, rfl⟩
    obtain ⟨lead, hlead, hr⟩ := exists_dropBlank r
    refine ⟨List.dropWhile_idempotent _ _, lead, hlead, ?_⟩
    rw [List.append_assoc, ← hr]
  · rintro ⟨hrest, lead, hlead, rfl⟩
    exact ⟨lead ++ rest, List.append_assoc .., by rw [dropBlank_append hlead, hrest]⟩

theorem closes_iff (h : ∀ c, cs.head? = some c → isBlank c = false) : closes cs = true ↔
    ∃ ending, (ending = [] ∨ ending = ['\n']) ∧ cs = ">>".toList ++ ending := by
  have hdrop : dropBlank cs = cs := by
    cases cs with
    | nil => rfl
    | cons c cs => exact List.dropWhile_cons_of_neg (by simp [h c rfl])
  rw [closes, hdrop]
  cases hafter : after? ">>" cs with
  | none =>
    simp only [Bool.false_eq_true, false_iff]
    rintro ⟨ending, -, hcs⟩
    rw [after?_eq_some_iff.mpr hcs] at hafter
    cases hafter
  | some rest =>
    rw [after?_eq_some_iff] at hafter
    simp only [atEnd_iff, hafter, List.append_cancel_left_eq]
    exact ⟨fun h => ⟨rest, h, rfl⟩, fun ⟨ending, h, heq⟩ => heq ▸ h⟩

theorem blanks?_isSome_iff : (blanks? cs).isSome = true ↔
    ∃ c, cs.head? = some c ∧ isBlank c = true := by
  cases cs with
  | nil => simp [blanks?]
  | cons c cs => cases hc : isBlank c <;> simp [blanks?, hc]

theorem not_mem_takeWhile_ne (x : Char) (cs : List Char) : x ∉ cs.takeWhile (· ≠ x) := by
  intro hx
  simpa using List.mem_takeWhile_imp hx

theorem span_ne_append {x : Char} (h : x ∉ cs) (rest : List Char) :
    (cs ++ x :: rest).span (· ≠ x) = (cs, x :: rest) := by
  have hcs : ∀ c ∈ cs, decide (c ≠ x) = true := by
    intro c hc
    rw [decide_eq_true_eq]
    rintro rfl
    exact h hc
  exact span_append hcs (by simp)

end Parts

section Fields
variable {keyword s : String} {args : List String}

/-- What stands between the keyword and the closing mark of a load directive: no bracket, a blank at
the front, and something behind it. -/
structure IsField (field : List Char) : Prop where
  bracket : '>' ∉ field
  front : ∃ c, field.head? = some c ∧ isBlank c = true
  size : 2 ≤ field.length

theorem args?_eq_some_iff (hkey : dropBlank keyword.toList = keyword.toList) (hne : keyword ≠ "") :
    args? keyword s = some args ↔ ∃ lead field ending, AllBlank lead ∧ IsField field ∧
      (ending = [] ∨ ending = ['\n']) ∧ args = (words field).map .ofList ∧
      s.toList = mark.toList ++ lead ++ keyword.toList ++ field ++ ">>".toList ++ ending := by
  have hdrop : ∀ rest, dropBlank (keyword.toList ++ rest) = keyword.toList ++ rest := by
    intro rest
    rw [dropBlank_append_of_ne_nil (by rwa [hkey, Ne, String.toList_eq_nil_iff]), hkey]
  simp only [args?, Option.bind_eq_bind, Option.bind_eq_some_iff, opened?_eq_some_iff,
    after?_eq_some_iff]
  constructor
  · rintro ⟨_, ⟨-, lead, hlead, hs⟩, rest, rfl, _, hblank, hargs⟩
    rw [List.span_eq_takeWhile_dropWhile] at hblank hargs
    have hbracket : ∀ c, (rest.dropWhile (· ≠ '>')).head? = some c → isBlank c = false := by
      intro c hc
      have hstop := List.head?_dropWhile_not (· ≠ '>') rest
      rw [hc] at hstop
      have hceq : c = '>' := by simpa using hstop
      rw [hceq]
      decide
    obtain ⟨hfits, hargs⟩ := Option.ite_none_right_eq_some.mp hargs
    rw [Bool.and_eq_true, decide_eq_true_eq, closes_iff hbracket] at hfits
    obtain ⟨hsize, ending, hending, hrest⟩ := hfits
    refine ⟨lead, rest.takeWhile (· ≠ '>'), ending, hlead,
      ⟨not_mem_takeWhile_ne '>' rest, blanks?_isSome_iff.mp (by rw [hblank]; rfl), hsize⟩,
      hending, (Option.some.inj hargs).symm, ?_⟩
    rw [hs]
    conv_lhs => rw [← List.takeWhile_append_dropWhile (p := (· ≠ '>')) (l := rest), hrest]
    simp only [List.append_assoc]
  · rintro ⟨lead, field, ending, hlead, ⟨hbracket, hfront, hsize⟩, hending, rfl, hs⟩
    have hspan : (field ++ (">>".toList ++ ending)).span (· ≠ '>') =
        (field, ">>".toList ++ ending) := span_ne_append hbracket ('>' :: ending)
    have hcloses : closes (">>".toList ++ ending) = true :=
      (closes_iff (by rintro c ⟨⟩; decide)).mpr ⟨ending, hending, rfl⟩
    obtain ⟨r, hr⟩ := Option.isSome_iff_exists.mp (blanks?_isSome_iff.mpr hfront)
    refine ⟨_, ⟨hdrop _, lead, hlead, ?_⟩, field ++ (">>".toList ++ ending), rfl, ?_⟩
    · rw [hs]
      simp only [List.append_assoc]
    · rw [hspan]
      exact ⟨r, hr, if_pos (by rw [hcloses, decide_eq_true hsize, Bool.and_true])⟩

end Fields

section Arguments
variable {cs field : List Char} {ws : List (List Char)}

theorem Separated.words_eq (h : Separated ws cs) : words cs = ws := by
  induction h with
  | one hw => exact words_of_no_blank hw.1 fun c hc => (hw.2 c hc).1
  | more hw hgap hne _ ih =>
    rw [words_word_append hw.1 (fun c hc => (hw.2 c hc).1) hgap hne, ih]

theorem not_mem_of_allBlank (h : AllBlank cs) : '>' ∉ cs := by
  intro hmem
  exact absurd (h _ hmem) (by decide)

theorem Separated.not_mem_bracket (h : Separated ws cs) : '>' ∉ cs := by
  induction h with
  | one hw => exact fun hmem => (hw.2 _ hmem).2 rfl
  | more hw hgap _ _ ih =>
    simp only [List.mem_append, not_or]
    exact ⟨⟨fun hmem => (hw.2 _ hmem).2 rfl, not_mem_of_allBlank hgap⟩, ih⟩

/-- Arguments begin with a character that is not blank. -/
theorem Separated.exists_cons (h : Separated ws cs) : ∃ c r, cs = c :: r ∧ isBlank c = false := by
  have hfirst : ∀ {w}, IsArgument w → ∃ c r, w = c :: r ∧ isBlank c = false := by
    intro w hw
    obtain ⟨c, r, rfl⟩ := List.exists_cons_of_ne_nil hw.1
    exact ⟨c, r, rfl, (hw.2 c List.mem_cons_self).1⟩
  cases h with
  | one hw => exact hfirst hw
  | @more _ gap cs _ hw _ _ _ =>
    obtain ⟨c, r, rfl, hc⟩ := hfirst hw
    exact ⟨c, r ++ gap ++ cs, by simp only [List.cons_append], hc⟩

/-- A text without a bracket is blank, or its words are arguments with blanks around them. -/
theorem exists_separated (h : '>' ∉ cs) : AllBlank cs ∨ ∃ gap inside tail, AllBlank gap ∧
    AllBlank tail ∧ cs = gap ++ inside ++ tail ∧ Separated (words cs) inside := by
  induction hn : cs.length using Nat.strong_induction_on generalizing cs with
  | _ n ih =>
    rcases exists_first_word cs with hblank | ⟨gap, w, rest, hgap, hne, hw, hrest, rfl⟩
    · exact .inl hblank
    right
    have hword : IsArgument w := by
      refine ⟨hne, fun c hc => ⟨hw c hc, ?_⟩⟩
      rintro rfl
      exact h (by simp [hc])
    rcases rest with _ | ⟨d, rest⟩
    · refine ⟨gap, w, [], hgap, by simp [AllBlank], rfl, ?_⟩
      rw [List.append_nil, words_append_left hgap, words_of_no_blank hne hw]
      exact .one hword
    · have hd : AllBlank [d] := by simpa [AllBlank] using hrest d rfl
      have hwords : words (gap ++ w ++ d :: rest) = w :: words rest := by
        rw [List.append_assoc, words_append_left hgap, ← List.singleton_append, ← List.append_assoc,
          words_word_append hne hw hd (List.cons_ne_nil _ _)]
      have hlt : rest.length < n := by
        rw [← hn, List.length_append, List.length_cons]
        omega
      have hbracket : '>' ∉ rest := fun hmem => h (by simp [hmem])
      rcases ih rest.length hlt hbracket rfl with
        hblank | ⟨gap', inside, tail, hgap', htail, hcs, hsep⟩
      · refine ⟨gap, w, d :: rest, hgap, List.forall_mem_cons.mpr ⟨hrest d rfl, hblank⟩, rfl, ?_⟩
        rw [hwords, words_of_allBlank hblank]
        exact .one hword
      · refine ⟨gap, w ++ (d :: gap') ++ inside, tail, hgap, htail, ?_, ?_⟩
        · rw [hcs]
          simp only [List.append_assoc, List.cons_append]
        · rw [hwords]
          exact .more hword (List.forall_mem_cons.mpr ⟨hrest d rfl, hgap'⟩) (List.cons_ne_nil _ _)
            hsep

/-- A field holds arguments with blanks around them, or nothing but blanks, at least two. -/
theorem isField_iff : IsField field ↔ ∃ gap inside tail, AllBlank gap ∧ gap ≠ [] ∧ AllBlank tail ∧
    field = gap ++ inside ++ tail ∧ (Separated (words field) inside ∨
      words field = [] ∧ inside = [] ∧ 2 ≤ (gap ++ tail).length) := by
  constructor
  · rintro ⟨hbracket, ⟨c, hc, hblank⟩, hsize⟩
    rcases exists_separated hbracket with hall | ⟨gap, inside, tail, hgap, htail, hfield, hsep⟩
    · have hne : field ≠ [] := by
        rintro rfl
        cases hc
      exact ⟨field, [], [], hall, hne, by simp [AllBlank], by simp,
        .inr ⟨words_of_allBlank hall, rfl, by simpa using hsize⟩⟩
    · refine ⟨gap, inside, tail, hgap, ?_, htail, hfield, .inl hsep⟩
      rintro rfl
      obtain ⟨d, r, rfl, hd⟩ := hsep.exists_cons
      rw [hfield] at hc
      obtain rfl : d = c := by simpa using hc
      rw [hd] at hblank
      cases hblank
  · rintro ⟨gap, inside, tail, hgap, hne, htail, rfl, hinside⟩
    obtain ⟨c, gap, rfl⟩ := List.exists_cons_of_ne_nil hne
    have hfront : ∃ d, (c :: gap ++ inside ++ tail).head? = some d ∧ isBlank d = true :=
      ⟨c, rfl, hgap c List.mem_cons_self⟩
    rcases hinside with hsep | ⟨-, rfl, hsize⟩
    · refine ⟨?_, hfront, ?_⟩
      · simp only [List.mem_append, not_or]
        exact ⟨⟨not_mem_of_allBlank hgap, hsep.not_mem_bracket⟩,
          not_mem_of_allBlank htail⟩
      · obtain ⟨d, r, rfl, -⟩ := hsep.exists_cons
        simp only [List.length_append, List.length_cons]
        omega
    · rw [List.append_nil] at hfront ⊢
      refine ⟨?_, hfront, hsize⟩
      rw [List.mem_append, not_or]
      exact ⟨not_mem_of_allBlank hgap, not_mem_of_allBlank htail⟩

end Arguments

section Loads
variable {s : String}

/-- The commands that take arguments. -/
def loadNames : List String := ["loadPuzzle", "loadLevel"]

theorem args?_of_loadName {name : String} (hname : name ∈ loadNames) {args : List String} :
    args? name s = some args ↔ ∃ ws gap inside tail, args = ws.map .ofList ∧
      Encloses name gap inside tail s ∧ (Separated ws inside ∨
        ws = [] ∧ inside = [] ∧ 2 ≤ (gap ++ tail).length) := by
  have hkey : dropBlank name.toList = name.toList ∧ name ≠ "" := by
    simp only [loadNames, List.mem_cons, List.not_mem_nil, or_false] at hname
    rcases hname with rfl | rfl <;> decide
  rw [args?_eq_some_iff hkey.1 hkey.2]
  constructor
  · rintro ⟨lead, field, ending, hlead, hfield, hending, rfl, hs⟩
    obtain ⟨gap, inside, tail, hgap, hne, htail, hparts, hinside⟩ := isField_iff.mp hfield
    refine ⟨words field, gap, inside, tail, rfl,
      ⟨hgap, hne, htail, lead, ending, hlead, hending, ?_⟩, hinside⟩
    rw [hs, hparts]
    simp only [List.append_assoc]
  · rintro ⟨ws, gap, inside, tail, rfl,
      ⟨hgap, hne, htail, lead, ending, hlead, hending, hs⟩, hinside⟩
    have hwords : words (gap ++ inside ++ tail) = ws := by
      rw [words_append_right htail, words_append_left hgap]
      rcases hinside with hsep | ⟨rfl, rfl, -⟩
      · exact hsep.words_eq
      · rfl
    refine ⟨lead, gap ++ inside ++ tail, ending, hlead, ?_, hending, by rw [hwords], ?_⟩
    · rw [isField_iff, hwords]
      exact ⟨gap, inside, tail, hgap, hne, htail, rfl, hinside⟩
    · rw [hs]
      simp only [List.append_assoc]

theorem exists_keyword_of_args? {keyword : String} {args : List String}
    (h : args? keyword s = some args) :
    ∃ rest, opened? s.toList = some (keyword.toList ++ rest) := by
  simp only [args?, Option.bind_eq_bind, Option.bind_eq_some_iff, after?_eq_some_iff] at h
  obtain ⟨_, hopened, rest, rfl, -⟩ := h
  exact ⟨rest, hopened⟩

/-- A directive is taken for one load command at most. -/
theorem args?_exclusive {args : List String} (h : args? "loadLevel" s = some args) :
    args? "loadPuzzle" s = none := by
  obtain ⟨rest, hlevel⟩ := exists_keyword_of_args? h
  by_contra hne
  obtain ⟨args', h'⟩ := Option.ne_none_iff_exists'.mp hne
  obtain ⟨rest', hpuzzle⟩ := exists_keyword_of_args? h'
  rw [hlevel] at hpuzzle
  simp at hpuzzle

theorem command?_of_loadName {c : Command} (hname : c.name ∈ loadNames) :
    command? s = some c ↔ args? c.name s = some c.args := by
  obtain ⟨name, args⟩ := c
  simp only [loadNames, List.mem_cons, List.not_mem_nil, or_false] at hname
  rw [command?]
  rcases hname with rfl | rfl
  · cases hpuzzle : args? "loadPuzzle" s with
    | some args' => simp
    | none =>
      simp only [reduceCtorEq, iff_false]
      cases args? "loadLevel" s <;> simp
  · cases hlevel : args? "loadLevel" s with
    | some args' => simp [args?_exclusive hlevel]
    | none => cases args? "loadPuzzle" s <;> simp

/-- A text is taken for a load command in exactly two cases. It is a directive with arguments that
blanks separate, and these are the arguments of the command; or it has no argument at all and at
least two blanks in their place, and the command has none. -/
theorem command?_load_iff (c : Command) : (command? s = some c ∧ c.name ∈ loadNames) ↔
    c.name ∈ loadNames ∧ ∃ ws gap inside tail, c.args = ws.map .ofList ∧
      Encloses c.name gap inside tail s ∧ (Separated ws inside ∨
        ws = [] ∧ inside = [] ∧ 2 ≤ (gap ++ tail).length) := by
  constructor
  · rintro ⟨hc, hname⟩
    exact ⟨hname, (args?_of_loadName hname).mp ((command?_of_loadName hname).mp hc)⟩
  · rintro ⟨hname, hform⟩
    exact ⟨(command?_of_loadName hname).mpr ((args?_of_loadName hname).mpr hform), hname⟩

/-- Two blanks behind the keyword make a load command, and there is nothing between them that is an
argument. -/
theorem load_without_arguments : ∃ c, command? "<<loadPuzzle  >>" = some c ∧ c.name ∈ loadNames ∧
    ¬ ∃ ws gap inside tail, c.args = ws.map .ofList ∧
      Encloses c.name gap inside tail "<<loadPuzzle  >>" ∧ Separated ws inside := by
  refine ⟨⟨"loadPuzzle", []⟩, by decide, by decide, ?_⟩
  rintro ⟨ws, gap, inside, tail, hargs, -, hsep⟩
  obtain rfl : ws = [] := by simpa using hargs
  cases hsep

end Loads
end Dialogue.Directive
