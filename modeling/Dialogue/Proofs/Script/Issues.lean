import Dialogue.Proofs.Script.Parse

/-! Problems of a text: each is told of where it stands, and a reading that goes on after problems
agrees with one that gives up at the first. -/
namespace Dialogue

/-- The number of the line on which the fields below a title end: the one of the separator, else the
one of the terminator, else the one behind the last line. -/
def Source.fieldsEnd (ls : List String) (line : Nat) : Nat :=
  line + 1 + ((ls.drop line).takeWhile fun l => !isSeparator l && !isTerminator l).length

/-- A problem that a line among the fields of a node has. -/
structure Issue.Within (ls : List String) (n : Node) (i : Issue) : Prop where
  head : ls[n.line - 1]?.bind Source.head? = some (.title n.title)
  title : i.title = n.title
  below : n.line < i.line
  above : i.line < Source.fieldsEnd ls n.line
  fault : ∃ l, ls[i.line - 1]? = some l ∧ readField (Text.trim l) = .error i.fault

namespace Block
variable {b : Block}

theorem mem_fields {n : Nat} {f : Except MetadataFault (String × String)}
    (h : (n, f) ∈ b.fields) :
    ∃ k l, b.header[k]? = some l ∧ n = b.line + 1 + k ∧ f = readField (Text.trim l) := by
  obtain ⟨⟨l, m⟩, hl, hf⟩ := List.mem_filterMap.mp h
  obtain ⟨hle, hget⟩ := List.mk_mem_zipIdx_iff_le_and_getElem?_sub.mp hl
  dsimp only at hf
  split_ifs at hf
  obtain ⟨rfl, rfl⟩ := Prod.mk.inj (Option.some.inj hf)
  exact ⟨m - (b.line + 1), l, hget, by omega, rfl⟩

theorem mem_issues {i : Issue} (h : i ∈ b.issues) :
    b.head = .title i.title ∧ (i.line, .error i.fault) ∈ b.fields := by
  unfold issues at h
  split at h
  · next title hhead =>
    obtain ⟨⟨n, f⟩, hf, hi⟩ := List.mem_filterMap.mp h
    cases f with
    | ok field => simp at hi
    | error fault =>
      obtain rfl := Option.some.inj hi
      exact ⟨hhead, hf⟩
  · simp at h

theorem fields_pairwise (b : Block) : b.fields.Pairwise fun f g => f.1 < g.1 := by
  refine (pairwise_zipIdx b.header (b.line + 1)).filterMap _ fun x y hxy f hf g hg => ?_
  obtain ⟨l, n⟩ := x
  obtain ⟨m, k⟩ := y
  dsimp only at hf hg
  split_ifs at hf hg
  obtain rfl := Option.some.inj hf
  obtain rfl := Option.some.inj hg
  exact hxy

theorem issues_pairwise (b : Block) : b.issues.Pairwise fun i j => i.line < j.line := by
  unfold issues
  split
  · refine b.fields_pairwise.filterMap _ fun f g hfg i hi j hj => ?_
    obtain ⟨n, fault | field⟩ := f
    · obtain ⟨m, fault' | field'⟩ := g
      · obtain rfl := Option.some.inj hi
        obtain rfl := Option.some.inj hj
        exact hfg
      · simp at hj
    · simp at hi
  · exact .nil

theorem line_of_mem_issues {i : Issue} (h : i ∈ b.issues) :
    b.line < i.line ∧ i.line ≤ b.line + b.content.length := by
  obtain ⟨k, l, hl, hline, -⟩ := mem_fields (mem_issues h).2
  have hk := (List.getElem?_eq_some_iff.mp hl).1
  have hheader : b.header.length ≤ b.content.length := (List.takeWhile_sublist _).length_le
  omega

theorem LiesAt.header {ls : List String} {k : Nat} (h : LiesAt ls k b) :
    b.header = (ls.drop (k + 1)).takeWhile fun l =>
      !Source.isSeparator l && !Source.isTerminator l := by
  rw [Block.header, h.content, Source.inside, List.takeWhile_takeWhile]
  simp

/-- The line `j` of a header, counted from zero, in the lines that the block lies in. -/
theorem LiesAt.getElem?_header {ls : List String} {k : Nat} (h : LiesAt ls k b) {j : Nat}
    {l : String} (hl : b.header[j]? = some l) : ls[k + 1 + j]? = some l :=
  h.getElem?_content (getElem?_of_front (List.takeWhile_prefix _) hl)

theorem within_of_mem_issues {text : String} (hb : b ∈ ofText text) {i : Issue}
    (hi : i ∈ b.issues) : ∃ n, b.node? = some n ∧ i.Within (Source.lines text) n := by
  obtain ⟨k, hline, hlies⟩ := scan_liesAt 1 (Source.lines text) b hb
  obtain ⟨hhead, hfield⟩ := mem_issues hi
  obtain ⟨j, l, hl, hi, hfault⟩ := mem_fields hfield
  have hj : j < b.header.length := (List.getElem?_eq_some_iff.mp hl).1
  have hnode : b.node? = some ⟨i.title, b.metadata, b.body, b.line, b.bodyLine⟩ := by
    rw [node?, hhead]
  refine ⟨_, hnode, ?_, rfl, by dsimp only; omega, ?_, l, ?_, hfault.symm⟩
  · dsimp only
    rw [hline, Nat.add_sub_cancel_left, hlies.head, hhead]
  · rw [Source.fieldsEnd, hline, Nat.add_comm 1 k, ← hlies.header]
    dsimp only
    omega
  · have hindex : i.line - 1 = k + 1 + j := by omega
    rw [hindex]
    exact hlies.getElem?_header hl

end Block

/-- Reading on after problems and giving up at the first agree: without problems both give the same
script, and otherwise the strict reading gives up with the first problem that is noted. The problems
are noted in the order of their lines, each with its line, among the fields of a node. -/
theorem Script.strict_agrees_with_collecting (text : String) : ∃ script issues,
    parse (some []) text = .ok (script, some issues) ∧ read text = (script, issues) ∧
    parse none text = (readStrict text).map (·, none) ∧
    (match issues with
      | [] => parse none text = .ok (script, none)
      | i :: _ => parse none text = .error i) ∧
    (issues.Pairwise fun i j => i.line < j.line) ∧
    ∀ i ∈ issues, s!"Line {i.line}: ".toList <+: i.message.toList ∧
      ∃ n ∈ script.nodes, i.Within (Source.lines text) n := by
  refine ⟨(read text).1, (read text).2, parse_collecting text, rfl, parse_strict text, ?_, ?_, ?_⟩
  · rw [parse_strict, readStrict]
    rcases read text with ⟨script, _ | ⟨i, is⟩⟩ <;> rfl
  · refine List.pairwise_flatMap.mpr ⟨fun b _ => b.issues_pairwise, ?_⟩
    refine (Block.scan_pairwise 1 (Source.lines text)).2.imp fun {b c} hbc i hi j hj => ?_
    have hib := Block.line_of_mem_issues hi
    have hjc := Block.line_of_mem_issues hj
    omega
  · intro i hi
    obtain ⟨b, hb, hib⟩ := List.mem_flatMap.mp hi
    obtain ⟨n, hn, hwithin⟩ := Block.within_of_mem_issues hb hib
    refine ⟨?_, n, List.mem_filterMap.mpr ⟨b, hb, hn⟩, hwithin⟩
    rw [Issue.message]
    simp [String.toList_append]

end Dialogue
