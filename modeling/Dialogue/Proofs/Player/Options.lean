import Dialogue.Proofs.Body.Compile
import Dialogue.Proofs.Script.Sizes

/-! Options: a node has no more options than its text has characters. -/
namespace Dialogue

theorem Skeleton.length_gatedOptions_le (body : List String) :
    (gatedOptions body).length ≤ body.length := by
  induction body with
  | nil => simp [gatedOptions]
  | cons l ls ih =>
    rw [gatedOptions, List.length_cons]
    split
    · omega
    · rw [List.length_cons]
      omega

theorem Node.length_options_le (n : Node) (visited : List String) :
    (n.compile visited).options.length ≤ n.body.length :=
  (List.length_filterMap_le _ _).trans (Skeleton.length_gatedOptions_le n.body)

theorem Block.length_body_le {text : String} {b : Block} (hb : b ∈ ofText text) :
    b.body.length ≤ (Source.lines text).length := by
  obtain ⟨i, -, hlies⟩ := scan_liesAt 1 (Source.lines text) b hb
  calc b.body.length
      ≤ (b.rawBody.drop _).length := b.body_prefix.length_le
    _ ≤ b.rawBody.length := by simp
    _ ≤ b.content.length := by
      rw [rawBody, List.length_drop]
      exact (Nat.sub_le _ _).trans (List.dropWhile_sublist _).length_le
    _ ≤ (Source.lines text).length := by
      rw [hlies.content, Source.inside]
      exact (List.takeWhile_prefix _).length_le.trans (by simp)

/-- No choice has more options than its text has characters. -/
theorem Script.length_options_le {text : String} {n : Node} (hn : n ∈ (read text).1.nodes)
    (visited : List String) : (n.compile visited).options.length ≤ text.length := by
  obtain ⟨b, hb, hnode⟩ := List.mem_filterMap.mp hn
  have hbody : n.body = b.body := by rw [(Block.node?_eq_some hnode).2]
  calc (n.compile visited).options.length
      ≤ b.body.length := hbody ▸ n.length_options_le visited
    _ ≤ (Source.lines text).length := Block.length_body_le hb
    _ ≤ text.length := Source.length_lines_le text

end Dialogue
