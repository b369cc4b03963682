/-! Similarity of words: what they share, counted in longest common runs. -/
namespace Dialogue.Text

def commonPrefix : List Char → List Char → Nat
  | a :: as, b :: bs => if a = b then commonPrefix as bs + 1 else 0
  | _, _ => 0

/-- The start of the longest run that two words share in each of them, and its length; of several
the first. -/
def longestRun (a b : List Char) : Nat × Nat × Nat :=
  (List.range a.length).foldl (fun best i =>
    (List.range b.length).foldl (fun best j =>
      let size := commonPrefix (a.drop i) (b.drop j)
      if best.2.2 < size then (i, j, size) else best) best) (0, 0, 0)

/-- Characters in the longest shared run, and again in what is left and right of it. -/
def shared : Nat → List Char → List Char → Nat
  | 0, _, _ => 0
  | n + 1, a, b =>
    let (i, j, size) := longestRun a b
    if size = 0 then 0
    else size + shared n (a.take i) (b.take j) + shared n (a.drop (i + size)) (b.drop (j + size))

def likeness (a b : String) : Nat × Nat :=
  (2 * shared (a.length + 1) a.toList b.toList, a.length + b.length)

/-- At most three words that share six tenths with `word`, the most alike first. -/
def similar (word : String) (candidates : List String) : List String :=
  let near := (candidates.map fun c => (likeness c word, c)).filter fun ((m, n), _) =>
    6 * n ≤ 10 * m
  let ranked := near.mergeSort fun ((m, n), c) ((m', n'), c') =>
    m' * n < m * n' || (m' * n == m * n' && c' ≤ c)
  (ranked.take 3).map (·.2)

end Dialogue.Text
