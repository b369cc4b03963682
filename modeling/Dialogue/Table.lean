/-! Finite maps from names, in the order in which the names were first put. -/
namespace Dialogue

abbrev Table (α : Type) := List (String × α)

namespace Table
variable {α : Type}

/-- A new name goes last; a known one keeps its place and takes the new value. -/
def put (t : Table α) (k : String) (v : α) : Table α :=
  match t with
  | [] => [(k, v)]
  | (k', v') :: r => if k' = k then (k, v) :: r else (k', v') :: put r k v

def get? (t : Table α) (k : String) : Option α := t.lookup k

def keys (t : Table α) : List String := t.map (·.1)

def ofList (entries : List (String × α)) : Table α :=
  entries.foldl (fun t (k, v) => put t k v) []

end Table
end Dialogue
