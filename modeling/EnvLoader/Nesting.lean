/-! Which record nests which, and the search for a record that nests itself. -/
namespace EnvLoader

/-- For each record that was looked at, in order, the records it nests, without repetition. -/
structure Nesting where
  edges : List (String × List String) := []
  deriving DecidableEq, Repr, Inhabited

namespace Nesting

/-- The records in the order in which they were first looked at. -/
def nodes (nesting : Nesting) : List String := nesting.edges.map (·.1)

/-- The records that a record nests. -/
def targets (nesting : Nesting) (node : String) : List String :=
  ((nesting.edges.find? (·.1 = node)).map (·.2)).getD []

/-- Notes that a record was looked at. -/
def touch (nesting : Nesting) (node : String) : Nesting :=
  if nesting.nodes.contains node then nesting else ⟨nesting.edges ++ [(node, [])]⟩

/-- Notes that a record nests another. -/
def add (nesting : Nesting) (outer inner : String) : Nesting :=
  ⟨(nesting.touch outer).edges.map fun (node, targets) =>
    if node = outer ∧ !targets.contains inner then (node, targets ++ [inner]) else (node, targets)⟩

/-- The state of the search: the records it has been to, and a cycle once it has met one. -/
structure Search where
  visited : List String := []
  cycle : Option (List String) := none
  deriving DecidableEq, Repr, Inhabited

/-- Goes to a record and on to those it nests, unless a cycle has been met. `path` leads
to the record; a step back onto it closes a cycle. -/
def visit (nesting : Nesting) : Nat → List String → String → Search → Search
  | 0, _, _, search => search
  | fuel + 1, path, node, search =>
    let path := path ++ [node]
    (nesting.targets node).foldl
      (fun search next =>
        if search.cycle.isSome then search
        else if path.contains next then
          { search with cycle := some (path.dropWhile (· ≠ next) ++ [next]) }
        else if search.visited.contains next then search
        else nesting.visit fuel path next search)
      { search with visited := node :: search.visited }

/-- The first cycle in depth-first order, its first record repeated at the end. A path
without repetition passes each record with edges once, which bounds the depth. -/
def findCycle (nesting : Nesting) : Option (List String) :=
  (nesting.nodes.foldl
    (fun search node =>
      if search.cycle.isSome || search.visited.contains node then search
      else nesting.visit (nesting.nodes.length + 1) [] node search)
    {}).cycle

end Nesting
end EnvLoader
