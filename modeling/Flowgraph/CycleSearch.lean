import Flowgraph.Edges
import Flowgraph.Refusal

/-!
# Searching for a cycle

A depth-first search along the producers of each node. Every node is unvisited, open or done; the
open nodes are those on the path that the search is on, and an edge to an open node closes a
cycle.

Main result: `Graph.cycle?` gives the nodes of the first cycle found, from the node that the
closing edge leads to.
-/
namespace Flowgraph

/-- How far a node has been searched. -/
inductive Mark
  | unvisited
  | onPath
  | done
deriving DecidableEq, Repr

/-- A node on the path and the producers that are still to be followed from it. -/
structure Frame where
  node : String
  pending : List String
deriving DecidableEq, Repr

/-- How far a search has come. -/
structure CycleSearch where
  marks : Keyed Mark
  /-- The path, its end first. -/
  path : List Frame

namespace CycleSearch

/-- Before anything is visited. -/
def start (ids : List String) : CycleSearch :=
  ⟨Keyed.ofList (ids.map fun id => (id, .unvisited)), []⟩

/-- The mark of a node; a node that is not searched at all counts as done. -/
def markOf (search : CycleSearch) (id : String) : Mark := (search.marks.get? id).getD .done

/-- Puts a node at the end of the path. -/
def enter (targets : String → List String) (id : String) (marks : Keyed Mark) (path : List Frame) :
    CycleSearch :=
  ⟨marks.insert id .onPath, ⟨id, targets id⟩ :: path⟩

/-- The part of a path from a node on, in the direction of the search; all of it if the node is
not on the path. -/
def cycleFrom (id : String) (path : List Frame) : List String :=
  let nodes := (path.map Frame.node).reverse
  if id ∈ nodes then nodes.dropWhile fun node => node != id else nodes

/-- One step of a search: follows the next edge, or leaves the end of the path. -/
def step (targets : String → List String) (search : CycleSearch) :
    Except (List String) CycleSearch :=
  match search.path with
  | [] => .ok search
  | ⟨node, []⟩ :: outer => .ok ⟨search.marks.insert node .done, outer⟩
  | ⟨node, target :: later⟩ :: outer =>
    let path := ⟨node, later⟩ :: outer
    match search.markOf target with
    | .unvisited => .ok (enter targets target search.marks path)
    | .onPath => .error (cycleFrom target path)
    | .done => .ok ⟨search.marks, path⟩

/-- Steps until the path is empty, so many at most. -/
def exhaust (targets : String → List String) : Nat → CycleSearch → Except (List String) CycleSearch
  | 0, search => .ok search
  | fuel + 1, search =>
    if search.path.isEmpty then .ok search
    else do exhaust targets fuel (← search.step targets)

/-- Searches from one node, unless it has been visited. -/
def visit (targets : String → List String) (fuel : Nat) (search : CycleSearch) (root : String) :
    Except (List String) CycleSearch :=
  if search.markOf root = .unvisited then
    exhaust targets fuel (enter targets root search.marks search.path)
  else .ok search

/-- The first cycle found from the nodes in their order; each node is entered and left once and each
edge followed once. -/
def find? (ids : List String) (targets : String → List String) : Option (List String) :=
  let fuel := 2 * ids.length + (ids.flatMap targets).length + 1
  match ids.foldlM (visit targets fuel) (start ids) with
  | .ok _ => none
  | .error cycle => some cycle

end CycleSearch

namespace Graph

/-- The nodes of a cycle, if there is one. -/
def cycle? (graph : Graph) : Option (List String) :=
  let edges := graph.edges
  CycleSearch.find? graph.ids (Edges.producers edges)

/-- Refuses a graph with a cycle. -/
def checkAcyclic (graph : Graph) : Except Refusal Unit :=
  match graph.cycle? with
  | none => .ok ()
  | some cycle => .error (.circular (cycle.head?.getD "") cycle)

end Graph

end Flowgraph
