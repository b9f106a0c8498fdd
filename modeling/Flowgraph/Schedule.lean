import Flowgraph.Edges
import Flowgraph.Refusal

/-!
# Execution order

A node can run once all its producers have. Of the nodes that are ready the one with the least id
runs first. Each node has a count of the edges from producers that have not run; when a node runs,
its edges are taken off the counts, and a node whose count reaches zero becomes ready. Nodes on a
cycle, and nodes that need one of them, never become ready.

Main result: `Graph.executionOrder` gives the order, or the nodes that are left over and the least
of those that lie on a cycle.
-/
namespace Flowgraph

/-- How far a schedule has come. -/
structure Schedule where
  /-- The nodes that have run, first to last. -/
  order : List String
  /-- The nodes that can run, in ascending order. -/
  ready : List String
  /-- For each node, how many edges lead to it from nodes that have not run. -/
  waiting : Keyed Nat

namespace Schedule

/-- Before any node has run. -/
def start (ids : List String) (edges : List Edge) : Schedule where
  order := []
  ready := NodeId.ascending (ids.filter fun id => (Edges.producers edges id).isEmpty)
  waiting := Keyed.ofList (ids.map fun id => (id, (Edges.producers edges id).length))

/-- Takes one edge off the count of its consumer. -/
def release (schedule : Schedule) (consumer : String) : Schedule :=
  let left := (schedule.waiting.get? consumer).getD 0 - 1
  { schedule with
    ready := if left = 0 then NodeId.insert consumer schedule.ready else schedule.ready
    waiting := schedule.waiting.insert consumer left }

/-- Runs a node that is no longer among the ready. -/
def run (edges : List Edge) (schedule : Schedule) (node : String) (ready : List String) :
    Schedule :=
  (Edges.consumers edges node).foldl release
    { schedule with order := schedule.order ++ [node], ready }

/-- Runs ready nodes, so many at most. -/
def advance (edges : List Edge) : Nat → Schedule → Schedule
  | 0, schedule => schedule
  | fuel + 1, schedule =>
    match schedule.ready with
    | [] => schedule
    | node :: ready => advance edges fuel (schedule.run edges node ready)

/-- The nodes that can run, in the order in which they do. -/
def runnable (ids : List String) (edges : List Edge) : List String :=
  (advance edges ids.length (start ids edges)).order

/-- For nodes in the order in which they run, how long the longest chain of producers up to each
is. -/
def depths (edges : List Edge) (order : List String) : List (String × Nat) :=
  order.foldl (fun known id =>
    let deepest := (Edges.producers edges id).foldl
      (fun depth producer => max depth ((Entries.find? producer known).getD 0)) 0
    (id, deepest + 1) :: known) []

end Schedule

namespace Graph

/-- The nodes that can run, in the order in which they do. -/
def runnable (graph : Graph) : List String := Schedule.runnable graph.ids graph.edges

/-- The refusal of a graph of which only some nodes can run. -/
def unorderable (graph : Graph) (order : List String) : Refusal :=
  let edges := graph.edges
  let remaining := NodeId.ascending (graph.ids.filter fun id => !order.contains id)
  let blamed := ((NodeId.ascending graph.ids).find? (Edges.onCycle edges)).or remaining.head?
  .unorderable (blamed.getD "") remaining

/-- The order in which all nodes run. -/
def executionOrder (graph : Graph) : Except Refusal (List String) :=
  let order := graph.runnable
  if order.length < graph.size then .error (graph.unorderable order) else .ok order

/-- The number of nodes on the longest chain of nodes that can run, each feeding the next. -/
def longestChain (graph : Graph) : Nat :=
  (Schedule.depths graph.edges graph.runnable).foldl (fun longest entry => max longest entry.2) 0

end Graph

end Flowgraph
