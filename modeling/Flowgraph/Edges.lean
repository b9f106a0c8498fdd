import Flowgraph.Graph
import Flowgraph.NodeId

/-!
# Dependencies between nodes

An edge leads from a producer to a consumer, one for each wired input whose source is a node of the
graph. Inputs wired to a node that does not exist make no edge.

Main result: `Graph.dependsOn` says whether one node needs another, directly or through others;
`explore` finds what can be reached along a relation that is given by successor lists.
-/
namespace Flowgraph

/-- A wired input between two nodes of a graph. -/
structure Edge where
  producer : String
  input : String
  consumer : String
deriving DecidableEq, Repr

/-- What can be reached from what is yet to be looked at, beside what was seen; every element is
expanded once. -/
def explore (next : String → List String) : Nat → List String → List String → List String
  | 0, _, seen => seen
  | _ + 1, [], seen => seen
  | fuel + 1, x :: todo, seen =>
    if x ∈ seen then explore next fuel todo seen
    else explore next fuel (next x ++ todo) (x :: seen)

namespace Edges

/-- The producers that a node reads from, one for each edge. -/
def producers (edges : List Edge) (id : String) : List String :=
  (edges.filter fun edge => edge.consumer = id).map Edge.producer

/-- The consumers that read from a node, one for each edge. -/
def consumers (edges : List Edge) (id : String) : List String :=
  (edges.filter fun edge => edge.producer = id).map Edge.consumer

/-- The nodes that a node needs, directly or through others; it is one of them if it lies on a
cycle. -/
def needs (edges : List Edge) (id : String) : List String :=
  explore (producers edges) (2 * edges.length + 1) (producers edges id) []

/-- Whether a node needs itself. -/
def onCycle (edges : List Edge) (id : String) : Bool := (needs edges id).contains id

end Edges

namespace Graph

/-- The edges of a graph, in the order of its links. -/
def edges (graph : Graph) : List Edge :=
  (graph.links.filter fun link => graph.has link.source.node).map fun link =>
    ⟨link.source.node, link.input, link.consumer⟩

/-- The producers that a node of the graph reads from, as an ascending set. -/
def dependencies? (graph : Graph) (id : String) : Option (List String) :=
  if graph.has id then some (NodeId.ascending (Edges.producers graph.edges id)) else none

/-- The consumers that read from a node of the graph, as an ascending set. -/
def dependents? (graph : Graph) (id : String) : Option (List String) :=
  if graph.has id then some (NodeId.ascending (Edges.consumers graph.edges id)) else none

/-- Whether a node needs another, directly or through others. -/
def dependsOn (graph : Graph) (a b : String) : Bool :=
  graph.has a && graph.has b && a != b && (Edges.needs graph.edges a).contains b

end Graph

end Flowgraph
