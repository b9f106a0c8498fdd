import Flowgraph.Schedule

/-!
# Drawing graphs

A graph is drawn as a flowchart, as a digraph in dot notation, or as the numbered plan of its
execution. In drawings, a quote inside a label is written by another text.
-/
namespace Flowgraph

namespace Drawing

/-- A label with its quotes written by another text. -/
def label (quote text : String) : String :=
  String.ofList (text.toList.flatMap fun c => if c = '"' then quote.toList else [c])

def chartLabel (text : String) : String := label "#quot;" text

def dotLabel (text : String) : String := label "\\\"" text

end Drawing

namespace Graph

open Drawing

/-- The position of a node in the graph. -/
def positionOf (graph : Graph) (id : String) : Nat := graph.ids.idxOf id

/-- The line that draws a node of a flowchart. -/
def chartNode (position : Nat) (id classType : String) : String :=
  "    n" ++ toString position ++ "[\"" ++ chartLabel id ++ ": " ++ chartLabel classType ++ "\"]\n"

/-- The line that draws an edge of a flowchart. -/
def chartEdge (graph : Graph) (edge : Edge) : String :=
  "    n" ++ toString (graph.positionOf edge.producer) ++ " -->|" ++ chartLabel edge.input ++ "| n"
    ++ toString (graph.positionOf edge.consumer) ++ "\n"

def flowchart (graph : Graph) : String :=
  "graph TD\n"
    ++ String.join (graph.entries.zipIdx.map fun ((id, node), position) =>
      chartNode position id node.classType)
    ++ String.join (graph.edges.map graph.chartEdge)

/-- The line that draws a node in dot notation. -/
def dotNode (id classType : String) : String :=
  "    \"" ++ dotLabel id ++ "\" [label=\"" ++ dotLabel id ++ "\\n" ++ dotLabel classType
    ++ "\"];\n"

/-- The line that draws an edge in dot notation. -/
def dotEdge (edge : Edge) : String :=
  "    \"" ++ dotLabel edge.producer ++ "\" -> \"" ++ dotLabel edge.consumer ++ "\" [label=\""
    ++ dotLabel edge.input ++ "\"];\n"

def dot (graph : Graph) : String :=
  "digraph workflow \x7b\n    rankdir=LR;\n    node [shape=box, style=rounded];\n\n"
    ++ String.join (graph.entries.map fun (id, node) => dotNode id node.classType)
    ++ String.join (graph.edges.map dotEdge) ++ "\x7d\n"

/-- The line of a plan for one node of a graph with these edges. -/
def planLine (graph : Graph) (edges : List Edge) (number : Nat) (id : String) : String :=
  let needed := NodeId.ascending (Edges.producers edges id)
  toString number ++ ". " ++ id ++ " (" ++ graph.classOf id ++ ")"
    ++ (if needed.isEmpty then "" else " [depends: " ++ ", ".intercalate needed ++ "]") ++ "\n"

/-- The numbered plan of the execution. -/
def plan (graph : Graph) : Except Refusal String :=
  let edges := graph.edges
  graph.executionOrder.map fun order =>
    String.join ((order.zipIdx 1).map fun (id, number) => graph.planLine edges number id)

end Graph

end Flowgraph
