import Flowgraph.Graph
import Flowgraph.Json.Printer

/-!
# Writing graphs

A graph is written as an object of its nodes by id. A wired input is written as the pair of the
node's id and the slot, a constant as itself; outputs and information are left out when there are
none.
-/
namespace Flowgraph

/-- The pair that a wired input is written as. -/
def Source.toJson (source : Source) : Json := .array [.string source.node, .ofSlot source.slot]

/-- What an input is written as. -/
def Input.toJson : Input → Json
  | wired source => source.toJson
  | constant value => value

/-- The fields that information is written as, those without a value left out. -/
def NodeInfo.toJson (info : NodeInfo) : Json :=
  let field (name : String) (value : Option String) : List (String × Json) :=
    match value with
    | some text => [(name, .string text)]
    | none => []
  .object (field "title" info.title ++ field "repository" info.repository
    ++ field "commit" info.commit
    ++ (if info.packages.isEmpty then [] else [("packages", .ofStrings info.packages)])
    ++ info.extra.entries)

/-- What a node is written as. -/
def Node.toJson (node : Node) : Json :=
  .object ([("class_type", .string node.classType),
      ("inputs", .object (node.inputs.entries.map fun (name, input) => (name, input.toJson)))]
    ++ (if node.outputs.isEmpty then [] else [("outputs", .ofStrings node.outputs)])
    ++ (match node.info with
      | some info => [("_meta", info.toJson)]
      | none => []))

namespace Graph

/-- What a graph is written as. -/
def toJson (graph : Graph) : Json :=
  .object (graph.entries.map fun (id, node) => (id, node.toJson))

def compact (graph : Graph) : String := graph.toJson.compact

def pretty (graph : Graph) : String := graph.toJson.pretty

end Graph

end Flowgraph
