import Flowgraph.Catalogue
import Flowgraph.Category
import Flowgraph.Complexity
import Flowgraph.Fingerprint
import Flowgraph.Schedule

/-!
# Analysing graphs

What can be said about a graph without running it: how its connections are distributed, which models
it loads, how complex it is, and what is wrong with it.

Main result: `Graph.analyze` puts everything together; a cycle is part of the result and no failure.
-/
namespace Flowgraph

/-- Where the nodes of a class come from. -/
inductive Provenance
  | shipped
  | custom
  /-- The class has no name. -/
  | unknown
deriving DecidableEq, Repr

def Provenance.name : Provenance → String
  | shipped => "builtin"
  | custom => "custom"
  | unknown => "unknown"

/-- Where the nodes of a class come from. -/
def Catalogue.provenance (catalogue : Catalogue) (classType : String) : Provenance :=
  if classType = "" then .unknown else if catalogue.isShipped classType then .shipped else .custom

/-- The node with the most wired inputs. -/
structure BusiestNode where
  node : String
  classType : String
  inputs : Nat
deriving DecidableEq, Repr

/-- How many inputs read an output slot. -/
structure OutputUsage where
  source : Source
  consumers : Nat
deriving DecidableEq, Repr

/-- How the connections of a graph are distributed. -/
structure ConnectionStats where
  total : Nat
  /-- The node with the most wired inputs, the first of several; none if no input is wired. -/
  busiest : Option BusiestNode
  /-- The output slots of nodes of the graph that are read, by node and slot. -/
  usage : List OutputUsage
deriving DecidableEq, Repr

def ConnectionStats.blank : ConnectionStats := ⟨0, none, []⟩

/-- A node that loads a model file. -/
structure ModelLoader where
  node : String
  classType : String
  category : String
  /-- The input that names the file. -/
  field : String
  file : String
  /-- Whether this is known from the name of the class alone. -/
  inferred : Bool
deriving DecidableEq, Repr

/-- The category of models whose loader is known from the name of its class alone. -/
def ModelLoader.inferredCategory : String := "other"

/-- The order of output slots: by node, then by slot. -/
def Source.compare (a b : Source) : Ordering :=
  (NodeId.compare a.node b.node).then (Ord.compare a.slot.toNat b.slot.toNat)

namespace OutputUsage

/-- Counts one more input that reads a slot. -/
def countIn (source : Source) : List OutputUsage → List OutputUsage
  | [] => [⟨source, 1⟩]
  | use :: rest =>
    if use.source = source then { use with consumers := use.consumers + 1 } :: rest
    else use :: countIn source rest

/-- Usage by node and then by slot, in ascending order. -/
def sort (usage : List OutputUsage) : List OutputUsage :=
  usage.mergeSort fun a b => a.source.compare b.source != .gt

end OutputUsage

namespace Graph

/-- The nodes that a node reads from, each with the inputs that it feeds. -/
def suppliers (node : Node) : Keyed (List String) :=
  node.links.foldl (fun known (input, source) =>
    known.insert source.node ((known.get? source.node).getD [] ++ [input])) .empty

/-- For every node, the nodes that it reads from. -/
def supplierTable (graph : Graph) : List (String × Keyed (List String)) :=
  graph.entries.map fun (id, node) => (id, suppliers node)

/-- The ids of nodes that neither read from a node nor are read, in the order of their
characters. -/
def isolated (graph : Graph) : List String :=
  let read := graph.links.map fun link => link.source.node
  nameSet ((graph.entries.filter fun (id, node) => node.links.isEmpty && !read.contains id).map
    Prod.fst)

/-- Counts a wired input in: for its node, and for the slot that it reads if the node of that is
there. -/
def countLink (graph : Graph) (counts : Nat × List OutputUsage) (link : String × Source) :
    Nat × List OutputUsage :=
  (counts.1 + 1,
    if graph.has link.2.node then OutputUsage.countIn link.2 counts.2 else counts.2)

/-- Counts a node in with its wired inputs. -/
def countNode (graph : Graph) (stats : ConnectionStats) (entry : String × Node) :
    ConnectionStats :=
  let (id, node) := entry
  let (inputs, usage) := node.links.foldl graph.countLink (0, stats.usage)
  { total := stats.total + inputs
    busiest :=
      if (stats.busiest.map BusiestNode.inputs).getD 0 < inputs then
        some ⟨id, node.classType, inputs⟩
      else stats.busiest
    usage }

/-- How the connections of a graph are distributed. -/
def connectionStats (graph : Graph) : ConnectionStats :=
  let stats := graph.entries.foldl graph.countNode .blank
  { stats with usage := OutputUsage.sort stats.usage }

/-- The text that an input of a node holds as a constant. -/
def textConstant? (node : Node) (name : String) : Option String :=
  (node.constant? name).bind Json.string?

/-- The model files that a node names in the inputs that the catalogue gives. -/
def describedLoaders (id : String) (node : Node) (model : ModelSlots) : List ModelLoader :=
  model.fields.filterMap fun field =>
    (textConstant? node field).map fun file =>
      ⟨id, node.classType, model.category, field, file, false⟩

/-- The model file that a node seems to name: it is named like a loader, and just one of its
constants is a text under a name that ends like the name of a file. -/
def inferredLoader (id : String) (node : Node) : List ModelLoader :=
  if Category.looksLikeLoader node.classType then
    match node.constants.filterMap fun (name, value) =>
        if Category.endsWith name "_name" then value.string?.map (name, ·) else none with
    | [(field, file)] => [⟨id, node.classType, ModelLoader.inferredCategory, field, file, true⟩]
    | _ => []
  else []

/-- The nodes that load model files. -/
def modelLoaders (catalogue : Catalogue) (graph : Graph) : List ModelLoader :=
  graph.entries.flatMap fun (id, node) =>
    match catalogue.model? node.classType with
    | some model => describedLoaders id node model
    | none => inferredLoader id node

/-- Whether a node's class does not ship with the engine. -/
def isCustom (catalogue : Catalogue) (node : Node) : Bool :=
  catalogue.provenance node.classType == .custom

/-- The classes that do not ship with the engine, in the order of their characters. -/
def customTypes (catalogue : Catalogue) (graph : Graph) : List String :=
  nameSet ((graph.entries.filter fun (_, node) => isCustom catalogue node).map
    fun (_, node) => node.classType)

def complexity (catalogue : Catalogue) (graph : Graph) : Complexity where
  nodes := graph.size
  connections := graph.linkCount
  depth := graph.longestChain
  custom := (graph.entries.filter fun (_, node) => isCustom catalogue node).length

/-- What is said about an input that is wired to a node that does not exist. -/
def danglingMessage (link : Link) : String :=
  "Node '" ++ link.consumer ++ "' input '" ++ link.input ++ "' references missing node '"
    ++ link.source.node ++ "'"

/-- One message for each input that is wired to a node that does not exist. -/
def issues (graph : Graph) : List String :=
  (graph.links.filter fun link => !graph.has link.source.node).map danglingMessage

/-- The ids of the nodes of each category that has any, in the order of their characters. -/
def byCategory (graph : Graph) : List (Category × List String) :=
  Category.all.filterMap fun category =>
    match (graph.entries.filter fun (_, node) => Category.ofClass node.classType = category).map
        Prod.fst with
    | [] => none
    | ids => some (category, nameSet ids)

end Graph

/-- Everything that can be said about a graph. -/
structure Analysis where
  fingerprint : String
  nodeCount : Nat
  /-- The order in which the nodes run, or why there is none. -/
  order : Except Refusal (List String)
  connections : ConnectionStats
  complexity : Complexity
  categories : List (Category × List String)
  isolated : List String
  customTypes : List String
  loaders : List ModelLoader
  issues : List String

/-- Everything that can be said about a graph. -/
def Graph.analyze (catalogue : Catalogue) (graph : Graph) : Analysis where
  fingerprint := graph.fingerprint
  nodeCount := graph.size
  order := graph.executionOrder
  connections := graph.connectionStats
  complexity := graph.complexity catalogue
  categories := graph.byCategory
  isolated := graph.isolated
  customTypes := graph.customTypes catalogue
  loaders := graph.modelLoaders catalogue
  issues := graph.issues

end Flowgraph
