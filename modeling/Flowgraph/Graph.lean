import Flowgraph.Json

/-!
# Workflow graphs

A workflow is a set of nodes, each with an id, a class type and named inputs. An input is either
wired to an output slot of a node, which need not exist, or holds a constant. Nodes and inputs
keep the order in which they were first put in.

Main result: `Graph.links` lists every wired input from the side of its consumer.
-/
namespace Flowgraph

/-- An output slot of a node. -/
structure Source where
  node : String
  slot : UInt32
deriving DecidableEq, Repr

/-- How messages name an output slot. -/
def Source.text (source : Source) : String := source.node ++ ":" ++ toString source.slot.toNat

inductive Input
  | wired (source : Source)
  | constant (value : Json)
deriving DecidableEq

namespace Input

/-- The slot that an input is wired to. -/
def source? : Input → Option Source
  | wired source => some source
  | constant _ => none

/-- The constant that an input holds. -/
def constant? : Input → Option Json
  | wired _ => none
  | constant value => some value

end Input

/-- What a document says about a node beside its function. -/
structure NodeInfo where
  title : Option String
  repository : Option String
  commit : Option String
  packages : List String
  /-- Everything else. -/
  extra : Keyed Json
deriving DecidableEq

def NodeInfo.blank : NodeInfo := ⟨none, none, none, [], .empty⟩

structure Node where
  classType : String
  inputs : Keyed Input
  /-- The names of the output slots, where a document gives them. -/
  outputs : List String
  info : Option NodeInfo
deriving DecidableEq

namespace Node

/-- A node of a class without inputs. -/
def ofClass (classType : String) : Node := ⟨classType, .empty, [], none⟩

instance : Inhabited Node := ⟨ofClass ""⟩

/-- The node with an input set. -/
def withInput (node : Node) (name : String) (input : Input) : Node :=
  { node with inputs := node.inputs.insert name input }

/-- The wired inputs with their sources, in the order of the inputs. -/
def links (node : Node) : List (String × Source) :=
  node.inputs.entries.filterMap fun (name, input) => input.source?.map (name, ·)

/-- The constant inputs with their values, in the order of the inputs. -/
def constants (node : Node) : List (String × Json) :=
  node.inputs.entries.filterMap fun (name, input) => input.constant?.map (name, ·)

/-- The constant that an input of the node holds. -/
def constant? (node : Node) (name : String) : Option Json :=
  (node.inputs.get? name).bind Input.constant?

/-- The title that the document gives the node. -/
def title? (node : Node) : Option String := node.info.bind NodeInfo.title

end Node

/-- A wired input, seen from the node that it belongs to. -/
structure Link where
  consumer : String
  input : String
  source : Source
deriving DecidableEq, Repr

/-- A workflow graph: nodes by id. -/
structure Graph where
  nodes : Keyed Node
deriving DecidableEq

namespace Graph

def empty : Graph := ⟨.empty⟩

instance : EmptyCollection Graph := ⟨empty⟩

instance : Inhabited Graph := ⟨empty⟩

def ids (graph : Graph) : List String := graph.nodes.keys

def entries (graph : Graph) : List (String × Node) := graph.nodes.entries

def size (graph : Graph) : Nat := graph.nodes.size

def isEmpty (graph : Graph) : Bool := graph.nodes.isEmpty

def get? (graph : Graph) (id : String) : Option Node := graph.nodes.get? id

/-- Whether there is a node of an id. -/
def has (graph : Graph) (id : String) : Bool := (graph.get? id).isSome

/-- Sets the node of an id; an id already present keeps its place. -/
def insert (graph : Graph) (id : String) (node : Node) : Graph := ⟨graph.nodes.insert id node⟩

/-- Removes the node of an id. -/
def erase (graph : Graph) (id : String) : Graph := ⟨graph.nodes.erase id⟩

/-- The wired inputs of all nodes, in the order of the nodes and of their inputs. -/
def links (graph : Graph) : List Link :=
  graph.entries.flatMap fun (id, node) => node.links.map fun (input, source) => ⟨id, input, source⟩

/-- How many inputs are wired, counted node by node. -/
def linkCount (graph : Graph) : Nat :=
  graph.nodes.values.foldl (fun total node => total + node.links.length) 0

/-- The class type of a node, empty if there is no such node. -/
def classOf (graph : Graph) (id : String) : String := ((graph.get? id).map Node.classType).getD ""

theorem has_iff {graph : Graph} {id : String} : graph.has id = true ↔ id ∈ graph.ids := by
  unfold has get?
  rw [Option.isSome_iff_ne_none, ne_eq, Keyed.get?_eq_none_iff, Classical.not_not]
  exact Keyed.mem_iff

end Graph

end Flowgraph
