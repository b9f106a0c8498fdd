import Flowgraph.Catalogue
import Flowgraph.Graph

/-!
# Cleaning graphs

Nodes that are for the eye only do not run. An ornament goes together with the inputs that are
wired to it. A relay goes too, and an input wired to it is wired to what feeds it, through as many
relays as it takes; if nothing single feeds it, the input goes. All of this is decided on the
graph as it was, so the order of the nodes does not matter.

Main result: `Graph.clean` gives the cleaned graph, the ids that went, and the anomalies;
`Graph.trace` says where one wired input leads.
-/
namespace Flowgraph

/-- What is out of order in a graph that can be cleaned nevertheless. -/
inductive Anomaly
  /-- An input led to a node that does not exist. -/
  | brokenLink (node input missing : String)
  /-- A relay has no single node that feeds it. -/
  | unfedRelay (node classType : String)
deriving DecidableEq, Repr

def Anomaly.message : Anomaly → String
  | brokenLink node input missing =>
    "node '" ++ node ++ "' input '" ++ input ++ "' referenced missing node '" ++ missing ++ "'"
  | unfedRelay node classType =>
    "routing node '" ++ node ++ "' (" ++ classType ++ ") has no single upstream source"

inductive Feed
  /-- A slot of a node that is no relay and no ornament, or that does not exist. -/
  | source (source : Source)
  /-- Nothing, or an ornament. -/
  | nothing
  /-- Nothing single, and the relay itself is to blame; the class is that of the node where this
  shows. -/
  | unfed (classType : String)
deriving DecidableEq, Repr

inductive Trace
  /-- To a slot of a node that stays. -/
  | kept (source : Source)
  /-- To nothing that stays. -/
  | dropped
  /-- To a node that does not exist. -/
  | broken (missing : String)
deriving DecidableEq, Repr

namespace Graph

/-- What becomes of a node, if it exists. -/
def routing? (catalogue : Catalogue) (graph : Graph) (id : String) : Option Routing :=
  (graph.get? id).map fun node => catalogue.routing node.classType

/-- Follows relays from the one that is to be fed, given those that were visited; no relay is
visited twice, so there are no more steps than nodes. -/
def follow (catalogue : Catalogue) (graph : Graph) (fed : String) :
    Nat → List String → String → Feed
  | 0, _, _ => .nothing
  | fuel + 1, visited, current =>
    match graph.get? current with
    | none => .nothing
    | some node =>
      match node.links with
      | [(_, source)] =>
        match graph.routing? catalogue source.node with
        | some .relay =>
          if source.node ∈ visited then .unfed node.classType
          else follow catalogue graph fed fuel (source.node :: visited) source.node
        | some .ornament => .nothing
        | _ => .source source
      | _ => if current = fed then .unfed node.classType else .nothing

def feed (catalogue : Catalogue) (graph : Graph) (relay : String) : Feed :=
  follow catalogue graph relay graph.size [relay] relay

/-- Where an input leads that is wired to a source. -/
def trace (catalogue : Catalogue) (graph : Graph) (source : Source) : Trace :=
  match graph.routing? catalogue source.node with
  | none => .broken source.node
  | some .ordinary => .kept source
  | some .ornament => .dropped
  | some .relay =>
    match graph.feed catalogue source.node with
    | .source source => if graph.has source.node then .kept source else .broken source.node
    | _ => .dropped

/-- What an input of a node that stays becomes. -/
def cleanInput (catalogue : Catalogue) (graph : Graph) : Input → Option Input
  | .constant value => some (.constant value)
  | .wired source =>
    match graph.trace catalogue source with
    | .kept source => some (.wired source)
    | _ => none

def cleanNode (catalogue : Catalogue) (graph : Graph) (node : Node) : Option Node :=
  match catalogue.routing node.classType with
  | .ordinary =>
    some { node with
      inputs := node.inputs.filterMap fun _ input => cleanInput catalogue graph input }
  | _ => none

/-- The relays that nothing single feeds, in the order of the graph. -/
def unfedRelays (catalogue : Catalogue) (graph : Graph) : List Anomaly :=
  graph.entries.filterMap fun (id, node) =>
    match catalogue.routing node.classType with
    | .relay =>
      match graph.feed catalogue id with
      | .unfed classType => some (.unfedRelay id classType)
      | _ => none
    | _ => none

/-- The inputs of nodes that stay that lead to nodes that do not exist, in the order of the
graph. -/
def brokenLinks (catalogue : Catalogue) (graph : Graph) : List Anomaly :=
  graph.entries.flatMap fun (id, node) =>
    match catalogue.routing node.classType with
    | .ordinary =>
      node.links.filterMap fun (input, source) =>
        match graph.trace catalogue source with
        | .broken missing => some (.brokenLink id input missing)
        | _ => none
    | _ => []

end Graph

/-- A cleaned graph and what became of the rest. -/
structure Cleaning where
  graph : Graph
  /-- The ids that went, in ascending order of their characters. -/
  removed : List String
  anomalies : List Anomaly
deriving DecidableEq

/-- Before anything is cleaned. -/
def Cleaning.none : Cleaning := ⟨.empty, [], []⟩

/-- The graph without the nodes that are for the eye only. -/
def Graph.clean (catalogue : Catalogue) (graph : Graph) : Cleaning where
  graph := ⟨graph.nodes.filterMap fun _ node => graph.cleanNode catalogue node⟩
  removed := nameSet ((graph.entries.filter fun (_, node) =>
    catalogue.routing node.classType != .ordinary).map Prod.fst)
  anomalies := graph.unfedRelays catalogue ++ graph.brokenLinks catalogue

end Flowgraph
