import Flowgraph.Canvas
import Flowgraph.Catalogue

/-!
# From graph to canvas

Every wired input of a graph becomes a wire, numbered from one in the order of the graph, and an
inlet of its node. Constants become widget values at the positions that the catalogue gives their
names; those it does not know follow behind.

Main result: `Canvas.ofGraph`; `Graph.numbered` gives each wired input its number and its slot,
and the wire table, the inlets and the outlets are all read off that one list.
-/
namespace Flowgraph

/-- A wired input with the number of its wire and its slot among the wired inputs of its node. -/
structure NumberedLink where
  id : Nat
  slot : Nat
  link : Link
deriving DecidableEq

namespace Graph

/-- The wired inputs of a node with their slots. -/
def slotted (id : String) (node : Node) : List (Link × Nat) :=
  node.links.zipIdx.map fun ((input, source), slot) => (⟨id, input, source⟩, slot)

/-- The wired inputs of a graph, numbered from one in the order of `links`. -/
def numbered (graph : Graph) : List NumberedLink :=
  ((graph.entries.flatMap fun (id, node) => slotted id node).zipIdx 1).map
    fun ((link, slot), id) => ⟨id, slot, link⟩

end Graph

namespace Canvas

/-- The wire of a wired input. -/
def wireOf (item : NumberedLink) : Wire :=
  ⟨item.id.toUInt64, item.link.source, item.link.consumer, item.slot.toUInt32⟩

/-- The inlet of a wired input. -/
def inletOf (item : NumberedLink) : Inlet := ⟨item.link.input, "", some item.id.toUInt64⟩

/-- The outlet of a node at a slot. -/
def outletAt (links : List NumberedLink) (id : String) (node : Flowgraph.Node) (slot : Nat) :
    Outlet where
  name := (node.outputs[slot]?).getD ""
  slotType := ""
  wires := some ((links.filter fun item => item.link.source = ⟨id, slot.toUInt32⟩).map
    fun item => item.id.toUInt64)
  slot := some slot.toUInt32

/-- How many outlets a node needs for its named outputs and the slots that are read. -/
def outletCount (links : List NumberedLink) (id : String) (node : Flowgraph.Node) : Nat :=
  links.foldl (fun count item =>
    if item.link.source.node = id then max count (item.link.source.slot.toNat + 1) else count)
    node.outputs.length

/-- The widget values of a node by position. -/
def widgetValues (catalogue : Catalogue) (node : Flowgraph.Node) : List Json :=
  match catalogue.widgets? node.classType with
  | none => node.constants.map Prod.snd
  | some widgets =>
    (widgets.map fun widget =>
      if widget.isControl then .null else (node.constant? widget.name).getD .null)
    ++ (node.constants.filter fun (name, _) => !widgets.any fun widget => widget.name == name).map
      Prod.snd

/-- The node of the canvas that a node of a graph becomes. -/
def nodeOf (catalogue : Catalogue) (links : List NumberedLink) (id : String)
    (node : Flowgraph.Node) : Node where
  id := id
  classType := node.classType
  title := node.title?
  inlets := (links.filter fun item => item.link.consumer = id).map inletOf
  outlets := (List.range (outletCount links id node)).map (outletAt links id node)
  widgets := some (.array (widgetValues catalogue node))

def ofGraph (catalogue : Catalogue) (graph : Graph) : Canvas :=
  let links := graph.numbered
  ⟨graph.entries.map fun (id, node) => nodeOf catalogue links id node, links.map wireOf⟩

end Canvas

end Flowgraph
