import Flowgraph.Canvas
import Flowgraph.Catalogue

/-!
# From canvas to graph

Every node of a canvas becomes a node of the graph. Its widget values become constants under the
names that the catalogue gives their positions, and then the wires that end at the node are laid
over them, in the order of the wire table. A wire that ends at no node or at a slot without a name
is dropped.

Main result: `Canvas.toGraph` gives the graph and the dropped wires; `landing` decides for one
wire.
-/
namespace Flowgraph

/-- A wire that has no place in the graph. -/
inductive DroppedWire
  | unknownTarget (wire : Canvas.Wire)
  | unnamedSlot (wire : Canvas.Wire)
deriving DecidableEq

/-- What is said about a dropped wire. -/
def DroppedWire.message : DroppedWire → String
  | unknownTarget wire =>
    "link " ++ toString wire.id.toNat ++ " targets unknown node '" ++ wire.target ++ "'"
  | unnamedSlot wire =>
    "link " ++ toString wire.id.toNat ++ " into node '" ++ wire.target ++ "' slot "
      ++ toString wire.slot.toNat ++ " has no input name"

namespace Canvas

/-- The values of widgets by position, under the names of their positions. -/
def positional (widgets : List Widget) (values : List Json) : List (String × Json) :=
  (widgets.zip values).filterMap fun (widget, value) =>
    if widget.isControl then none else some (widget.name, value)

/-- The constants that a node's widget values stand for. -/
def Node.constants (catalogue : Catalogue) (node : Node) : List (String × Json) :=
  let widgets := (catalogue.widgets? node.classType).getD []
  match node.widgets with
  | some (.array values) => positional widgets values
  | some (.object fields) =>
    fields.filter fun field =>
      !widgets.any fun widget => widget.name == field.1 && widget.isControl
  | _ => []

/-- The name of a node's input at a slot: the declared one, or else the catalogue's. -/
def Node.inputName? (catalogue : Catalogue) (node : Node) (slot : Nat) : Option String :=
  match node.inlets[slot]? with
  | some inlet =>
    if inlet.name = "" then catalogue.slotName? node.classType slot else some inlet.name
  | none => catalogue.slotName? node.classType slot

/-- The name by which an outlet goes. -/
def Outlet.label (outlet : Outlet) : String :=
  if outlet.name = "" then outlet.slotType else outlet.name

/-- The wired input that a wire stands for. -/
def landing (catalogue : Catalogue) (canvas : Canvas) (wire : Wire) : Except DroppedWire Link :=
  match canvas.node? wire.target with
  | none => .error (.unknownTarget wire)
  | some node =>
    match node.inputName? catalogue wire.slot.toNat with
    | none => .error (.unnamedSlot wire)
    | some name => .ok ⟨wire.target, name, wire.origin⟩

/-- The wired inputs of the wires that have a place, in the order of the wire table. -/
def landings (catalogue : Catalogue) (canvas : Canvas) : List Link :=
  canvas.wires.filterMap fun wire => (landing catalogue canvas wire).toOption

/-- The wires that have no place, in the order of the wire table. -/
def dropped (catalogue : Catalogue) (canvas : Canvas) : List DroppedWire :=
  canvas.wires.filterMap fun wire =>
    match landing catalogue canvas wire with
    | .ok _ => none
    | .error reason => some reason

/-- Constants under their names; of several under one name the last stays. -/
def constantInputs (constants : List (String × Json)) : Keyed Input :=
  Keyed.ofList (constants.map fun (name, value) => (name, Input.constant value))

/-- Inputs with the wired ones of a node laid over them. -/
def overlayLinks (id : String) (links : List Link) (inputs : Keyed Input) : Keyed Input :=
  links.foldl (fun inputs link =>
    if link.consumer = id then inputs.insert link.input (.wired link.source) else inputs) inputs

/-- The node of the graph that a node of the canvas becomes, given all wired inputs. -/
def Node.compile (catalogue : Catalogue) (links : List Link) (node : Node) : Flowgraph.Node where
  classType := node.classType
  inputs := overlayLinks node.id links (constantInputs (node.constants catalogue))
  outputs := node.outlets.map Outlet.label
  info := node.title.map fun title => { NodeInfo.blank with title := some title }

/-- The graph of a canvas and the wires that have no place in it. -/
def toGraph (catalogue : Catalogue) (canvas : Canvas) : Graph × List DroppedWire :=
  let links := landings catalogue canvas
  (⟨Keyed.ofList (canvas.nodes.map fun node => (node.id, node.compile catalogue links))⟩,
    dropped catalogue canvas)

end Canvas

end Flowgraph
