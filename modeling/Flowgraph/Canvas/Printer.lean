import Flowgraph.Canvas
import Flowgraph.Canvas.Id
import Flowgraph.Json.Printer

/-!
# Writing canvas documents

A canvas document is an object of its nodes and its wires. A wire is written as the list of its id,
its origin's id and slot and its target's id and slot; what a node does not declare is left out.
-/
namespace Flowgraph.Canvas

/-- A field that is left out when its text is empty. -/
def filledField (name text : String) : List (String × Json) :=
  if text = "" then [] else [(name, .string text)]

/-- What an inlet is written as. -/
def Inlet.toJson (inlet : Inlet) : Json :=
  .object ([("name", .string inlet.name)] ++ filledField "type" inlet.slotType
    ++ [("link", (inlet.wire.map Json.ofWord).getD .null)])

/-- What an outlet is written as. -/
def Outlet.toJson (outlet : Outlet) : Json :=
  .object ([("name", .string outlet.name)] ++ filledField "type" outlet.slotType
    ++ [("links", (outlet.wires.map fun wires => .array (wires.map Json.ofWord)).getD .null)]
    ++ (outlet.slot.map fun slot => ("slot_index", Json.ofSlot slot)).toList)

/-- What a node is written as. -/
def Node.toJson (node : Node) : Json :=
  .object ([("id", Id.toJson node.id), ("type", .string node.classType)]
    ++ (node.title.map fun title => ("title", Json.string title)).toList
    ++ (if node.inlets.isEmpty then [] else [("inputs", .array (node.inlets.map Inlet.toJson))])
    ++ (if node.outlets.isEmpty then [] else [("outputs", .array (node.outlets.map Outlet.toJson))])
    ++ (node.widgets.map fun widgets => ("widgets_values", widgets)).toList)

/-- What a wire is written as. -/
def Wire.toJson (wire : Wire) : Json :=
  .array [.ofWord wire.id, Id.toJson wire.origin.node, .ofSlot wire.origin.slot,
    Id.toJson wire.target, .ofSlot wire.slot]

/-- What a canvas is written as. -/
def toJson (canvas : Canvas) : Json :=
  .object [("nodes", .array (canvas.nodes.map Node.toJson)),
    ("links", .array (canvas.wires.map Wire.toJson))]

end Flowgraph.Canvas
