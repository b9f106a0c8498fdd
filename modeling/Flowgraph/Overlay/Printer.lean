import Flowgraph.Json.Printer
import Flowgraph.Overlay.Reader

/-!
# Writing overlays

An overlay is written with all of its fields, also those that add nothing.
-/
namespace Flowgraph

/-- What a widget is written as. -/
def Widget.toJson (widget : Widget) : Json :=
  .object [("name", .string widget.name), ("role", .string widget.role.name)]

/-- What a model description is written as. -/
def ModelSlots.toJson (model : ModelSlots) : Json :=
  .object [("fields", .ofStrings model.fields), ("category", .string model.category)]

/-- What a class description is written as. -/
def ClassSpec.toJson (spec : ClassSpec) : Json :=
  .object [("widgets", .array (spec.widgets.map Widget.toJson)), ("inputs", .ofStrings spec.slots),
    ("model", (spec.model.map ModelSlots.toJson).getD .null)]

/-- What an overlay is written as. -/
def Overlay.toJson (overlay : Overlay) : Json :=
  .object [("builtins", .ofStrings overlay.shipped),
    ("nodes", .object (overlay.specs.entries.map fun (name, spec) => (name, spec.toJson))),
    ("bypassable", .ofStrings overlay.relays), ("droppable", .ofStrings overlay.ornaments)]

end Flowgraph
