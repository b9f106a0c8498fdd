import Flowgraph.Catalogue
import Flowgraph.Shape

/-!
# Reading overlays

An overlay is read by its shape from any format that is `Legible`. Everything in it may be left out,
except the names of widgets and both parts of a model description.
-/
namespace Flowgraph

variable {δ ε : Type} [Legible δ ε]

namespace Widget

def Role.name : Role → String
  | stored => "value"
  | control => "control"

def Role.ofName (name : String) : Role := if name = "control" then control else stored

def shape : Record := ⟨"WidgetField", [⟨"name", true⟩, ⟨"role", false⟩]⟩

/-- Takes one field of a widget. -/
def readField (widget : Widget) (name : String) (value : δ) : Except ε Widget :=
  match name with
  | "name" => (Legible.text value).map fun name => { widget with name }
  | "role" =>
    (Legible.choice ["value", "control"] value).map fun name => { widget with role := .ofName name }
  | _ => .ok widget

def read (value : δ) : Except ε Widget := Legible.recordOf shape readField ⟨"", .stored⟩ value

end Widget

namespace ModelSlots

/-- The shape of a model description. -/
def shape : Record := ⟨"ModelField", [⟨"fields", true⟩, ⟨"category", true⟩]⟩

/-- Takes one field of a model description. -/
def readField (model : ModelSlots) (name : String) (value : δ) : Except ε ModelSlots :=
  match name with
  | "fields" => (Legible.texts value).map fun fields => { model with fields }
  | "category" => (Legible.text value).map fun category => { model with category }
  | _ => .ok model

/-- A model description by its shape. -/
def read (value : δ) : Except ε ModelSlots := Legible.recordOf shape readField ⟨[], ""⟩ value

end ModelSlots

namespace ClassSpec

/-- The shape of a class description. -/
def shape : Record := ⟨"NodeSpec", [⟨"widgets", false⟩, ⟨"inputs", false⟩, ⟨"model", false⟩]⟩

/-- Takes one field of a class description. -/
def readField (spec : ClassSpec) (name : String) (value : δ) : Except ε ClassSpec :=
  match name with
  | "widgets" => (Legible.listOf Widget.read value).map fun widgets => { spec with widgets }
  | "inputs" => (Legible.texts value).map fun slots => { spec with slots }
  | "model" => (Legible.optional ModelSlots.read value).map fun model => { spec with model }
  | _ => .ok spec

/-- A class description by its shape. -/
def read (value : δ) : Except ε ClassSpec := Legible.recordOf shape readField blank value

end ClassSpec

namespace Overlay

def shape : Record :=
  ⟨"RegistryConfig", [⟨"builtins", false⟩, ⟨"nodes", false⟩, ⟨"bypassable", false⟩,
    ⟨"droppable", false⟩]⟩

/-- Takes one field of an overlay. -/
def readField (overlay : Overlay) (name : String) (value : δ) : Except ε Overlay :=
  match name with
  | "builtins" => (Legible.texts value).map fun shipped => { overlay with shipped }
  | "nodes" => (Legible.mapOf ClassSpec.read value).map fun specs => { overlay with specs }
  | "bypassable" => (Legible.texts value).map fun relays => { overlay with relays }
  | "droppable" => (Legible.texts value).map fun ornaments => { overlay with ornaments }
  | _ => .ok overlay

def read (value : δ) : Except ε Overlay := Legible.recordOf shape readField blank value

end Overlay

end Flowgraph
