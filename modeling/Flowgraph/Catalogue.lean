import Flowgraph.Keyed
import Flowgraph.Ascending

/-!
# Catalogues of node classes

A catalogue says which class types ship with the engine, how the widgets of a class are named by
position, how its input slots are named, which of its inputs name model files, and which classes
exist on the canvas only. An overlay adds to a catalogue; what it says about a class replaces what
the catalogue said.

Main result: `specOf?_apply` and `routing_apply` say what an overlay changes, class by class.
-/
namespace Flowgraph

/-- What becomes of a widget's value. -/
inductive Widget.Role
  /-- It is stored under the widget's name. -/
  | stored
  /-- It is read by position only and never stored. -/
  | control
deriving DecidableEq, Repr

/-- A widget of a node class. -/
structure Widget where
  name : String
  role : Widget.Role
deriving DecidableEq, Repr

/-- Whether the value of a widget is never stored. -/
def Widget.isControl (widget : Widget) : Bool := widget.role == .control

/-- The inputs of a class that name model files, and the kind of model. -/
structure ModelSlots where
  fields : List String
  category : String
deriving DecidableEq, Repr

/-- What a catalogue says about a node class. -/
structure ClassSpec where
  /-- The widgets by position. -/
  widgets : List Widget
  /-- The names of the input slots by position. -/
  slots : List String
  model : Option ModelSlots
deriving DecidableEq, Repr

def ClassSpec.blank : ClassSpec := ⟨[], [], none⟩

/-- What becomes of the nodes of a class before a workflow runs. -/
inductive Routing
  /-- The node passes its only wired input on, and its consumers are wired to what feeds it. -/
  | relay
  /-- The node is for the eye only, and goes together with the inputs wired to it. -/
  | ornament
  /-- The node stays. -/
  | ordinary
deriving DecidableEq, Repr

/-- What is known about node classes. -/
structure Catalogue where
  /-- The classes that ship with the engine. -/
  shipped : List String
  specs : Keyed ClassSpec
  relays : List String
  ornaments : List String

/-- What an overlay adds to a catalogue. -/
structure Overlay where
  shipped : List String
  specs : Keyed ClassSpec
  relays : List String
  ornaments : List String
deriving DecidableEq

def Overlay.blank : Overlay := ⟨[], .empty, [], []⟩

namespace Catalogue

def empty : Catalogue := ⟨[], .empty, [], []⟩

instance : Inhabited Catalogue := ⟨empty⟩

/-- The catalogue with an overlay applied. -/
def apply (catalogue : Catalogue) (overlay : Overlay) : Catalogue where
  shipped := catalogue.shipped ++ overlay.shipped
  specs := overlay.specs.entries.foldl (fun specs entry => specs.insert entry.1 entry.2)
    catalogue.specs
  relays := catalogue.relays ++ overlay.relays
  ornaments := catalogue.ornaments ++ overlay.ornaments

/-- Whether a class ships with the engine. -/
def isShipped (catalogue : Catalogue) (classType : String) : Bool :=
  catalogue.shipped.contains classType

/-- The classes that ship with the engine, in ascending order. -/
def shippedTypes (catalogue : Catalogue) : List String := nameSet catalogue.shipped

/-- What the catalogue says about a class. -/
def specOf? (catalogue : Catalogue) (classType : String) : Option ClassSpec :=
  catalogue.specs.get? classType

/-- The widgets of a class, if the catalogue describes it. -/
def widgets? (catalogue : Catalogue) (classType : String) : Option (List Widget) :=
  (catalogue.specOf? classType).map ClassSpec.widgets

/-- The name of an input slot of a class. -/
def slotName? (catalogue : Catalogue) (classType : String) (slot : Nat) : Option String :=
  (catalogue.specOf? classType).bind fun spec => spec.slots[slot]?

/-- The inputs of a class that name model files. -/
def model? (catalogue : Catalogue) (classType : String) : Option ModelSlots :=
  (catalogue.specOf? classType).bind ClassSpec.model

/-- What becomes of the nodes of a class; a relay is no ornament. -/
def routing (catalogue : Catalogue) (classType : String) : Routing :=
  if catalogue.relays.contains classType then .relay
  else if catalogue.ornaments.contains classType then .ornament
  else .ordinary

theorem isShipped_apply (catalogue : Catalogue) (overlay : Overlay) (classType : String) :
    (catalogue.apply overlay).isShipped classType =
      (catalogue.isShipped classType || overlay.shipped.contains classType) := by
  simp [isShipped, apply, List.contains_eq_mem, List.mem_append]

theorem routing_apply (catalogue : Catalogue) (overlay : Overlay) (classType : String) :
    (catalogue.apply overlay).routing classType =
      if catalogue.relays.contains classType || overlay.relays.contains classType then .relay
      else if catalogue.ornaments.contains classType || overlay.ornaments.contains classType then
        .ornament
      else .ordinary := by
  simp [routing, apply, List.contains_eq_mem, List.mem_append]

theorem specOf?_apply (catalogue : Catalogue) (overlay : Overlay) (classType : String) :
    (catalogue.apply overlay).specOf? classType =
      (overlay.specs.get? classType).or (catalogue.specOf? classType) := by
  rw [specOf?, apply, Keyed.get?_foldl_insert, Entries.find?_reverse overlay.specs.distinct]
  rfl

end Catalogue

end Flowgraph
