import Flowgraph.Canvas
import Flowgraph.Canvas.Id
import Flowgraph.Json.Printer
import Flowgraph.Refusal

/-!
# Reading canvas documents

Nodes are held to their shape. Wires are written as lists or as objects; `Canvas.ofJson` passes over
entries of the wire table that are neither, `Canvas.read` refuses them.

Main result: `Canvas.ofJson` names the first node that does not have its shape or repeats an id.
-/
namespace Flowgraph.Canvas

/-- A slot number that a value stands for. -/
def slot? (value : Json) : Option UInt32 := (Json.readSlot value).toOption

/-- The wire between the parts of an entry. -/
def Wire.ofParts? (id origin originSlot target targetSlot : Json) : Option Wire := do
  let id ← id.natural?
  let origin ← Id.ofJson? origin
  let originSlot ← slot? originSlot
  let target ← Id.ofJson? target
  let targetSlot ← slot? targetSlot
  pure ⟨id, ⟨origin, originSlot⟩, target, targetSlot⟩

/-- The wire that an entry of the wire table stands for; a list may go on behind the fifth item. -/
def Wire.ofJson? : Json → Option Wire
  | .array (id :: origin :: originSlot :: target :: targetSlot :: _) =>
    Wire.ofParts? id origin originSlot target targetSlot
  | .object fields => do
    let field (name : String) := Entries.find? name fields
    Wire.ofParts? (← field "id") (← field "origin_id") (← field "origin_slot") (← field "target_id")
      (← field "target_slot")
  | _ => none

/-- A wire, or the mismatch of an entry that is none. -/
def Wire.read (value : Json) : Except Mismatch Wire :=
  match Wire.ofJson? value with
  | some wire => .ok wire
  | none => .error (.badLink value.compact)

/-- A node's id by its shape. -/
def Id.read (value : Json) : Except Mismatch String :=
  match Id.ofJson? value with
  | some id => .ok id
  | none => .error (.badNodeId value.compact)

namespace Inlet

def shape : Record := ⟨"UiInput", [⟨"name", false⟩, ⟨"type", false⟩, ⟨"link", false⟩]⟩

/-- Takes one field of an inlet. -/
def readField (inlet : Inlet) (name : String) (value : Json) : Except Mismatch Inlet :=
  match name with
  | "name" => (Legible.text value).map fun name => { inlet with name }
  | "type" => (Legible.text value).map fun slotType => { inlet with slotType }
  | "link" => (Legible.optional Json.readWord value).map fun wire => { inlet with wire }
  | _ => .ok inlet

def read (value : Json) : Except Mismatch Inlet := Legible.recordOf shape readField blank value

end Inlet

namespace Outlet

def shape : Record :=
  ⟨"UiOutput", [⟨"name", false⟩, ⟨"type", false⟩, ⟨"links", false⟩, ⟨"slot_index", false⟩]⟩

/-- Takes one field of an outlet. -/
def readField (outlet : Outlet) (name : String) (value : Json) : Except Mismatch Outlet :=
  match name with
  | "name" => (Legible.text value).map fun name => { outlet with name }
  | "type" => (Legible.text value).map fun slotType => { outlet with slotType }
  | "links" =>
    (Legible.optional (Legible.listOf Json.readWord) value).map fun wires => { outlet with wires }
  | "slot_index" => (Legible.optional Json.readSlot value).map fun slot => { outlet with slot }
  | _ => .ok outlet

def read (value : Json) : Except Mismatch Outlet := Legible.recordOf shape readField blank value

end Outlet

namespace Node

def shape : Record :=
  ⟨"UiNode", [⟨"id", true⟩, ⟨"type", false⟩, ⟨"title", false⟩, ⟨"inputs", false⟩,
    ⟨"outputs", false⟩, ⟨"widgets_values", false⟩]⟩

/-- Takes one field of a node. -/
def readField (node : Node) (name : String) (value : Json) : Except Mismatch Node :=
  match name with
  | "id" => (Id.read value).map fun id => { node with id }
  | "type" => (Legible.text value).map fun classType => { node with classType }
  | "title" => (Legible.optional Legible.text value).map fun title => { node with title }
  | "inputs" => (Legible.listOf Inlet.read value).map fun inlets => { node with inlets }
  | "outputs" => (Legible.listOf Outlet.read value).map fun outlets => { node with outlets }
  | "widgets_values" => (Legible.optional .ok value).map fun widgets => { node with widgets }
  | _ => .ok node

def read (value : Json) : Except Mismatch Node := Legible.recordOf shape readField blank value

/-- What a refusal calls a node that does not have its shape: its id, or its position. -/
def nameAt (position : Nat) (value : Json) : String :=
  ((value.field? "id").bind Id.ofJson?).getD ("#" ++ toString position)

end Node

/-- The items of a field that holds a list; anything else counts as an empty list. -/
def itemsOf (document : Json) (name : String) : List Json :=
  ((document.field? name).bind Json.items?).getD []

/-- The nodes of a list from a position on, given the ids that came before. -/
def readNodes (position : Nat) (seen : List String) : List Json → Except Refusal (List Node)
  | [] => .ok []
  | value :: rest =>
    match Node.read value with
    | .error mismatch => .error (.invalidNode (Node.nameAt position value) (.shape mismatch))
    | .ok node =>
      if node.id ∈ seen then .error (.invalidNode node.id .duplicateId)
      else (readNodes (position + 1) (node.id :: seen) rest).map (node :: ·)

/-- The canvas that a document stands for; entries that are no wires are passed over. -/
def ofJson (document : Json) : Except Refusal Canvas := do
  let nodes ← readNodes 0 [] (itemsOf document "nodes")
  pure ⟨nodes, (itemsOf document "links").filterMap Wire.ofJson?⟩

def shape : Record := ⟨"UiDocument", [⟨"nodes", false⟩, ⟨"links", false⟩]⟩

/-- Takes one field of a canvas. -/
def readField (canvas : Canvas) (name : String) (value : Json) : Except Mismatch Canvas :=
  match name with
  | "nodes" => (Legible.listOf Node.read value).map fun nodes => { canvas with nodes }
  | "links" => (Legible.listOf Wire.read value).map fun wires => { canvas with wires }
  | _ => .ok canvas

def read (value : Json) : Except Mismatch Canvas := Legible.recordOf shape readField empty value

end Flowgraph.Canvas
