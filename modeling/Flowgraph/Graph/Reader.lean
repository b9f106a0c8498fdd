import Flowgraph.Graph
import Flowgraph.Json.Printer
import Flowgraph.Refusal

/-!
# Reading graphs

A graph is read from an object of nodes by id in two ways. `Graph.ofJson` takes whatever makes
sense of a node and refuses only what leaves it without a class type or with inputs that are no
object; `Graph.read` holds every member of a node to its shape.

Main result: both decide by `Source.ofJson?` which inputs are wired: a value is a source exactly
if it is a pair of a text and a whole number below 2³².
-/
namespace Flowgraph

/-- The source that a value stands for: a pair of a text and a whole number below 2³². -/
def Source.ofJson? : Json → Option Source
  | .array [.string node, .number (.natural slot)] =>
    if slot.toNat < UInt32.size then some ⟨node, slot.toUInt32⟩ else none
  | _ => none

/-- The input that a value stands for. -/
def Input.ofJson (value : Json) : Input :=
  match Source.ofJson? value with
  | some source => wired source
  | none => constant value

namespace NodeInfo

/-- Takes one field of the information. -/
def readField (info : NodeInfo) (name : String) (value : Json) : Except Mismatch NodeInfo :=
  let text : Except Mismatch (Option String) := Legible.optional Legible.text value
  match name with
  | "title" => text.map fun title => { info with title }
  | "repository" => text.map fun repository => { info with repository }
  | "commit" => text.map fun commit => { info with commit }
  | "packages" => (Legible.texts value).map fun packages => { info with packages }
  | name => .ok { info with extra := info.extra.insert name value }

/-- Information by its shape: an object in which every unknown field is kept. -/
def read : Json → Except Mismatch NodeInfo
  | .object fields => fields.foldlM (fun info (name, value) => info.readField name value) blank
  | value => .error (value.mismatch "struct NodeMeta")

end NodeInfo

namespace Node

/-- The name of an output slot; what is no text is named by how it is written. -/
def outputName : Json → String
  | .string name => name
  | value => value.compact

/-- The class type of a node that is written as an object. -/
def readClass (record : Json) : Except NodeDefect String :=
  match record.field? "class_type" with
  | none => .error .classMissing
  | some (.string classType) => if classType = "" then .error .classEmpty else .ok classType
  | some _ => .error .classNoText

/-- The inputs of a node that is written as an object. -/
def readInputs (record : Json) : Except NodeDefect (Keyed Input) :=
  match record.field? "inputs" with
  | none => .ok .empty
  | some .null => .ok .empty
  | some (.object inputs) =>
    .ok (Keyed.ofList (inputs.map fun (name, value) => (name, Input.ofJson value)))
  | some _ => .error .inputsNoObject

/-- The names of the output slots of a node that is written as an object. -/
def readOutputs (record : Json) : List String :=
  match record.field? "outputs" with
  | some (.array outputs) => outputs.map outputName
  | _ => []

/-- The information on a node that is written as an object; what has another shape counts as
none. -/
def readInfo (record : Json) : Option NodeInfo :=
  (record.field? "_meta").bind fun value => (NodeInfo.read value).toOption

/-- The node that a value stands for. -/
def ofJson (value : Json) : Except NodeDefect Node :=
  match value with
  | .object _ => do
    let classType ← readClass value
    let inputs ← readInputs value
    pure ⟨classType, inputs, readOutputs value, readInfo value⟩
  | _ => .error .noObject

def shape : Record :=
  ⟨"Node", [⟨"class_type", true⟩, ⟨"inputs", false⟩, ⟨"outputs", false⟩, ⟨"_meta", false⟩]⟩

/-- Takes one field of a node. -/
def readField (node : Node) (name : String) (value : Json) : Except Mismatch Node :=
  match name with
  | "class_type" => (Legible.text value).map fun classType => { node with classType }
  | "inputs" =>
    (Legible.mapOf (fun part => .ok (Input.ofJson part)) value).map fun inputs =>
      { node with inputs }
  | "outputs" => (Legible.texts value).map fun outputs => { node with outputs }
  | "_meta" => (Legible.optional NodeInfo.read value).map fun info => { node with info }
  | _ => .ok node

def read (value : Json) : Except Mismatch Node :=
  Legible.recordOf shape readField (ofClass "") value

end Node

namespace Graph

/-- The nodes of an object, as long as all of them are nodes. -/
def ofFields (fields : List (String × Json)) : Except Refusal Graph :=
  fields.foldlM (fun graph (id, value) =>
    match Node.ofJson value with
    | .ok node => .ok (graph.insert id node)
    | .error defect => .error (.invalidNode id defect)) empty

/-- The graph that a value stands for. -/
def ofJson : Json → Except Refusal Graph
  | .object fields => ofFields fields
  | _ => .error (.malformed .noObjectOfNodes)

def read (value : Json) : Except Mismatch Graph :=
  (Legible.mapOf Node.read value).map Graph.mk

end Graph

end Flowgraph
