import Flowgraph.Canvas.Reader
import Flowgraph.Canvas.ToGraph
import Flowgraph.Form
import Flowgraph.Graph.Reader

/-!
# Workflow documents

A document in either form becomes a graph. `Document.convert` asks no more than that needs;
`Workflow.ofJson` also refuses documents without nodes and nodes without a class type.

Main result: both go through `Canvas.ofJson` and `Canvas.toGraph`, or through `Graph.ofJson`, as the
form of the document tells.
-/
namespace Flowgraph

namespace Document

/-- The graph of a document in either form, and the wires that have no place in it. -/
def convert (catalogue : Catalogue) (document : Json) : Except Refusal (Graph × List DroppedWire) :=
  match Form.ofJson document with
  | .canvas => (Canvas.ofJson document).map fun canvas => canvas.toGraph catalogue
  | .graph => (Graph.ofJson document).map (·, [])

/-- The document that a text is. -/
def ofText (text : String) : Except Refusal Json :=
  match Json.parse text with
  | .ok document => .ok document
  | .error fault => .error (.ofFault text fault)

end Document

structure Workflow where
  graph : Graph
  form : Form
  dropped : List DroppedWire
deriving DecidableEq

namespace Workflow

/-- The first node without a class type. -/
def unclassed? (graph : Graph) : Option String :=
  (graph.entries.find? fun (_, node) => node.classType == "").map Prod.fst

/-- Refuses a graph with a node that has no class type. -/
def checkClasses (graph : Graph) : Except Refusal Unit :=
  match unclassed? graph with
  | some id => .error (.invalidNode id .classEmpty)
  | none => .ok ()

/-- The graph of a document in a form, and the wires that have no place in it. A canvas document may
have nodes without a class type, and is refused then. -/
def ofForm (catalogue : Catalogue) (document : Json) :
    Form → Except Refusal (Graph × List DroppedWire)
  | .canvas => do
    let canvas ← Canvas.ofJson document
    let compiled := canvas.toGraph catalogue
    checkClasses compiled.1
    pure compiled
  | .graph => (Graph.ofJson document).map (·, [])

/-- The workflow that an object is, by its form. -/
def ofObject (catalogue : Catalogue) (document : Json) : Except Refusal Workflow := do
  let form := Form.ofJson document
  let (graph, dropped) ← ofForm catalogue document form
  if graph.isEmpty then .error .emptyGraph
  pure ⟨graph, form, dropped⟩

/-- The workflow that a document is. -/
def ofJson (catalogue : Catalogue) (document : Json) : Except Refusal Workflow :=
  match document with
  | .object _ => ofObject catalogue document
  | _ => .error (.malformed .noObject)

/-- The workflow that a text is. -/
def ofText (catalogue : Catalogue) (text : String) : Except Refusal Workflow := do
  ofJson catalogue (← Document.ofText text)

/-- Whether nothing of the document was dropped. -/
def isValid (workflow : Workflow) : Bool := workflow.dropped.isEmpty

/-- What is said about the parts of the document that were dropped. -/
def errors (workflow : Workflow) : List String := workflow.dropped.map DroppedWire.message

/-- The class types that do not ship with the engine. -/
def customTypes (catalogue : Catalogue) (workflow : Workflow) : List String :=
  nameSet ((workflow.graph.entries.map fun (_, node) => node.classType).filter
    fun classType => !catalogue.isShipped classType)

end Workflow

end Flowgraph
