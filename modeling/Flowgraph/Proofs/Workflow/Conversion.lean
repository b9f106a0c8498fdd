import Flowgraph.Proofs.Canvas.ToGraph
import Flowgraph.Proofs.Graph.RoundTrip

/-!
# Reading a workflow is converting it and checking the graph

A document is converted to a graph, or read as a workflow; either way its form decides how. The
reader checks the nodes of a canvas on its way, and those of a graph document one by one while they
are read. Both come to the same: a conversion, and then one check of the whole graph.

Main result: `Workflow.ofJson_agrees`.
-/
namespace Flowgraph

theorem Graph.classType_ne_of_ofJson {document : Json} {graph : Graph}
    (read : Graph.ofJson document = .ok graph) {id : String} {node : Node}
    (found : graph.get? id = some node) : node.classType ≠ "" := by
  obtain ⟨value, taken⟩ := exists_ofJson_of_get? read found
  exact (Node.readable_of_ofJson taken).1.classType

namespace Workflow

/-- What is checked of a graph whatever the form of its document: every node has a class type, and
there is a node. -/
def check (form : Form) (converted : Graph × List DroppedWire) : Except Refusal Workflow := do
  checkClasses converted.1
  if converted.1.isEmpty then .error .emptyGraph
  pure ⟨converted.1, form, converted.2⟩

variable {catalogue : Catalogue} {document : Json} {workflow : Workflow}

theorem ofForm_eq : ofForm catalogue document (Form.ofJson document) =
    Document.convert catalogue document >>= fun converted =>
      (checkClasses converted.1).map fun _ => converted := by
  rw [Document.convert]
  cases Form.ofJson document with
  | canvas =>
    simp only [ofForm]
    cases Canvas.ofJson document with
    | error refusal => rfl
    | ok canvas => rfl
  | graph =>
    simp only [ofForm]
    cases read : Graph.ofJson document with
    | error refusal => rfl
    | ok graph =>
      have classes : checkClasses graph = .ok () :=
        checkClasses_eq_ok_iff.mpr fun _ _ => Graph.classType_ne_of_ofJson read
      simp [Except.map, bind, Except.bind, classes]

theorem ofObject_eq : ofObject catalogue document =
    Document.convert catalogue document >>= check (Form.ofJson document) := by
  rw [ofObject, ofForm_eq]
  cases Document.convert catalogue document with
  | error refusal => rfl
  | ok converted =>
    simp only [check, bind, Except.bind]
    cases checkClasses converted.1 <;> rfl

theorem ofJson_eq_ok_iff_convert : ofJson catalogue document = .ok workflow ↔
    Document.convert catalogue document = .ok (workflow.graph, workflow.dropped) ∧
    workflow.graph.isEmpty = false ∧
    (∀ id node, workflow.graph.get? id = some node → node.classType ≠ "") ∧
    workflow.form = Form.ofJson document := by
  rw [ofJson_eq_ok_iff]
  constructor
  · rintro ⟨-, converted, form, filled, classes⟩
    refine ⟨converted, filled, ?_, form⟩
    cases same : workflow.form with
    | canvas => exact classes same
    | graph =>
      -- no check has seen the nodes of a graph document, but each was read with a class type
      rw [Document.convert, ← form, same] at converted
      obtain ⟨graph, read, made⟩ := map_eq_ok_iff.mp converted
      obtain rfl : graph = workflow.graph := congrArg Prod.fst made
      exact fun _ _ => Graph.classType_ne_of_ofJson read
  · rintro ⟨converted, filled, classes, form⟩
    refine ⟨?_, converted, form, filled, fun _ => classes⟩
    cases document with
    | object fields => exact ⟨fields, rfl⟩
    | _ => contradiction

/-- A document is a workflow exactly if it converts to a graph that has nodes, all with a class
type, and the workflow is then that graph with the wires that the conversion dropped. An object is
refused as a workflow for what its conversion is refused for, or else for what is checked of its
graph; what is no object is refused as malformed by both. -/
theorem ofJson_agrees (catalogue : Catalogue) (document : Json) :
    (∀ workflow, ofJson catalogue document = .ok workflow ↔
      Document.convert catalogue document = .ok (workflow.graph, workflow.dropped) ∧
      workflow.graph.isEmpty = false ∧
      (∀ id node, workflow.graph.get? id = some node → node.classType ≠ "") ∧
      workflow.form = Form.ofJson document) ∧
    (∀ fields, document = .object fields → ofJson catalogue document =
      Document.convert catalogue document >>= check (Form.ofJson document)) ∧
    (∀ id defect, Document.convert catalogue document = .error (.invalidNode id defect) →
      ofJson catalogue document = .error (.invalidNode id defect)) ∧
    ((∀ fields, document ≠ .object fields) →
      ofJson catalogue document = .error (.malformed .noObject) ∧
      Document.convert catalogue document = .error (.malformed .noObjectOfNodes)) := by
  refine ⟨fun workflow => ofJson_eq_ok_iff_convert, ?_, ?_, ?_⟩
  · rintro fields rfl
    exact ofObject_eq
  · intro id defect refused
    cases document with
    | object fields =>
      rw [ofJson, ofObject_eq, refused]
      rfl
    | _ => cases refused
  · intro other
    cases document with
    | object fields => exact absurd rfl (other fields)
    | _ => exact ⟨rfl, rfl⟩

/-- A canvas document with a node that has no class type. -/
def untyped : Json := .object [
  ("nodes", .array [.object [("id", .ofWord 3), ("type", .string "KSampler")],
    .object [("id", .ofWord 8)]]),
  ("links", .array [.array [.ofWord 1, .ofWord 8, .ofWord 0, .ofWord 3, .ofWord 0]])]

/-- A graph document with a node that has no class type. -/
def unclassed : Json := .object [("8", .object [("inputs", .object [])])]

theorem ofJson_agrees_untyped : ∃ workflow : Workflow,
    ofJson .core untyped = .error (.invalidNode "8" .classEmpty) ∧
    ofJson .core unclassed = .error (.invalidNode "8" .classMissing) ∧
    ofJson .core (.array [untyped]) = .error (.malformed .noObject) ∧
    ofJson .core Canvas.crossed = .ok workflow ∧
    Document.convert .core Canvas.crossed = .ok (workflow.graph, workflow.dropped) ∧
    workflow.form = .canvas := by
  obtain ⟨-, checked, -, -⟩ := ofJson_agrees .core untyped
  obtain ⟨-, -, refused, -⟩ := ofJson_agrees .core unclassed
  obtain ⟨-, -, -, malformed⟩ := ofJson_agrees .core (.array [untyped])
  have read : ofJson .core Canvas.crossed = .ok _ := rfl
  obtain ⟨converted, -, -, form⟩ := ((ofJson_agrees .core Canvas.crossed).1 _).mp read
  exact ⟨_, (checked _ rfl).trans rfl, refused _ _ rfl, (malformed nofun).1, read, converted,
    form.trans rfl⟩

end Workflow

end Flowgraph
