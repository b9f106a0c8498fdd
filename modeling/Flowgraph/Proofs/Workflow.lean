import Flowgraph.Proofs.Shape
import Flowgraph.Workflow

/-!
# What is a workflow

A document is a workflow if it is an object that converts to a graph with nodes. From a canvas,
every node must have a class type as well; from a graph document no other comes.

Main result: `Workflow.ofJson_eq_ok_iff`.
-/
namespace Flowgraph.Workflow

theorem checkClasses_eq_ok_iff {graph : Graph} :
    checkClasses graph = .ok () ↔ ∀ id node, graph.get? id = some node → node.classType ≠ "" := by
  have named : unclassed? graph = none ↔
      ∀ id node, graph.get? id = some node → node.classType ≠ "" := by
    simp only [unclassed?, Option.map_eq_none_iff, List.find?_eq_none, beq_iff_eq, Graph.get?,
      Keyed.get?_eq_some_iff]
    exact ⟨fun all id node member => all (id, node) member,
      fun all entry member => all entry.1 entry.2 member⟩
  rw [← named, checkClasses]
  cases unclassed? graph <;> simp

variable {catalogue : Catalogue} {document : Json} {workflow : Workflow}

theorem ofForm_eq_ok_iff {graph : Graph} {dropped : List DroppedWire} :
    ofForm catalogue document (Form.ofJson document) = .ok (graph, dropped) ↔
      Document.convert catalogue document = .ok (graph, dropped) ∧
      (Form.ofJson document = .canvas →
        ∀ id node, graph.get? id = some node → node.classType ≠ "") := by
  rw [Document.convert, ← checkClasses_eq_ok_iff]
  cases Form.ofJson document with
  | canvas =>
    simp only [ofForm, bind_eq_ok_iff, map_eq_ok_iff, forall_const]
    constructor
    · rintro ⟨canvas, read, ⟨⟩, classes, made⟩
      have compiled : canvas.toGraph catalogue = (graph, dropped) := Except.ok.inj made
      rw [compiled] at classes
      exact ⟨⟨canvas, read, compiled⟩, classes⟩
    · rintro ⟨⟨canvas, read, compiled⟩, classes⟩
      refine ⟨canvas, read, (), ?_, congrArg _ compiled⟩
      rw [compiled]
      exact classes
  | graph => simp [ofForm]

theorem ofObject_eq_ok_iff : ofObject catalogue document = .ok workflow ↔
    Document.convert catalogue document = .ok (workflow.graph, workflow.dropped) ∧
    workflow.form = Form.ofJson document ∧ workflow.graph.isEmpty = false ∧
    (workflow.form = .canvas →
      ∀ id node, workflow.graph.get? id = some node → node.classType ≠ "") := by
  obtain ⟨graph, form, dropped⟩ := workflow
  have plain : ofObject catalogue document = .ok ⟨graph, form, dropped⟩ ↔
      ofForm catalogue document (Form.ofJson document) = .ok (graph, dropped) ∧
        graph.isEmpty = false ∧ form = Form.ofJson document := by
    rw [ofObject]
    cases ofForm catalogue document (Form.ofJson document) with
    | error refusal => simp [bind, Except.bind]
    | ok made =>
      obtain ⟨made, lost⟩ := made
      change (if made.isEmpty then _ else Except.ok (Workflow.mk made _ lost)) = _ ↔ _
      by_cases same : made = graph
      · subst same
        cases made.isEmpty <;> simp [bind, Except.bind, eq_comm, and_comm]
      · cases made.isEmpty <;> simp [bind, Except.bind, same]
  rw [plain, ofForm_eq_ok_iff]
  constructor
  · rintro ⟨⟨converted, classes⟩, filled, rfl⟩
    exact ⟨converted, rfl, filled, classes⟩
  · rintro ⟨converted, rfl, filled, classes⟩
    exact ⟨⟨converted, classes⟩, filled, rfl⟩

theorem ofJson_eq_ok_iff : ofJson catalogue document = .ok workflow ↔
    (∃ fields, document = .object fields) ∧
    Document.convert catalogue document = .ok (workflow.graph, workflow.dropped) ∧
    workflow.form = Form.ofJson document ∧ workflow.graph.isEmpty = false ∧
    (workflow.form = .canvas →
      ∀ id node, workflow.graph.get? id = some node → node.classType ≠ "") := by
  cases document with
  | object fields =>
    rw [← ofObject_eq_ok_iff]
    exact ⟨fun read => ⟨⟨fields, rfl⟩, read⟩, fun read => read.2⟩
  | _ => simp [ofJson]

theorem exists_canvas (read : ofJson catalogue document = .ok workflow)
    (form : workflow.form = .canvas) : ∃ canvas, Canvas.ofJson document = .ok canvas ∧
      workflow.graph = (canvas.toGraph catalogue).1 ∧
      workflow.dropped = (canvas.toGraph catalogue).2 := by
  obtain ⟨-, converted, same, -, -⟩ := ofJson_eq_ok_iff.mp read
  rw [Document.convert, ← same, form] at converted
  obtain ⟨canvas, taken, made⟩ := map_eq_ok_iff.mp converted
  exact ⟨canvas, taken, (congrArg Prod.fst made).symm, (congrArg Prod.snd made).symm⟩

end Flowgraph.Workflow
