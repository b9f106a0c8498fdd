import Flowgraph.Catalogue.Core
import Flowgraph.Proofs.Canvas.ToGraph
import Flowgraph.Proofs.Graph.RoundTrip

/-!
# Writing out the graph of a canvas

The widget values of a canvas become constants whatever they look like. Once the graph is written
out, a constant that is written as a wired input cannot be told from one, and is read as wired; all
else comes back as it was.

Main result: `ofJson_toJson_of_canvas`.
-/
namespace Flowgraph

/-- A node as it comes back: a constant that is written as a source is wired to it. -/
structure Node.RereadAs (node again : Node) : Prop where
  classType : again.classType = node.classType
  outputs : again.outputs = node.outputs
  info : again.info = node.info
  names : again.inputs.keys = node.inputs.keys
  wired : ∀ name source, again.inputs.get? name = some (.wired source) ↔
    node.inputs.get? name = some (.wired source) ∨
    node.inputs.get? name = some (.constant source.toJson)
  constant : ∀ name value, again.inputs.get? name = some (.constant value) ↔
    node.inputs.get? name = some (.constant value) ∧ ∀ source : Source, value ≠ source.toJson

theorem Node.rereadAs_reread (node : Node) : node.RereadAs node.reread := by
  have input (name : String) :
      node.reread.inputs.get? name = (node.inputs.get? name).map Input.reread :=
    Keyed.get?_map Input.reread node.inputs name
  refine ⟨rfl, rfl, rfl, Keyed.keys_map Input.reread node.inputs, ?_, ?_⟩
  · intro name source
    simp only [input, Option.map_eq_some_iff, Input.reread_eq_wired_iff]
    constructor
    · rintro ⟨kept, held, rfl | rfl⟩
      · exact .inl held
      · exact .inr held
    · rintro (held | held)
      · exact ⟨_, held, .inl rfl⟩
      · exact ⟨_, held, .inr rfl⟩
  · intro name value
    simp only [input, Option.map_eq_some_iff, Input.reread_eq_constant_iff]
    constructor
    · rintro ⟨kept, held, rfl, other⟩
      exact ⟨held, other⟩
    · rintro ⟨held, other⟩
      exact ⟨_, held, rfl, other⟩

/-- The graph that comes back has the same nodes in the same order. -/
structure Graph.RereadAs (graph again : Graph) : Prop where
  ids : again.ids = graph.ids
  nodes : ∀ id node, graph.get? id = some node →
    ∃ back, again.get? id = some back ∧ node.RereadAs back

theorem Graph.rereadAs_reread (graph : Graph) : graph.RereadAs graph.reread := by
  refine ⟨graph.ids_reread, ?_⟩
  intro id node found
  rw [graph.get?_reread, found]
  exact ⟨node.reread, rfl, node.rereadAs_reread⟩

namespace Canvas

/-- A node of the graph of a canvas knows no more of itself than its title. -/
theorem foreign_compile (catalogue : Catalogue) (links : List Link) (node : Node)
    (info : NodeInfo) (held : (node.compile catalogue links).info = some info) : info.Foreign := by
  obtain ⟨title, -, rfl⟩ := Option.map_eq_some_iff.mp held
  exact NodeInfo.foreign_blank

end Canvas

/-- The graph of a canvas that is a workflow is written as a document that is a workflow too. It has
the same graph exactly if no widget value is written as a wired input. -/
theorem Workflow.ofJson_toJson_of_canvas {catalogue : Catalogue} {document : Json}
    {workflow : Workflow} (read : Workflow.ofJson catalogue document = .ok workflow)
    (form : workflow.form = .canvas) : ∃ again,
      Workflow.ofJson catalogue workflow.graph.toJson = .ok ⟨again, .graph, []⟩ ∧
      workflow.graph.RereadAs again ∧
      (again = workflow.graph ↔ ∀ id node, workflow.graph.get? id = some node → node.Settled) := by
  obtain ⟨-, converted, same, filled, named⟩ := ofJson_eq_ok_iff.mp read
  rw [Document.convert, ← same, form] at converted
  obtain ⟨canvas, taken, made⟩ := map_eq_ok_iff.mp converted
  have graph : workflow.graph = (canvas.toGraph catalogue).1 := (congrArg Prod.fst made).symm
  -- a graph document needs class types as well; on the canvas they were checked after reading
  have readable : workflow.graph.Readable := by
    intro id node found
    have classed := named form id node found
    rw [graph, Canvas.get?_toGraph (Canvas.nodup_of_ofJson taken)] at found
    obtain ⟨drawn, -, -, rfl⟩ := found
    exact ⟨classed, Canvas.foreign_compile catalogue _ drawn⟩
  exact ⟨workflow.graph.reread, ofJson_toJson catalogue readable filled,
    workflow.graph.rereadAs_reread, Graph.reread_eq_self_iff⟩

/-- A loader whose widget value looks like a wired input. -/
def pairedWidgets : Json := .object [
  ("nodes", .array [
    .object [("id", .ofWord 1), ("type", .string "CheckpointLoaderSimple"),
      ("widgets_values", .array [.array [.string "4", .ofWord 0]])],
    .object [("id", .ofWord 2), ("type", .string "VAEDecode")]]),
  ("links", .array [.array [.ofWord 7, .ofWord 1, .ofWord 2, .ofWord 2, .ofWord 1]])]

/-- The graph of `pairedWidgets`, with the input that the loader's widget value makes. -/
def pairedGraph (input : Input) : Graph := ⟨.ofList [
  ("1", (Node.ofClass "CheckpointLoaderSimple").withInput "ckpt_name" input),
  ("2", (Node.ofClass "VAEDecode").withInput "vae" (.wired ⟨"1", 2⟩))]⟩

theorem pairedWidgets_not_kept :
    Workflow.ofJson .core pairedWidgets =
      .ok ⟨pairedGraph (.constant (Source.toJson ⟨"4", 0⟩)), .canvas, []⟩ ∧
    Workflow.ofJson .core (pairedGraph (.constant (Source.toJson ⟨"4", 0⟩))).toJson =
      .ok ⟨pairedGraph (.wired ⟨"4", 0⟩), .graph, []⟩ ∧
    pairedGraph (.wired ⟨"4", 0⟩) ≠ pairedGraph (.constant (Source.toJson ⟨"4", 0⟩)) := by
  exact ⟨by rfl, by rfl, by decide⟩

theorem ofJson_toJson_of_canvas_paired : ∃ workflow again,
    Workflow.ofJson .core pairedWidgets = .ok workflow ∧ workflow.form = .canvas ∧
    Workflow.ofJson .core workflow.graph.toJson = .ok ⟨again, .graph, []⟩ ∧
    workflow.graph.RereadAs again ∧ again ≠ workflow.graph := by
  have read : Workflow.ofJson .core pairedWidgets =
      .ok ⟨pairedGraph (.constant (Source.toJson ⟨"4", 0⟩)), .canvas, []⟩ := by rfl
  obtain ⟨again, written, reread, same⟩ := Workflow.ofJson_toJson_of_canvas read rfl
  refine ⟨_, again, read, rfl, written, reread, ?_⟩
  intro equal
  exact same.mp equal "1" _ rfl "ckpt_name" ⟨"4", 0⟩ rfl

end Flowgraph
