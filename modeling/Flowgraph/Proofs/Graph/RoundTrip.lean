import Flowgraph.Proofs.Graph.ReadBack

/-!
# Writing a graph that was read

What is read from a graph document has no constant that looks like a wired input, and keeps no field
of a node's information twice. So it comes back as it is, whatever its nodes are called.

Main result: `Graph.ofJson_toJson_self`.
-/
namespace Flowgraph

namespace Node

/-- No constant of the node is written as a wired input is. -/
def Settled (node : Node) : Prop :=
  ∀ name (source : Source), node.inputs.get? name ≠ some (.constant source.toJson)

theorem reread_eq_self_iff {node : Node} : node.reread = node ↔ node.Settled := by
  have inputs : node.reread = node ↔ node.inputs.map Input.reread = node.inputs := by
    obtain ⟨classType, inputs, outputs, info⟩ := node
    simp [reread]
  rw [inputs, Keyed.map_eq_self_iff]
  simp only [Input.reread_eq_self_iff]
  constructor
  · intro other name source held
    exact other name _ held source rfl
  · rintro settled name input found source rfl
    exact settled name source found

theorem settled_of_readInputs {record : Json} {inputs : Keyed Input}
    (read : readInputs record = .ok inputs) (name : String) (source : Source) :
    inputs.get? name ≠ some (.constant source.toJson) := by
  have none_held : (Keyed.empty : Keyed Input).get? name ≠ some (.constant source.toJson) := by simp
  unfold readInputs at read
  split at read
  · cases read
    exact none_held
  · cases read
    exact none_held
  · next fields =>
    cases read
    rw [Keyed.get?_ofList]
    intro found
    have member := List.mem_reverse.mp (Entries.mem_of_find? found)
    obtain ⟨field, -, same⟩ := List.mem_map.mp member
    exact (Input.ofJson_eq_constant_iff.mp (Prod.mk.inj same).2).2 source rfl
  · contradiction

theorem readable_of_ofJson {value : Json} {node : Node} (read : Node.ofJson value = .ok node) :
    node.Readable ∧ node.Settled := by
  cases value with
  | object fields =>
    obtain ⟨classType, named, read⟩ := bind_eq_ok_iff.mp read
    obtain ⟨inputs, wired, read⟩ := bind_eq_ok_iff.mp read
    cases read
    refine ⟨⟨?_, ?_⟩, settled_of_readInputs wired⟩
    · rintro rfl
      unfold readClass at named
      split at named
      · contradiction
      · split at named
        · contradiction
        · next filled => exact filled (Except.ok.inj named)
      · contradiction
    · intro info held
      -- information that cannot be read counts as none, so this was read
      obtain ⟨value, -, taken⟩ := Option.bind_eq_some_iff.mp held
      exact NodeInfo.foreign_of_read (toOption_eq_some_iff.mp taken)
  | _ => contradiction

end Node

namespace Graph

theorem reread_eq_self_iff {graph : Graph} :
    graph.reread = graph ↔ ∀ id node, graph.get? id = some node → node.Settled := by
  have nodes : graph.reread = graph ↔ graph.nodes.map Node.reread = graph.nodes :=
    ⟨congrArg Graph.nodes, congrArg Graph.mk⟩
  rw [nodes, Keyed.map_eq_self_iff]
  simp only [Node.reread_eq_self_iff]
  rfl

theorem exists_field_of_get? {fields : List (String × Json)} {graph : Graph}
    (read : ofFields fields = .ok graph) {id : String} {node : Node}
    (found : graph.get? id = some node) :
    ∃ value, (id, value) ∈ fields ∧ Node.ofJson value = .ok node := by
  -- every node that a step puts in was read, and the step before keeps the others
  have all := foldlM_invariant
    (P := fun graph : Graph => ∀ id node, graph.get? id = some node →
      ∃ value, (id, value) ∈ fields ∧ Node.ofJson value = .ok node) ?_ ?_ read
  · exact all id node found
  · intro before field after member before_read step id node found
    dsimp only at step
    split at step
    · next made taken =>
      cases step
      rw [get?, insert, Keyed.get?_insert] at found
      split at found
      · next same =>
        obtain rfl := Option.some.inj found
        exact ⟨field.2, same ▸ member, taken⟩
      · exact before_read id node found
    · contradiction
  · intro id node found
    contradiction

theorem exists_ofJson_of_get? {document : Json} {graph : Graph}
    (read : Graph.ofJson document = .ok graph) {id : String} {node : Node}
    (found : graph.get? id = some node) : ∃ value, Node.ofJson value = .ok node := by
  cases document with
  | object fields =>
    obtain ⟨value, -, taken⟩ := exists_field_of_get? read found
    exact ⟨value, taken⟩
  | _ => contradiction

/-- A graph that was read is written as a document that reads as the same graph; if it has nodes,
that document is a workflow in the form of a graph. -/
theorem ofJson_toJson_self {document : Json} {graph : Graph}
    (read : Graph.ofJson document = .ok graph) :
    Graph.ofJson graph.toJson = .ok graph ∧
    (graph.isEmpty = false → ∀ catalogue : Catalogue,
      Workflow.ofJson catalogue graph.toJson = .ok ⟨graph, .graph, []⟩) := by
  have parts {id : String} {node : Node} (found : graph.get? id = some node) :
      node.Readable ∧ node.Settled := by
    obtain ⟨value, taken⟩ := exists_ofJson_of_get? read found
    exact Node.readable_of_ofJson taken
  have readable : graph.Readable := fun id node found => (parts found).1
  have same : graph.reread = graph :=
    reread_eq_self_iff.mpr fun id node found => (parts found).2
  constructor
  · rw [ofJson_toJson readable, same]
  · intro filled catalogue
    rw [Workflow.ofJson_toJson catalogue readable filled, same]

/-- A graph document whose nodes are called as the lists of a canvas document are. -/
def listNamed : Json := .object [
  ("nodes", .object [("class_type", .string "ImageCrop"),
    ("inputs", .object [("image", .array [.string "links", .ofWord 4294967295]),
      ("crop", .array [.string "links", .ofWord 4294967296])]),
    ("outputs", .array [.string "IMAGE", .ofWord 2]),
    ("_meta", .object [("title", .null), ("packages", Json.ofStrings ["pillow"]),
      ("pos", .null)])]),
  ("links", .object [("class_type", .string "Note"), ("inputs", .null), ("_meta", .array [])])]

/-- The graph that `listNamed` stands for. -/
def listNamedGraph : Graph := ⟨.ofList [
  ("nodes", ⟨"ImageCrop", .ofList [("image", .wired ⟨"links", 4294967295⟩),
      ("crop", .constant (.array [.string "links", .ofWord 4294967296]))],
    ["IMAGE", "2"], some ⟨none, none, none, ["pillow"], .ofList [("pos", .null)]⟩⟩),
  ("links", .ofClass "Note")]⟩

theorem ofJson_toJson_self_listNamed : Graph.ofJson listNamed = .ok listNamedGraph ∧
    listNamedGraph.isEmpty = false ∧
    Graph.ofJson listNamedGraph.toJson = .ok listNamedGraph ∧
    Workflow.ofJson .empty listNamedGraph.toJson = .ok ⟨listNamedGraph, .graph, []⟩ := by
  have read : Graph.ofJson listNamed = .ok listNamedGraph := by rfl
  have filled : listNamedGraph.isEmpty = false := by rfl
  obtain ⟨again, workflow⟩ := ofJson_toJson_self read
  exact ⟨read, filled, again, workflow filled .empty⟩

end Graph

end Flowgraph
