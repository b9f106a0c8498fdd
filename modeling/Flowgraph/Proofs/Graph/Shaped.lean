import Flowgraph.Proofs.Graph.Grammar

/-!
# Graph documents read by shape

A graph document is read in two ways. The strict reader holds every member of a node to its shape
and refuses the document for the first that differs; the lenient one takes what it can make sense
of. Where every node has a class, the strict reader takes just those documents whose members have
their shapes, and it makes the same graph of them as the lenient one.

Main result: `Graph.read_object_eq_ok_iff`.
-/
namespace Flowgraph

open List (Forall₂)

namespace Node

/-- The inputs of a node that has them as an object, or not at all. -/
inductive InputsShaped : Option Json → Keyed Input → Prop
  | absent : InputsShaped none .empty
  | object (fields : List (String × Json)) : InputsShaped (some (.object fields))
      (.ofList (fields.map fun field => (field.1, Input.ofJson field.2)))

/-- The outputs of a node that has them as a list of texts, or not at all. -/
inductive OutputsShaped : Option Json → List String → Prop
  | absent : OutputsShaped none []
  | texts (names : List String) : OutputsShaped (some (.array (names.map .string))) names

/-- The information on a node that has it in its shape, or as null, or not at all. -/
inductive InfoShaped : Option Json → Option NodeInfo → Prop
  | absent : InfoShaped none none
  | null : InfoShaped (some .null) none
  | read {value : Json} {info : NodeInfo} (taken : NodeInfo.read value = .ok info) :
      InfoShaped (some value) (some info)

/-- A value has the shape of a node: an object that has no member of a node twice, a class type
among them, and each of the others as the node has it. Further members may have any shape. -/
structure Shaped (value : Json) (node : Node) : Prop where
  record : ∃ members, value = .object members ∧ ((Legible.known shape members).map Prod.fst).Nodup
  classType : value.field? "class_type" = some (.string node.classType)
  inputs : InputsShaped (value.field? "inputs") node.inputs
  outputs : OutputsShaped (value.field? "outputs") node.outputs
  info : InfoShaped (value.field? "_meta") node.info

/-- A value has a class: a member that gives the class type as a text that is not empty. -/
def Classed (value : Json) : Prop :=
  ∃ classType, value.field? "class_type" = some (.string classType) ∧ classType ≠ ""

variable {node next : Node} {name : String} {value given : Json} {members : List (String × Json)}
  {inputs : Keyed Input} {outputs : List String} {info : Option NodeInfo}

section Members

theorem inputsShaped_iff : InputsShaped (some value) inputs ↔
    Legible.mapOf (fun part => .ok (Input.ofJson part)) value = .ok inputs := by
  constructor
  · intro shaped
    cases shaped with
    | object fields =>
      refine Legible.mapOf_object_eq_ok_iff.mpr ⟨_, ?_, rfl⟩
      rw [List.forall₂_map_right_iff, List.forall₂_same]
      exact fun field _ => ⟨rfl, rfl⟩
  · intro read
    cases value with
    | object fields =>
      obtain ⟨entries, each, rfl⟩ := Legible.mapOf_object_eq_ok_iff.mp read
      have taken : fields.map (fun field => (field.1, Input.ofJson field.2)) = entries := by
        rw [← List.forall₂_eq_eq_eq, List.forall₂_map_left_iff]
        refine each.imp ?_
        rintro field entry ⟨same, part⟩
        exact Prod.ext same.symm (Except.ok.inj part)
      subst taken
      exact .object fields
    | _ => contradiction

theorem outputsShaped_iff : OutputsShaped (some value) outputs ↔
    Legible.texts value = .ok outputs := by
  rw [Legible.texts_eq_ok_iff]
  constructor
  · rintro ⟨⟩
    rfl
  · rintro rfl
    exact .texts outputs

theorem infoShaped_iff : InfoShaped (some value) info ↔
    Legible.optional NodeInfo.read value = .ok info := by
  constructor
  · intro shaped
    cases shaped with
    | null => rfl
    | read taken =>
      refine Legible.optional_eq_ok ?_ taken
      rintro rfl
      contradiction
  · intro read
    rw [Legible.optional] at read
    split at read
    · next nothing =>
      obtain rfl : value = .null := by simpa [Legible.isNothing] using nothing
      cases read
      exact .null
    · obtain ⟨info, taken, rfl⟩ := map_eq_ok_iff.mp read
      exact .read taken

theorem readField_keeps (step : node.readField name value = .ok next) :
    (name ≠ "class_type" → next.classType = node.classType) ∧
    (name ≠ "inputs" → next.inputs = node.inputs) ∧
    (name ≠ "outputs" → next.outputs = node.outputs) ∧
    (name ≠ "_meta" → next.info = node.info) := by
  unfold readField at step
  split at step
  case h_5 =>
    cases step
    simp
  all_goals
    obtain ⟨part, -, rfl⟩ := map_eq_ok_iff.mp step
    simp

theorem exists_readField (shaped : Shaped value node) (before : Node)
    (found : value.field? name = some given) :
    ∃ after, before.readField name given = .ok after := by
  obtain ⟨-, classType, inputs, outputs, info⟩ := shaped
  unfold readField
  split
  · rw [classType] at found
    cases found
    exact ⟨_, rfl⟩
  · rw [found, inputsShaped_iff] at inputs
    rw [inputs]
    exact ⟨_, rfl⟩
  · rw [found, outputsShaped_iff] at outputs
    rw [outputs]
    exact ⟨_, rfl⟩
  · rw [found, infoShaped_iff] at info
    rw [info]
    exact ⟨_, rfl⟩
  · exact ⟨before, rfl⟩

end Members

/-- What the strict reader takes has the shape of the node that it makes. -/
theorem shaped_of_read (read : Node.read (.object members) = .ok node) :
    Shaped (.object members) node := by
  obtain ⟨distinct, complete, -⟩ := Legible.recordOf_object_eq_ok_iff.mp read
  have named : ∀ value, Entries.find? "class_type" members = some value →
      value = .string node.classType := by
    refine Legible.part_of_recordOf
      (P := fun member classType => ∀ value, member = some value → value = .string classType)
      rfl nofun ?_ (fun _ _ _ _ other step => (readField_keeps step).1 other) read
    rintro before value after step _ ⟨⟩
    obtain ⟨classType, taken, rfl⟩ := map_eq_ok_iff.mp step
    exact Legible.text_eq_ok_iff.mp taken
  have inputs : InputsShaped (Entries.find? "inputs" members) node.inputs := by
    refine Legible.part_of_recordOf rfl .absent ?_
      (fun _ _ _ _ other step => (readField_keeps step).2.1 other) read
    intro before value after step
    obtain ⟨inputs, taken, rfl⟩ := map_eq_ok_iff.mp step
    exact inputsShaped_iff.mpr taken
  have outputs : OutputsShaped (Entries.find? "outputs" members) node.outputs := by
    refine Legible.part_of_recordOf rfl .absent ?_
      (fun _ _ _ _ other step => (readField_keeps step).2.2.1 other) read
    intro before value after step
    obtain ⟨outputs, taken, rfl⟩ := map_eq_ok_iff.mp step
    exact outputsShaped_iff.mpr taken
  have info : InfoShaped (Entries.find? "_meta" members) node.info := by
    refine Legible.part_of_recordOf rfl .absent ?_
      (fun _ _ _ _ other step => (readField_keeps step).2.2.2 other) read
    intro before value after step
    obtain ⟨info, taken, rfl⟩ := map_eq_ok_iff.mp step
    exact infoShaped_iff.mpr taken
  -- the record cannot do without the class type, so it is there
  have there := Legible.mem_of_missing?_eq_none complete ⟨"class_type", true⟩ List.mem_cons_self rfl
  obtain ⟨⟨_, value⟩, member, rfl⟩ := List.mem_map.mp (List.mem_reverse.mp there)
  have found : Entries.find? "class_type" members = some value := by
    rw [← Legible.find?_known (show shape.has "class_type" = true from rfl),
      Entries.find?_eq_some_iff distinct]
    exact member
  exact ⟨⟨members, rfl, distinct⟩, found.trans (congrArg some (named value found)), inputs, outputs,
    info⟩

/-- What has the shape of a node is taken by the strict reader. -/
theorem exists_read_of_shaped (shaped : Shaped value node) :
    ∃ other, Node.read value = .ok other := by
  obtain ⟨members, rfl, distinct⟩ := shaped.record
  have complete : shape.missing? ((Legible.known shape members).map Prod.fst).reverse = none := by
    have found : Entries.find? "class_type" (Legible.known shape members) = _ :=
      (Legible.find?_known rfl members).trans shaped.classType
    have there : "class_type" ∈ (Legible.known shape members).map Prod.fst :=
      List.mem_map_of_mem (Entries.mem_of_find? found)
    simpa [Record.missing?, shape] using there
  have each (before : Node) (field : String × Json) (member : field ∈ Legible.known shape members) :
      ∃ after, before.readField field.1 field.2 = .ok after := by
    -- a member that the record knows is the only one of its name, so the shape speaks of it
    have known : shape.has field.1 = true := (List.mem_filter.mp member).2
    have found : Entries.find? field.1 members = some field.2 := by
      rw [← Legible.find?_known known, Entries.find?_eq_some_iff distinct]
      exact member
    exact exists_readField shaped before found
  obtain ⟨other, taken⟩ := exists_foldlM each (ofClass "")
  exact ⟨other, Legible.recordOf_object_eq_ok_iff.mpr ⟨distinct, complete, taken⟩⟩

/-- The lenient reader makes of a value the node that the value has the shape of, if the node has a
class. -/
theorem ofJson_of_shaped (shaped : Shaped value node) (filled : node.classType ≠ "") :
    Node.ofJson value = .ok node := by
  obtain ⟨⟨members, rfl, -⟩, classType, inputs, outputs, info⟩ := shaped
  have class_read : readClass (.object members) = .ok node.classType :=
    readClass_of_named classType filled
  have inputs_read : readInputs (.object members) = .ok node.inputs := by
    unfold readInputs
    generalize Json.field? "inputs" (.object members) = member at inputs
    generalize node.inputs = read at inputs
    cases inputs <;> rfl
  have outputs_read : readOutputs (.object members) = node.outputs := by
    unfold readOutputs
    generalize Json.field? "outputs" (.object members) = member at outputs
    generalize node.outputs = read at outputs
    cases outputs with
    | absent => rfl
    | texts => exact (List.map_map ..).trans (List.map_id _)
  have info_read : readInfo (.object members) = node.info := by
    unfold readInfo
    generalize Json.field? "_meta" (.object members) = member at info
    generalize node.info = read at info
    cases info with
    | absent => rfl
    | null => rfl
    | read taken => exact toOption_eq_some_iff.mpr taken
  rw [ofJson, class_read, inputs_read, outputs_read, info_read]
  rfl

/-- Of a value that has a class, the strict reader makes the node that the lenient one makes of it,
as long as the value has the shape of a node at all. -/
theorem read_eq_ok_iff (classed : Classed value) :
    Node.read value = .ok node ↔ Node.ofJson value = .ok node ∧ ∃ other, Shaped value other := by
  obtain ⟨classType, named, filled⟩ := classed
  cases value with
  | object members =>
    have lenient {other : Node} (shaped : Shaped (.object members) other) :
        Node.ofJson (.object members) = .ok other := by
      refine ofJson_of_shaped shaped ?_
      obtain rfl := Json.string.inj (Option.some.inj (named.symm.trans shaped.classType))
      exact filled
    constructor
    · intro read
      have shaped := shaped_of_read read
      exact ⟨lenient shaped, node, shaped⟩
    · rintro ⟨taken, other, shaped⟩
      -- the strict reader makes some node of it, and that is what the lenient one makes
      obtain ⟨made, read⟩ := exists_read_of_shaped shaped
      have same := lenient (shaped_of_read read)
      rw [taken] at same
      cases same
      exact read
  | _ => contradiction

end Node

namespace Graph

variable {fields : List (String × Json)} {graph : Graph}

theorem read_object_eq_ok_iff_entered : read (.object fields) = .ok graph ↔
    ∃ entries, Entered Node.read fields entries ∧ ⟨.ofList entries⟩ = graph := by
  have nodes : read (.object fields) = .ok graph ↔ _ := map_eq_ok_iff
  rw [nodes]
  simp only [Legible.mapOf_object_eq_ok_iff]
  constructor
  · rintro ⟨_, ⟨entries, each, rfl⟩, rfl⟩
    exact ⟨entries, each, rfl⟩
  · rintro ⟨entries, each, rfl⟩
    exact ⟨_, ⟨entries, each, rfl⟩, rfl⟩

theorem entered_iff (classed : ∀ field ∈ fields, Node.Classed field.2)
    {entries : List (String × Node)} : Entered Node.read fields entries ↔
      Entered Node.ofJson fields entries ∧ ∀ field ∈ fields, ∃ node, Node.Shaped field.2 node := by
  constructor
  · intro each
    have all := (List.forall₂_and_left fields entries).mpr ⟨classed, each⟩
    rw [and_comm, Entered, ← List.forall₂_and_left]
    refine all.imp ?_
    rintro field entry ⟨classed, same, read⟩
    obtain ⟨taken, shaped⟩ := (Node.read_eq_ok_iff classed).mp read
    exact ⟨shaped, same, taken⟩
  · rintro ⟨each, shaped⟩
    have all := (List.forall₂_and_left fields entries).mpr
      ⟨fun field member => And.intro (classed field member) (shaped field member), each⟩
    refine all.imp ?_
    rintro field entry ⟨⟨classed, shaped⟩, same, taken⟩
    exact ⟨same, (Node.read_eq_ok_iff classed).mpr ⟨taken, shaped⟩⟩

/-- Where every node has a class, the strict reader takes just those documents whose nodes have
their shape, and makes of them the graph that the lenient reader makes. -/
theorem read_object_eq_ok_iff (classed : ∀ field ∈ fields, Node.Classed field.2) :
    read (.object fields) = .ok graph ↔ ofJson (.object fields) = .ok graph ∧
      ∀ field ∈ fields, ∃ node, Node.Shaped field.2 node := by
  rw [read_object_eq_ok_iff_entered, ofJson, ofFields_eq_ok_iff, ← exists_and_right]
  simp only [entered_iff classed, and_right_comm]

/-- Nodes with members of every shape that the strict reader takes. -/
def motley : List (String × Json) := [
  ("5", .object [("class_type", .string "KSampler"),
    ("inputs", .object [("model", .array [.string "4", .ofWord 0]), ("steps", .ofWord 20),
      ("latent", .array [.string "4", .ofWord 4294967296])]),
    ("outputs", .array [.string "LATENT"]),
    ("_meta", .object [("pos", .null), ("title", .string "Sampler"), ("repository", .null),
      ("packages", .array [.string "torch"])]),
    ("mode", .ofWord 2)]),
  ("4", .object [("_meta", .null), ("class_type", .string "CheckpointLoaderSimple")])]

/-- The graph that `motley` stands for. -/
def motleyGraph : Graph := ⟨.ofList [
  ("5", ⟨"KSampler", .ofList [("model", .wired ⟨"4", 0⟩), ("steps", .constant (.ofWord 20)),
      ("latent", .constant (.array [.string "4", .ofWord 4294967296]))],
    ["LATENT"], some ⟨some "Sampler", none, none, ["torch"], .ofList [("pos", .null)]⟩⟩),
  ("4", .ofClass "CheckpointLoaderSimple")]⟩

theorem read_motley : (∀ field ∈ motley, Node.Classed field.2) ∧
    read (.object motley) = .ok motleyGraph ∧ ofJson (.object motley) = .ok motleyGraph := by
  have classed : ∀ field ∈ motley, Node.Classed field.2 := by
    simp only [motley, List.forall_mem_cons, List.not_mem_nil, false_imp_iff, implies_true,
      and_true]
    exact ⟨⟨"KSampler", rfl, by simp⟩, ⟨"CheckpointLoaderSimple", rfl, by simp⟩⟩
  have taken : read (.object motley) = .ok motleyGraph := by rfl
  exact ⟨classed, taken, ((read_object_eq_ok_iff classed).mp taken).1⟩

end Graph

end Flowgraph
