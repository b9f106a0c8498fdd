import Flowgraph.Proofs.Graph.RoundTrip
import Flowgraph.Proofs.Json.Unrepeated

/-!
# The grammar of graph documents

A graph document is an object of nodes. A node has to be an object with a class type, and its inputs
an object, unless they are left out; everything else may be there in any shape or be missing. The
first node that is written otherwise is the one that the document is refused for.

Main result: `Workflow.ofJson_of_graph`.
-/
namespace Flowgraph

open List (Forall₂)

/-- The input that a value of a document stands for. -/
inductive Input.Written : Json → Input → Prop
  | wired (node : String) (slot : UInt64) (small : slot.toNat < UInt32.size) :
      Written (.array [.string node, .number (.natural slot)]) (.wired ⟨node, slot.toUInt32⟩)
  | constant (value : Json) (other : ∀ node (slot : UInt64), slot.toNat < UInt32.size →
      value ≠ .array [.string node, .number (.natural slot)]) : Written value (.constant value)

theorem Input.written_ofJson (value : Json) : Written value (ofJson value) := by
  cases read : Source.ofJson? value with
  | some source =>
    have wired : ofJson value = .wired source := by rw [ofJson, read]
    rw [wired]
    unfold Source.ofJson? at read
    split at read
    · next node slot =>
      split at read
      · next small =>
        cases read
        exact .wired node slot small
      · contradiction
    · contradiction
  | none =>
    have constant : ofJson value = .constant value := by rw [ofJson, read]
    rw [constant]
    refine .constant value fun node slot small same => ?_
    have wired : Source.ofJson? value = some ⟨node, slot.toUInt32⟩ := by
      rw [same, Source.ofJson?]
      exact if_pos small
    rw [read] at wired
    contradiction

namespace Node

/-- The fields of the inputs that a node gives, which may be left out or null. -/
inductive GivesInputs : Option Json → List (String × Json) → Prop
  | absent : GivesInputs none []
  | null : GivesInputs (some .null) []
  | object (fields : List (String × Json)) : GivesInputs (some (.object fields)) fields

/-- A value is written as a node has to be, with a class type and with the fields of its inputs. -/
structure Written (value : Json) (classType : String) (inputs : List (String × Json)) : Prop where
  record : ∃ fields, value = .object fields
  named : value.field? "class_type" = some (.string classType)
  filled : classType ≠ ""
  gives : GivesInputs (value.field? "inputs") inputs

/-- What is wrong with a value that is not written as a node has to be. -/
inductive Defective : Json → NodeDefect → Prop
  | noObject {value : Json} (other : ∀ fields, value ≠ .object fields) : Defective value .noObject
  | classMissing {fields : List (String × Json)}
      (missing : Entries.find? "class_type" fields = none) :
      Defective (.object fields) .classMissing
  | classEmpty {fields : List (String × Json)}
      (empty : Entries.find? "class_type" fields = some (.string "")) :
      Defective (.object fields) .classEmpty
  | classNoText {fields : List (String × Json)} {classType : Json}
      (found : Entries.find? "class_type" fields = some classType)
      (other : ∀ text, classType ≠ .string text) : Defective (.object fields) .classNoText
  | inputsNoObject {fields : List (String × Json)} {classType : String} {inputs : Json}
      (named : Entries.find? "class_type" fields = some (.string classType))
      (filled : classType ≠ "")
      (found : Entries.find? "inputs" fields = some inputs) (there : inputs ≠ .null)
      (other : ∀ inner, inputs ≠ .object inner) : Defective (.object fields) .inputsNoObject

variable {value : Json} {classType : String} {inputs : List (String × Json)} {defect : NodeDefect}

theorem readClass_of_named (named : value.field? "class_type" = some (.string classType))
    (filled : classType ≠ "") : readClass value = .ok classType := by
  rw [readClass, named]
  exact if_neg filled

theorem readInputs_of_gives (gives : GivesInputs (value.field? "inputs") inputs) :
    readInputs value = .ok (.ofList (inputs.map fun field => (field.1, Input.ofJson field.2))) := by
  unfold readInputs
  generalize value.field? "inputs" = member at gives
  cases gives <;> rfl

theorem ofJson_of_written (written : Written value classType inputs) :
    ofJson value = .ok ⟨classType,
      .ofList (inputs.map fun field => (field.1, Input.ofJson field.2)), readOutputs value,
      readInfo value⟩ := by
  obtain ⟨⟨fields, rfl⟩, named, filled, gives⟩ := written
  rw [ofJson, readClass_of_named named filled, readInputs_of_gives gives]
  rfl

theorem ofJson_of_defective (defective : Defective value defect) :
    ofJson value = .error defect := by
  cases defective with
  | noObject other =>
    cases value with
    | object fields => exact absurd rfl (other fields)
    | _ => rfl
  | @classMissing fields missing =>
    have refused : readClass (.object fields) = .error .classMissing := by
      rw [readClass, Json.field?, missing]
    rw [ofJson, refused]
    rfl
  | @classEmpty fields empty =>
    have refused : readClass (.object fields) = .error .classEmpty := by
      rw [readClass, Json.field?, empty]
      rfl
    rw [ofJson, refused]
    rfl
  | @classNoText fields classType found other =>
    have refused : readClass (.object fields) = .error .classNoText := by
      rw [readClass, Json.field?, found]
      cases classType with
      | string text => exact absurd rfl (other text)
      | _ => rfl
    rw [ofJson, refused]
    rfl
  | @inputsNoObject fields classType inputs named filled found there other =>
    have refused : readInputs (.object fields) = .error .inputsNoObject := by
      rw [readInputs, Json.field?, found]
      cases inputs with
      | object inner => exact absurd rfl (other inner)
      | null => exact absurd rfl there
      | _ => rfl
    have taken : readClass (.object fields) = .ok classType := readClass_of_named named filled
    rw [ofJson, taken, refused]
    rfl

theorem gives_or_other (member : Option Json) : (∃ inputs, GivesInputs member inputs) ∨
    ∃ inputs, member = some inputs ∧ inputs ≠ .null ∧ ∀ inner, inputs ≠ .object inner := by
  cases member with
  | none => exact .inl ⟨[], .absent⟩
  | some inputs =>
    cases inputs with
    | null => exact .inl ⟨[], .null⟩
    | object inner => exact .inl ⟨inner, .object inner⟩
    | _ => exact .inr ⟨_, rfl, nofun, nofun⟩

theorem written_or_defective (value : Json) :
    (∃ classType inputs, Written value classType inputs) ∨ ∃ defect, Defective value defect := by
  cases value with
  | object fields =>
    cases named : Entries.find? "class_type" fields with
    | none => exact .inr ⟨_, .classMissing named⟩
    | some classType =>
      cases classType with
      | string classType =>
        by_cases empty : classType = ""
        · exact .inr ⟨_, .classEmpty (empty ▸ named)⟩
        · rcases gives_or_other (Entries.find? "inputs" fields) with
            ⟨inputs, gives⟩ | ⟨inputs, found, there, other⟩
          · exact .inl ⟨classType, inputs, ⟨fields, rfl⟩, named, empty, gives⟩
          · exact .inr ⟨_, .inputsNoObject named empty found there other⟩
      | _ => exact .inr ⟨_, .classNoText named nofun⟩
  | _ => exact .inr ⟨_, .noObject nofun⟩

theorem exists_ofJson_iff :
    (∃ node, ofJson value = .ok node) ↔ ∃ classType inputs, Written value classType inputs := by
  constructor
  · rintro ⟨node, read⟩
    refine (written_or_defective value).resolve_right ?_
    rintro ⟨defect, defective⟩
    rw [ofJson_of_defective defective] at read
    contradiction
  · rintro ⟨classType, inputs, written⟩
    exact ⟨_, ofJson_of_written written⟩

theorem ofJson_eq_error_iff : ofJson value = .error defect ↔ Defective value defect := by
  refine ⟨fun refused => ?_, ofJson_of_defective⟩
  rcases written_or_defective value with ⟨classType, inputs, written⟩ | ⟨other, defective⟩
  · rw [ofJson_of_written written] at refused
    contradiction
  · rw [ofJson_of_defective defective] at refused
    cases refused
    exact defective

/-- A node has the class type of the value that it is read from, and the inputs in the order of
their fields, each of them as its field is written. -/
def ReadFrom (value : Json) (node : Node) : Prop :=
  ∃ inputs, Written value node.classType inputs ∧ Forall₂ (fun field entry =>
    entry.1 = field.1 ∧ Input.Written field.2 entry.2) inputs node.inputs.entries

theorem readFrom_of_ofJson {node : Node} (unrepeated : value.Unrepeated)
    (read : ofJson value = .ok node) : ReadFrom value node := by
  obtain ⟨classType, inputs, written⟩ := exists_ofJson_iff.mp ⟨node, read⟩
  rw [ofJson_of_written written] at read
  cases read
  refine ⟨inputs, written, ?_⟩
  -- the fields of the inputs are those of an object inside the value, so no name comes twice
  have distinct : (inputs.map Prod.fst).Nodup := by
    obtain ⟨⟨fields, rfl⟩, -, -, gives⟩ := written
    obtain ⟨-, each⟩ := Json.unrepeated_object_iff.mp unrepeated
    generalize held : Json.field? "inputs" (.object fields) = member at gives
    cases gives with
    | absent => exact List.nodup_nil
    | null => exact List.nodup_nil
    | object inner => exact (Json.unrepeated_object_iff.mp (each _ (Entries.mem_of_find? held))).1
  have entries : (Keyed.ofList (inputs.map fun field => (field.1, Input.ofJson field.2))).entries =
      inputs.map fun field => (field.1, Input.ofJson field.2) := by
    apply Keyed.entries_ofList
    rw [List.map_map]
    exact distinct
  rw [entries, List.forall₂_map_right_iff, List.forall₂_same]
  exact fun field _ => ⟨rfl, Input.written_ofJson field.2⟩

end Node

namespace Graph

/-- What a graph document is refused for. -/
inductive Refused : Json → Refusal → Prop
  | noObject {document : Json} (other : ∀ fields, document ≠ .object fields) :
      Refused document (.malformed .noObject)
  | empty : Refused (.object []) .emptyGraph
  /-- The nodes before the first defective one are as they have to be. -/
  | node {before after : List (String × Json)} {field : String × Json} {defect : NodeDefect}
      (earlier : ∀ other ∈ before, ∃ classType inputs, Node.Written other.2 classType inputs)
      (defective : Node.Defective field.2 defect) :
      Refused (.object (before ++ field :: after)) (.invalidNode field.1 defect)

variable {fields : List (String × Json)} {graph : Graph}

/-- What a field that is no node is refused for. -/
def fault? (field : String × Json) : Option Refusal :=
  match Node.ofJson field.2 with
  | .ok _ => none
  | .error defect => some (.invalidNode field.1 defect)

theorem fault?_eq_none_iff {field : String × Json} :
    fault? field = none ↔ ∃ classType inputs, Node.Written field.2 classType inputs := by
  rw [← Node.exists_ofJson_iff, fault?]
  cases Node.ofJson field.2 <;> simp

theorem fault?_eq_some_iff {field : String × Json} {refusal : Refusal} :
    fault? field = some refusal ↔
      ∃ defect, Node.Defective field.2 defect ∧ refusal = .invalidNode field.1 defect := by
  simp only [← Node.ofJson_eq_error_iff]
  rw [fault?]
  cases Node.ofJson field.2 <;> simp [eq_comm]

/-- Takes a field into a graph, as long as it is a node. -/
def addField (graph : Graph) (field : String × Json) : Except Refusal Graph :=
  match Node.ofJson field.2 with
  | .ok node => .ok (graph.insert field.1 node)
  | .error defect => .error (.invalidNode field.1 defect)

theorem ofFields_eq (fields : List (String × Json)) :
    ofFields fields = fields.foldlM addField empty :=
  rfl

theorem addField_eq_error_iff {before : Graph} {field : String × Json} {refusal : Refusal} :
    before.addField field = .error refusal ↔ fault? field = some refusal := by
  rw [addField, fault?]
  cases Node.ofJson field.2 <;> simp

theorem addField_eq_ok_iff {before after : Graph} {field : String × Json} :
    before.addField field = .ok after ↔
      ∃ node, Node.ofJson field.2 = .ok node ∧ before.insert field.1 node = after := by
  rw [addField]
  cases Node.ofJson field.2 <;> simp

theorem ofFields_eq_error_iff {refusal : Refusal} :
    ofFields fields = .error refusal ↔ fields.findSome? fault? = some refusal := by
  rw [ofFields_eq]
  refine foldlM_eq_error_iff ?_
  intro graph field refusal
  exact addField_eq_error_iff

theorem exists_ofFields_iff : (∃ graph, ofFields fields = .ok graph) ↔
    ∀ field ∈ fields, ∃ classType inputs, Node.Written field.2 classType inputs := by
  have unrefused : (∃ graph, ofFields fields = .ok graph) ↔ fields.findSome? fault? = none := by
    rw [Option.eq_none_iff_forall_ne_some]
    simp only [ne_eq, ← ofFields_eq_error_iff]
    cases ofFields fields <;> simp
  rw [unrefused, List.findSome?_eq_none_iff]
  simp only [fault?_eq_none_iff]

theorem isEmpty_insert (graph : Graph) (id : String) (node : Node) :
    (graph.insert id node).isEmpty = false := by
  have member : id ∈ (graph.insert id node).ids := by
    rw [← has_iff, has, get?, insert, Keyed.get?_insert]
    simp
  obtain ⟨entry, inside, -⟩ := List.mem_map.mp member
  exact List.isEmpty_eq_false_iff_exists_mem.mpr ⟨entry, inside⟩

theorem isEmpty_of_ofFields (read : ofFields fields = .ok graph) :
    graph.isEmpty = true ↔ fields = [] := by
  rw [ofFields_eq] at read
  cases fields with
  | nil =>
    cases read
    simp [isEmpty, Keyed.isEmpty, empty, Keyed.empty]
  | cons field rest =>
    rw [List.foldlM_cons] at read
    obtain ⟨first, taken, later⟩ := bind_eq_ok_iff.mp read
    -- a graph that a field was taken into is not empty, and the fields behind it are taken in too
    have filled {before after : Graph} {field : String × Json}
        (step : before.addField field = .ok after) : after.isEmpty = false := by
      obtain ⟨node, -, rfl⟩ := addField_eq_ok_iff.mp step
      exact isEmpty_insert ..
    have kept : graph.isEmpty = false :=
      foldlM_invariant (P := fun graph => graph.isEmpty = false)
        (fun _ _ _ _ _ step => filled step) (filled taken) later
    simp [kept]

/-- The entries are the fields, with the node that a reader makes of each value. -/
def Entered {ε : Type} (read : Json → Except ε Node) (fields : List (String × Json))
    (entries : List (String × Node)) : Prop :=
  Forall₂ (fun field entry => entry.1 = field.1 ∧ read field.2 = .ok entry.2) fields entries

theorem Entered.map_fst {ε : Type} {read : Json → Except ε Node} {entries : List (String × Node)}
    (entered : Entered read fields entries) : entries.map Prod.fst = fields.map Prod.fst := by
  rw [← List.forall₂_eq_eq_eq, List.forall₂_map_left_iff, List.forall₂_map_right_iff]
  exact entered.flip.imp fun _ _ both => both.1

theorem foldlM_addField_eq_ok_iff {before : Graph} :
    fields.foldlM addField before = .ok graph ↔ ∃ entries, Entered Node.ofJson fields entries ∧
      entries.foldl (fun graph entry => graph.insert entry.1 entry.2) before = graph := by
  induction fields generalizing before with
  | nil => simp [Entered, pure, Except.pure]
  | cons field rest ih =>
    rw [List.foldlM_cons, bind_eq_ok_iff]
    simp only [addField_eq_ok_iff, ih, Entered, List.forall₂_cons_left_iff]
    constructor
    · rintro ⟨_, ⟨node, made, rfl⟩, entries, each, rfl⟩
      exact ⟨(field.1, node) :: entries, ⟨_, entries, ⟨rfl, made⟩, each, rfl⟩, rfl⟩
    · rintro ⟨_, ⟨⟨_, node⟩, entries, ⟨rfl, made⟩, each, rfl⟩, rfl⟩
      exact ⟨_, ⟨node, made, rfl⟩, entries, each, rfl⟩

theorem ofFields_eq_ok_iff : ofFields fields = .ok graph ↔
    ∃ entries, Entered Node.ofJson fields entries ∧ ⟨.ofList entries⟩ = graph := by
  have inserted (entries : List (String × Node)) :
      entries.foldl (fun (graph : Graph) entry => graph.insert entry.1 entry.2) empty =
        ⟨.ofList entries⟩ := List.foldl_hom Graph.mk fun _ _ => rfl
  rw [ofFields_eq, foldlM_addField_eq_ok_iff]
  simp only [inserted]

theorem entries_of_ofFields (distinct : (fields.map Prod.fst).Nodup)
    (read : ofFields fields = .ok graph) : Entered Node.ofJson fields graph.entries := by
  obtain ⟨entries, entered, rfl⟩ := ofFields_eq_ok_iff.mp read
  have kept : (Keyed.ofList entries).entries = entries :=
    Keyed.entries_ofList (entered.map_fst ▸ distinct)
  rw [Graph.entries, kept]
  exact entered

end Graph

namespace Workflow

variable {catalogue : Catalogue} {fields : List (String × Json)}

theorem ofJson_of_other {document : Json} (other : ∀ fields, document ≠ .object fields) :
    ofJson catalogue document = .error (.malformed .noObject) := by
  cases document with
  | object fields => exact absurd rfl (other fields)
  | _ => rfl

theorem ofJson_object_of_graph (form : Form.ofJson (.object fields) = .graph) :
    ofJson catalogue (.object fields) = Graph.ofFields fields >>= fun graph =>
      if graph.isEmpty then .error .emptyGraph else .ok ⟨graph, .graph, []⟩ := by
  rw [ofJson, ofObject, form, ofForm, Graph.ofJson]
  cases Graph.ofFields fields with
  | error refusal => rfl
  | ok graph => cases empty : graph.isEmpty <;>
      simp [bind, Except.bind, Except.map, empty, pure, Except.pure]

theorem ofJson_object_eq_ok_iff {workflow : Workflow}
    (form : Form.ofJson (.object fields) = .graph) :
    ofJson catalogue (.object fields) = .ok workflow ↔ fields ≠ [] ∧
      Graph.ofFields fields = .ok workflow.graph ∧ workflow.form = .graph ∧
      workflow.dropped = [] := by
  obtain ⟨graph, format, dropped⟩ := workflow
  rw [ofJson_object_of_graph form]
  cases read : Graph.ofFields fields with
  | error refusal => simp [bind, Except.bind]
  | ok made =>
    have empty := Graph.isEmpty_of_ofFields read
    by_cases none : fields = []
    · simp [bind, Except.bind, empty.mpr none, none]
    · have filled : made.isEmpty = false := by simpa [none] using empty
      simp [bind, Except.bind, filled, none, eq_comm]

theorem ofJson_object_eq_error_iff {refusal : Refusal}
    (form : Form.ofJson (.object fields) = .graph) :
    ofJson catalogue (.object fields) = .error refusal ↔
      fields = [] ∧ refusal = .emptyGraph ∨ fields.findSome? Graph.fault? = some refusal := by
  rw [ofJson_object_of_graph form, ← Graph.ofFields_eq_error_iff]
  cases read : Graph.ofFields fields with
  | error other =>
    have filled : fields ≠ [] := by
      rintro rfl
      contradiction
    simp [bind, Except.bind, filled]
  | ok graph =>
    have empty := Graph.isEmpty_of_ofFields read
    by_cases none : fields = []
    · simp [bind, Except.bind, empty.mpr none, none, eq_comm]
    · have filled : graph.isEmpty = false := by simpa [none] using empty
      simp [bind, Except.bind, filled, none]

theorem refused_object_iff {refusal : Refusal} : Graph.Refused (.object fields) refusal ↔
    fields = [] ∧ refusal = .emptyGraph ∨ fields.findSome? Graph.fault? = some refusal := by
  rw [List.findSome?_eq_some_iff]
  simp only [Graph.fault?_eq_none_iff, Graph.fault?_eq_some_iff]
  constructor
  · intro refused
    cases refused with
    | noObject other => exact absurd rfl (other fields)
    | empty => exact .inl ⟨rfl, rfl⟩
    | node earlier defective => exact .inr ⟨_, _, _, rfl, ⟨_, defective, rfl⟩, earlier⟩
  · rintro (⟨rfl, rfl⟩ | ⟨before, field, after, rfl, ⟨defect, defective, rfl⟩, earlier⟩)
    · exact .empty
    · exact .node earlier defective

/-- A document that is no canvas document is a workflow exactly if it is an object of nodes, one at
least, that are all written as nodes have to be. The graph has them in their order; a document that
is refused is refused for being no object, for being empty, or for the first defective node. -/
theorem ofJson_of_graph (catalogue : Catalogue) {document : Json}
    (form : Form.ofJson document = .graph) :
    ((∃ workflow, ofJson catalogue document = .ok workflow) ↔
      ∃ fields, document = .object fields ∧ fields ≠ [] ∧
        ∀ field ∈ fields, ∃ classType inputs, Node.Written field.2 classType inputs) ∧
    (∀ fields workflow, document = .object fields → document.Unrepeated →
      ofJson catalogue document = .ok workflow → workflow.form = .graph ∧
        workflow.dropped = [] ∧ Forall₂ (fun field entry =>
          entry.1 = field.1 ∧ Node.ReadFrom field.2 entry.2) fields workflow.graph.entries) ∧
    (∀ refusal, ofJson catalogue document = .error refusal ↔ Graph.Refused document refusal) := by
  by_cases object : ∃ fields, document = .object fields
  · obtain ⟨fields, rfl⟩ := object
    refine ⟨?_, ?_, ?_⟩
    · simp only [ofJson_object_eq_ok_iff form, Json.object.injEq, exists_eq_left',
        ← Graph.exists_ofFields_iff]
      constructor
      · rintro ⟨workflow, filled, read, -, -⟩
        exact ⟨filled, workflow.graph, read⟩
      · rintro ⟨filled, graph, read⟩
        exact ⟨⟨graph, .graph, []⟩, filled, read, rfl, rfl⟩
    · rintro _ workflow ⟨⟩ unrepeated read
      obtain ⟨-, taken, format, dropped⟩ := (ofJson_object_eq_ok_iff form).mp read
      refine ⟨format, dropped, ?_⟩
      obtain ⟨distinct, inside⟩ := Json.unrepeated_object_iff.mp unrepeated
      have each := (List.forall₂_and_left _ _).mpr
        ⟨inside, Graph.entries_of_ofFields distinct taken⟩
      exact each.imp fun field entry ⟨inside, same, made⟩ =>
        ⟨same, Node.readFrom_of_ofJson inside made⟩
    · intro refusal
      rw [ofJson_object_eq_error_iff form, refused_object_iff]
  · have other : ∀ fields, document ≠ .object fields := not_exists.mp object
    rw [ofJson_of_other other]
    refine ⟨by simp [other], fun fields _ same => absurd same (other fields), fun refusal => ?_⟩
    rw [Except.error.injEq]
    constructor
    · rintro rfl
      exact .noObject other
    · intro refused
      cases refused with
      | noObject => rfl
      | empty => exact absurd rfl (other _)
      | node => exact absurd rfl (other _)

/-- A graph document with one input just inside and one just outside the range of slots. -/
def ranged : Json := .object [
  ("5", .object [("class_type", .string "ImageCrop"), ("outputs", .null),
    ("inputs", .object [("image", .array [.string "2", .ofWord 4294967295]),
      ("crop", .array [.string "2", .ofWord 4294967296])])]),
  ("2", .object [("class_type", .string "LoadImage"), ("inputs", .null)])]

/-- A graph document whose second and third nodes are none. -/
def halfWritten : Json := .object [
  ("5", .object [("class_type", .string "ImageCrop")]),
  ("2", .object [("class_type", .string "LoadImage"), ("inputs", .array [])]),
  ("3", .string "SaveImage")]

theorem ofJson_of_graph_ranged : Form.ofJson ranged = .graph ∧ ranged.Unrepeated ∧
    (∃ workflow, ofJson .empty ranged = .ok workflow ∧ workflow.graph.ids = ["5", "2"] ∧
      ∃ fields, ranged = .object fields ∧ Forall₂ (fun field entry =>
        entry.1 = field.1 ∧ Node.ReadFrom field.2 entry.2) fields workflow.graph.entries) ∧
    ofJson .empty halfWritten = .error (.invalidNode "2" .inputsNoObject) := by
  have unrepeated : ranged.Unrepeated := by
    simp [ranged, Json.unrepeated_object_iff, Json.unrepeated_array_iff, Json.Unrepeated.null,
      Json.Unrepeated.string, Json.Unrepeated.number, Json.ofWord]
  have read : ofJson .empty ranged = .ok _ := rfl
  obtain ⟨-, entries, -⟩ := ofJson_of_graph .empty (show Form.ofJson ranged = .graph from rfl)
  obtain ⟨-, -, refused⟩ := ofJson_of_graph .empty (show Form.ofJson halfWritten = .graph from rfl)
  obtain ⟨-, -, each⟩ := entries _ _ rfl unrepeated read
  have earlier : ∀ field ∈ [("5", Json.object [("class_type", .string "ImageCrop")])],
      ∃ classType inputs, Node.Written field.2 classType inputs :=
    List.forall_mem_singleton.mpr ⟨_, _, ⟨_, rfl⟩, rfl, by decide, .absent⟩
  refine ⟨rfl, unrepeated, ⟨_, read, rfl, _, rfl, each⟩, (refused _).mpr (.node earlier ?_)⟩
  refine .inputsNoObject rfl (by decide) rfl ?_ ?_
  · rintro ⟨⟩
  · rintro fields ⟨⟩

end Workflow

end Flowgraph
