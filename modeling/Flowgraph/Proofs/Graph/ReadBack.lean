import Flowgraph.Graph.Printer
import Flowgraph.Proofs.Keyed
import Flowgraph.Proofs.Keyed.Latest
import Flowgraph.Proofs.Workflow

/-!
# Reading back what a graph is written as

Reading gives back every part of a graph that was written, with one exception: a constant that looks
as a wired input is written comes back wired. A graph that was read has no such constant.

Main result: `Graph.ofJson_toJson` and `Graph.ofJson_reread`.
-/
namespace Flowgraph

theorem Source.ofJson?_eq_some_iff {value : Json} {source : Source} :
    Source.ofJson? value = some source ↔ value = source.toJson := by
  constructor
  · intro read
    unfold Source.ofJson? at read
    split at read
    · next node slot =>
      split at read
      · next small =>
        obtain rfl := Option.some.inj read
        -- cut to 32 bits and back, a number this small is the same word
        have word : slot.toUInt32.toUInt64 = slot := by
          apply UInt64.toNat.inj
          rw [UInt32.toNat_toUInt64, UInt64.toNat_toUInt32]
          exact Nat.mod_eq_of_lt small
        rw [Source.toJson, Json.ofSlot, Json.ofWord, word]
      · contradiction
    · contradiction
  · rintro rfl
    have small : source.slot.toNat < UInt32.size := source.slot.toNat_lt_size
    simp [Source.toJson, Source.ofJson?, Json.ofSlot, Json.ofWord, small]

theorem Source.toJson_inj {source other : Source} :
    source.toJson = other.toJson ↔ source = other := by
  constructor
  · intro same
    have read : Source.ofJson? source.toJson = some other := Source.ofJson?_eq_some_iff.mpr same
    rw [Source.ofJson?_eq_some_iff.mpr rfl] at read
    exact Option.some.inj read
  · rintro rfl
    rfl

namespace Input

variable {input : Input} {value kept : Json} {source : Source}

theorem ofJson_eq_wired_iff : ofJson value = wired source ↔ value = source.toJson := by
  rw [← Source.ofJson?_eq_some_iff, ofJson]
  cases Source.ofJson? value <;> simp

theorem ofJson_eq_constant_iff :
    ofJson value = constant kept ↔ value = kept ∧ ∀ source : Source, kept ≠ source.toJson := by
  constructor
  · intro read
    have unwired : ∀ source : Source, value ≠ source.toJson := by
      intro source same
      rw [ofJson_eq_wired_iff.mpr same] at read
      contradiction
    unfold ofJson at read
    split at read
    · contradiction
    · obtain rfl := constant.inj read
      exact ⟨rfl, unwired⟩
  · rintro ⟨rfl, unwired⟩
    have none : Source.ofJson? value = none := by
      rw [Option.eq_none_iff_forall_ne_some]
      exact fun source read => unwired source (Source.ofJson?_eq_some_iff.mp read)
    rw [ofJson, none]

/-- The input that comes back when an input is written and read. -/
def reread (input : Input) : Input := ofJson input.toJson

theorem reread_eq_wired_iff :
    input.reread = wired source ↔ input = wired source ∨ input = constant source.toJson := by
  rw [reread, ofJson_eq_wired_iff]
  cases input <;> simp [toJson, Source.toJson_inj]

theorem reread_eq_constant_iff :
    input.reread = constant value ↔
      input = constant value ∧ ∀ source : Source, value ≠ source.toJson := by
  rw [reread, ofJson_eq_constant_iff]
  cases input with
  | wired source =>
    -- what a wired input is written as is no constant
    simp only [toJson, reduceCtorEq, false_and, iff_false, not_and]
    rintro rfl unwired
    exact unwired source rfl
  | constant kept => simp [toJson]

theorem reread_eq_self_iff :
    input.reread = input ↔ ∀ source : Source, input ≠ constant source.toJson := by
  cases input with
  | wired source => simp [reread_eq_wired_iff]
  | constant value => simp [reread_eq_constant_iff]

end Input

namespace NodeInfo

/-- No field of the information's own is kept among the others. -/
def Foreign (info : NodeInfo) : Prop :=
  ∀ name ∈ info.extra.keys, name ∉ ["title", "repository", "commit", "packages"]

theorem foreign_blank : blank.Foreign := by
  intro name member
  contradiction

theorem Foreign.readField {info next : NodeInfo} {name : String} {value : Json}
    (foreign : info.Foreign) (read : info.readField name value = .ok next) : next.Foreign := by
  unfold NodeInfo.readField at read
  dsimp only at read
  split at read
  case h_5 title repository commit packages =>
    cases read
    intro other member
    rw [Keyed.keys_insert] at member
    split at member
    · exact foreign other member
    · rcases List.mem_append.mp member with old | new
      · exact foreign other old
      · obtain rfl := List.mem_singleton.mp new
        simp only [List.mem_cons, List.not_mem_nil, or_false, not_or]
        exact ⟨title, repository, commit, packages⟩
  -- a field of its own sets its part and leaves the others alone
  all_goals
    obtain ⟨part, -, rfl⟩ := map_eq_ok_iff.mp read
    exact foreign

theorem foreign_of_read {value : Json} {info : NodeInfo} (read : NodeInfo.read value = .ok info) :
    info.Foreign := by
  cases value with
  | object fields =>
    exact foldlM_invariant (fun info field next _ foreign step => foreign.readField step)
      foreign_blank read
  | _ => contradiction

theorem readField_of_not_mem {name : String} (info : NodeInfo) (value : Json)
    (other : name ∉ ["title", "repository", "commit", "packages"]) :
    info.readField name value = .ok { info with extra := info.extra.insert name value } := by
  unfold NodeInfo.readField
  dsimp only
  split
  case h_5 => rfl
  all_goals simp at other

theorem foldlM_readField_others {fields : List (String × Json)}
    (others : ∀ field ∈ fields, field.1 ∉ ["title", "repository", "commit", "packages"])
    (info : NodeInfo) : fields.foldlM (fun info field => info.readField field.1 field.2) info =
      .ok { info with
        extra := fields.foldl (fun extra field => extra.insert field.1 field.2) info.extra } := by
  induction fields generalizing info with
  | nil => rfl
  | cons field rest ih =>
    rw [List.foldlM_cons, readField_of_not_mem info field.2 (others field List.mem_cons_self)]
    exact ih (fun field member => others field (List.mem_cons_of_mem _ member)) _

theorem toJson_eq (title repository commit : Option String) (packages : List String)
    (extra : Keyed Json) : toJson ⟨title, repository, commit, packages, extra⟩ =
      .object ((title.map fun text => ("title", Json.string text)).toList
        ++ (repository.map fun text => ("repository", Json.string text)).toList
        ++ (commit.map fun text => ("commit", Json.string text)).toList
        ++ (if packages.isEmpty then [] else [("packages", .array (packages.map .string))])
        ++ extra.entries) := by
  cases title <;> cases repository <;> cases commit <;> rfl

theorem read_toJson {info : NodeInfo} (foreign : info.Foreign) :
    NodeInfo.read info.toJson = .ok info := by
  obtain ⟨title, repository, commit, packages, extra⟩ := info
  have kept : Legible.readFields readField ⟨title, repository, commit, packages, .empty⟩
      extra.entries = .ok ⟨title, repository, commit, packages, extra⟩ := by
    have others := foldlM_readField_others
      (fun field member => foreign field.1 (List.mem_map_of_mem member))
      ⟨title, repository, commit, packages, .empty⟩
    have inserted : extra.entries.foldl (fun extra field => extra.insert field.1 field.2) .empty =
        extra := extra.ofList_entries
    rw [inserted] at others
    exact others
  clear foreign
  -- each stretch of what is written sets one part of the information
  have titled : Legible.readFields readField blank
      (title.map fun text => ("title", Json.string text)).toList =
        .ok ⟨title, none, none, [], .empty⟩ := by
    cases title <;> rfl
  have housed : Legible.readFields readField ⟨title, none, none, [], .empty⟩
      (repository.map fun text => ("repository", Json.string text)).toList =
        .ok ⟨title, repository, none, [], .empty⟩ := by
    cases repository <;> rfl
  have fixed : Legible.readFields readField ⟨title, repository, none, [], .empty⟩
      (commit.map fun text => ("commit", Json.string text)).toList =
        .ok ⟨title, repository, commit, [], .empty⟩ := by
    cases commit <;> rfl
  have packed : Legible.readFields readField ⟨title, repository, commit, [], .empty⟩
      (if packages.isEmpty then [] else [("packages", .array (packages.map .string))]) =
        .ok ⟨title, repository, commit, packages, .empty⟩ := by
    refine Legible.readFields_listField (by rintro rfl; rfl) ?_
    have all : Legible.texts (Json.array (packages.map .string)) = .ok packages :=
      Legible.listOf_array fun _ _ => rfl
    rw [readField, all]
    rfl
  rw [toJson_eq]
  exact foldlM_append_eq_ok (foldlM_append_eq_ok (foldlM_append_eq_ok
    (foldlM_append_eq_ok titled housed) fixed) packed) kept

end NodeInfo

namespace Node

/-- A node that can be read: it has a class type, and its information is `NodeInfo.Foreign`. -/
structure Readable (node : Node) : Prop where
  classType : node.classType ≠ ""
  info : ∀ info, node.info = some info → info.Foreign

/-- The node that comes back when a node is written and read. -/
def reread (node : Node) : Node := { node with inputs := node.inputs.map Input.reread }

theorem readClass_toJson {node : Node} (readable : node.Readable) :
    readClass node.toJson = .ok node.classType := by
  have field : node.toJson.field? "class_type" = some (.string node.classType) := rfl
  rw [readClass, field]
  simp [readable.classType]

theorem readInputs_toJson (node : Node) :
    readInputs node.toJson = .ok (node.inputs.map Input.reread) := by
  have field : node.toJson.field? "inputs" = some (.object
      (node.inputs.entries.map fun entry => (entry.1, entry.2.toJson))) := rfl
  rw [readInputs, field]
  dsimp only
  rw [List.map_map, ← Keyed.ofList_map_entries]
  rfl

theorem readOutputs_toJson (node : Node) : readOutputs node.toJson = node.outputs := by
  obtain ⟨classType, inputs, outputs, info⟩ := node
  cases outputs with
  | nil => cases info <;> rfl
  | cons first rest =>
    have names : ((first :: rest).map Json.string).map outputName = first :: rest := by
      rw [List.map_map]
      exact List.map_id _
    exact names

theorem readInfo_toJson {node : Node} (readable : node.Readable) :
    readInfo node.toJson = node.info := by
  obtain ⟨classType, inputs, outputs, info⟩ := node
  have field : (Node.mk classType inputs outputs info).toJson.field? "_meta" =
      info.map NodeInfo.toJson := by
    cases outputs <;> cases info <;> rfl
  rw [readInfo, field]
  cases info with
  | none => rfl
  | some info =>
    have read := NodeInfo.read_toJson (readable.info info rfl)
    simp [read, Except.toOption]

theorem ofJson_toJson {node : Node} (readable : node.Readable) :
    ofJson node.toJson = .ok node.reread := by
  have classType := readClass_toJson readable
  have inputs := readInputs_toJson node
  have outputs := readOutputs_toJson node
  have info := readInfo_toJson readable
  change (readClass node.toJson >>= fun classType => readInputs node.toJson >>= fun inputs =>
    pure (Node.mk classType inputs (readOutputs node.toJson) (readInfo node.toJson))) = _
  rw [classType, inputs, outputs, info]
  rfl

end Node

namespace Graph

/-- Every node of the graph can be read. -/
def Readable (graph : Graph) : Prop :=
  ∀ id node, graph.get? id = some node → node.Readable

/-- The graph that comes back when a graph is written and read. -/
def reread (graph : Graph) : Graph := ⟨graph.nodes.map Node.reread⟩

theorem ofJson_toJson {graph : Graph} (readable : graph.Readable) :
    Graph.ofJson graph.toJson = .ok graph.reread := by
  have read : Graph.ofJson graph.toJson = .ok (graph.entries.foldl
      (fun (graph : Graph) entry => graph.insert entry.1 entry.2.reread) empty) := by
    change List.foldlM _ empty (graph.entries.map fun entry => (entry.1, entry.2.toJson)) = _
    rw [List.foldlM_map]
    apply foldlM_eq_ok
    intro before entry member
    have node := Node.ofJson_toJson (readable entry.1 entry.2 (Keyed.get?_eq_some_iff.mpr member))
    simp only [node]
  have nodes : graph.entries.foldl
      (fun (graph : Graph) entry => graph.insert entry.1 entry.2.reread) empty =
        ⟨graph.entries.foldl (fun nodes entry => nodes.insert entry.1 entry.2.reread) .empty⟩ :=
    List.foldl_hom Graph.mk fun _ _ => rfl
  rw [read, nodes, reread, ← Keyed.ofList_map_entries, Keyed.ofList, List.foldl_map]
  rfl

theorem get?_reread (graph : Graph) (id : String) :
    graph.reread.get? id = (graph.get? id).map Node.reread :=
  Keyed.get?_map Node.reread graph.nodes id

theorem ids_reread (graph : Graph) : graph.reread.ids = graph.ids :=
  Keyed.keys_map Node.reread graph.nodes

theorem isEmpty_reread (graph : Graph) : graph.reread.isEmpty = graph.isEmpty := by
  rw [isEmpty, isEmpty, Keyed.isEmpty, reread, Keyed.entries_map, List.isEmpty_map]
  rfl

theorem form_toJson (graph : Graph) : Form.ofJson graph.toJson = .graph := by
  -- whatever its nodes are called, a graph is written as an object of objects
  have no_list (name : String) : Form.hasList graph.toJson name = false := by
    rw [Form.hasList]
    split
    · next value found =>
      have member : (name, value) ∈ graph.entries.map fun entry => (entry.1, entry.2.toJson) :=
        Entries.mem_of_find? found
      obtain ⟨entry, -, same⟩ := List.mem_map.mp member
      obtain ⟨-, rfl⟩ := Prod.mk.inj same
      rfl
    · rfl
  rw [Form.ofJson, no_list]
  rfl

end Graph

theorem Workflow.ofJson_toJson {graph : Graph} (catalogue : Catalogue) (readable : graph.Readable)
    (filled : graph.isEmpty = false) :
    Workflow.ofJson catalogue graph.toJson = .ok ⟨graph.reread, .graph, []⟩ := by
  have form := graph.form_toJson
  have converted : Document.convert catalogue graph.toJson = .ok (graph.reread, []) := by
    rw [Document.convert, form, Graph.ofJson_toJson readable]
    rfl
  rw [Workflow.ofJson_eq_ok_iff]
  refine ⟨⟨_, rfl⟩, converted, form.symm, graph.isEmpty_reread.trans filled, ?_⟩
  intro canvas
  contradiction

end Flowgraph
