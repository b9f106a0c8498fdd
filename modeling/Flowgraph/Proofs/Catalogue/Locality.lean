import Flowgraph.Analysis
import Flowgraph.Canvas.OfGraph
import Flowgraph.Proofs.Canvas.ToGraph
import Flowgraph.Proofs.Cleaning.Flow
import Flowgraph.Proofs.Workflow.Conversion
import Flowgraph.Requirements

/-!
# Overlays are local

A catalogue is only ever asked about the class types of the nodes at hand. So two catalogues that
know the same about these do the same with a canvas, with a graph and with a document, and an
overlay changes nothing for a document that has no node of a class that the overlay mentions.

Main result: `Catalogue.apply_local`.
-/
namespace Flowgraph

/-- The class types that an overlay says something about. -/
def Overlay.mentioned (overlay : Overlay) : List String :=
  overlay.shipped ++ overlay.specs.keys ++ overlay.relays ++ overlay.ornaments

def Canvas.classTypes (canvas : Canvas) : List String := canvas.nodes.map Canvas.Node.classType

def Graph.classTypes (graph : Graph) : List String :=
  graph.entries.map fun entry => entry.2.classType

/-- The fields of an object; other values have none. -/
def Json.fields : Json → List (String × Json)
  | .object fields => fields
  | _ => []

/-- The class types of the nodes of a document, of those that can be read. -/
def Document.classTypes (document : Json) : List String :=
  match Form.ofJson document with
  | .canvas => ((Canvas.itemsOf document "nodes").filterMap fun value =>
    (Canvas.Node.read value).toOption).map Canvas.Node.classType
  | .graph => (document.fields.filterMap fun field =>
    (Node.ofJson field.2).toOption).map Node.classType

namespace Catalogue

/-- Two catalogues know the same about a class type. -/
structure AgreeOn (catalogue other : Catalogue) (classType : String) : Prop where
  spec : catalogue.specOf? classType = other.specOf? classType
  routing : catalogue.routing classType = other.routing classType
  shipped : catalogue.isShipped classType = other.isShipped classType

theorem agreeOn_apply (catalogue : Catalogue) {overlay : Overlay} {classType : String}
    (unmentioned : classType ∉ overlay.mentioned) :
    catalogue.AgreeOn (catalogue.apply overlay) classType := by
  simp only [Overlay.mentioned, List.mem_append, not_or] at unmentioned
  obtain ⟨⟨⟨shipped, specs⟩, relays⟩, ornaments⟩ := unmentioned
  have undescribed : overlay.specs.get? classType = none := Keyed.get?_eq_none_iff.mpr specs
  constructor
  · rw [specOf?_apply, undescribed, Option.none_or]
  · rw [routing_apply]
    simp [routing, relays, ornaments]
  · rw [isShipped_apply]
    simp [shipped]

section

variable {catalogue other : Catalogue} {classType : String}

theorem AgreeOn.widgets?_eq (agree : catalogue.AgreeOn other classType) :
    catalogue.widgets? classType = other.widgets? classType := by
  rw [widgets?, widgets?, agree.spec]

theorem AgreeOn.slotName?_eq (agree : catalogue.AgreeOn other classType) (slot : Nat) :
    catalogue.slotName? classType slot = other.slotName? classType slot := by
  rw [slotName?, slotName?, agree.spec]

theorem AgreeOn.model?_eq (agree : catalogue.AgreeOn other classType) :
    catalogue.model? classType = other.model? classType := by
  rw [model?, model?, agree.spec]

theorem AgreeOn.provenance_eq (agree : catalogue.AgreeOn other classType) :
    catalogue.provenance classType = other.provenance classType := by
  rw [provenance, provenance, agree.shipped]

end

end Catalogue

namespace Canvas

variable {catalogue other : Catalogue} {canvas : Canvas}

theorem Node.inputName?_congr {node : Node} (agree : catalogue.AgreeOn other node.classType)
    (slot : Nat) : node.inputName? catalogue slot = node.inputName? other slot := by
  simp only [inputName?, agree.slotName?_eq]

theorem Node.constants_congr {node : Node} (agree : catalogue.AgreeOn other node.classType) :
    node.constants catalogue = node.constants other := by
  simp only [constants, agree.widgets?_eq]

section

variable (agree : ∀ classType ∈ canvas.classTypes, catalogue.AgreeOn other classType)
include agree

theorem landing_congr (wire : Wire) :
    landing catalogue canvas wire = landing other canvas wire := by
  unfold landing
  split
  · rfl
  · next node found =>
    -- the name of the slot is looked up for a node of the canvas
    have member : node ∈ canvas.nodes := List.mem_of_find?_eq_some found
    rw [Node.inputName?_congr (agree _ (List.mem_map_of_mem member))]

theorem toGraph_congr : canvas.toGraph catalogue = canvas.toGraph other := by
  have landings : landings catalogue canvas = landings other canvas := by
    simp only [Canvas.landings, landing_congr agree]
  have dropped : dropped catalogue canvas = dropped other canvas := by
    simp only [Canvas.dropped, landing_congr agree]
  have compiled : ∀ node ∈ canvas.nodes, node.compile catalogue (Canvas.landings other canvas) =
      node.compile other (Canvas.landings other canvas) := by
    intro node member
    simp only [Node.compile, Node.constants_congr (agree _ (List.mem_map_of_mem member))]
  have nodes := List.map_congr_left fun node member =>
    congrArg (Prod.mk node.id) (compiled node member)
  simp only [toGraph, landings, dropped, nodes]

end

theorem nodeOf_congr {node : Flowgraph.Node} (agree : catalogue.AgreeOn other node.classType)
    (links : List NumberedLink) (id : String) :
    nodeOf catalogue links id node = nodeOf other links id node := by
  simp only [nodeOf, widgetValues, agree.widgets?_eq]

theorem classTypes_toGraph (distinct : (canvas.nodes.map Node.id).Nodup) :
    (canvas.toGraph catalogue).1.classTypes = canvas.classTypes := by
  rw [Graph.classTypes, entries_toGraph catalogue distinct, List.map_map]
  rfl

theorem classTypes_of_ofJson {document : Json} (read : Canvas.ofJson document = .ok canvas)
    (form : Form.ofJson document = .canvas) : canvas.classTypes = Document.classTypes document := by
  simp only [Document.classTypes, form, classTypes, nodes_of_ofJson read]

end Canvas

namespace Graph

variable {catalogue other : Catalogue} {graph : Graph}

theorem mem_classTypes_of_get? {id : String} {node : Node} (found : graph.get? id = some node) :
    node.classType ∈ graph.classTypes :=
  List.mem_map.mpr ⟨_, Keyed.get?_eq_some_iff.mp found, rfl⟩

theorem classTypes_of_ofJson {document : Json} (read : Graph.ofJson document = .ok graph)
    (form : Form.ofJson document = .graph) :
    ∀ classType ∈ graph.classTypes, classType ∈ Document.classTypes document := by
  intro classType member
  obtain ⟨entry, inside, rfl⟩ := List.mem_map.mp member
  simp only [Document.classTypes, form]
  cases document with
  | object fields =>
    obtain ⟨value, listed, taken⟩ := exists_field_of_get? read (Keyed.get?_eq_some_iff.mpr inside)
    exact List.mem_map_of_mem (List.mem_filterMap.mpr ⟨_, listed, toOption_eq_some_iff.mpr taken⟩)
  | _ => contradiction

theorem classTypes_clean (catalogue : Catalogue) (graph : Graph) :
    ∀ classType ∈ (graph.clean catalogue).graph.classTypes, classType ∈ graph.classTypes := by
  intro classType member
  obtain ⟨⟨id, after⟩, inside, rfl⟩ := List.mem_map.mp member
  have kept : (graph.clean catalogue).graph.get? id = some after :=
    Keyed.get?_eq_some_iff.mpr inside
  obtain ⟨before, found, -⟩ := Option.bind_eq_some_iff.mp ((get?_clean id).symm.trans kept)
  have same : after.classType = before.classType := by rw [eq_of_get?_clean found kept]
  exact same ▸ mem_classTypes_of_get? found

/-- Two catalogues do the same with a graph. -/
structure TreatedAlike (catalogue other : Catalogue) (graph : Graph) : Prop where
  canvas : Canvas.ofGraph catalogue graph = Canvas.ofGraph other graph
  cleaning : graph.clean catalogue = graph.clean other
  analysis : graph.analyze catalogue = graph.analyze other
  requirements : Requirements.ofGraph catalogue graph = Requirements.ofGraph other graph

section

variable (agree : ∀ classType ∈ graph.classTypes, catalogue.AgreeOn other classType)
include agree

theorem routing?_congr (id : String) :
    graph.routing? catalogue id = graph.routing? other id := by
  rw [routing?, routing?]
  cases found : graph.get? id with
  | none => rfl
  | some node =>
    rw [Option.map_some, Option.map_some, (agree _ (mem_classTypes_of_get? found)).routing]

theorem follow_congr (fed : String) (fuel : Nat) (visited : List String) (current : String) :
    graph.follow catalogue fed fuel visited current =
      graph.follow other fed fuel visited current := by
  induction fuel generalizing visited current with
  | zero => rfl
  | succ fuel ih => simp only [follow, routing?_congr agree, ih]

theorem trace_congr (source : Source) :
    graph.trace catalogue source = graph.trace other source := by
  simp only [trace, feed, routing?_congr agree, follow_congr agree]

theorem cleanNode_congr {node : Node} (member : node.classType ∈ graph.classTypes) :
    graph.cleanNode catalogue node = graph.cleanNode other node := by
  have inputs (input : Input) :
      graph.cleanInput catalogue input = graph.cleanInput other input := by
    cases input <;> simp only [cleanInput, trace_congr agree]
  simp only [cleanNode, (agree _ member).routing, inputs]

theorem anomalies_congr : (graph.clean catalogue).anomalies = (graph.clean other).anomalies := by
  have relays : graph.unfedRelays catalogue = graph.unfedRelays other := by
    refine List.filterMap_congr fun entry member => ?_
    simp only [(agree _ (List.mem_map_of_mem member)).routing, feed, follow_congr agree]
  have links : graph.brokenLinks catalogue = graph.brokenLinks other := by
    refine List.flatMap_congr fun entry member => ?_
    simp only [(agree _ (List.mem_map_of_mem member)).routing, trace_congr agree]
  simp only [clean, relays, links]

theorem clean_congr : graph.clean catalogue = graph.clean other := by
  have nodes := Keyed.filterMap_congr fun id node (found : graph.nodes.get? id = some node) =>
    cleanNode_congr agree (mem_classTypes_of_get? found)
  have removed := List.filter_congr fun entry (member : entry ∈ graph.entries) =>
    congrArg (· != Routing.ordinary) (agree _ (List.mem_map_of_mem member)).routing
  have anomalies := anomalies_congr agree
  simp only [clean] at anomalies ⊢
  rw [nodes, removed, anomalies]

theorem modelLoaders_congr : graph.modelLoaders catalogue = graph.modelLoaders other := by
  refine List.flatMap_congr fun entry member => ?_
  simp only [(agree _ (List.mem_map_of_mem member)).model?_eq]

theorem filter_isCustom_congr :
    (graph.entries.filter fun entry => isCustom catalogue entry.2) =
      graph.entries.filter fun entry => isCustom other entry.2 := by
  refine List.filter_congr fun entry member => ?_
  rw [isCustom, isCustom, (agree _ (List.mem_map_of_mem member)).provenance_eq]

theorem analyze_congr : graph.analyze catalogue = graph.analyze other := by
  have custom := filter_isCustom_congr agree
  simp only [analyze, complexity, customTypes, custom, modelLoaders_congr agree]

theorem requirements_congr :
    Requirements.ofGraph catalogue graph = Requirements.ofGraph other graph := by
  have custom := filter_isCustom_congr agree
  simp only [Requirements.ofGraph, Requirements.modelsOf, Requirements.customClassesOf, custom,
    modelLoaders_congr agree]

theorem ofGraph_congr : Canvas.ofGraph catalogue graph = Canvas.ofGraph other graph := by
  have nodes := List.map_congr_left fun entry (member : entry ∈ graph.entries) =>
    Canvas.nodeOf_congr (agree _ (List.mem_map_of_mem member)) graph.numbered entry.1
  exact congrArg (Canvas.mk · (graph.numbered.map Canvas.wireOf)) nodes

theorem treatedAlike : graph.TreatedAlike catalogue other :=
  ⟨ofGraph_congr agree, clean_congr agree, analyze_congr agree, requirements_congr agree⟩

end

end Graph

section

variable {catalogue other : Catalogue} {document : Json}

theorem Document.classTypes_of_convert {graph : Graph} {dropped : List DroppedWire}
    (converted : convert catalogue document = .ok (graph, dropped)) :
    ∀ classType ∈ graph.classTypes, classType ∈ classTypes document := by
  unfold convert at converted
  split at converted
  · next form =>
    obtain ⟨canvas, read, made⟩ := map_eq_ok_iff.mp converted
    have graph : (canvas.toGraph catalogue).1 = graph := congrArg Prod.fst made
    rw [← graph, Canvas.classTypes_toGraph (Canvas.nodup_of_ofJson read),
      Canvas.classTypes_of_ofJson read form]
    exact fun _ member => member
  · next form =>
    obtain ⟨graph, read, made⟩ := map_eq_ok_iff.mp converted
    cases made
    exact Graph.classTypes_of_ofJson read form

variable (agree : ∀ classType ∈ Document.classTypes document, catalogue.AgreeOn other classType)
include agree

theorem Document.convert_congr : convert catalogue document = convert other document := by
  unfold convert
  split
  · next form =>
    cases read : Canvas.ofJson document with
    | error refusal => rfl
    | ok canvas =>
      rw [← Canvas.classTypes_of_ofJson read form] at agree
      exact congrArg Except.ok (Canvas.toGraph_congr agree)
  · rfl

theorem Workflow.ofJson_congr : ofJson catalogue document = ofJson other document := by
  cases document with
  | object fields => rw [ofJson, ofJson, ofObject_eq, ofObject_eq, Document.convert_congr agree]
  | _ => rfl

theorem Workflow.customTypes_congr {workflow : Workflow}
    (read : ofJson catalogue document = .ok workflow) :
    workflow.customTypes catalogue = workflow.customTypes other := by
  have converted := (ofJson_eq_ok_iff.mp read).2.1
  have shipped := List.filter_congr fun classType
      (member : classType ∈ workflow.graph.classTypes) => congrArg not
    (agree classType (Document.classTypes_of_convert converted classType member)).shipped
  exact congrArg nameSet shipped

end

/-- An overlay that mentions no class type of a document's nodes changes nothing of what is done
with the document, or with the graph that it converts to before or after cleaning. -/
theorem Catalogue.apply_local (catalogue : Catalogue) {overlay : Overlay} {document : Json}
    (unmentioned : ∀ classType ∈ Document.classTypes document, classType ∉ overlay.mentioned) :
    Workflow.ofJson catalogue document = Workflow.ofJson (catalogue.apply overlay) document ∧
    (∀ workflow, Workflow.ofJson catalogue document = .ok workflow →
      workflow.customTypes catalogue = workflow.customTypes (catalogue.apply overlay)) ∧
    Document.convert catalogue document = Document.convert (catalogue.apply overlay) document ∧
    ∀ graph dropped, Document.convert catalogue document = .ok (graph, dropped) →
      graph.TreatedAlike catalogue (catalogue.apply overlay) ∧
      (graph.clean catalogue).graph.TreatedAlike catalogue (catalogue.apply overlay) := by
  have agree : ∀ classType ∈ Document.classTypes document,
      catalogue.AgreeOn (catalogue.apply overlay) classType :=
    fun classType member => catalogue.agreeOn_apply (unmentioned classType member)
  refine ⟨Workflow.ofJson_congr agree, fun workflow => Workflow.customTypes_congr agree,
    Document.convert_congr agree, fun graph dropped converted => ?_⟩
  have classes := Document.classTypes_of_convert converted
  constructor
  · exact Graph.treatedAlike fun classType member => agree classType (classes classType member)
  · refine Graph.treatedAlike fun classType member => agree classType (classes classType ?_)
    exact graph.classTypes_clean catalogue classType member

/-- An overlay with a shipped class, a described one, a relay and an ornament. -/
def extension : Overlay :=
  ⟨["FaceLift"], .ofList [("Upscale", ⟨[⟨"factor", .stored⟩], ["image"],
    some ⟨["model_name"], "upscale_models"⟩⟩)], ["Hop"], ["Sticky"]⟩

/-- A canvas document with a relay, an ornament, a loader and a node of a custom class. -/
def threaded : Json := .object [
  ("nodes", .array [
    .object [("id", .ofWord 1), ("type", .string "VAELoader"),
      ("widgets_values", .array [.string "a.safetensors"])],
    .object [("id", .ofWord 2), ("type", .string "Reroute"),
      ("inputs", .array [.object [("name", .string "vae")]])],
    .object [("id", .ofWord 3), ("type", .string "Note")],
    .array [.ofWord 4, .string "FaceDetailer", .null,
      .array [.array [.string "image"], .array [.string "vae"]]]]),
  ("links", .array [
    .array [.ofWord 1, .ofWord 1, .ofWord 0, .ofWord 2, .ofWord 0],
    .array [.ofWord 2, .ofWord 2, .ofWord 0, .ofWord 4, .ofWord 1],
    .array [.ofWord 3, .ofWord 3, .ofWord 0, .ofWord 4, .ofWord 0],
    .array [.ofWord 4, .ofWord 1, .ofWord 0, .ofWord 4, .ofWord 2]])]

theorem apply_local_threaded :
    (∀ classType ∈ Document.classTypes threaded, classType ∉ extension.mentioned) ∧
    (Catalogue.core.apply extension).routing "Hop" = .relay ∧
    ∃ graph dropped, Document.convert .core threaded = .ok (graph, [dropped]) ∧
      Document.convert (.apply .core extension) threaded = .ok (graph, [dropped]) ∧
      graph.TreatedAlike .core (.apply .core extension) ∧
      (graph.clean .core).removed = ["2", "3"] ∧
      (graph.clean .core).graph.TreatedAlike .core (.apply .core extension) := by
  have unmentioned : ∀ classType ∈ Document.classTypes threaded,
      classType ∉ extension.mentioned := by decide
  obtain ⟨-, -, converts, alike⟩ := Catalogue.apply_local .core unmentioned
  have converted : Document.convert .core threaded = .ok _ := rfl
  obtain ⟨before, after⟩ := alike _ _ converted
  exact ⟨unmentioned, by decide, _, _, converted, converts ▸ converted, before, by decide, after⟩

end Flowgraph
