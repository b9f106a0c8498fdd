import Flowgraph.Catalogue.Core
import Flowgraph.Proofs.Analysis.Statistics
import Flowgraph.Proofs.Content.Unambiguous
import Flowgraph.Proofs.Graph.Alike
import Flowgraph.Proofs.Schedule.LeastOrder

/-!
# Analysis and the order of nodes

What is said about a graph is said alike about every graph that is alike. Sets and counts do not
depend on an order, the least node that can run is the least in any order, and the depth of a node
is that of its deepest producer. Three things follow the order of the document: which of the nodes
with the most wired inputs is named, and in which order model files and issues are listed.

Main result: `analyze_alike`.
-/
namespace Flowgraph

open Edges (Feeds)

/-- Two analyses say the same, up to the order in which model files and issues are listed and to
which of the nodes with the most wired inputs is named. -/
structure Analysis.Agrees (analysis other : Analysis) : Prop where
  fingerprint : analysis.fingerprint = other.fingerprint
  nodeCount : analysis.nodeCount = other.nodeCount
  /-- The order in which the nodes run, or what is said about a cycle. -/
  order : analysis.order = other.order
  total : analysis.connections.total = other.connections.total
  usage : analysis.connections.usage = other.connections.usage
  busiest : analysis.connections.busiest.map BusiestNode.inputs =
    other.connections.busiest.map BusiestNode.inputs
  complexity : analysis.complexity = other.complexity
  level : analysis.complexity.level = other.complexity.level
  categories : analysis.categories = other.categories
  isolated : analysis.isolated = other.isolated
  customTypes : analysis.customTypes = other.customTypes
  loaders : analysis.loaders.Perm other.loaders
  issues : analysis.issues.Perm other.issues

theorem nameSet_eq_of_perm {names others : List String} (perm : names.Perm others) :
    nameSet names = nameSet others :=
  Ascending.ofList_eq_of_mem_iff fun _ => perm.mem_iff

theorem Schedule.depths_congr {edges edges' : List Edge} (perm : edges.Perm edges')
    (order : List String) : depths edges order = depths edges' order := by
  -- of one node after the other, the deepest of its producers is the same in any order of them
  have deepest (known : List (String × Nat)) (id : String) :
      (Edges.producers edges id).foldl
          (fun depth producer => max depth ((Entries.find? producer known).getD 0)) 0 =
        (Edges.producers edges' id).foldl
          (fun depth producer => max depth ((Entries.find? producer known).getD 0)) 0 := by
    have producers : (Edges.producers edges id).Perm (Edges.producers edges' id) :=
      (perm.filter _).map _
    have commutes : RightCommutative fun (depth : Nat) (producer : String) =>
        max depth ((Entries.find? producer known).getD 0) := ⟨fun _ _ _ => Nat.max_right_comm _ _ _⟩
    exact producers.foldl_eq 0
  simp only [depths, deepest]

/-- The texts of the node that stand under names with an ending, by these names. -/
def Node.textsUnder (node : Node) (ending : String) : Keyed String :=
  node.inputs.filterMap fun name input =>
    if Category.endsWith name ending then input.constant?.bind Json.string? else none

theorem Node.texts_eq_textsUnder (node : Node) (ending : String) :
    (node.constants.filterMap fun (name, value) =>
      if Category.endsWith name ending then value.string?.map (name, ·) else none) =
    (node.textsUnder ending).entries := by
  simp only [textsUnder, constants, Keyed.filterMap, List.filterMap_filterMap]
  congr 1
  funext entry
  obtain ⟨name, input⟩ := entry
  cases input with
  | wired source => simp [Input.constant?]
  | constant value =>
    by_cases ends : Category.endsWith name ending <;> simp [Input.constant?, ends]

namespace Node.Alike

variable {node other : Node}

theorem textConstant?_eq (alike : node.Alike other) (name : String) :
    Graph.textConstant? node name = Graph.textConstant? other name := by
  have texts := alike.bind_get?_eq (fun _ _ => Input.Alike.text?_eq) name
  rwa [← Option.bind_assoc, ← Option.bind_assoc] at texts

theorem describedLoaders_eq (alike : node.Alike other) (id : String) (model : ModelSlots) :
    Graph.describedLoaders id node model = Graph.describedLoaders id other model := by
  simp only [Graph.describedLoaders, alike.textConstant?_eq, alike.classType]

theorem texts_perm (alike : node.Alike other) (ending : String) :
    (node.constants.filterMap fun (name, value) =>
      if Category.endsWith name ending then value.string?.map (name, ·) else none).Perm
    (other.constants.filterMap fun (name, value) =>
      if Category.endsWith name ending then value.string?.map (name, ·) else none) := by
  rw [texts_eq_textsUnder, texts_eq_textsUnder]
  refine Keyed.entries_perm fun name => ?_
  rw [textsUnder, textsUnder, Keyed.get?_filterMap, Keyed.get?_filterMap]
  refine alike.bind_get?_eq (fun input input' inputs => ?_) name
  rw [inputs.text?_eq]

theorem inferredLoader_eq (alike : node.Alike other) (id : String) :
    Graph.inferredLoader id node = Graph.inferredLoader id other := by
  have perm := alike.texts_perm "_name"
  simp only [Graph.inferredLoader, alike.classType]
  generalize node.constants.filterMap _ = texts, other.constants.filterMap _ = texts' at perm
  -- only a single text counts, and that has just one order
  cases texts with
  | nil => rw [List.nil_perm.mp perm]
  | cons first rest =>
    cases rest with
    | nil => rw [List.singleton_perm.mp perm]
    | cons second rest =>
      have several := perm.length_eq
      match texts' with
      | [] => simp at several
      | [_] => simp at several
      | _ :: _ :: _ => rfl

end Node.Alike

namespace Graph

/-- The most wired inputs that a node has. -/
def mostInputs (graph : Graph) : Nat :=
  (graph.entries.map fun entry => entry.2.links.length).foldl max 0

theorem inputs_busiest (graph : Graph) : graph.connectionStats.busiest.map BusiestNode.inputs =
    if graph.mostInputs = 0 then none else some graph.mostInputs := by
  have general (entries : List (String × Node)) (best : Option BusiestNode) (most : Nat)
      (same : best.map BusiestNode.inputs = if most = 0 then none else some most) :
      (entries.foldl busier best).map BusiestNode.inputs =
      let most := (entries.map fun entry => entry.2.links.length).foldl max most
      if most = 0 then none else some most := by
    -- the best node so far has as many wired inputs as any before
    induction entries generalizing best most with
    | nil => exact same
    | cons entry rest ih =>
      have count : (best.map BusiestNode.inputs).getD 0 = most := by
        rw [same]
        split
        · next zero => rw [zero]; rfl
        · rfl
      refine ih _ _ ?_
      rw [busier, count]
      split
      · next more =>
        rw [Nat.max_eq_right (Nat.le_of_lt more), if_neg (by omega), Option.map_some]
      · next less => rw [Nat.max_eq_left (Nat.not_lt.mp less), same]
  rw [connectionStats_eq]
  exact general graph.entries none 0 rfl

def idsOf (graph : Graph) (category : Category) : List String :=
  (graph.entries.filter fun entry => Category.ofClass entry.2.classType = category).map Prod.fst

theorem byCategory_eq_filterMap (graph : Graph) : graph.byCategory =
    Category.all.filterMap fun category => if (graph.idsOf category).isEmpty then none
      else some (category, nameSet (graph.idsOf category)) := by
  refine List.filterMap_congr fun category _ => ?_
  split
  · next empty => exact (if_pos (List.isEmpty_iff.mpr empty)).symm
  · next filled => exact (if_neg fun empty => filled (List.isEmpty_iff.mp empty)).symm

/-- The model files that a node names, known from the catalogue or else from its names. -/
def nodeLoaders (catalogue : Catalogue) (id : String) (node : Node) : List ModelLoader :=
  (catalogue.model? node.classType).elim (inferredLoader id node) (describedLoaders id node)

theorem modelLoaders_eq_flatMap (catalogue : Catalogue) (graph : Graph) :
    graph.modelLoaders catalogue =
      graph.entries.flatMap fun entry => nodeLoaders catalogue entry.1 entry.2 := by
  refine List.flatMap_congr fun entry _ => ?_
  dsimp only [nodeLoaders]
  cases catalogue.model? entry.2.classType <;> rfl

namespace Alike

variable {graph other : Graph}

theorem feeds_iff (alike : graph.Alike other) (a b : String) :
    Feeds graph.edges a b ↔ Feeds other.edges a b := by
  simp only [Feeds, alike.edges_perm.mem_iff]

theorem executionOrder_eq (alike : graph.Alike other) :
    graph.executionOrder = other.executionOrder :=
  executionOrder_congr alike.mem_ids_iff alike.feeds_iff

theorem longestChain_eq (alike : graph.Alike other) : graph.longestChain = other.longestChain := by
  rw [longestChain, longestChain, runnable_congr alike.mem_ids_iff alike.feeds_iff,
    Schedule.depths_congr alike.edges_perm]

theorem linkCount_eq (alike : graph.Alike other) : graph.linkCount = other.linkCount := by
  rw [Graph.linkCount_eq, Graph.linkCount_eq, alike.links_perm.length_eq]

theorem usage_eq (alike : graph.Alike other) :
    graph.connectionStats.usage = other.connectionStats.usage := by
  have read : graph.readSlots.Perm other.readSlots := by
    rw [readSlots, readSlots, alike.has_eq]
    exact (alike.links_perm.map _).filter _
  have listed : Ascending.ofList Source.compare graph.readSlots =
      Ascending.ofList Source.compare other.readSlots :=
    Ascending.ofList_eq_of_mem_iff fun _ => read.mem_iff
  simp only [connectionStats_eq, listed, read.count_eq]

theorem mostInputs_eq (alike : graph.Alike other) : graph.mostInputs = other.mostInputs := by
  have counts := alike.filterMap_perm (fun _ node => some node.links.length)
    (fun _ node => some node.links.length) fun _ _ _ nodes => by rw [nodes.links_perm.length_eq]
  rw [List.filterMap_eq_map'] at counts
  exact counts.foldl_eq 0

theorem isolated_eq (alike : graph.Alike other) : graph.isolated = other.isolated := by
  have read := alike.links_perm.map fun link => link.source.node
  have alone (id : String) (node node' : Node) (nodes : node.Alike node') :
      (node.links.isEmpty && !(graph.links.map fun link => link.source.node).contains id) =
        (node'.links.isEmpty && !(other.links.map fun link => link.source.node).contains id) := by
    rw [nodes.links_perm.isEmpty_eq, read.contains_eq]
  exact nameSet_eq_of_perm (alike.filter_map_perm _ _ (fun id _ => id) alone fun _ _ _ _ => rfl)

theorem isCustom_eq {node node' : Node} (nodes : node.Alike node') (catalogue : Catalogue) :
    isCustom catalogue node = isCustom catalogue node' := by
  rw [isCustom, isCustom, nodes.classType]

theorem customTypes_eq (alike : graph.Alike other) (catalogue : Catalogue) :
    graph.customTypes catalogue = other.customTypes catalogue :=
  nameSet_eq_of_perm (alike.filter_map_perm _ _ (fun _ node => node.classType)
    (fun _ _ _ nodes => isCustom_eq nodes catalogue) fun _ _ _ nodes => nodes.classType)

theorem complexity_eq (alike : graph.Alike other) (catalogue : Catalogue) :
    graph.complexity catalogue = other.complexity catalogue := by
  have custom := alike.filter_map_perm _ _ (fun id _ => id)
    (fun _ _ _ nodes => isCustom_eq nodes catalogue) fun _ _ _ _ => rfl
  have count := custom.length_eq
  rw [List.length_map, List.length_map] at count
  rw [complexity, complexity, alike.size_eq, alike.linkCount_eq, alike.longestChain_eq]
  exact congrArg (Complexity.mk _ _ _) count

theorem idsOf_perm (alike : graph.Alike other) (category : Category) :
    (graph.idsOf category).Perm (other.idsOf category) := by
  have same (id : String) (node node' : Node) (nodes : node.Alike node') :
      decide (Category.ofClass node.classType = category) =
        decide (Category.ofClass node'.classType = category) := by rw [nodes.classType]
  exact alike.filter_map_perm _ _ (fun id _ => id) same fun _ _ _ _ => rfl

theorem byCategory_eq (alike : graph.Alike other) : graph.byCategory = other.byCategory := by
  have ids (category : Category) := alike.idsOf_perm category
  simp only [byCategory_eq_filterMap, (ids _).isEmpty_eq, nameSet_eq_of_perm (ids _)]

theorem modelLoaders_perm (alike : graph.Alike other) (catalogue : Catalogue) :
    (graph.modelLoaders catalogue).Perm (other.modelLoaders catalogue) := by
  have loaders (id : String) (node node' : Node) (nodes : node.Alike node') :
      (nodeLoaders catalogue id node).Perm (nodeLoaders catalogue id node') := by
    rw [nodeLoaders, nodeLoaders, nodes.classType, nodes.inferredLoader_eq,
      funext (nodes.describedLoaders_eq id)]
  rw [modelLoaders_eq_flatMap, modelLoaders_eq_flatMap]
  exact alike.flatMap_perm _ _ loaders

theorem issues_perm (alike : graph.Alike other) : graph.issues.Perm other.issues := by
  rw [issues, issues, alike.has_eq]
  exact (alike.links_perm.filter _).map _

end Alike

/-- Alike graphs have the same content, and what is said about them agrees. -/
theorem analyze_alike (catalogue : Catalogue) {graph other : Graph} (alike : graph.Alike other) :
    graph.content = other.content ∧
      (graph.analyze catalogue).Agrees (other.analyze catalogue) := by
  have content := Content.content_congr alike
  refine ⟨content, ?_⟩
  exact {
    fingerprint := congrArg Fingerprint.ofContent content
    nodeCount := alike.size_eq
    order := alike.executionOrder_eq
    total := by
      change graph.connectionStats.total = other.connectionStats.total
      rw [connectionStats_eq, connectionStats_eq, alike.linkCount_eq]
    usage := alike.usage_eq
    busiest := by
      change graph.connectionStats.busiest.map _ = other.connectionStats.busiest.map _
      rw [inputs_busiest, inputs_busiest, alike.mostInputs_eq]
    complexity := alike.complexity_eq catalogue
    level := congrArg Complexity.level (alike.complexity_eq catalogue)
    categories := alike.byCategory_eq
    isolated := alike.isolated_eq
    customTypes := alike.customTypes_eq catalogue
    loaders := alike.modelLoaders_perm catalogue
    issues := alike.issues_perm }

end Graph

/-- Two nodes that need each other, each with two wired inputs, and a loader. -/
def entangled : Graph := ⟨.ofList [
  ("2", ⟨"KSampler", .ofList [("model", .wired ⟨"1", 0⟩), ("latent_image", .wired ⟨"3", 0⟩),
    ("settings", .constant (.object [("seed", .ofWord 1), ("cfg", .null)]))], [], none⟩),
  ("3", ⟨"Blend", .ofList [("base", .wired ⟨"2", 0⟩), ("top", .wired ⟨"gone", 1⟩)], [], none⟩),
  ("1", ⟨"VAELoader", .ofList [("vae_name", .constant (.string "a.safetensors"))], [], none⟩)]⟩

/-- The same with nodes, inputs and fields from last to first. -/
def entangledBack : Graph := ⟨.ofList [
  ("1", ⟨"VAELoader", .ofList [("vae_name", .constant (.string "a.safetensors"))], [], none⟩),
  ("3", ⟨"Blend", .ofList [("top", .wired ⟨"gone", 1⟩), ("base", .wired ⟨"2", 0⟩)], [], none⟩),
  ("2", ⟨"KSampler", .ofList [
    ("settings", .constant (.object [("cfg", .null), ("seed", .ofWord 1)])),
    ("latent_image", .wired ⟨"3", 0⟩), ("model", .wired ⟨"1", 0⟩)], [], none⟩)]⟩

theorem entangled_alike : entangled.Alike entangledBack := by
  have settings : Json.Alike (.object [("seed", .ofWord 1), ("cfg", .null)])
      (.object [("cfg", .null), ("seed", .ofWord 1)]) := by
    refine .object fun name => ?_
    by_cases seed : "seed" = name
    · subst seed
      exact .cons (.scalar rfl) .nil
    · by_cases cfg : "cfg" = name
      · subst cfg
        exact .cons (.scalar rfl) .nil
      · simp [Entries.under, seed, cfg]
  refine Keyed.rel_of_perm (List.reverse_perm _).symm ?_
  refine .cons ⟨rfl, .of_get? rfl fun _ => rfl⟩ (.cons ⟨rfl, ?_⟩ (.cons ⟨rfl, rfl, ?_⟩ .nil))
  · exact .of_get? rfl (Keyed.get?_eq_of_perm (by decide))
  · refine Keyed.rel_of_perm (List.reverse_perm _).symm ?_
    exact .cons ⟨rfl, .constant settings⟩ (.cons ⟨rfl, .wired _⟩ (.cons ⟨rfl, .wired _⟩ .nil))

theorem analyze_alike_entangled :
    entangled.content = entangledBack.content ∧
    (entangled.analyze .core).Agrees (entangledBack.analyze .core) ∧
    (entangledBack.analyze .core).order = .error (.unorderable "2" ["2", "3"]) ∧
    (entangled.analyze .core).connections.busiest ≠
      (entangledBack.analyze .core).connections.busiest := by
  obtain ⟨content, agrees⟩ := Graph.analyze_alike .core entangled_alike
  exact ⟨content, agrees, rfl, by decide⟩

end Flowgraph
