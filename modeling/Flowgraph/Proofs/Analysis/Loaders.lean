import Mathlib.Data.List.Forall2
import Flowgraph.Proofs.Analysis

/-!
# The loaders of a graph

A node of a class whose model slots the catalogue gives is listed for each of them that holds a
text. Any other node is listed if its class is named like a loader and just one of its texts stands
under a name that ends like the name of a file. Whether the catalogue describes the class makes no
difference there: a class that is described without model slots counts as one that is not described.

Main result: `Graph.modelLoaders_listed`.
-/
namespace Flowgraph

open List (Forall₂)

namespace Node

/-- An input of the node holds a text. -/
def HoldsText (node : Node) (name text : String) : Prop :=
  node.inputs.get? name = some (.constant (.string text))

/-- The texts that the node holds in some of its inputs, each with the name of its input. -/
inductive HoldsTexts (node : Node) : List String → List (String × String) → Prop
  | nil : HoldsTexts node [] []
  | text {name text : String} {names : List String} {texts : List (String × String)}
      (holds : node.HoldsText name text) (later : HoldsTexts node names texts) :
      HoldsTexts node (name :: names) ((name, text) :: texts)
  | other {name : String} {names : List String} {texts : List (String × String)}
      (none : ∀ text, ¬ node.HoldsText name text) (later : HoldsTexts node names texts) :
      HoldsTexts node (name :: names) texts

/-- The node is named like a loader, and the only text that it holds under a name that ends like the
name of a file is this one. -/
structure SeemsToLoad (node : Node) (field file : String) : Prop where
  named : ∃ front, node.classType = front ++ "Loader"
  only : ∀ name text, (node.HoldsText name text ∧ ∃ front, name = front ++ "_name") ↔
    name = field ∧ text = file

/-- What a node is listed as, where `byName` says of which classes the loaders are told by their
names. -/
inductive ListedAs (catalogue : Catalogue) (byName : String → Bool) (id : String) (node : Node) :
    List ModelLoader → Prop
  | described {spec : ClassSpec} {model : ModelSlots} {texts : List (String × String)}
      (known : catalogue.specOf? node.classType = some spec) (slots : spec.model = some model)
      (holds : node.HoldsTexts model.fields texts) :
      ListedAs catalogue byName id node (texts.map fun (field, file) =>
        ⟨id, node.classType, model.category, field, file, false⟩)
  | inferred {field file : String} (bare : catalogue.model? node.classType = none)
      (allowed : byName node.classType = true) (seems : node.SeemsToLoad field file) :
      ListedAs catalogue byName id node [⟨id, node.classType, "other", field, file, true⟩]
  | nothing (bare : catalogue.model? node.classType = none)
      (other : byName node.classType = true → ∀ field file, ¬ node.SeemsToLoad field file) :
      ListedAs catalogue byName id node []

end Node

/-- Loaders are listed node by node, in the order of the nodes. -/
def Graph.Listing (catalogue : Catalogue) (byName : String → Bool) (graph : Graph)
    (loaders : List ModelLoader) : Prop :=
  ∃ parts, Forall₂ (fun entry part => entry.2.ListedAs catalogue byName entry.1 part)
    graph.entries parts ∧ loaders = parts.flatten

section Lists

variable {α β : Type}

theorem eq_singleton_iff_of_nodup {items : List α} {item : α} (distinct : items.Nodup) :
    items = [item] ↔ ∀ other, other ∈ items ↔ other = item := by
  rw [← List.perm_singleton, List.perm_ext_iff_of_nodup distinct (List.nodup_singleton item)]
  simp only [List.mem_singleton]

theorem exists_flatten_iff {R : α → List β → Prop} {f : α → List β}
    (decided : ∀ item part, R item part ↔ f item = part) {items : List α} {whole : List β} :
    (∃ parts, Forall₂ R items parts ∧ whole = parts.flatten) ↔ whole = items.flatMap f := by
  obtain rfl : R = fun item part => f item = part :=
    funext fun item => funext fun part => propext (decided item part)
  simp only [← List.forall₂_map_left_iff, List.forall₂_eq_eq_eq, exists_eq_left', List.flatMap]

/-- Where one function gives a part of what another gives, they give the same in all only if they do
so for each item. -/
theorem flatMap_eq_iff_of_sublist {f g : α → List β} {items : List α}
    (part : ∀ item ∈ items, (f item).Sublist (g item)) :
    items.flatMap f = items.flatMap g ↔ ∀ item ∈ items, f item = g item := by
  induction items with
  | nil => simp
  | cons item rest ih =>
    obtain ⟨here, later⟩ := List.forall_mem_cons.mp part
    rw [List.flatMap_cons, List.flatMap_cons, List.forall_mem_cons, ← ih later]
    constructor
    · intro whole
      -- none of the parts is longer on the left, so none can be shorter
      have lengths := congrArg List.length whole
      rw [List.length_append, List.length_append] at lengths
      have shorter := here.length_le
      have others := (List.Sublist.flatMap_right rest later).length_le
      exact List.append_inj whole (by omega)
    · rintro ⟨same, others⟩
      rw [same, others]

end Lists

theorem Category.endsWith_iff {text ending : String} :
    Category.endsWith text ending = true ↔ ∃ front, text = front ++ ending := by
  rw [Category.endsWith, List.isSuffixOf_iff_suffix]
  constructor
  · rintro ⟨front, split⟩
    refine ⟨String.ofList front, String.toList_inj.mp ?_⟩
    rw [String.toList_append, String.toList_ofList, split]
  · rintro ⟨front, rfl⟩
    exact ⟨front.toList, String.toList_append.symm⟩

namespace Node

variable {node : Node} {name text field file : String}

theorem textConstant?_eq_some_iff :
    Graph.textConstant? node name = some text ↔ node.HoldsText name text := by
  rw [Graph.textConstant?, constant?, HoldsText]
  cases node.inputs.get? name with
  | none => simp
  | some input =>
    cases input with
    | wired source => simp [Input.constant?]
    | constant value => cases value <;> simp [Input.constant?, Json.string?]

theorem holdsTexts_iff {names : List String} {texts : List (String × String)} :
    node.HoldsTexts names texts ↔
      names.filterMap (fun name => (Graph.textConstant? node name).map (name, ·)) = texts := by
  induction names generalizing texts with
  | nil =>
    constructor
    · rintro ⟨⟩
      rfl
    · rintro rfl
      exact .nil
  | cons name names ih =>
    rw [List.filterMap_cons]
    cases found : Graph.textConstant? node name with
    | none =>
      have none : ∀ text, ¬ node.HoldsText name text := by
        intro text holds
        rw [textConstant?_eq_some_iff.mpr holds] at found
        contradiction
      constructor
      · intro holds
        cases holds with
        | text holds later => exact absurd holds (none _)
        | other _ later => exact ih.mp later
      · rintro rfl
        exact .other none (ih.mpr rfl)
    | some text =>
      have holds : node.HoldsText name text := textConstant?_eq_some_iff.mp found
      constructor
      · intro all
        cases all with
        | text holds later =>
          rw [textConstant?_eq_some_iff.mpr holds] at found
          cases found
          exact congrArg _ (ih.mp later)
        | other none later => exact absurd holds (none _)
      · rintro rfl
        exact .text holds (ih.mpr rfl)

theorem mem_textsUnder_iff {ending : String} : (name, text) ∈ (node.textsUnder ending).entries ↔
    node.HoldsText name text ∧ ∃ front, name = front ++ ending := by
  rw [← Keyed.get?_eq_some_iff, textsUnder, Keyed.get?_filterMap, ← Category.endsWith_iff,
    ← textConstant?_eq_some_iff, Graph.textConstant?, constant?]
  by_cases ends : Category.endsWith name ending = true <;> simp [ends, Option.bind_assoc]

/-- A node seems to load a file just where it is listed as a loader by its names. -/
theorem seemsToLoad_iff : node.SeemsToLoad field file ↔
    Category.looksLikeLoader node.classType = true ∧
      (node.textsUnder "_name").entries = [(field, file)] := by
  have distinct : (node.textsUnder "_name").entries.Nodup :=
    (node.textsUnder "_name").distinct.of_map
  rw [Category.looksLikeLoader, Category.endsWith_iff, eq_singleton_iff_of_nodup distinct]
  simp only [Prod.forall, mem_textsUnder_iff, Prod.mk.injEq]
  exact ⟨fun seems => ⟨seems.named, seems.only⟩, fun ⟨named, only⟩ => ⟨named, only⟩⟩

theorem inferredLoader_of_seems (id : String) (seems : node.SeemsToLoad field file) :
    Graph.inferredLoader id node = [⟨id, node.classType, "other", field, file, true⟩] := by
  obtain ⟨named, texts⟩ := seemsToLoad_iff.mp seems
  rw [Graph.inferredLoader, if_pos named, texts_eq_textsUnder, texts]
  rfl

theorem inferredLoader_of_unseeming (id : String)
    (other : ∀ field file, ¬ node.SeemsToLoad field file) :
    Graph.inferredLoader id node = [] := by
  rw [Graph.inferredLoader]
  split
  · next named =>
    rw [texts_eq_textsUnder]
    split
    · next texts => exact absurd (seemsToLoad_iff.mpr ⟨named, texts⟩) (other _ _)
    · rfl
  · rfl

theorem describedLoaders_eq_map (id : String) (model : ModelSlots)
    {texts : List (String × String)} (holds : node.HoldsTexts model.fields texts) :
    Graph.describedLoaders id node model = texts.map fun (field, file) =>
      ⟨id, node.classType, model.category, field, file, false⟩ := by
  rw [← holdsTexts_iff.mp holds, List.map_filterMap, Graph.describedLoaders]
  simp only [Option.map_map]
  rfl

end Node

namespace Graph

/-- What a node is listed as, where the loaders of some classes are told by their names. -/
def loadersBy (catalogue : Catalogue) (byName : String → Bool) (id : String) (node : Node) :
    List ModelLoader :=
  (catalogue.model? node.classType).elim
    (if byName node.classType then inferredLoader id node else []) (describedLoaders id node)

theorem listedAs_iff {catalogue : Catalogue} {byName : String → Bool} {id : String} {node : Node}
    {part : List ModelLoader} :
    node.ListedAs catalogue byName id part ↔ loadersBy catalogue byName id node = part := by
  constructor
  · intro listed
    cases listed with
    | @described spec model texts known slots holds =>
      have found : catalogue.model? node.classType = some model := by
        rw [Catalogue.model?, known, Option.bind_some, slots]
      rw [loadersBy, found, Option.elim_some, Node.describedLoaders_eq_map id model holds]
    | inferred bare allowed seems =>
      rw [loadersBy, bare, Option.elim_none, if_pos allowed, Node.inferredLoader_of_seems id seems]
    | nothing bare other =>
      rw [loadersBy, bare, Option.elim_none]
      split
      · next allowed => exact Node.inferredLoader_of_unseeming id (other allowed)
      · rfl
  · rintro rfl
    rw [loadersBy]
    cases found : catalogue.model? node.classType with
    | some model =>
      obtain ⟨spec, known, slots⟩ := Option.bind_eq_some_iff.mp found
      have holds : node.HoldsTexts model.fields _ := Node.holdsTexts_iff.mpr rfl
      rw [Option.elim_some, Node.describedLoaders_eq_map id model holds]
      exact .described known slots holds
    | none =>
      rw [Option.elim_none]
      by_cases seems : ∃ field file, node.SeemsToLoad field file
      · obtain ⟨field, file, seems⟩ := seems
        split
        · next allowed =>
          rw [Node.inferredLoader_of_seems id seems]
          exact .inferred found allowed seems
        · next refused => exact .nothing found fun allowed => absurd allowed refused
      · simp only [not_exists] at seems
        rw [Node.inferredLoader_of_unseeming id seems, ite_self]
        exact .nothing found fun _ => seems

variable {catalogue : Catalogue} {graph : Graph}

theorem listing_iff {byName : String → Bool} {loaders : List ModelLoader} :
    graph.Listing catalogue byName loaders ↔
      loaders = graph.entries.flatMap fun entry => loadersBy catalogue byName entry.1 entry.2 := by
  rw [Listing]
  refine exists_flatten_iff ?_
  intro entry part
  exact listedAs_iff

-- told by name only where there are no model slots, the loaders are those that are found; told by
-- name for fewer classes, they are a part of these, so it is enough to compare node by node

theorem loadersBy_bare (id : String) (node : Node) :
    loadersBy catalogue (fun classType => (catalogue.model? classType).isNone) id node =
      nodeLoaders catalogue id node := by
  rw [loadersBy, nodeLoaders]
  cases catalogue.model? node.classType <;> rfl

theorem loadersBy_sublist (byName : String → Bool) (id : String) (node : Node) :
    (loadersBy catalogue byName id node).Sublist (nodeLoaders catalogue id node) := by
  rw [loadersBy, nodeLoaders]
  cases catalogue.model? node.classType with
  | some model => exact .refl _
  | none =>
    rw [Option.elim_none, Option.elim_none]
    split
    · exact .refl _
    · exact List.nil_sublist _

/-- A node whose class is described without model slots, and which seems to load a file. -/
def Misjudged (catalogue : Catalogue) (node : Node) : Prop :=
  (∃ spec, catalogue.specOf? node.classType = some spec ∧ spec.model = none) ∧
    ∃ field file, node.SeemsToLoad field file

theorem loadersBy_undescribed_iff {id : String} {node : Node} :
    loadersBy catalogue (fun classType => (catalogue.specOf? classType).isNone) id node =
      nodeLoaders catalogue id node ↔ ¬ Misjudged catalogue node := by
  rw [loadersBy, nodeLoaders, Misjudged, Catalogue.model?]
  cases catalogue.specOf? node.classType with
  | none => simp
  | some spec =>
    rw [Option.bind_some]
    cases slots : spec.model with
    | some model => simp [slots]
    | none =>
      by_cases seems : ∃ field file, node.SeemsToLoad field file
      · have some_inferred : Graph.inferredLoader id node ≠ [] := by
          obtain ⟨field, file, holds⟩ := seems
          rw [Node.inferredLoader_of_seems id holds]
          exact List.cons_ne_nil _ _
        simp [some_inferred.symm, slots, seems]
      · have unseeming : ∀ field file, ¬ node.SeemsToLoad field file := by simpa using seems
        simp [Node.inferredLoader_of_unseeming _ unseeming, seems]

/-- A graph's loaders are the nodes of classes with model slots, once for each slot with a text, and
the nodes without that seem to load a file. That is the listing that tells loaders by their names
only where the catalogue does not describe the class, unless there is a node that is misjudged. -/
theorem modelLoaders_listed (catalogue : Catalogue) (graph : Graph) :
    (∀ loaders,
      graph.Listing catalogue (fun classType => (catalogue.model? classType).isNone) loaders ↔
        loaders = graph.modelLoaders catalogue) ∧
    (graph.Listing catalogue (fun classType => (catalogue.specOf? classType).isNone)
        (graph.modelLoaders catalogue) ↔
      ∀ entry ∈ graph.entries, ¬ Misjudged catalogue entry.2) := by
  constructor
  · intro loaders
    rw [listing_iff, modelLoaders_eq_flatMap]
    simp only [loadersBy_bare]
  · rw [listing_iff, modelLoaders_eq_flatMap, eq_comm,
      flatMap_eq_iff_of_sublist fun entry _ => loadersBy_sublist _ entry.1 entry.2]
    simp only [loadersBy_undescribed_iff]

/-- A catalogue that describes a class, and gives it no model slots. -/
def faceCatalogue : Catalogue :=
  Catalogue.empty.apply ⟨[], .ofList [("FaceLoader", .blank)], [], []⟩

/-- A node of the class that holds one text under the name of a file. -/
def faceGraph : Graph := ⟨.ofList [("1", (Node.ofClass "FaceLoader").withInput "model_name"
  (.constant (.string "face.pt")))]⟩

/-- The node is listed as a loader although the catalogue describes its class. -/
theorem described_face_inferred :
    ¬ faceGraph.Listing faceCatalogue (fun classType => (faceCatalogue.specOf? classType).isNone)
      (faceGraph.modelLoaders faceCatalogue) := by
  have listed : faceGraph.modelLoaders faceCatalogue =
      [⟨"1", "FaceLoader", "other", "model_name", "face.pt", true⟩] := by decide
  rw [listing_iff, listed]
  decide

end Graph

end Flowgraph
