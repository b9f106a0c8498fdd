import Flowgraph.Proofs.Requirements.ModelFiles
import Flowgraph.Proofs.Workflow.Conversion
import Flowgraph.Requirements.Report

/-!
# The custom classes of a graph

Nodes of classes that do not ship with the engine are gathered by class, each class with what its
nodes say about it. The repository and the commit are looked for each by itself: they are the first
that a node of the class names, and need not be named by the same one.

Main results: `customClasses_agree` for the views of a workflow that list such classes, and
`customClassesOf_firstSaid` for where a class is said to come from.
-/
namespace Flowgraph

namespace Node

def repository? (node : Node) : Option String := node.info.bind NodeInfo.repository

def commit? (node : Node) : Option String := node.info.bind NodeInfo.commit

def packages (node : Node) : List String := (node.info.map NodeInfo.packages).getD []

end Node

namespace Graph

/-- The nodes of a class, in the order of the graph. -/
def ofType (graph : Graph) (classType : String) : List (String × Node) :=
  graph.entries.filter fun entry => entry.2.classType = classType

/-- The nodes whose classes do not ship with the engine, in the order of the graph. -/
def unshipped (catalogue : Catalogue) (graph : Graph) : List (String × Node) :=
  graph.entries.filter fun entry => !catalogue.isShipped entry.2.classType

/-- One node of a class names both a repository and a commit. -/
def NamesTogether (graph : Graph) (classType repository commit : String) : Prop :=
  ∃ entry ∈ graph.ofType classType,
    entry.2.repository? = some repository ∧ entry.2.commit? = some commit

instance (graph : Graph) (classType repository commit : String) :
    Decidable (graph.NamesTogether classType repository commit) :=
  inferInstanceAs (Decidable (∃ _ ∈ _, _))

end Graph

namespace CustomClass

/-- What nodes of a class say about it. -/
def ofNodes (classType : String) (entries : List (String × Node)) : CustomClass where
  classType := classType
  nodes := entries.map Prod.fst
  repository := entries.findSome? fun entry => entry.2.repository?
  commit := entries.findSome? fun entry => entry.2.commit?
  packages := (entries.flatMap fun entry => entry.2.packages).eraseDups

theorem addNode_eq (custom : CustomClass) (id : String) (node : Node) :
    custom.addNode id node =
      ⟨custom.classType, custom.nodes ++ [id], custom.repository.or node.repository?,
        custom.commit.or node.commit?, node.packages.foldl Requirements.addNew custom.packages⟩ := by
  simp only [addNode, Node.repository?, Node.commit?, Node.packages]
  cases node.info with
  | none => simp
  | some info => rfl

theorem foldl_addNode (custom : CustomClass) (entries : List (String × Node)) :
    entries.foldl (fun custom entry => custom.addNode entry.1 entry.2) custom =
      ⟨custom.classType, custom.nodes ++ entries.map Prod.fst,
        custom.repository.or (entries.findSome? fun entry => entry.2.repository?),
        custom.commit.or (entries.findSome? fun entry => entry.2.commit?),
        (entries.flatMap fun entry => entry.2.packages).foldl Requirements.addNew
          custom.packages⟩ := by
  induction entries generalizing custom with
  | nil => simp
  | cons entry rest ih =>
    -- what is known already stays, and a node that comes first goes before those behind it
    have first (said : Node → Option String) (known : Option String) :
        (known.or (said entry.2)).or (rest.findSome? fun other => said other.2) =
          known.or ((entry :: rest).findSome? fun other => said other.2) := by
      rw [List.findSome?_cons, Option.or_assoc]
      cases said entry.2 <;> rfl
    rw [List.foldl_cons, ih, addNode_eq]
    simp only [first Node.repository?, first Node.commit?, List.append_assoc,
      List.singleton_append, List.map_cons, List.flatMap_cons, List.foldl_append]

theorem foldl_addNode_ofClass (classType : String) (entries : List (String × Node)) :
    entries.foldl (fun custom entry => custom.addNode entry.1 entry.2) (ofClass classType) =
      ofNodes classType entries := by
  rw [foldl_addNode, ofClass, Requirements.foldl_addNew List.nodup_nil]
  simp [ofNodes]

end CustomClass

section

variable {catalogue : Catalogue} {graph : Graph}

namespace Graph

theorem isCustom_iff {node : Node} : isCustom catalogue node = true ↔
    node.classType ≠ "" ∧ catalogue.isShipped node.classType = false := by
  rw [isCustom, Catalogue.provenance]
  by_cases unnamed : node.classType = ""
  · simp [unnamed]
  · cases shipped : catalogue.isShipped node.classType <;> simp [unnamed]

/-- The class of each custom node, in the order of the graph. -/
def customSeen (catalogue : Catalogue) (graph : Graph) : List String :=
  (graph.entries.filter fun entry => isCustom catalogue entry.2).map fun entry => entry.2.classType

theorem mem_customSeen_iff {classType : String} : classType ∈ graph.customSeen catalogue ↔
    (classType ≠ "" ∧ catalogue.isShipped classType = false) ∧ graph.ofType classType ≠ [] := by
  simp only [customSeen, ofType, List.mem_map, List.mem_filter, isCustom_iff, ne_eq,
    List.filter_eq_nil_iff, not_forall, decide_eq_true_eq, not_not]
  constructor
  · rintro ⟨entry, ⟨member, custom⟩, rfl⟩
    exact ⟨custom, entry, member, rfl⟩
  · rintro ⟨custom, entry, member, rfl⟩
    exact ⟨entry, ⟨member, custom⟩, rfl⟩

end Graph

namespace Requirements

/-- Each class that is seen comes with all of its nodes, in the order in which it is first seen. -/
theorem customClassesOf_eq (catalogue : Catalogue) (graph : Graph) :
    customClassesOf catalogue graph = (graph.customSeen catalogue).eraseDups.map fun classType =>
      CustomClass.ofNodes classType (graph.ofType classType) := by
  let nodes := graph.entries.filter fun entry => Graph.isCustom catalogue entry.2
  let gathered := nodes.foldl (Keyed.gather (fun entry => entry.2.classType) CustomClass.ofClass
    fun custom entry => custom.addNode entry.1 entry.2) .empty
  change gathered.values = _
  rw [Keyed.values_eq_map_keys gathered (.ofClass ""), Keyed.keys_foldl_gather]
  refine List.map_congr_left fun classType seen => ?_
  obtain ⟨custom, some⟩ := Graph.mem_customSeen_iff.mp (List.mem_eraseDups.mp seen)
  -- whether a node is custom is decided by its class, so no node of this class is left out
  have own : (nodes.filter fun entry => entry.2.classType = classType) = graph.ofType classType := by
    rw [List.filter_filter, Graph.ofType]
    refine List.filter_congr fun entry _ => ?_
    by_cases same : entry.2.classType = classType
    · simp [same, Graph.isCustom_iff.mpr (same ▸ custom)]
    · simp [same]
  rw [Keyed.get?_foldl_gather_empty, own, if_neg some, Option.getD_some,
    CustomClass.foldl_addNode_ofClass]

theorem mem_customClassesOf_iff {custom : CustomClass} :
    custom ∈ customClassesOf catalogue graph ↔
      custom.classType ∈ graph.customSeen catalogue ∧
        custom = CustomClass.ofNodes custom.classType (graph.ofType custom.classType) := by
  simp only [customClassesOf_eq, List.mem_map, List.mem_eraseDups]
  constructor
  · rintro ⟨classType, seen, rfl⟩
    exact ⟨seen, rfl⟩
  · rintro ⟨seen, same⟩
    exact ⟨_, seen, same.symm⟩

theorem map_classType_customClassesOf : (customClassesOf catalogue graph).map CustomClass.classType =
    (graph.customSeen catalogue).eraseDups := by
  rw [customClassesOf_eq, List.map_map]
  exact List.map_id _

/-- The nodes of the classes together are the custom nodes of the graph. -/
theorem perm_flatMap_ofType : ((graph.customSeen catalogue).eraseDups.flatMap graph.ofType).Perm
    (graph.entries.filter fun entry => Graph.isCustom catalogue entry.2) := by
  have entries : graph.entries.Nodup := graph.nodes.nodup_entries
  have classes := (firstSeen_eraseDups (graph.customSeen catalogue)).nodup
  have nodup : ((graph.customSeen catalogue).eraseDups.flatMap graph.ofType).Nodup := by
    refine List.nodup_flatMap.mpr ⟨fun _ _ => entries.filter _, classes.imp ?_⟩
    -- a node of two classes would make them one
    intro first second different entry here there
    simp only [Graph.ofType, List.mem_filter, decide_eq_true_eq] at here there
    exact different (here.2.symm.trans there.2)
  refine (List.perm_ext_iff_of_nodup nodup (entries.filter _)).mpr fun entry => ?_
  simp only [List.mem_flatMap, List.mem_eraseDups, Graph.mem_customSeen_iff, List.mem_filter,
    Graph.isCustom_iff]
  constructor
  · rintro ⟨classType, ⟨custom, -⟩, listed⟩
    obtain ⟨member, own⟩ := List.mem_filter.mp listed
    have same : entry.2.classType = classType := of_decide_eq_true own
    exact ⟨member, same ▸ custom⟩
  · rintro ⟨member, custom⟩
    have own : entry ∈ graph.ofType entry.2.classType :=
      List.mem_filter.mpr ⟨member, decide_eq_true rfl⟩
    exact ⟨_, ⟨custom, List.ne_nil_of_mem own⟩, own⟩

theorem flatMap_nodes_perm (catalogue : Catalogue) (graph : Graph) :
    ((customClassesOf catalogue graph).flatMap CustomClass.nodes).Perm
    ((graph.entries.filter fun entry => Graph.isCustom catalogue entry.2).map Prod.fst) := by
  have nodes : (customClassesOf catalogue graph).flatMap CustomClass.nodes =
      ((graph.customSeen catalogue).eraseDups.flatMap graph.ofType).map Prod.fst := by
    rw [customClassesOf_eq, List.flatMap_map, List.map_flatMap]
    rfl
  rw [nodes]
  exact perm_flatMap_ofType.map _

end Requirements

end

/-- The views of a workflow's custom classes: those that the document is read with, those that are
found when its graph is analysed, and those that must be installed. -/
structure ClassesAgree (catalogue : Catalogue) (workflow : Workflow) (classes : List CustomClass) :
    Prop where
  analysed : workflow.graph.customTypes catalogue = workflow.customTypes catalogue
  installed : ∀ classType,
    classType ∈ classes.map CustomClass.classType ↔ classType ∈ workflow.customTypes catalogue
  firstSeen : FirstSeen ((workflow.graph.unshipped catalogue).map fun entry => entry.2.classType)
    (classes.map CustomClass.classType)
  /-- A class has its nodes, in the order of the graph. -/
  nodes : ∀ custom ∈ classes,
    custom.nodes = (workflow.graph.ofType custom.classType).map Prod.fst
  /-- Every node whose class does not ship with the engine is listed, each once. -/
  all : (classes.flatMap CustomClass.nodes).Perm
    ((workflow.graph.unshipped catalogue).map Prod.fst)
  once : (classes.flatMap CustomClass.nodes).Nodup
  count : (workflow.graph.complexity catalogue).custom = (classes.flatMap CustomClass.nodes).length
  packages : ∀ custom ∈ classes, FirstSeen
    ((workflow.graph.ofType custom.classType).flatMap fun entry => entry.2.packages)
    custom.packages
  union : ∀ package, package ∈ (Requirements.ofGraph catalogue workflow.graph).packages ↔
    ∃ custom ∈ classes, package ∈ custom.packages

namespace Workflow

variable {catalogue : Catalogue} {document : Json} {workflow : Workflow}

theorem unshipped_eq (read : ofJson catalogue document = .ok workflow) :
    (workflow.graph.entries.filter fun entry => Graph.isCustom catalogue entry.2) =
      workflow.graph.unshipped catalogue := by
  -- a workflow that is read names a class at each node, so what does not ship is custom
  obtain ⟨-, -, named, -⟩ := ofJson_eq_ok_iff_convert.mp read
  refine List.filter_congr fun entry member => ?_
  have name := named entry.1 entry.2 (Keyed.get?_eq_some_iff.mpr member)
  rw [Bool.eq_iff_iff, Graph.isCustom_iff, and_iff_right name, Bool.not_eq_true']

/-- However the custom classes of a workflow are listed, they are the same. What must be installed
for them is gathered from all nodes of such classes, each of which is counted once. -/
theorem customClasses_agree (read : ofJson catalogue document = .ok workflow) :
    ClassesAgree catalogue workflow (Requirements.customClassesOf catalogue workflow.graph) := by
  have unshipped := unshipped_eq read
  have seen : workflow.graph.customSeen catalogue =
      (workflow.graph.unshipped catalogue).map fun entry => entry.2.classType :=
    congrArg _ unshipped
  have listed : workflow.customTypes catalogue = nameSet (workflow.graph.customSeen catalogue) := by
    rw [seen, customTypes, List.filter_map]
    rfl
  have all := Requirements.flatMap_nodes_perm catalogue workflow.graph
  constructor
  case analysed => exact listed.symm
  case installed =>
    intro classType
    rw [Requirements.map_classType_customClassesOf, List.mem_eraseDups, listed, mem_nameSet]
  case firstSeen =>
    rw [Requirements.map_classType_customClassesOf, ← seen]
    exact firstSeen_eraseDups _
  case nodes =>
    intro custom member
    rw [(Requirements.mem_customClassesOf_iff.mp member).2]
    rfl
  case all => exact unshipped ▸ all
  case once =>
    -- these are some of the ids of the graph, and those are distinct
    refine all.nodup_iff.mpr ?_
    exact workflow.graph.nodes.distinct.sublist (List.filter_sublist.map _)
  case count => rw [all.length_eq, List.length_map, Graph.complexity]
  case packages =>
    intro custom member
    rw [(Requirements.mem_customClassesOf_iff.mp member).2]
    exact firstSeen_eraseDups _
  case union =>
    intro package
    rw [Requirements.ofGraph, mem_nameSet, List.mem_flatMap]

/-- Two custom classes with nodes in turn, packages that are named again, and a class that ships. -/
def packed : Json :=
  let node (id classType : String) (packages : List String) : String × Json :=
    (id, .object [("class_type", .string classType),
      ("_meta", .object [("packages", .ofStrings packages)])])
  .object [node "4" "FaceDetailer" ["ultralytics"], node "9" "SaveImage" ["pillow"],
    node "2" "ColorMatch" ["color-matcher", "ultralytics"],
    node "7" "FaceDetailer" ["ultralytics", "numpy", "numpy"]]

theorem customClasses_agree_packed : ∃ workflow : Workflow,
    ofJson .core packed = .ok workflow ∧
    Requirements.customClassesOf .core workflow.graph =
      [⟨"FaceDetailer", ["4", "7"], none, none, ["ultralytics", "numpy"]⟩,
        ⟨"ColorMatch", ["2"], none, none, ["color-matcher", "ultralytics"]⟩] ∧
    ClassesAgree .core workflow (Requirements.customClassesOf .core workflow.graph) := by
  have read : ofJson .core packed = .ok _ := rfl
  exact ⟨_, read, by decide, customClasses_agree read⟩

end Workflow

namespace Requirements

/-- A class that must be installed comes with the first repository that a node of the class names,
and with the first commit. One node names both if every node of the class that names this commit
names this repository too. -/
theorem customClassesOf_firstSaid (catalogue : Catalogue) (graph : Graph) :
    ∀ custom ∈ customClassesOf catalogue graph,
      custom.repository =
        ((graph.ofType custom.classType).findSome? fun entry => entry.2.repository?) ∧
      custom.commit = ((graph.ofType custom.classType).findSome? fun entry => entry.2.commit?) ∧
      ∀ repository commit,
        custom.repository = some repository → custom.commit = some commit →
        (∀ entry ∈ graph.ofType custom.classType, entry.2.commit? = some commit →
          entry.2.repository? = some repository) →
        graph.NamesTogether custom.classType repository commit := by
  intro custom member
  obtain ⟨-, same⟩ := mem_customClassesOf_iff.mp member
  have repository := congrArg CustomClass.repository same
  have commit := congrArg CustomClass.commit same
  refine ⟨repository, commit, fun named pinned _ first alike => ?_⟩
  -- a commit that is found was named by some node
  obtain ⟨entry, inside, found⟩ := List.exists_of_findSome?_eq_some (commit.symm.trans first)
  exact ⟨entry, inside, alike entry inside found, found⟩

/-- Nodes of one custom class with what they name: a repository, or also a commit. -/
def naming (origins : List (String × Option String × Option String)) : Graph :=
  ⟨.ofList (origins.map fun (id, repository, commit) =>
    (id, { Node.ofClass "FaceDetailer" with
      info := some { NodeInfo.blank with repository := repository, commit := commit } }))⟩

theorem customClassesOf_firstSaid_pinned :
    let graph := naming [("1", .none, .none), ("2", some "packs/detail", .none),
      ("3", some "packs/detail", some "e41f07"), ("4", some "packs/fork", some "0b52aa")]
    ⟨"FaceDetailer", ["1", "2", "3", "4"], some "packs/detail", some "e41f07", []⟩ ∈
        customClassesOf .core graph ∧
      graph.NamesTogether "FaceDetailer" "packs/detail" "e41f07" := by
  intro graph
  have listed : ⟨"FaceDetailer", ["1", "2", "3", "4"], some "packs/detail", some "e41f07", []⟩ ∈
      customClassesOf .core graph := by
    decide
  obtain ⟨-, -, together⟩ := customClassesOf_firstSaid .core graph _ listed
  exact ⟨listed, together _ _ rfl rfl (by decide)⟩

/-- A node that names a repository, and one that names another, at a commit. -/
def forked : Graph :=
  naming [("1", some "packs/detail", .none), ("2", some "packs/fork", some "0b52aa")]

example : (customClassesOf .core forked).map CustomClass.origin = [" packs/detail@0b52aa"] := by
  decide

theorem forked_not_together : ¬ ∀ custom ∈ customClassesOf .core forked, ∀ repository commit,
    custom.repository = some repository → custom.commit = some commit →
      forked.NamesTogether custom.classType repository commit := by
  intro together
  have listed : ⟨"FaceDetailer", ["1", "2"], some "packs/detail", some "0b52aa", []⟩ ∈
      customClassesOf .core forked := by
    decide
  exact absurd (together _ listed _ _ rfl rfl) (by decide)

end Requirements

end Flowgraph
