import Flowgraph.Analysis
import Flowgraph.ImportScan
import Flowgraph.ModelPath

/-!
# What a workflow needs installed

The model files that its loaders name, by category; the classes that do not ship with the engine,
with what the document says about where they come from; and the Python packages of those.

Main result: `Requirements.ofGraph`.
-/
namespace Flowgraph

/-- A class that does not ship with the engine, and where it comes from. -/
structure CustomClass where
  classType : String
  nodes : List String
  repository : Option String
  commit : Option String
  packages : List String
deriving DecidableEq, Repr

/-- What a workflow needs installed. -/
structure Requirements where
  /-- The files of each category, categories in the order of their characters. -/
  models : List (String × List String)
  /-- The files whose paths are refused. -/
  rejected : List String
  customClasses : List CustomClass
  /-- The packages, in the order of their characters. -/
  packages : List String
deriving DecidableEq, Repr

namespace CustomClass

/-- A class that nothing is known about. -/
def ofClass (classType : String) : CustomClass := ⟨classType, [], none, none, []⟩

/-- Takes in what the document says about a node of the class; what was said first stays. -/
def addInfo (custom : CustomClass) (info : NodeInfo) : CustomClass where
  classType := custom.classType
  nodes := custom.nodes
  repository := custom.repository.or info.repository
  commit := custom.commit.or info.commit
  packages := info.packages.foldl (fun known package =>
    if package ∈ known then known else known ++ [package]) custom.packages

/-- Takes in a node of the class. -/
def addNode (custom : CustomClass) (id : String) (node : Node) : CustomClass :=
  let custom := { custom with nodes := custom.nodes ++ [id] }
  match node.info with
  | some info => custom.addInfo info
  | none => custom

end CustomClass

namespace Requirements

def none : Requirements := ⟨[], [], [], []⟩

/-- Puts an element at the end of a list that does not have it. -/
def addNew (known : List String) (name : String) : List String :=
  if name ∈ known then known else known ++ [name]

/-- Takes a model file into its category, or among the refused ones. -/
def addModel (found : Keyed (List String) × List String) (loader : ModelLoader) :
    Keyed (List String) × List String :=
  let (models, rejected) := found
  if ModelPath.isSafe loader.file then
    (models.insert loader.category (addNew ((models.get? loader.category).getD []) loader.file),
      rejected)
  else (models, addNew rejected loader.file)

/-- The model files that the catalogue knows a graph to load, and those whose paths are refused. -/
def modelsOf (catalogue : Catalogue) (graph : Graph) : List (String × List String) × List String :=
  let (models, rejected) :=
    ((graph.modelLoaders catalogue).filter fun loader => !loader.inferred).foldl addModel
      (.empty, [])
  ((nameSet models.keys).map fun category => (category, (models.get? category).getD []), rejected)

/-- The classes of a graph that do not ship with the engine, in the order in which they first
occur. -/
def customClassesOf (catalogue : Catalogue) (graph : Graph) : List CustomClass :=
  ((graph.entries.filter fun (_, node) => Graph.isCustom catalogue node).foldl
    (fun (known : Keyed CustomClass) (id, node) =>
      known.insert node.classType
        (((known.get? node.classType).getD (.ofClass node.classType)).addNode id node))
    .empty).values

/-- What a graph needs installed. -/
def ofGraph (catalogue : Catalogue) (graph : Graph) : Requirements :=
  let (models, rejected) := modelsOf catalogue graph
  let customClasses := customClassesOf catalogue graph
  ⟨models, rejected, customClasses, nameSet (customClasses.flatMap CustomClass.packages)⟩

/-- Adds the packages that Python source names. -/
def addSource (requirements : Requirements) (source : String) : Requirements :=
  { requirements with
    packages := nameSet (requirements.packages ++ ImportScan.packages source) }

/-- Whether nothing needs to be installed. -/
def isEmpty (requirements : Requirements) : Bool :=
  requirements.models.isEmpty && requirements.rejected.isEmpty
    && requirements.customClasses.isEmpty && requirements.packages.isEmpty

end Requirements

/-- What a class is written as; what is not known is left out. -/
def CustomClass.toJson (custom : CustomClass) : Json :=
  let text (name : String) (value : Option String) : List (String × Json) :=
    match value with
    | some text => [(name, .string text)]
    | none => []
  .object ([("class_type", .string custom.classType), ("node_ids", .ofStrings custom.nodes)]
    ++ text "repository" custom.repository ++ text "commit" custom.commit
    ++ (if custom.packages.isEmpty then [] else [("packages", .ofStrings custom.packages)]))

def Requirements.toJson (requirements : Requirements) : Json :=
  .object [
    ("models", .object (requirements.models.map fun (category, files) =>
      (category, .ofStrings files))),
    ("rejected_models", .ofStrings requirements.rejected),
    ("custom_nodes", .array (requirements.customClasses.map CustomClass.toJson)),
    ("python_packages", .ofStrings requirements.packages)]

end Flowgraph
