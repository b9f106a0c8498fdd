import Flowgraph.Analysis.Printer
import Flowgraph.Report

/-!
# Reports on analysed files

What is said about the workflow in a file once it has been cleaned, for readers or as an object.

Main result: `FileAnalysis.text` and `FileAnalysis.toJson`.
-/
namespace Flowgraph

open Report

/-- The analysis of a file, and the nodes that were left out of it. -/
structure FileAnalysis where
  path : String
  removed : List String
  analysis : Analysis

namespace FileAnalysis

/-- The counts that a report begins with. -/
def counts (file : FileAnalysis) : String :=
  let complexity := file.analysis.complexity
  line ("Nodes:      " ++ toString file.analysis.nodeCount)
    ++ line ("Connections: " ++ toString file.analysis.connections.total)
    ++ line ("Complexity:  " ++ complexity.level.name ++ " (" ++ complexity.scoreText
      ++ ", longest chain " ++ toString complexity.depth ++ ")")
    ++ (if file.removed.isEmpty then "" else line ("Removed:    " ++ listed file.removed))

/-- The order of execution, or why there is none. -/
def order (file : FileAnalysis) : String :=
  heading "Execution order" ++ match file.analysis.order with
    | .ok order => line ("  " ++ " → ".intercalate order)
    | .error refusal => bad refusal.message

/-- The model files that are loaded. -/
def models (file : FileAnalysis) : String :=
  part "Models" (fun (loader : ModelLoader) =>
    bullet (loader.file ++ " [" ++ loader.category ++ "]"
      ++ (if loader.inferred then " (inferred)" else ""))) file.analysis.loaders

/-- What is said on request only. -/
def details (file : FileAnalysis) : String :=
  heading "Details" ++ line ("  Fingerprint: " ++ file.analysis.fingerprint)
    ++ (match file.analysis.connections.busiest with
      | some busiest => line ("  Most connected: " ++ busiest.node ++ " ("
        ++ busiest.classType ++ ", " ++ toString busiest.inputs ++ " inputs)")
      | none => "")
    ++ (if file.analysis.isolated.isEmpty then ""
      else line ("  Isolated: " ++ listed file.analysis.isolated))

def text (detailed : Bool) (file : FileAnalysis) : String :=
  gap ++ title ("Analyzing: " ++ file.path) ++ gap ++ file.counts ++ file.order
    ++ heading "Categories"
    ++ String.join (file.analysis.categories.map fun (category, ids) =>
      line ("  " ++ padded 8 category.name ++ " " ++ listed ids))
    ++ file.models
    ++ part "Custom nodes" bullet file.analysis.customTypes
    ++ part "Issues" doubtful file.analysis.issues
    ++ (if detailed then file.details else "") ++ gap

/-- What the report is written as. -/
def toJson (file : FileAnalysis) : Json :=
  .object (("file", .string file.path) :: ("removed_nodes", .ofStrings file.removed)
    :: file.analysis.fields)

end FileAnalysis

end Flowgraph
