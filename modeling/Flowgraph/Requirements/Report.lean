import Flowgraph.Report
import Flowgraph.Requirements

/-!
# Reports on requirements

What a workflow needs installed, for readers.

Main result: `Requirements.text`.
-/
namespace Flowgraph

open Report

/-- Where a class comes from, as far as it is known. -/
def CustomClass.origin (custom : CustomClass) : String :=
  match custom.repository, custom.commit with
  | some repository, some commit => " " ++ repository ++ "@" ++ commit
  | some repository, none => " " ++ repository
  | none, _ => ""

namespace Requirements

/-- The files of a category of models. -/
def categoryText (entry : String × List String) : String :=
  line ("  " ++ entry.1 ++ ":") ++ String.join (entry.2.map fun file => line ("    - " ++ file))

def text (requirements : Requirements) : String :=
  if requirements.isEmpty then line "No dependencies beyond the built-in node set."
  else
    part "Models" categoryText requirements.models
      ++ part "Rejected model paths" doubtful requirements.rejected
      ++ part "Custom nodes" (fun (custom : CustomClass) =>
        bullet (custom.classType ++ " [" ++ listed custom.nodes ++ "]" ++ custom.origin))
        requirements.customClasses
      ++ part "Python packages" bullet requirements.packages
      ++ gap

end Requirements

end Flowgraph
