import Flowgraph.Json.Reading

/-!
# Refusals and advice

Why a document, a graph or an overlay is refused, with the wording of each cause, and what a user
can do about it.

Main result: `Refusal.message` words every cause, and `Refusal.advice?` gives the steps for the
causes that a user can mend in the workflow itself.
-/
namespace Flowgraph

/-- Why a document is no workflow document at all. -/
inductive Malformed
  /-- The text is not JSON; the fault is at a line and a column. -/
  | text (cause : Json.Cause) (line column : Nat)
  | noObject
  | noObjectOfNodes
deriving DecidableEq

/-- Why a node of a document is no node. -/
inductive NodeDefect
  | noObject
  | classMissing
  | classEmpty
  | classNoText
  | inputsNoObject
  | duplicateId
  | shape (mismatch : Mismatch)
deriving DecidableEq

/-- Why an overlay text is no overlay. -/
inductive OverlayFault
  | json (trouble : Json.Trouble)
  | yaml
  | toml
deriving DecidableEq

inductive Refusal
  | malformed (detail : Malformed)
  | fileNotFound (path : String)
  | fileUnreadable (path reason : String)
  | emptyGraph
  | invalidNode (id : String) (defect : NodeDefect)
  /-- A cycle, from the node where the search closed it. -/
  | circular (node : String) (cycle : List String)
  /-- The nodes that cannot be put in order, with one that lies on a cycle. -/
  | unorderable (node : String) (remaining : List String)
  | badOverlayFile (path : String) (fault : OverlayFault)
  | badOverlay (fault : OverlayFault)
deriving DecidableEq

namespace Malformed

def message : Malformed → String
  | text cause line column =>
    let place (separator : String) :=
      "line " ++ toString line ++ separator ++ "column " ++ toString column
    cause.message ++ " at " ++ place " " ++ " (" ++ place ", " ++ ")"
  | noObject => "expected a JSON object at the top level"
  | noObjectOfNodes => "expected a JSON object keyed by node id"

end Malformed

namespace NodeDefect

def message : NodeDefect → String
  | noObject => "node must be an object"
  | classMissing => "missing class_type"
  | classEmpty => "class_type must not be empty"
  | classNoText => "class_type must be a string"
  | inputsNoObject => "inputs must be an object"
  | duplicateId => "duplicate node id"
  | shape mismatch => mismatch.message

end NodeDefect

namespace OverlayFault

/-- The wording of the fault, where it is fixed. -/
def message? : OverlayFault → Option String
  | json trouble => some ("JSON error: " ++ trouble.message)
  | yaml => none
  | toml => none

end OverlayFault

/-- What a user can do about a refusal. -/
structure Advice where
  action : String
  steps : List String
  commands : List String
deriving DecidableEq

namespace Advice

def text (advice : Advice) : String :=
  let line (indent text : String) := indent ++ text ++ "\n"
  line "→ " advice.action ++ String.join (advice.steps.map (line "  "))
    ++ (if advice.commands.isEmpty then ""
      else "\n" ++ String.join (advice.commands.map (line "  ")))

/-- What to do about nodes that feed each other. -/
def breakCycle (nodes : List String) : Advice where
  action := "Remove circular dependency"
  steps := [
    "Nodes involved: " ++ " → ".intercalate nodes,
    "A node's output cannot feed back into one of its own inputs",
    "Disconnect one of the links between the listed nodes"]
  commands := ["# Visualize the workflow:", "nodeflow graph workflow.json --format mermaid"]

/-- What to do about a workflow without nodes. -/
def exportNodes : Advice where
  action := "Export a workflow that contains nodes"
  steps := [
    "The document parsed, but no nodes were found",
    "UI exports keep nodes under \"nodes\"; API exports key nodes by id"]
  commands := []

/-- What to do about an invalid node. -/
def mendNode (id reason : String) : Advice where
  action := "Fix node '" ++ id ++ "'"
  steps := [
    reason,
    "Every node needs a non-empty string \"class_type\"",
    "\"inputs\", when present, must be an object"]
  commands := []

/-- What to do about a text that is not JSON. -/
def mendText : Advice where
  action := "Fix JSON syntax"
  steps := [
    "Check for common JSON issues:",
    "  • Trailing commas after the last entry",
    "  • Single quotes instead of double quotes",
    "  • Truncated files from an interrupted download"]
  commands := ["# Validate your JSON:", "python -m json.tool workflow.json"]

end Advice

namespace Refusal

/-- The wording of a refusal; where it rests on the wording of an overlay format, nothing. -/
def message? : Refusal → Option String
  | malformed detail => some ("Malformed workflow document: " ++ detail.message)
  | fileNotFound path => some ("Workflow file not found: " ++ path)
  | fileUnreadable path reason => some ("Failed to read file '" ++ path ++ "': " ++ reason)
  | emptyGraph => some "Workflow contains no nodes"
  | invalidNode id defect => some ("Node '" ++ id ++ "' is invalid: " ++ defect.message)
  | circular node _ => some ("Circular dependency detected at node '" ++ node ++ "'")
  | unorderable node _ => some ("Cannot order workflow: node '" ++ node ++ "' is part of a cycle")
  | badOverlayFile path fault =>
    fault.message?.map fun text => "Invalid node registry '" ++ path ++ "': " ++ text
  | badOverlay fault => fault.message?

/-- The wording of a refusal; empty where it rests on the wording of an overlay format. -/
def message (refusal : Refusal) : String := refusal.message?.getD ""

/-- The code under which a refusal is documented. -/
def code : Refusal → String
  | malformed _ => "nodeflow::malformed_input"
  | fileNotFound _ => "nodeflow::file_not_found"
  | fileUnreadable _ _ => "nodeflow::file_read_error"
  | emptyGraph => "nodeflow::empty_graph"
  | invalidNode _ _ => "nodeflow::invalid_node_structure"
  | circular _ _ => "nodeflow::circular_dependency"
  | unorderable _ _ => "nodeflow::cycle"
  | badOverlayFile _ _ => "nodeflow::registry_error"
  | badOverlay (.json _) => "nodeflow::json_error"
  | badOverlay .yaml => "nodeflow::yaml_error"
  | badOverlay .toml => "nodeflow::toml_error"

/-- A hint that goes with a refusal. -/
def help? : Refusal → Option String
  | malformed _ => some "Workflows must be JSON objects in either API or UI form"
  | emptyGraph => some "Export the workflow again, making sure at least one node is present"
  | circular _ _ => some "Review the connections between the listed nodes to remove the cycle"
  | unorderable node _ => some ("Remove one of the links feeding back into '" ++ node ++ "'")
  | badOverlayFile _ _ => some "Registry overlays may be written in YAML, JSON or TOML"
  | _ => none

/-- The node that a refusal is about. -/
def node? : Refusal → Option String
  | invalidNode id _ => some id
  | circular node _ => some node
  | unorderable node _ => some node
  | _ => none

/-- Whether the refusal is about a cycle. -/
def isCycle : Refusal → Bool
  | circular _ _ => true
  | unorderable _ _ => true
  | _ => false

/-- What a user can do about a refusal. -/
def advice? : Refusal → Option Advice
  | malformed _ => some Advice.mendText
  | emptyGraph => some Advice.exportNodes
  | invalidNode id defect => some (Advice.mendNode id defect.message)
  | circular _ cycle => some (Advice.breakCycle cycle)
  | unorderable _ remaining => some (Advice.breakCycle remaining)
  | _ => none

/-- The refusal of a text that is not JSON. -/
def ofFault (text : String) (fault : Json.Fault) : Refusal :=
  let (line, column) := Json.position text.toList fault.offset
  malformed (.text fault.cause line column)

end Refusal

end Flowgraph
