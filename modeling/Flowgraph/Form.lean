import Flowgraph.Json

/-!
# The two forms of a workflow document

A workflow is written as a canvas document, as the editor keeps it, or as a graph, as the engine
runs it. A document with a list of nodes and a list of links is a canvas document; everything else
counts as a graph.
-/
namespace Flowgraph

/-- A form of a workflow document. -/
inductive Form
  | canvas
  | graph
deriving DecidableEq, Repr

namespace Form

def name : Form → String
  | canvas => "ui"
  | graph => "api"

/-- The form of a name; upper and lower case are the same. -/
def ofName? (text : String) : Option Form :=
  let lower := text.map Char.toLower
  if lower = "ui" then some canvas else if lower = "api" then some graph else none

/-- What is said about a name that is no form's. -/
def unknown (text : String) : String := "Unknown workflow format: " ++ text

def other : Form → Form
  | canvas => graph
  | graph => canvas

/-- Whether a document has a list under a name. -/
def hasList (document : Json) (name : String) : Bool :=
  match document.field? name with
  | some value => value.isArray
  | none => false

def ofJson (document : Json) : Form :=
  if hasList document "nodes" && hasList document "links" then canvas else graph

end Form

end Flowgraph
