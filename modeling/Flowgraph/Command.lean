import Flowgraph.Form

/-!
# Commands

What the program can be asked to do. The commands work on files; how a result is written can be
chosen where there is more than one way.

Main result: `Request` is a command with what holds for all commands.
-/
namespace Flowgraph

inductive ReportForm
  | text
  | json
deriving DecidableEq, Repr

namespace ReportForm

/-- The form of a name; upper and lower case are the same. -/
def ofName? (name : String) : Option ReportForm :=
  match name.map Char.toLower with
  | "text" => some text
  | "json" => some json
  | _ => none

/-- What is said about a name that is no form's. -/
def unknown (name : String) : String := "Unknown output format: " ++ name

end ReportForm

inductive DrawingForm
  | text
  | dot
  | mermaid
deriving DecidableEq, Repr

namespace DrawingForm

/-- The form of a name; upper and lower case are the same. -/
def ofName? (name : String) : Option DrawingForm :=
  match name.map Char.toLower with
  | "text" => some text
  | "dot" => some dot
  | "mermaid" => some mermaid
  | _ => none

/-- What is said about a name that is no form's. -/
def unknown (name : String) : String := "Unknown graph format: " ++ name

end DrawingForm

/-- Something that the program can be asked to do. -/
inductive Command
  /-- Say whether the workflow in a file is sound. -/
  | validate (file : String)
  /-- Write the workflow in the other form, or in the one that is asked for. -/
  | convert (file : String) (target : Option Form) (output : Option String)
  /-- Write the workflow without the nodes that are for the eye only. -/
  | clean (file : String) (output : Option String)
  /-- Say what can be said about the workflows in the files that patterns name. -/
  | analyze (patterns : List String) (form : ReportForm)
  /-- Say what a workflow needs installed, with Python files to look through. -/
  | requirements (file : String) (sources : List String) (form : ReportForm)
  /-- Draw a workflow, with all of its nodes if that is asked for. -/
  | draw (file : String) (form : DrawingForm) (whole : Bool)
deriving DecidableEq, Repr

/-- A command, and what holds for all commands. -/
structure Request where
  command : Command
  /-- Whether more than usual is said. -/
  detailed : Bool
  /-- The overlay that is asked for. -/
  overlay : Option String
deriving DecidableEq, Repr

end Flowgraph
