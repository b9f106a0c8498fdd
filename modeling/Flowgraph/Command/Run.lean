import Flowgraph.Analysis.Report
import Flowgraph.Canvas.OfGraph
import Flowgraph.Canvas.Printer
import Flowgraph.Catalogue.Load
import Flowgraph.Cleaning
import Flowgraph.Command
import Flowgraph.CycleSearch
import Flowgraph.Drawing
import Flowgraph.Glob.Search
import Flowgraph.Graph.Printer
import Flowgraph.Requirements.Report

/-!
# Running commands

A command reads its files from the host and prints its result there; remarks about what was found on
the way go beside the result.

Main result: `Request.run` runs a request, or says why it failed.
-/
namespace Flowgraph

inductive Command.Failure
  | refused (refusal : Refusal)
  | reported (message : String)

/-- What is said about a failure. -/
def Command.Failure.message : Failure → String
  | refused refusal => refusal.message
  | reported message => message

namespace Command

open Report

variable {m : Type → Type} [Monad m] [Host m]

abbrev Action (m : Type → Type) := ExceptT Failure m

/-- Takes the refusal of what was read as the failure of the command. -/
def reading {α : Type} (action : ExceptT Refusal m α) : Action m α := ExceptT.adapt .refused action

/-- Remarks what a user can do about a refusal. -/
def remarkAdvice (refusal : Refusal) : Action m Unit := do
  if let some advice := refusal.advice? then Host.remark (gap ++ advice.text)

/-- Takes a refusal as the failure of the command, with advice, and with a remark in front if
there is one. -/
def advised {α : Type} (intro : Option String) (result : Except Refusal α) : Action m α := do
  match result with
  | .ok value => pure value
  | .error refusal =>
    if let some text := intro then Host.remark (bad text)
    remarkAdvice refusal
    throw (.refused refusal)

/-- Remarks which nodes were removed. -/
def remarkRemoved (removed : List String) : Action m Unit := do
  unless removed.isEmpty do Host.remark (line ("Removed: " ++ listed removed))

/-- Prints a text, or puts it into a file. -/
def deliver (output : Option String) (text : String) : Action m Unit := do
  match output with
  | none => Host.print (line text)
  | some path =>
    match ← Host.write path text with
    | .ok () => pure ()
    | .error trouble =>
      throw (.reported ("Failed to write '" ++ path ++ "': " ++ trouble.message))

/-- The workflow in a file, cleaned. -/
def cleanedFile (catalogue : Catalogue) (path : String) : ExceptT Refusal m Cleaning := do
  return (← Workflow.ofFile catalogue path).graph.clean catalogue

/-- The workflow in a file; only what is wrong with the workflow itself comes with advice. -/
def workflowOf (catalogue : Catalogue) (path : String) : Action m Workflow := do
  let document ← reading (Document.ofFile path)
  advised none (Workflow.ofJson catalogue document)

/-- Says whether the workflow in a file is sound. -/
def runValidate (detailed : Bool) (overlay : Option String) (file : String) : Action m Unit := do
  Host.print (line "Validating workflow..." ++ gap)
  let catalogue ← reading (Catalogue.load overlay)
  let document ← advised (some "Failed to read workflow") (← (Document.ofFile file).run)
  let workflow ← advised (some "Workflow structure is invalid") (Workflow.ofJson catalogue document)
  let graph := workflow.graph
  Host.print (good ("Parsed " ++ toString graph.size ++ " nodes (" ++ workflow.form.name
    ++ " form)"))
  let acyclic := graph.checkAcyclic
  match acyclic with
  | .ok () => Host.print (good "No circular dependencies")
  | .error refusal =>
    Host.remark (bad refusal.message)
    remarkAdvice refusal
  let issues := workflow.errors ++ graph.issues
  Host.print (part "Warnings" doubtful issues)
  let custom := workflow.customTypes catalogue
  Host.print (if custom.isEmpty then good "Only built-in node types"
    else doubtful (toString custom.length ++ " custom node types"))
  if detailed then
    Host.print (heading "Workflow summary"
      ++ line ("  Connections: " ++ toString graph.linkCount)
      ++ line ("  Fingerprint: " ++ graph.fingerprint)
      ++ String.join (custom.map fun classType => line ("    - " ++ classType)))
  Host.print gap
  match acyclic with
  | .error _ => throw (.reported "Workflow validation failed")
  | .ok () =>
    Host.print (line (if issues.isEmpty then "Workflow is valid!"
      else "Workflow is valid but has warnings."))

/-- Writes a workflow in the other form, or in the one that is asked for. -/
def runConvert (detailed : Bool) (overlay : Option String) (file : String) (target : Option Form)
    (output : Option String) : Action m Unit := do
  let catalogue ← reading (Catalogue.load overlay)
  let document ← reading (Document.ofFile file)
  let source := Form.ofJson document
  let target := target.getD source.other
  let (graph, dropped) ← advised none (Document.convert catalogue document)
  for wire in dropped do Host.remark (doubtful wire.message)
  if detailed then
    Host.remark (line ("Converted: " ++ toString graph.size ++ " nodes, " ++ toString dropped.length
      ++ " links dropped (" ++ source.name ++ " -> " ++ target.name ++ ")"))
  deliver output (match target with
    | .graph => graph.pretty
    | .canvas => (Canvas.ofGraph catalogue graph).toJson.pretty)

/-- Writes a workflow without the nodes that are for the eye only. -/
def runClean (detailed : Bool) (overlay : Option String) (file : String) (output : Option String) :
    Action m Unit := do
  let catalogue ← reading (Catalogue.load overlay)
  let graph := (← workflowOf catalogue file).graph
  let cleaning := graph.clean catalogue
  Host.remark (line ("Preprocessed: " ++ toString cleaning.removed.length ++ " of "
    ++ toString graph.size ++ " nodes removed"))
  if detailed then remarkRemoved cleaning.removed
  for anomaly in cleaning.anomalies do Host.remark (doubtful anomaly.message)
  deliver output cleaning.graph.pretty

/-- The files that a pattern names; a path at which there is something names just that. -/
def filesOf (pattern : String) : Action m (List String) := do
  if ← Host.isThere pattern then return [pattern]
  match Glob.parse pattern with
  | .error fault =>
    Host.remark (line ("Warning: Invalid pattern '" ++ pattern ++ "': " ++ fault.message))
    return []
  | .ok parsed =>
    let files ← Glob.search parsed
    if files.isEmpty then
      Host.remark (line ("Warning: No files match '" ++ pattern ++ "'"))
    return files

/-- The analysis of the workflow in a file. -/
def analyzeFile (catalogue : Catalogue) (path : String) : ExceptT Refusal m FileAnalysis := do
  let cleaning ← cleanedFile catalogue path
  return ⟨path, cleaning.removed, cleaning.graph.analyze catalogue⟩

/-- Says what can be said about the workflows in files; those that are none are passed over. -/
def runAnalyze (detailed : Bool) (overlay : Option String) (patterns : List String)
    (form : ReportForm) : Action m Unit := do
  if patterns.isEmpty then
    throw (.reported "No files specified.\n\nUsage: nodeflow analyze <file>...")
  let catalogue ← reading (Catalogue.load overlay)
  let files ← patterns.flatMapM filesOf
  if files.isEmpty then throw (.reported "No workflow files matched")
  let reports ← files.filterMapM fun file => do
    match ← (analyzeFile catalogue file).run with
    | .ok report =>
      if form = .text then Host.print (report.text detailed)
      return some report
    | .error refusal =>
      Host.remark (line ("Error: Failed to analyze " ++ file ++ ": " ++ refusal.message))
      return none
  if form = .json then Host.print (line (Json.array (reports.map FileAnalysis.toJson)).pretty)
  if reports.isEmpty then throw (.reported "No workflow could be analyzed")

/-- Says what a workflow needs installed. -/
def runRequirements (detailed : Bool) (overlay : Option String) (file : String)
    (sources : List String) (form : ReportForm) : Action m Unit := do
  let catalogue ← reading (Catalogue.load overlay)
  let cleaning := (← workflowOf catalogue file).graph.clean catalogue
  if detailed then remarkRemoved cleaning.removed
  let requirements ← sources.foldlM (fun requirements path => do
    match ← Host.read path with
    | .ok code => return requirements.addSource code
    | .error trouble =>
      throw (.reported ("Failed to read '" ++ path ++ "': " ++ trouble.message)))
    (Requirements.ofGraph catalogue cleaning.graph)
  Host.print (match form with
    | .text => requirements.text
    | .json => line requirements.toJson.pretty)

def runDraw (detailed : Bool) (overlay : Option String) (file : String) (form : DrawingForm)
    (whole : Bool) : Action m Unit := do
  let catalogue ← reading (Catalogue.load overlay)
  let graph := (← reading (Workflow.ofFile catalogue file)).graph
  let cleaning := graph.clean catalogue
  if detailed && !whole then remarkRemoved cleaning.removed
  let graph := if whole then graph else cleaning.graph
  match form with
  | .text => Host.print (← advised none graph.plan)
  | .dot => Host.print graph.dot
  | .mermaid => Host.print graph.flowchart

end Command

def Request.run {m : Type → Type} [Monad m] [Host m] (request : Request) : Command.Action m Unit :=
  match request.command with
  | .validate file => Command.runValidate request.detailed request.overlay file
  | .convert file target output =>
    Command.runConvert request.detailed request.overlay file target output
  | .clean file output => Command.runClean request.detailed request.overlay file output
  | .analyze patterns form => Command.runAnalyze request.detailed request.overlay patterns form
  | .requirements file sources form =>
    Command.runRequirements request.detailed request.overlay file sources form
  | .draw file form whole => Command.runDraw request.detailed request.overlay file form whole

end Flowgraph
