import Flowgraph.Main
import Flowgraph.Overlay.Printer
import Flowgraph.Host.Workspace
import Flowgraph.Unicode.Blank
import Flowgraph.Unicode.Word
import Flowgraph.Proofs.Cleaning.Flow
import Flowgraph.Proofs.Content.Unambiguous
import Flowgraph.Proofs.CycleSearch.Verdict
import Flowgraph.Proofs.Schedule.LeastOrder
import Flowgraph.Proofs.Canvas.OfGraph
import Flowgraph.Proofs.Canvas.WrittenOut
import Flowgraph.Proofs.Cleaning.Dependencies
import Flowgraph.Proofs.Cleaning.Runs
import Flowgraph.Proofs.Cleaning.Reordered
import Flowgraph.Proofs.Canvas.WireTable
import Flowgraph.Proofs.Canvas.SecondPass
import Flowgraph.Proofs.Workflow.Conversion
import Flowgraph.Proofs.Canvas.Consistent
import Flowgraph.Proofs.Canvas.Settled
import Flowgraph.Proofs.Graph.Alike
import Flowgraph.Proofs.Analysis
import Flowgraph.Proofs.Catalogue.Locality
import Flowgraph.Proofs.Canvas.Lossless
import Flowgraph.Proofs.Analysis.Counts
import Flowgraph.Proofs.Schedule.LeftOver
import Flowgraph.Proofs.Cleaning.Anomalies
import Flowgraph.Proofs.Cleaning.Tidy
import Flowgraph.Proofs.Dependencies.Queries
import Flowgraph.Proofs.NodeId.Numerals
import Flowgraph.Proofs.Analysis.Growth
import Flowgraph.Proofs.Requirements.CustomClasses
import Flowgraph.Proofs.Graph.Grammar
import Flowgraph.Proofs.Canvas.Acceptance
import Flowgraph.Proofs.ImportScan.LineByLine
import Flowgraph.Proofs.ImportScan.Statements
import Flowgraph.Proofs.ImportScan.Joined
import Flowgraph.Proofs.Drawing
import Flowgraph.Proofs.Analysis.Loaders
import Flowgraph.Proofs.Graph.Shaped
import Flowgraph.Proofs.Schedule.Moments
import Flowgraph.Proofs.CycleSearch.Moments
import Flowgraph.Proofs.NodeId.Sorting
