import Flowgraph.Graph

/-!
# Canvas documents

The editor keeps a workflow as a list of nodes with their widget values by position, and a table of
the wires between them. Only what a workflow means is kept here; where a node lies on the canvas and
how it looks is not.

Main result: `Canvas.node?` finds a node by its id.
-/
namespace Flowgraph

namespace Canvas

/-- An input slot that a node declares. -/
structure Inlet where
  name : String
  slotType : String
  /-- The id of the wire that ends here. -/
  wire : Option UInt64
deriving DecidableEq

def Inlet.blank : Inlet := ⟨"", "", none⟩

/-- An output slot that a node declares. -/
structure Outlet where
  name : String
  slotType : String
  /-- The ids of the wires that begin here. -/
  wires : Option (List UInt64)
  slot : Option UInt32
deriving DecidableEq

def Outlet.blank : Outlet := ⟨"", "", none, none⟩

structure Node where
  id : String
  classType : String
  title : Option String
  inlets : List Inlet
  outlets : List Outlet
  /-- The widget values, by position or by name. -/
  widgets : Option Json
deriving DecidableEq

/-- A node without an id, a class or anything else. -/
def Node.blank : Node := ⟨"", "", none, [], [], none⟩

/-- A wire from an output slot to the input slot of a node. -/
structure Wire where
  id : UInt64
  origin : Source
  target : String
  slot : UInt32
deriving DecidableEq, Repr

end Canvas

/-- A workflow as the editor keeps it. -/
structure Canvas where
  nodes : List Canvas.Node
  wires : List Canvas.Wire
deriving DecidableEq

namespace Canvas

def empty : Canvas := ⟨[], []⟩

instance : Inhabited Canvas := ⟨empty⟩

/-- The first node of an id. -/
def node? (canvas : Canvas) (id : String) : Option Node :=
  canvas.nodes.find? fun node => node.id == id

end Canvas

end Flowgraph
