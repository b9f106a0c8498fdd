import Flowgraph.Blake3
import Flowgraph.Graph
import Flowgraph.Json.Printer

/-!
# Fingerprints

The content of a graph is a sequence of bytes that says what the graph computes and nothing else:
its nodes in the order of their ids, their class types, and their inputs in the order of their
names, each text with its length in front. Objects inside constants are put into the order of
their names too, so neither the order of a document nor its titles matter. The fingerprint is the
hash of the content.

Main result: `Graph.content` and `Graph.fingerprint`; the fingerprint of several graphs one after
the other is that of their contents put together.
-/
namespace Flowgraph

namespace Content

def ofText (text : String) : List UInt8 := text.toUTF8.toList

/-- A length in eight bytes, the lowest first. -/
def ofLength (n : Nat) : List UInt8 :=
  (List.range 8).map fun i => (n >>> (8 * i)).toUInt8

/-- A slot in four bytes, the lowest first. -/
def ofSlot (slot : UInt32) : List UInt8 := Blake3.wordBytes slot

/-- A text behind its tag and its length. -/
def field (tag text : String) : List UInt8 :=
  ofText tag ++ ofLength (ofText text).length ++ ofText text

/-- Entries in the order of their names. -/
def sorted {α : Type} (entries : List (String × α)) : List (String × α) :=
  entries.mergeSort fun a b => decide (a.1 ≤ b.1)

mutual

/-- The content of a constant. -/
def ofJson : Json → List UInt8
  | .object fields =>
    ofText "\x7b"
      ++ (sorted (ofFields fields)).flatMap (fun (name, content) => field "key" name ++ content)
      ++ ofText "\x7d"
  | .array items => ofText "[" ++ ofItems items ++ ofText "]"
  | .null => field "scalar" "null"
  | .bool value => field "scalar" (if value then "true" else "false")
  | .number value => field "scalar" value.text
  | .string value => field "scalar" (Json.quoted value)

/-- The contents of the items of an array, one after the other. -/
def ofItems : List Json → List UInt8
  | [] => []
  | item :: rest => ofJson item ++ ofItems rest

/-- The contents of the fields of an object, under their names. -/
def ofFields : List (String × Json) → List (String × List UInt8)
  | [] => []
  | (name, value) :: rest => (name, ofJson value) :: ofFields rest

end

/-- The content of what an input holds. -/
def ofInput : Input → List UInt8
  | .wired source => field "link" source.node ++ ofSlot source.slot
  | .constant value => ofText "literal" ++ ofJson value

def ofNode (node : Node) : List UInt8 :=
  field "class" node.classType
    ++ (sorted node.inputs.entries).flatMap fun (name, input) => field "input" name ++ ofInput input

end Content

namespace Graph

def content (graph : Graph) : List UInt8 :=
  (Content.sorted graph.entries).flatMap fun (id, node) =>
    Content.field "node" id ++ Content.ofNode node

end Graph

namespace Fingerprint

def ofContent (content : List UInt8) : String := Blake3.hex (Blake3.digest content)

end Fingerprint

def Graph.fingerprint (graph : Graph) : String := Fingerprint.ofContent graph.content

end Flowgraph
