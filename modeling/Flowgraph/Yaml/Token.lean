/-!
# Tokens of YAML

A text is a sequence of tokens: the marks that are written, and those that the layout implies,
namely where a block collection begins and ends and where a key begins.
-/
namespace Flowgraph.Yaml

/-- The octets of a tag; percent signs let them be any. -/
abbrev Octets := List UInt8

/-- A smallest part of a document. -/
inductive Token
  /-- A directive that gives the version of the language. -/
  | version (major minor : Nat)
  /-- A directive that gives what a handle of tags stands for. -/
  | vocabulary (handle : String) (expansion : Octets)
  | documentStart
  | documentEnd
  | blockSequence
  | blockMapping
  | blockEnd
  | flowSequence
  | flowSequenceEnd
  | flowMapping
  | flowMappingEnd
  | comma
  /-- The dash of an item. -/
  | item
  | key
  | value
  | anchor (name : String)
  | aliasOf (name : String)
  /-- A tag; one that is written out has an empty handle. -/
  | tag (handle : String) (suffix : Octets)
  | scalar (plain : Bool) (text : String)
deriving DecidableEq

namespace Token

/-- Whether a token stands outside the documents. -/
def isOutside : Token → Bool
  | version _ _ => true
  | vocabulary _ _ => true
  | documentStart => true
  | documentEnd => true
  | _ => false

end Token

end Flowgraph.Yaml
