import Flowgraph.Yaml

/-!
# Aliases in overlays

Aliases let a short text stand for a very long overlay. Every alias is followed that stands where an
overlay is read, as often as it is come upon; those in parts that are ignored are not. An overlay
may not follow aliases more than a hundred times as often as its text has nodes and ends of nodes.

Main result: `Overlay.isModest` says whether a document keeps to that.
-/
namespace Flowgraph

namespace Yaml

mutual

/-- The number of nodes and of ends of collections in a node. -/
def size : Yaml → Nat
  | scalar _ _ _ => 1
  | aliasOf _ => 1
  | sequence items => 2 + itemSize items
  | mapping entries => 2 + entrySize entries

/-- The size of the items of a sequence. -/
def itemSize : List Yaml → Nat
  | [] => 0
  | item :: rest => item.size + itemSize rest

/-- The size of the entries of a mapping. -/
def entrySize : List (Yaml × Yaml) → Nat
  | [] => 0
  | (key, value) :: rest => key.size + value.size + entrySize rest

end

namespace Document

/-- How many aliases are followed to find a node. -/
def hops (document : Document) : Nat :=
  match document.node with
  | aliasOf _ => 1
  | _ => 0

/-- How many aliases are followed to read a list, given how many an item takes. -/
def hopsOfList (item : Document → Nat) (document : Document) : Nat :=
  match document.resolved with
  | sequence items =>
    items.foldl (fun count node => count + item (document.part node)) document.hops
  | _ => document.hops

/-- How many aliases are followed to read a mapping, given how many a value takes under a key. -/
def hopsOfEntries (value : String → Document → Nat) (document : Document) : Nat :=
  match document.resolved with
  | mapping entries =>
    entries.foldl (fun count entry =>
      let key := document.part entry.1
      count + key.hops + value (key.text?.getD "") (document.part entry.2)) document.hops
  | _ => document.hops

/-- How many aliases are followed to read a record, given how many its fields take. -/
def hopsOfRecord (fields : List (String × (Document → Nat))) (document : Document) : Nat :=
  document.hopsOfEntries fun name value => (fields.lookup name).elim 0 fun field => field value

end Document

end Yaml

namespace Overlay

open Yaml.Document

/-- How many aliases are followed to read a class description. -/
def hopsOfSpec : Yaml.Document → Nat :=
  hopsOfRecord [("widgets", hopsOfList (hopsOfRecord [("name", hops), ("role", hops)])),
    ("inputs", hopsOfList hops),
    ("model", hopsOfRecord [("fields", hopsOfList hops), ("category", hops)])]

/-- How many aliases are followed to read an overlay. -/
def hopsOfOverlay : Yaml.Document → Nat :=
  hopsOfRecord [("builtins", hopsOfList hops), ("nodes", hopsOfEntries fun _ => hopsOfSpec),
    ("bypassable", hopsOfList hops), ("droppable", hopsOfList hops)]

/-- Whether an overlay follows its aliases no more often than it may. -/
def isModest (document : Yaml.Document) : Bool :=
  hopsOfOverlay document ≤ 100 * document.node.size

end Overlay

end Flowgraph
