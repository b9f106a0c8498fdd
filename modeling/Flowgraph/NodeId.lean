import Flowgraph.Ascending
import Flowgraph.Text.Numeral

/-!
# The order of node ids

Ids that are numerals below 2⁶⁴ come first and by their number; numerals of one number, and all
other ids, come in the order of their characters.

Main result: `NodeId.compare`, the order in which ids are listed everywhere.
-/
namespace Flowgraph.NodeId

/-- What an id is ordered by. -/
inductive Key
  | number (value : Nat) (text : String)
  | text (text : String)
deriving DecidableEq, Repr

namespace Key

/-- What an id is ordered by. -/
def ofId (id : String) : Key :=
  match Text.numeral? id.toList with
  | some value => if value < UInt64.size then number value id else text id
  | none => text id

/-- The order of keys: numbers first, then texts. -/
def compare : Key → Key → Ordering
  | number a s, number b t =>
    if a < b then .lt else if b < a then .gt else compareNames s t
  | number _ _, text _ => .lt
  | text _, number _ _ => .gt
  | text s, text t => compareNames s t

end Key

/-- The order of node ids. -/
def compare (a b : String) : Ordering := (Key.ofId a).compare (Key.ofId b)

/-- Ids in ascending order, those that come again kept. -/
def sort (ids : List String) : List String := ids.mergeSort fun a b => compare a b != .gt

/-- Puts an id at its place in an ascending list. -/
def insert (id : String) (ids : List String) : List String := Ascending.insert compare id ids

/-- A set of ids in ascending order. -/
def ascending (ids : List String) : List String := Ascending.ofList compare ids

end Flowgraph.NodeId
