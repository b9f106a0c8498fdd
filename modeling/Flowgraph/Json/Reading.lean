import Flowgraph.Json.Tree
import Flowgraph.Shape

/-!
# Reading JSON texts by shape

A text is read against a shape while its faults are still unseen, so that whichever comes first in
the text is reported: a fault of the text or a mismatch with the shape. Unknown fields of records
are skipped, and so are the faults that only a reader of their values would see.

Main result: the instance of `Legible` for `Json.Tree`.
-/
namespace Flowgraph.Json

/-- Why a text cannot be read: a fault of the text, or a mismatch with the shape. -/
inductive Trouble
  | fault (cause : Cause)
  | mismatch (mismatch : Mismatch)
deriving DecidableEq

def Trouble.message : Trouble → String
  | .fault cause => cause.message
  | .mismatch found => found.message

/-- The fault behind the elements of a container, as the last of the steps. -/
def Ending.steps {α : Type} : Ending → List (Except Trouble α)
  | .closed => []
  | .fault wanted _ => [.error (.fault wanted.cause)]

namespace Tree

/-- A result whose fault is all the trouble. -/
def troubled {α : Type} : Except Fault α → Except Trouble α
  | .ok value => .ok value
  | .error fault => .error (.fault fault.cause)

/-- The trouble of a value that is not of the kind that is wanted. -/
def mistaken (wanted : String) : Tree → Trouble
  | null => .mismatch (.wrongKind .null wanted)
  | bool value => .mismatch (.wrongKind (.bool value) wanted)
  | number (.ok value) => .mismatch (.wrongKind (.number value) wanted)
  | number (.error fault) => .fault fault.cause
  | string (.ok text) => .mismatch (.wrongKind (.text text) wanted)
  | string (.error fault) => .fault fault.cause
  | array _ _ _ => .mismatch (.wrongKind .list wanted)
  | object _ _ _ => .mismatch (.wrongKind .map wanted)
  | cut wanted _ => .fault wanted.cause
  | broken wanted _ => .fault wanted.cause

/-- The entries of an object, with the fault behind them. -/
def entries (fields : List (Except Fault String × Tree)) (ending : Ending) :
    List (Except Trouble (String × Tree)) :=
  fields.map (fun (name, value) => (troubled name).map (·, value)) ++ ending.steps

/-- What is wrong behind the last field of a record that is written as a list. -/
def surplus : List (Except Trouble Tree) → Option Trouble
  | [] => none
  | .error (.fault .expectedItemOrEnd) :: _ => some (.fault .trailingCharacters)
  | .error trouble :: _ => some trouble
  | .ok _ :: _ => some (.fault .trailingCharacters)

/-- One of several names, as a string or as the only name of an object, with null as its value. -/
def variant (known : List String) : Tree → Except Trouble String
  | string (.ok name) =>
    if known.contains name then .ok name else .error (.mismatch (.unknownVariant name known))
  | string (.error fault) => .error (.fault fault.cause)
  | object _ ((.error fault, _) :: _) _ => .error (.fault fault.cause)
  | object _ ((.ok name, value) :: rest) ending =>
    if !known.contains name then .error (.mismatch (.unknownVariant name known))
    else
      match value, rest, ending with
      | null, [], .closed => .ok name
      | null, [], .fault wanted _ =>
        if wanted.cause = .endInObject then .error (.fault .endInObject)
        else .error (.fault .expectedValue)
      | null, _ :: _, _ => .error (.fault .expectedValue)
      | value, _, _ => .error (value.mistaken "unit")
  | object _ [] (.fault wanted _) => .error (.fault wanted.cause)
  | broken wanted _ => .error (.fault wanted.cause)
  | _ => .error (.fault .expectedValue)

instance : Legible Tree Trouble where
  text
    | string text => troubled text
    | value => .error (value.mistaken "a string")
  list
    | array _ items ending => .ok (items.map .ok ++ ending.steps)
    | value => .error (value.mistaken "a sequence")
  map
    | object _ fields ending => .ok (entries fields ending)
    | value => .error (value.mistaken "a map")
  record shape
    | object _ fields ending =>
      .ok (shape.steps .mismatch (fun value => troubled value.skip) [] (entries fields ending))
    | array _ items ending =>
      .ok (shape.stepsOfList .mismatch surplus 0 shape.fields (items.map .ok ++ ending.steps))
    | value => .error (value.mistaken shape.title)
  isNothing
    | null => true
    | _ => false
  choice := variant

end Tree

/-- Reads a whole text by a shape. -/
def readText {α : Type} (read : Tree → Except Trouble α) (text : String) : Except Trouble α := do
  let (tree, behind) := Tree.parse text.toList
  let value ← read tree
  match behind with
  | some fault => .error (.fault fault.cause)
  | none => pure value

end Flowgraph.Json
