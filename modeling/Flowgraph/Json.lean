import Flowgraph.Keyed
import Flowgraph.Json.Number

/-!
# JSON values

A JSON value keeps the order of the fields of its objects. Objects that are read from text never
repeat a name; `Json.object` itself does not forbid it, and look-up then finds the first.

Main result: `same_iff` makes equality of values decidable.
-/
namespace Flowgraph

inductive Json
  | null
  | bool (value : Bool)
  | number (value : Json.Number)
  | string (value : String)
  | array (items : List Json)
  | object (fields : List (String × Json))

namespace Json

instance : Inhabited Json := ⟨null⟩

mutual

/-- Whether two values are the same, order of fields included. -/
def same : Json → Json → Bool
  | null, null => true
  | bool a, bool b => a == b
  | number a, number b => a == b
  | string a, string b => a == b
  | array a, array b => sameItems a b
  | object a, object b => sameFields a b
  | _, _ => false

/-- Whether two lists hold the same values at the same places. -/
def sameItems : List Json → List Json → Bool
  | [], [] => true
  | a :: as, b :: bs => same a b && sameItems as bs
  | _, _ => false

/-- Whether two lists hold the same named values at the same places. -/
def sameFields : List (String × Json) → List (String × Json) → Bool
  | [], [] => true
  | (key, a) :: as, (other, b) :: bs => key == other && (same a b && sameFields as bs)
  | _, _ => false

end

mutual

theorem same_iff : ∀ a b : Json, same a b = true ↔ a = b
  | null, b => by cases b <;> simp [same]
  | bool a, b => by cases b <;> simp [same]
  | number a, b => by cases b <;> simp [same]
  | string a, b => by cases b <;> simp [same]
  | array a, b => by
    cases b <;> simp [same, sameItems_iff a]
  | object a, b => by
    cases b <;> simp [same, sameFields_iff a]

theorem sameItems_iff : ∀ a b : List Json, sameItems a b = true ↔ a = b
  | [], b => by cases b <;> simp [sameItems]
  | a :: as, b => by
    cases b with
    | nil => simp [sameItems]
    | cons b bs => simp [sameItems, same_iff a b, sameItems_iff as bs]

theorem sameFields_iff : ∀ a b : List (String × Json), sameFields a b = true ↔ a = b
  | [], b => by cases b <;> simp [sameFields]
  | (key, a) :: as, b => by
    cases b with
    | nil => simp [sameFields]
    | cons b bs =>
      obtain ⟨other, b⟩ := b
      simp [sameFields, same_iff a b, sameFields_iff as bs, and_assoc]

end

instance : DecidableEq Json := fun a b => decidable_of_iff _ (same_iff a b)

/-- The natural number that a value is. -/
def natural? : Json → Option UInt64
  | number value => value.natural?
  | _ => none

/-- The text that a value is. -/
def string? : Json → Option String
  | string value => some value
  | _ => none

def items? : Json → Option (List Json)
  | array items => some items
  | _ => none

/-- The value of a field; only objects have fields. -/
def field? (name : String) : Json → Option Json
  | object fields => Entries.find? name fields
  | _ => none

/-- Whether a value is an array. -/
def isArray : Json → Bool
  | array _ => true
  | _ => false

/-- The value for a natural number that fits a word. -/
def ofWord (n : UInt64) : Json := number (.natural n)

def ofCount (n : Nat) : Json := ofWord n.toUInt64

def ofSlot (n : UInt32) : Json := ofWord n.toUInt64

/-- The array of a list of texts. -/
def ofStrings (texts : List String) : Json := array (texts.map string)

/-- A text, or null for none. -/
def ofString? : Option String → Json
  | some text => string text
  | none => null

end Json

end Flowgraph
