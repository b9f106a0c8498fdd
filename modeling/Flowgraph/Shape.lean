import Flowgraph.Json
import Flowgraph.Text.Inspected

/-!
# Reading by shape

A shape says what kind of value stands where: a text, a list, a map, or a record with named
fields. A document is read against a shape in its own order, so the first mismatch wins, and what
is missing is noticed last. The class `Legible` says what a document format must provide; a list,
a map or a record is handed over as steps, each an element or the trouble that stands in its
place.

Main result: `Record.steps` gives the fields of a record that is written as an object, and
`Record.stepsOfList` of one that is written as the list of its fields in their declared order.
-/
namespace Flowgraph

/-- What was found where something else was wanted. -/
inductive Found
  | null
  | bool (value : Bool)
  | number (value : Json.Number)
  | text (value : String)
  | list
  | map
deriving DecidableEq

namespace Found

/-- What is found at a JSON value. -/
def ofJson : Json → Found
  | .null => null
  | .bool value => bool value
  | .number value => number value
  | .string value => text value
  | .array _ => list
  | .object _ => map

/-- How a message names what was found. -/
def message : Found → String
  | null => "null"
  | bool value => "boolean \x60" ++ (if value then "true" else "false") ++ "\x60"
  | number (.float value) => "floating point \x60" ++ (Json.Number.float value).text ++ "\x60"
  | number value => "integer \x60" ++ value.text ++ "\x60"
  | text value => "string " ++ Text.inspected value
  | list => "sequence"
  | map => "map"

end Found

/-- Why a value does not have the shape that is wanted. -/
inductive Mismatch
  | wrongKind (found : Found) (wanted : String)
  | outOfRange (found : Json.Number) (wanted : String)
  | missingField (name : String)
  | duplicateField (name : String)
  | unknownVariant (name : String) (known : List String)
  | tooFew (count : Nat) (record : String) (size : Nat)
  | tooMany (count : Nat)
  | badNodeId (text : String)
  | badLink (text : String)
deriving DecidableEq

def Mismatch.message : Mismatch → String
  | wrongKind found wanted => "invalid type: " ++ found.message ++ ", expected " ++ wanted
  | outOfRange found wanted =>
    "invalid value: " ++ (Found.number found).message ++ ", expected " ++ wanted
  | missingField name => "missing field \x60" ++ name ++ "\x60"
  | duplicateField name => "duplicate field \x60" ++ name ++ "\x60"
  | unknownVariant name known =>
    "unknown variant \x60" ++ name ++ "\x60, expected "
      ++ " or ".intercalate (known.map fun variant => "\x60" ++ variant ++ "\x60")
  | tooFew count record size =>
    "invalid length " ++ toString count ++ ", expected struct " ++ record ++ " with "
      ++ toString size ++ " elements"
  | tooMany count => "invalid length " ++ toString count ++ ", expected fewer elements in array"
  | badNodeId text => "invalid node id: " ++ text
  | badLink text => "invalid link entry: " ++ text

structure Record.Field where
  name : String
  /-- Whether the record cannot do without it. -/
  required : Bool

/-- A record: its name in messages and its fields in their declared order. -/
structure Record where
  name : String
  fields : List Record.Field

namespace Record

/-- Whether a record has a field of a name. -/
def has (record : Record) (name : String) : Bool :=
  record.fields.any fun field => field.name == name

def title (record : Record) : String := "struct " ++ record.name

/-- The first required field that is not among the names. -/
def missing? (record : Record) (names : List String) : Option String :=
  (record.fields.find? fun field => field.required && !names.contains field.name).map Field.name

variable {δ ε : Type}

/-- The fields of a record in the order in which they are written, other fields left out; `trouble`
says what a mismatch is to the format. -/
def steps (record : Record) (trouble : Mismatch → ε) (skip : δ → Except ε Unit)
    (seen : List String) : List (Except ε (String × δ)) → List (Except ε (String × δ))
  | [] =>
    match record.missing? seen with
    | some name => [.error (trouble (.missingField name))]
    | none => []
  | .error fault :: _ => [.error fault]
  | .ok (name, value) :: rest =>
    if !record.has name then
      match skip value with
      | .error fault => [.error fault]
      | .ok () => record.steps trouble skip seen rest
    else if seen.contains name then [.error (trouble (.duplicateField name))]
    else .ok (name, value) :: record.steps trouble skip (name :: seen) rest

/-- Pairs values with field names in their declared order; what lies behind the last field is put
through `surplus`, which gets the number of fields. -/
def stepsOfList (record : Record) (trouble : Mismatch → ε)
    (surplus : List (Except ε δ) → Option ε) (count : Nat) :
    List Field → List (Except ε δ) → List (Except ε (String × δ))
  | [], rest =>
    match surplus rest with
    | some fault => [.error fault]
    | none => []
  | _ :: _, .error fault :: _ => [.error fault]
  | field :: fields, .ok value :: rest =>
    .ok (field.name, value) :: record.stepsOfList trouble surplus (count + 1) fields rest
  | fields, [] =>
    if fields.any Field.required then
      [.error (trouble (.tooFew count record.name record.fields.length))]
    else []

end Record

/-- A document format that values can be read from by shape. -/
class Legible (δ : Type) (ε : outParam Type) where
  /-- The text that a value is. -/
  text : δ → Except ε String
  list : δ → Except ε (List (Except ε δ))
  map : δ → Except ε (List (Except ε (String × δ)))
  record : Record → δ → Except ε (List (Except ε (String × δ)))
  /-- Whether the value says that there is nothing. -/
  isNothing : δ → Bool
  /-- The one of several names that a value is. -/
  choice : List String → δ → Except ε String

namespace Legible

variable {δ ε α : Type} [Legible δ ε]

/-- A list read element by element. -/
def listOf (read : δ → Except ε α) (value : δ) : Except ε (List α) := do
  (← list value).mapM fun step => step.bind read

def texts (value : δ) : Except ε (List String) := listOf text value

/-- A map read entry by entry. -/
def mapOf (read : δ → Except ε α) (value : δ) : Except ε (Keyed α) := do
  let entries ← (← map value).mapM fun step => do
    let (name, part) ← step
    pure (name, ← read part)
  pure (Keyed.ofList entries)

/-- A record read field by field, each field setting its part of the result. -/
def recordOf (shape : Record) (read : α → String → δ → Except ε α) (start : α) (value : δ) :
    Except ε α := do
  (← record shape value).foldlM (fun result step => do
    let (name, part) ← step
    read result name part) start

/-- A value that may say that there is nothing. -/
def optional (read : δ → Except ε α) (value : δ) : Except ε (Option α) :=
  if isNothing value then .ok none else some <$> read value

end Legible

namespace Json

/-- The mismatch of a value that is of the wrong kind. -/
def mismatch (value : Json) (wanted : String) : Mismatch := .wrongKind (.ofJson value) wanted

instance : Legible Json Mismatch where
  text
    | string value => .ok value
    | value => .error (value.mismatch "a string")
  list
    | array items => .ok (items.map .ok)
    | value => .error (value.mismatch "a sequence")
  map
    | object fields => .ok (fields.map .ok)
    | value => .error (value.mismatch "a map")
  record shape
    | object fields => .ok (shape.steps id (fun _ => .ok ()) [] (fields.map .ok))
    | array items =>
      .ok (shape.stepsOfList id
        (fun rest => if rest.isEmpty then none else some (.tooMany items.length))
        0 shape.fields (items.map .ok))
    | value => .error (value.mismatch shape.title)
  isNothing value := value == null
  choice known
    | string name => if known.contains name then .ok name else .error (.unknownVariant name known)
    | value => .error (value.mismatch "string or map")

/-- A whole number from zero on, below 2⁶⁴. -/
def readWord : Json → Except Mismatch UInt64
  | number (.natural value) => .ok value
  | number (.negative below) => .error (.outOfRange (.negative below) "u64")
  | value => .error (value.mismatch "u64")

/-- A whole number from zero on, below 2³². -/
def readSlot : Json → Except Mismatch UInt32
  | number (.natural value) =>
    if value.toNat < UInt32.size then .ok value.toUInt32
    else .error (.outOfRange (.natural value) "u32")
  | number (.negative below) => .error (.outOfRange (.negative below) "u32")
  | value => .error (value.mismatch "u32")

end Json

end Flowgraph
