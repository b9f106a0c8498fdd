import Flowgraph.Toml

/-!
# Putting TOML tables together

A document opens tables by headers and fills them by entries, both with dotted paths. A table may be
opened once; a dotted key may lead through tables that no header opened; and nothing is set twice.

Main result: `put?` adds a value under a dotted key, `openTable?` and `openItem?` open what a header
names, and each refuses what is already settled.
-/
namespace Flowgraph.Toml

/-- The entries of a table, in the order in which they came. -/
abbrev Fields := List (String × Toml)

/-- The entries with another value for a name. -/
def Fields.set (name : String) (value : Toml) (fields : Fields) : Fields :=
  fields.map fun field => if field.1 = name then (name, value) else field

/-- Changes the table at the end of a path; tables on the way that are not there yet are made. In a
list of tables the way goes through the last. A dotted key does not lead through a table that has a
header. -/
def within (byDots : Bool) (change : Standing → Fields → Option Fields) :
    List String → Standing → Fields → Option Fields
  | [], standing, fields => change standing fields
  | name :: path, _, fields =>
    match fields.lookup name with
    | none => do
      let made := if byDots then Standing.dotted else .implied
      pure (fields ++ [(name, table made (← within byDots change path made []))])
    | some (table standing inner) =>
      if standing = .inline || (byDots && standing = .headed) then none
      else do pure (fields.set name (table standing (← within byDots change path standing inner)))
    | some (list items) =>
      match items.getLast? with
      | some (table .headed inner) => do
        let last := table .headed (← within byDots change path .headed inner)
        pure (fields.set name (list (items.dropLast ++ [last])))
      | _ => none
    | some _ => none

/-- Adds a value under a dotted key. -/
def put? (path : List String) (name : String) (value : Toml) (standing : Standing)
    (fields : Fields) : Option Fields :=
  within true (fun standing fields =>
    if (standing == .dotted) == path.isEmpty then none
    else if (fields.lookup name).isSome then none
    else some (fields ++ [(name, value)])) path standing fields

/-- Opens a table; one that other headers spoke of already moves to the end. -/
def openTable? (path : List String) (name : String) (fields : Fields) : Option Fields :=
  within false (fun _ fields =>
    match fields.lookup name with
    | none => some (fields ++ [(name, table .headed [])])
    | some (table .implied inner) =>
      some (fields.filter (fun field => field.1 ≠ name) ++ [(name, table .headed inner)])
    | some _ => none) path .headed fields

/-- Opens a new last table in a list of tables. -/
def openItem? (path : List String) (name : String) (fields : Fields) : Option Fields :=
  within false (fun _ fields =>
    match fields.lookup name with
    | none => some (fields ++ [(name, list [table .headed []])])
    | some (list items) =>
      match items.getLast? with
      | some (table .headed _) => some (fields.set name (list (items ++ [table .headed []])))
      | _ => none
    | some _ => none) path .headed fields

end Flowgraph.Toml
