import Flowgraph.Shape

/-!
# TOML documents

A TOML document is a table of texts, numbers, truth values, dates and times, lists and tables. A
table remembers how it came into the document, since that decides what may still be added to it.

Main result: the instance of `Legible` for `Toml`.
-/
namespace Flowgraph

/-- How a table came into its document. -/
inductive Toml.Standing
  /-- It was written between braces, and is complete. -/
  | inline
  /-- A header opened it, or it is the document itself. -/
  | headed
  /-- The header of a table inside it speaks of it. -/
  | implied
  /-- A dotted key leads through it. -/
  | dotted
deriving DecidableEq

/-- A value of a TOML document. -/
inductive Toml
  | text (value : String)
  | truth (value : Bool)
  | integer (value : Int)
  /-- A number with a point or an exponent, an infinity or no number, as it is written. -/
  | float (written : String)
  /-- A date, a time or both, as written. -/
  | moment (written : String)
  | list (items : List Toml)
  | table (standing : Toml.Standing) (entries : List (String × Toml))

namespace Toml

instance : Inhabited Toml := ⟨table .headed []⟩

/-- Whether a value is a list or a table with nothing in it. -/
def holdsNothing : Toml → Bool
  | list items => items.isEmpty
  | table _ entries => entries.isEmpty
  | _ => false

/-- A choice is a text, or a table whose only key it is, with nothing behind the key. -/
def choice? (known : List String) : Toml → Option String
  | text name => if known.contains name then some name else none
  | table _ [(name, value)] => if known.contains name && value.holdsNothing then some name else none
  | _ => none

instance : Legible Toml Unit where
  text
    | text value => .ok value
    | _ => .error ()
  list
    | list items => .ok (items.map .ok)
    | _ => .error ()
  map
    | table _ entries => .ok (entries.map .ok)
    | _ => .error ()
  record shape
    | table _ entries => .ok (shape.steps (fun _ => ()) (fun _ => .ok ()) [] (entries.map .ok))
    | list items =>
      .ok (shape.stepsOfList (fun _ => ()) (fun _ => none) 0 shape.fields (items.map .ok))
    | moment _ => .ok (shape.steps (fun _ => ()) (fun _ => .ok ()) [] [])
    | _ => .error ()
  isNothing _ := false
  choice known value := (value.choice? known).elim (.error ()) .ok

end Toml

end Flowgraph
