import Flowgraph.Yaml.Place
import Flowgraph.Yaml.Token

/-!
# The layout of a text

Block collections are open as long as the lines stay in their column or behind it. A key is only
known as one by the colon behind it; until then its place is remembered, one for every flow
collection that is open and one for the block around them. The colon of a key has to stand in the
key's line and within 1024 bytes; the key's token, and that of a mapping that begins with the key,
are then put in front of it.

Main result: `Layout.settle?` goes to the next token, `Layout.saveKey?` and `Layout.indent` keep the
books.
-/
namespace Flowgraph.Yaml

/-- A place where a key may have begun: the tokens in front of it, where it stands, and whether
nothing but a key can stand there. -/
structure PossibleKey where
  position : Nat
  offset : Nat
  line : Nat
  column : Nat
  required : Bool

/-- How far a text was cut into tokens. -/
structure Layout where
  place : Place
  /-- The tokens so far, last first. -/
  tokens : List Token
  /-- The number of tokens so far. -/
  count : Nat
  /-- The columns of the block collections that are open, innermost first. -/
  columns : List Nat
  /-- The key that may have begun in the innermost flow collection, or in the block. -/
  possible : Option PossibleKey
  /-- The keys that may have begun around the flow collections that are open, innermost first. -/
  around : List (Option PossibleKey)
  /-- Whether a key may begin here. -/
  keyAllowed : Bool

namespace Layout

/-- The layout in front of a text. -/
def start (text : List Char) : Layout := ⟨.start text, [], 0, [], none, [], true⟩

/-- Whether a flow collection is open. -/
def inFlow (layout : Layout) : Bool := !layout.around.isEmpty

/-- The first column that belongs to the innermost block collection alone. -/
def innerColumn (layout : Layout) : Nat := layout.columns.head?.elim 0 (· + 1)

/-- Adds a token, behind which the text goes on. -/
def push (layout : Layout) (token : Token) (place : Place) : Layout :=
  { layout with place, tokens := token :: layout.tokens, count := layout.count + 1 }

/-- Adds a token behind so many others. -/
def insert (layout : Layout) (position : Nat) (token : Token) : Layout :=
  let later := layout.tokens.take (layout.count - position)
  let earlier := layout.tokens.drop (layout.count - position)
  { layout with tokens := later ++ token :: earlier, count := layout.count + 1 }

/-- Opens a block collection in a column, its token behind so many others, unless one is open
there. -/
def indent (layout : Layout) (column position : Nat) (token : Token) : Layout :=
  if layout.inFlow || column < layout.innerColumn then layout
  else { layout.insert position token with columns := column :: layout.columns }

/-- Closes the block collections from a column on. -/
def closeFrom (layout : Layout) (column : Nat) : Layout :=
  if layout.inFlow then layout
  else
    let closed := layout.columns.takeWhile (column ≤ ·)
    { layout with
      tokens := List.replicate closed.length .blockEnd ++ layout.tokens
      count := layout.count + closed.length
      columns := layout.columns.drop closed.length }

/-- Gives up a key that may have begun. -/
def dropKey? (layout : Layout) : Option Layout :=
  if layout.possible.any PossibleKey.required then none else some { layout with possible := none }

/-- Remembers that a key may begin here. -/
def saveKey? (layout : Layout) : Option Layout :=
  if layout.keyAllowed then do
    let cleared ← layout.dropKey?
    let place := layout.place
    pure { cleared with
      possible := some ⟨layout.count, place.offset, place.line, place.column,
        !layout.inFlow && layout.columns.head? = some place.column⟩ }
  else some layout

/-- Whether a key that began elsewhere may still end at a place. -/
def reaches (key : PossibleKey) (place : Place) : Bool :=
  key.line = place.line && place.offset ≤ key.offset + 1024

/-- A key that may have begun, unless it is out of reach; one that is required must not be. -/
def keep? (place : Place) : Option PossibleKey → Option (Option PossibleKey)
  | none => some none
  | some key =>
    if reaches key place then some (some key) else if key.required then none else some none

/-- The layout in front of the next token: blanks, comments and line breaks are passed over, and
outside flow collections a new line may begin with a key. A tab is passed over only where no
indentation is. -/
def approach : Nat → Layout → Layout
  | 0, layout => layout
  | fuel + 1, layout =>
    let place := layout.place
    let begun := if place.column = 0 && place.rest.head? = some '\uFEFF' then place.step else place
    let here := (begun.skipWhile fun c =>
      c = ' ' || (c = '\t' && (layout.inFlow || !layout.keyAllowed))).skipComment
    if here.rest.isEmpty || !here.atLineEnd then { layout with place := here }
    else
      approach fuel { layout with
        place := here.lineBreak.2
        keyAllowed := layout.keyAllowed || !layout.inFlow }

/-- The layout in front of the next token, with the keys given up that are out of reach and the
block collections closed that the token is not part of. -/
def settle? (fuel : Nat) (layout : Layout) : Option Layout := do
  let here := layout.approach fuel
  let possible ← keep? here.place here.possible
  let around ← here.around.mapM (keep? here.place)
  pure ({ here with possible, around }.closeFrom (here.place.column + 1))

end Layout

end Flowgraph.Yaml
