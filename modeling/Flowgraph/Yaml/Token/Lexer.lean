import Flowgraph.Yaml.Scalar.Block
import Flowgraph.Yaml.Scalar.Plain
import Flowgraph.Yaml.Scalar.Quoted
import Flowgraph.Yaml.Token.Layout
import Flowgraph.Yaml.Token.Property

/-!
# Cutting a text into tokens

Each step reads the token that begins at a place and says whether a key may begin behind it.

Main result: `Token.ofText?` gives all tokens of a text.
-/
namespace Flowgraph.Yaml

namespace Layout

/-- The layout behind a mark of one character. -/
def mark (layout : Layout) (token : Token) (keyAllowed : Bool) : Layout :=
  { layout.push token layout.place.step with keyAllowed }

/-- The layout behind a node or one of its properties, of which a key may consist. -/
def keyPart? (layout : Layout) (token : Token) (place : Place) : Option Layout := do
  pure { (← layout.saveKey?).push token place with keyAllowed := false }

/-- A directive or a mark between documents. -/
def outside? (layout : Layout) (token : Token) (place : Place) : Option Layout := do
  pure { (← (layout.closeFrom 0).dropKey?).push token place with keyAllowed := false }

/-- The mark that opens a flow collection. -/
def openFlow? (layout : Layout) (token : Token) : Option Layout := do
  let saved ← layout.saveKey?
  pure { saved.mark token true with possible := none, around := saved.possible :: saved.around }

/-- The mark that closes a flow collection. -/
def closeFlow? (layout : Layout) (token : Token) : Option Layout := do
  let cleared ← layout.dropKey?
  match cleared.around with
  | [] => pure (cleared.mark token false)
  | possible :: around => pure { cleared.mark token false with possible, around }

/-- The comma between two parts of a flow collection. -/
def comma? (layout : Layout) : Option Layout := do
  pure ((← layout.dropKey?).mark .comma true)

/-- Opens a block collection of a kind here, which is where a line or another one begins. -/
def indentHere? (layout : Layout) (token : Token) : Option Layout :=
  if layout.inFlow then some layout
  else if layout.keyAllowed then some (layout.indent layout.place.column layout.count token)
  else none

/-- The dash of an item. -/
def item? (layout : Layout) : Option Layout := do
  pure ((← (← layout.indentHere? .blockSequence).dropKey?).mark .item true)

/-- The mark in front of a key that is not simple. -/
def key? (layout : Layout) : Option Layout := do
  pure ((← (← layout.indentHere? .blockMapping).dropKey?).mark .key (!layout.inFlow))

/-- The colon behind a key: the key is the one that may have begun, or one that is not simple. -/
def value? (layout : Layout) : Option Layout :=
  match layout.possible with
  | some key =>
    let keyed := (layout.insert key.position .key).indent key.column key.position .blockMapping
    some ({ keyed with possible := none }.mark .value false)
  | none => do pure ((← layout.indentHere? .blockMapping).mark .value (!layout.inFlow))

def quoted? (fuel : Nat) (layout : Layout) (quote : Char) : Option Layout := do
  let (text, after) ← Yaml.quoted? quote fuel [] layout.place.step
  layout.keyPart? (.scalar false text) after

/-- A block scalar, behind which a line begins. -/
def block? (fuel : Nat) (layout : Layout) (folded : Bool) : Option Layout := do
  let cleared ← layout.dropKey?
  let (text, after) ← Block.read? folded layout.columns.head? fuel layout.place.step
  pure { cleared.push (.scalar false text) after with keyAllowed := true }

def plain? (fuel : Nat) (layout : Layout) : Option Layout := do
  let saved ← layout.saveKey?
  let found ← Plain.read? layout.inFlow layout.innerColumn fuel layout.place
  pure { saved.push (.scalar true found.text) found.place with keyAllowed := found.broken }

/-- The layout behind the token that begins with a character. -/
def step? (fuel : Nat) (layout : Layout) (c : Char) (rest : List Char) : Option Layout :=
  let place := layout.place
  let flow := layout.inFlow
  if place.column = 0 && c = '%' then do
    let (token, after) ← place.directive?
    layout.outside? token after
  else if place.atTriple '-' then layout.outside? .documentStart (place.skip 3)
  else if place.atTriple '.' then layout.outside? .documentEnd (place.skip 3)
  else if c = '[' then layout.openFlow? .flowSequence
  else if c = '\x7b' then layout.openFlow? .flowMapping
  else if c = ']' then layout.closeFlow? .flowSequenceEnd
  else if c = '\x7d' then layout.closeFlow? .flowMappingEnd
  else if c = ',' then layout.comma?
  else if c = '-' && atGap rest then layout.item?
  else if c = '?' && (flow || atGap rest) then layout.key?
  else if c = ':' && (flow || atGap rest) then layout.value?
  else if c = '*' then do
    let (token, after) ← place.aliasOf?
    layout.keyPart? token after
  else if c = '&' then do
    let (token, after) ← place.anchor?
    layout.keyPart? token after
  else if c = '!' then do
    let (token, after) ← place.tag? flow
    layout.keyPart? token after
  else if c = '|' && !flow then layout.block? fuel false
  else if c = '>' && !flow then layout.block? fuel true
  else if c = '\'' || c = '"' then layout.quoted? fuel c
  else if beginsPlain flow c rest then layout.plain? fuel
  else none

/-- The tokens of the rest of a text behind those so far. -/
def tokens? : Nat → Layout → Option (List Token)
  | 0, _ => none
  | fuel + 1, layout => do
    let here ← layout.settle? (fuel + 1)
    match here.place.rest with
    | [] => pure (← (here.closeFrom 0).dropKey?).tokens.reverse
    | c :: rest => tokens? fuel (← here.step? (fuel + 1) c rest)

end Layout

def Token.ofText? (text : List Char) : Option (List Token) :=
  (Layout.start text).tokens? (text.length + 1)

end Flowgraph.Yaml
