import Flowgraph.Json
import Flowgraph.Json.Token

/-!
# The tree of a JSON text

A tree holds everything that a text says up to the first place where it cannot go on, with each
fault where a reader would come upon it. What is wrong with a text then depends on the reader: a
reader that skips a value never sees its faulty numbers, and one that refuses a value for its kind
stops before the faults behind it. `Tree.ofTokens` builds the tree in one pass over the lexemes,
with the containers that are open on a stack.

Main result: `Json.parse` reads the whole text as a value; the first fault in the text wins.
-/
namespace Flowgraph.Json

/-- How the items or fields of a container come to an end. -/
inductive Ending
  | closed
  /-- The fault seen when the container is wanted and when it is skipped. -/
  | fault (wanted skipped : Fault)

/-- The fault that ends a container early. -/
def Ending.check : Ending → Except Fault Unit
  | .closed => .ok ()
  | .fault wanted _ => .error wanted

/-- A JSON text up to its first fault that it cannot go on after. -/
inductive Tree
  | null
  | bool (value : Bool)
  | number (value : Except Fault Number)
  | string (text : Except Fault String)
  | array (start : Nat) (items : List Tree) (ending : Ending)
  | object (start : Nat) (fields : List (Except Fault String × Tree)) (ending : Ending)
  /-- A word or a number at which the text ends, with the fault seen when the value is wanted and
  when it is skipped. -/
  | cut (wanted skipped : Fault)
  /-- The text ends here in another way. -/
  | broken (wanted skipped : Fault)

namespace Tree

/-- A container that is still open, with what it holds in reverse. -/
inductive Frame
  | array (start : Nat) (items : List Tree)
  | object (start : Nat) (fields : List (Except Fault String × Tree))
  /-- An object that waits for the value of a name. -/
  | named (start : Nat) (fields : List (Except Fault String × Tree)) (name : Except Fault String)

/-- What may stand next in the text. -/
inductive Expected
  | value
  | firstItem
  | firstName
  | name
  | colon
  | separator

/-- The tree of a text that ends inside a value, from the innermost value outward. -/
def abandon : List Frame → Tree → Tree
  | [], tree => tree
  | .array start items :: outer, tree =>
    abandon outer (.array start (tree :: items).reverse .closed)
  | .named start fields name :: outer, tree =>
    abandon outer (.object start ((name, tree) :: fields).reverse .closed)
  | .object _ _ :: outer, tree => abandon outer tree

/-- The tree of a text that ends behind an item or a field of the innermost container. -/
def abandonBehind (stack : List Frame) (wanted skipped : Fault) : Tree :=
  match stack with
  | .array start items :: outer =>
    abandon outer (.array start items.reverse (.fault wanted skipped))
  | .object start fields :: outer =>
    abandon outer (.object start fields.reverse (.fault wanted skipped))
  | stack => abandon stack (.broken wanted skipped)

/-- The stack after a value is complete. -/
def supply (tree : Tree) : List Frame → List Frame
  | .array start items :: outer => .array start (tree :: items) :: outer
  | .named start fields name :: outer => .object start ((name, tree) :: fields) :: outer
  | stack => stack

/-- What the next lexeme does to a text that is read so far. -/
inductive Step
  | goOn (stack : List Frame) (expected : Expected)
  /-- A value is complete inside the containers of the stack. -/
  | complete (tree : Tree) (stack : List Frame)
  /-- The text cannot go on. -/
  | stop (tree : Tree)

/-- The fault of a cause that is seen at the first byte of a lexeme. -/
def faultAt (token : Token) (cause : Cause) : Fault := ⟨cause, token.start + 1⟩

/-- A lexeme that cannot stand where a value or a colon is expected. -/
def Step.stray (stack : List Frame) (token : Token) (cause : Cause) : Step :=
  .stop (abandon stack (.broken (faultAt token cause) (faultAt token cause)))

/-- A lexeme that cannot stand behind an item or a field. -/
def Step.behind (stack : List Frame) (token : Token) (wanted skipped : Cause) : Step :=
  .stop (abandonBehind stack (faultAt token wanted) (faultAt token skipped))

/-- What a lexeme does where a value is expected. -/
def stepValue (stack : List Frame) (token : Token) : Step :=
  match token.lexeme with
  | .openArray => .goOn (.array token.start [] :: stack) .firstItem
  | .openObject => .goOn (.object token.start [] :: stack) .firstName
  | .null => .complete .null stack
  | .bool value => .complete (.bool value) stack
  | .number value => .complete (.number value) stack
  | .string text => .complete (.string text) stack
  | .brokenString wanted skipped => .stop (abandon stack (.broken wanted skipped))
  | .brokenValue wanted skipped => .stop (abandon stack (.cut wanted skipped))
  | _ => .stray stack token .expectedValue

/-- What a lexeme does where a name is expected. -/
def stepName (stack : List Frame) (token : Token) : Step :=
  match token.lexeme, stack with
  | .string text, .object start fields :: outer => .goOn (.named start fields text :: outer) .colon
  | .brokenString wanted skipped, _ => .stop (abandonBehind stack wanted skipped)
  | _, _ => .behind stack token .keyMustBeString .keyMustBeString

/-- What a lexeme does. -/
def step (expected : Expected) (stack : List Frame) (token : Token) : Step :=
  match expected, token.lexeme, stack with
  | .value, .closeArray, .array _ _ :: _ => .behind stack token .trailingComma .expectedValue
  | .value, _, _ => stepValue stack token
  | .firstItem, .closeArray, .array start items :: outer =>
    .complete (.array start items.reverse .closed) outer
  | .firstItem, _, _ => stepValue stack token
  | .firstName, .closeObject, .object start fields :: outer =>
    .complete (.object start fields.reverse .closed) outer
  | .firstName, _, _ => stepName stack token
  | .name, .closeObject, _ => .behind stack token .trailingComma .keyMustBeString
  | .name, _, _ => stepName stack token
  | .colon, .colon, _ => .goOn stack .value
  | .colon, _, _ => .stray stack token .expectedColon
  | .separator, .comma, .array _ _ :: _ => .goOn stack .value
  | .separator, .comma, .object _ _ :: _ => .goOn stack .name
  | .separator, .closeArray, .array start items :: outer =>
    .complete (.array start items.reverse .closed) outer
  | .separator, .closeObject, .object start fields :: outer =>
    .complete (.object start fields.reverse .closed) outer
  | .separator, _, .array _ _ :: _ =>
    .behind stack token .expectedItemOrEnd .expectedItemOrEnd
  | .separator, _, _ => .behind stack token .expectedFieldOrEnd .expectedFieldOrEnd

/-- The tree of a text that ends while something is still expected. -/
def atEnd (stop : Nat) (expected : Expected) (stack : List Frame) : Tree :=
  let fault (cause : Cause) : Fault := ⟨cause, stop⟩
  let behind (wanted skipped : Cause) := abandonBehind stack (fault wanted) (fault skipped)
  let inside (cause : Cause) := abandon stack (.broken (fault cause) (fault cause))
  match expected, stack with
  | .value, _ => inside .endInValue
  | .firstItem, _ => behind .endInArray .endInArray
  | .firstName, _ => behind .endInObject .endInObject
  | .name, _ => behind .endInValue .endInObject
  | .colon, _ => inside .endInObject
  | .separator, .array _ _ :: _ => behind .endInArray .endInArray
  | .separator, _ => behind .endInObject .endInObject

/-- The tree of the lexemes, and the fault behind a complete value; `stop` is the length of the
text. -/
def build (stop : Nat) (stack : List Frame) (expected : Expected) :
    List Token → Tree × Option Fault
  | [] => (atEnd stop expected stack, none)
  | token :: rest =>
    match step expected stack token with
    | .goOn stack expected => build stop stack expected rest
    | .complete tree [] => (tree, rest.head?.map (faultAt · .trailingCharacters))
    | .complete tree stack => build stop (supply tree stack) .separator rest
    | .stop tree => (tree, none)

/-- The tree of a text, and the fault behind it if the value is followed by something. -/
def parse (text : List Char) : Tree × Option Fault :=
  build (Token.byteLength text) [] .value (Token.scan text)

mutual

/-- The value of a tree inside so many containers that may still be opened. -/
def toJsonWithin (depth : Nat) : Tree → Except Fault Json
  | null => .ok .null
  | bool value => .ok (.bool value)
  | number value => value.map .number
  | string text => text.map .string
  | array start items ending =>
    match depth with
    | depth + 2 => do
      let values ← itemsWithin (depth + 1) items
      ending.check
      pure (.array values)
    | _ => .error ⟨.tooDeep, start + 1⟩
  | object start fields ending =>
    match depth with
    | depth + 2 => do
      let values ← fieldsWithin (depth + 1) [] fields
      ending.check
      pure (.object values)
    | _ => .error ⟨.tooDeep, start + 1⟩
  | cut wanted _ => .error wanted
  | broken wanted _ => .error wanted

/-- The values of the items of an array. -/
def itemsWithin (depth : Nat) : List Tree → Except Fault (List Json)
  | [] => .ok []
  | item :: rest => do
    let value ← toJsonWithin depth item
    let values ← itemsWithin depth rest
    pure (value :: values)

/-- The fields of an object; a name that comes again keeps its place and takes the later value. -/
def fieldsWithin (depth : Nat) (done : List (String × Json)) :
    List (Except Fault String × Tree) → Except Fault (List (String × Json))
  | [] => .ok done
  | (name, tree) :: rest => do
    let name ← name
    let value ← toJsonWithin depth tree
    fieldsWithin depth (Entries.put name value done) rest

end

/-- The value of a tree; no more than 127 containers may be open at a time. -/
def toJson (tree : Tree) : Except Fault Json := toJsonWithin 128 tree

mutual

/-- The fault that stops a reader that skips the value. -/
def skip : Tree → Except Fault Unit
  | array _ items ending => do
    skipItems items
    match ending with
    | .closed => pure ()
    | .fault _ skipped => .error skipped
  | object _ fields ending => do
    skipFields fields
    match ending with
    | .closed => pure ()
    | .fault _ skipped => .error skipped
  | cut _ skipped => .error skipped
  | broken _ skipped => .error skipped
  | _ => .ok ()

/-- The fault that stops a reader that skips the items. -/
def skipItems : List Tree → Except Fault Unit
  | [] => .ok ()
  | item :: rest => do skip item; skipItems rest

/-- The fault that stops a reader that skips the fields. -/
def skipFields : List (Except Fault String × Tree) → Except Fault Unit
  | [] => .ok ()
  | (_, value) :: rest => do skip value; skipFields rest

end

end Tree

/-- The value that a text is. -/
def parse (text : String) : Except Fault Json := do
  let (tree, behind) := Tree.parse text.toList
  let value ← tree.toJson
  match behind with
  | some fault => .error fault
  | none => pure value

end Flowgraph.Json
