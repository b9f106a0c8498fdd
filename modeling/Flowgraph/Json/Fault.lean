/-!
# Faults in JSON texts

Why a text is no JSON value and where reading stopped. Offsets count the bytes that were looked
at; a line and a column are worked out from an offset and the text.

Main result: `position` gives the line, from one, and the bytes since the last line break.
-/
namespace Flowgraph.Json

/-- Why a text is no JSON value. -/
inductive Cause
  | endInValue
  | endInArray
  | endInObject
  | endInString
  | expectedValue
  | expectedIdent
  | expectedItemOrEnd
  | expectedFieldOrEnd
  | expectedColon
  | keyMustBeString
  | trailingComma
  | trailingCharacters
  | invalidNumber
  | numberOutOfRange
  | invalidEscape
  | loneSurrogate
  | halfSurrogatePair
  | controlCharacter
  | tooDeep
deriving DecidableEq, Repr

/-- What a cause is called in messages. -/
def Cause.message : Cause → String
  | endInValue => "EOF while parsing a value"
  | endInArray => "EOF while parsing a list"
  | endInObject => "EOF while parsing an object"
  | endInString => "EOF while parsing a string"
  | expectedValue => "expected value"
  | expectedIdent => "expected ident"
  | expectedItemOrEnd => "expected \x60,\x60 or \x60]\x60"
  | expectedFieldOrEnd => "expected \x60,\x60 or \x60\x7d\x60"
  | expectedColon => "expected \x60:\x60"
  | keyMustBeString => "key must be a string"
  | trailingComma => "trailing comma"
  | trailingCharacters => "trailing characters"
  | invalidNumber => "invalid number"
  | numberOutOfRange => "number out of range"
  | invalidEscape => "invalid escape"
  | loneSurrogate => "lone leading surrogate in hex escape"
  | halfSurrogatePair => "unexpected end of hex escape"
  | controlCharacter => "control character (\\u0000-\\u001F) found while parsing a string"
  | tooDeep => "recursion limit exceeded"

/-- A cause and the number of bytes looked at when it was found. -/
structure Fault where
  cause : Cause
  offset : Nat
deriving DecidableEq, Repr

/-- The line and the column of a byte offset, given the line, the offset at which that line starts
and the offset of the characters that are left. -/
def positionFrom (offset line lineStart here : Nat) : List Char → Nat × Nat
  | [] => (line, offset - lineStart)
  | c :: rest =>
    if offset ≤ here then (line, offset - lineStart)
    else if c = '\n' then positionFrom offset (line + 1) (here + 1) (here + 1) rest
    else positionFrom offset line lineStart (here + c.utf8Size) rest

/-- The line of a byte offset, from one, and the number of bytes on it before the offset. -/
def position (text : List Char) (offset : Nat) : Nat × Nat := positionFrom offset 1 0 0 text

end Flowgraph.Json
