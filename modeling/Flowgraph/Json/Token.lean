import Flowgraph.Json.Spelling
import Flowgraph.Text.Numeral

/-!
# Lexemes of a JSON text

A text is cut into lexemes, each with the byte offset where it starts. A lexeme that has a fault
is kept as one: whether the fault matters depends on where the lexeme stands and on whether its
value is wanted. Two kinds are told apart. A faulty number or string whose end can still be found
lets the text go on; a broken lexeme ends it.

Main result: `Token.scan` lists the lexemes up to the end of the text or the first that is broken.
-/
namespace Flowgraph.Json

/-- A smallest part of a JSON text. -/
inductive Lexeme
  | openArray
  | closeArray
  | openObject
  | closeObject
  | comma
  | colon
  | null
  | bool (value : Bool)
  /-- A number, unless it is out of range. -/
  | number (value : Except Fault Number)
  /-- A string, unless it has half a surrogate pair. -/
  | string (text : Except Fault String)
  /-- A string without a proper end, with the fault seen when it is wanted and when it is
  skipped. -/
  | brokenString (wanted skipped : Fault)
  /-- Another value without a proper end. -/
  | brokenValue (wanted skipped : Fault)
  /-- A character that begins no lexeme. -/
  | stray

/-- A lexeme and the byte offset where it starts. -/
structure Token where
  start : Nat
  lexeme : Lexeme

namespace Token

/-- A lexeme, the offset behind it and the characters that are left. -/
structure Scanned where
  lexeme : Lexeme
  stop : Nat
  rest : List Char

/-- The value of a decimal digit. -/
def digit? (c : Char) : Option Nat :=
  if '0' ≤ c ∧ c ≤ '9' then some (c.toNat - '0'.toNat) else none

/-- The leading digits and what follows them. -/
def digits : List Char → List Nat × List Char
  | [] => ([], [])
  | c :: rest =>
    match digit? c with
    | none => ([], c :: rest)
    | some d => let (ds, left) := digits rest; (d :: ds, left)

/-- The number of bytes that a text takes. -/
def byteLength (chars : List Char) : Nat := chars.foldl (fun n c => n + c.utf8Size) 0

/-- Whether at least so many bytes are left. -/
def hasBytes : Nat → List Char → Bool
  | 0, _ => true
  | _ + 1, [] => false
  | n + 1, c :: rest => hasBytes (n + 1 - c.utf8Size) rest

/-- The rest of a fixed word such as the one for null. -/
def word (lexeme : Lexeme) (offset : Nat) : List Char → List Char → Scanned
  | [], rest => ⟨lexeme, offset, rest⟩
  | _ :: _, [] =>
    let fault : Fault := ⟨.endInValue, offset⟩
    ⟨.brokenValue fault fault, offset, []⟩
  | expected :: more, c :: rest =>
    if c = expected then word lexeme (offset + 1) more rest
    else
      let fault : Fault := ⟨.expectedIdent, offset + 1⟩
      ⟨.brokenValue fault fault, offset + 1, []⟩

/-- The end of a number that is spelled wrongly. -/
def badNumber (cause : Cause) (offset : Nat) : Scanned :=
  ⟨.brokenValue ⟨cause, offset⟩ ⟨.invalidNumber, offset⟩, offset, []⟩

/-- The number that is spelled, with the offset behind it. -/
def finishNumber (spelling : Spelling) (exponentStart stop : Nat) (rest : List Char) : Scanned :=
  let value := match spelling.value with
    | .ok found => .ok found
    | .error none => .error ⟨.numberOutOfRange, stop⟩
    | .error (some count) => .error ⟨.numberOutOfRange, exponentStart + count⟩
  ⟨.number value, stop, rest⟩

/-- The exponent of a number behind its letter and sign. -/
def exponentDigits (spelling : Spelling) (down : Bool) (offset : Nat) (chars : List Char) :
    Scanned :=
  match chars with
  | [] => badNumber .endInValue offset
  | c :: _ =>
    match digit? c with
    | none => badNumber .invalidNumber (offset + 1)
    | some _ =>
      let (ds, rest) := digits chars
      finishNumber { spelling with exponent := some (down, ds) } offset (offset + ds.length) rest

/-- The exponent of a number, if there is one. -/
def exponent (spelling : Spelling) (offset : Nat) (chars : List Char) : Scanned :=
  match chars with
  | c :: rest =>
    if c = 'e' ∨ c = 'E' then
      match rest with
      | '+' :: rest => exponentDigits spelling false (offset + 2) rest
      | '-' :: rest => exponentDigits spelling true (offset + 2) rest
      | rest => exponentDigits spelling false (offset + 1) rest
    else finishNumber spelling offset offset chars
  | [] => finishNumber spelling offset offset []

/-- What follows the whole part of a number. -/
def fraction (spelling : Spelling) (offset : Nat) (chars : List Char) : Scanned :=
  match chars with
  | '.' :: rest =>
    match digits rest with
    | ([], []) => badNumber .endInValue (offset + 1)
    | ([], _ :: _) => badNumber .invalidNumber (offset + 2)
    | (ds, left) =>
      exponent { spelling with fraction := some ds } (offset + 1 + ds.length) left
  | chars => exponent spelling offset chars

/-- A number behind its sign. -/
def number (negative : Bool) (offset : Nat) (chars : List Char) : Scanned :=
  match chars with
  | [] => badNumber .endInValue offset
  | '0' :: rest =>
    match digits rest with
    | ([], _) => fraction ⟨negative, [0], none, none⟩ (offset + 1) rest
    | _ => badNumber .invalidNumber (offset + 2)
  | chars =>
    match digits chars with
    | ([], _) => badNumber .invalidNumber (offset + 1)
    | (ds, rest) => fraction ⟨negative, ds, none, none⟩ (offset + ds.length) rest

/-- The value of four hexadecimal digits. -/
def fourHex (a b c d : Char) : Option Nat := do
  let a ← Text.hexDigit? a
  let b ← Text.hexDigit? b
  let c ← Text.hexDigit? c
  let d ← Text.hexDigit? d
  pure (((a * 16 + b) * 16 + c) * 16 + d)

/-- What the escape of a code unit means where the string goes on. -/
inductive Unit16
  /-- The unit alone is a character. -/
  | plain (c : Char)
  /-- It makes up a character together with the escape that follows. -/
  | paired (c : Char)
  /-- It is half a pair. -/
  | half (fault : Fault)

/-- Judges an escaped code unit by the characters behind it, at the offset behind it. -/
def judge (unit offset : Nat) (rest : List Char) : Unit16 :=
  if 0xDC00 ≤ unit ∧ unit ≤ 0xDFFF then .half ⟨.loneSurrogate, offset⟩
  else if unit < 0xD800 ∨ 0xDFFF < unit then .plain (Char.ofNat unit)
  else
    match rest with
    | '\\' :: 'u' :: a :: b :: c :: d :: _ =>
      match fourHex a b c d with
      | some low =>
        if 0xDC00 ≤ low ∧ low ≤ 0xDFFF then
          .paired (Char.ofNat (0x10000 + (unit - 0xD800) * 0x400 + (low - 0xDC00)))
        else .half ⟨.loneSurrogate, offset + 6⟩
      | none => .plain 'u'
    | '\\' :: 'u' :: _ => .plain 'u'
    | '\\' :: _ :: _ => .half ⟨.halfSurrogatePair, offset + 2⟩
    | ['\\'] => .plain 'u'
    | _ :: _ => .half ⟨.halfSurrogatePair, offset + 1⟩
    | [] => .plain 'u'

/-- The character that a one-letter escape stands for. -/
def simpleEscape? : Char → Option Char
  | '"' => some '"'
  | '\\' => some '\\'
  | '/' => some '/'
  | 'b' => some '\x08'
  | 'f' => some '\x0c'
  | 'n' => some '\n'
  | 'r' => some '\r'
  | 't' => some '\t'
  | _ => none

/-- The end of a string that has no proper one; an earlier half pair is seen first if it is
wanted. -/
def badString (earlier : Option Fault) (cause : Cause) (offset : Nat) : Scanned :=
  ⟨.brokenString (earlier.getD ⟨cause, offset⟩) ⟨cause, offset⟩, offset, []⟩

/-- A string behind its opening quote, from the characters read so far in reverse and the first half
pair among them. -/
def string (done : List Char) (earlier : Option Fault) (offset : Nat) : List Char → Scanned
  | [] => badString earlier .endInString offset
  | '"' :: rest =>
    let text := match earlier with
      | none => .ok (String.ofList done.reverse)
      | some fault => .error fault
    ⟨.string text, offset + 1, rest⟩
  | '\\' :: 'u' :: a :: b :: c :: d :: rest =>
    match fourHex a b c d with
    | none => badString earlier .invalidEscape (offset + 6)
    | some unit =>
      match judge unit (offset + 6) rest with
      | .plain char => string (char :: done) earlier (offset + 6) rest
      | .half fault => string done (some (earlier.getD fault)) (offset + 6) rest
      | .paired char =>
        match rest with
        | _ :: _ :: _ :: _ :: _ :: _ :: rest => string (char :: done) earlier (offset + 12) rest
        | rest => string (char :: done) earlier (offset + 6) rest
  | '\\' :: 'u' :: rest =>
    if hasBytes 4 rest then badString earlier .invalidEscape (offset + 6)
    else badString earlier .endInString (offset + 2 + byteLength rest)
  | ['\\'] => badString earlier .endInString (offset + 1)
  | '\\' :: c :: rest =>
    match simpleEscape? c with
    | some char => string (char :: done) earlier (offset + 2) rest
    | none => badString earlier .invalidEscape (offset + 2)
  | c :: rest =>
    if c.toNat < 32 then badString earlier .controlCharacter (offset + 1)
    else string (c :: done) earlier (offset + c.utf8Size) rest

/-- Whether a character may stand between lexemes. -/
def isBlank (c : Char) : Bool := c = ' ' || c = '\t' || c = '\n' || c = '\r'

/-- The lexeme that starts with a character. -/
def next (offset : Nat) (c : Char) (rest : List Char) : Scanned :=
  match c with
  | '[' => ⟨.openArray, offset + 1, rest⟩
  | ']' => ⟨.closeArray, offset + 1, rest⟩
  | '\x7b' => ⟨.openObject, offset + 1, rest⟩
  | '\x7d' => ⟨.closeObject, offset + 1, rest⟩
  | ',' => ⟨.comma, offset + 1, rest⟩
  | ':' => ⟨.colon, offset + 1, rest⟩
  | 'n' => word .null (offset + 1) ['u', 'l', 'l'] rest
  | 't' => word (.bool true) (offset + 1) ['r', 'u', 'e'] rest
  | 'f' => word (.bool false) (offset + 1) ['a', 'l', 's', 'e'] rest
  | '"' => string [] none (offset + 1) rest
  | '-' => number true (offset + 1) rest
  | c =>
    match digit? c with
    | some _ => number false offset (c :: rest)
    | none => ⟨.stray, offset + 1, []⟩

/-- The lexemes from an offset on; a lexeme takes a character at least. -/
def scanFrom : Nat → Nat → List Char → List Token
  | 0, _, _ => []
  | _ + 1, _, [] => []
  | fuel + 1, offset, c :: rest =>
    if isBlank c then scanFrom fuel (offset + 1) rest
    else
      let scanned := next offset c rest
      ⟨offset, scanned.lexeme⟩ :: scanFrom fuel scanned.stop scanned.rest

def scan (text : List Char) : List Token := scanFrom text.length 0 text

end Token

end Flowgraph.Json
