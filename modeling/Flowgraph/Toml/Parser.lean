import Flowgraph.Toml.Scalar
import Flowgraph.Toml.Table

/-!
# Reading TOML

A document is read line by line: headers, entries, comments and blank lines; only lists and texts
go on over several lines. Lists and inline tables may stand in each other up to a fixed depth.

Main result: `Toml.parse?` reads a document.
-/
namespace Flowgraph.Toml

open Text Text.Scan

/-- A comment, up to the end of its line. -/
def comment : Scan Unit := do
  exactly "#"
  discard (run isPlainChar)

/-- The end of a line, behind blanks and a comment. -/
def lineEnd : Scan Unit := do
  blanks
  discard (optional comment)
  lineBreak <|> atEnd

/-- Blanks, line breaks and comments between the items of a list. -/
def listGap : Scan Unit :=
  discard (many (discard (one isBlankChar) <|> lineBreak <|> (comment *> lineBreak)))

/-- Whether a character may stand in a key without quotes. -/
def isKeyChar (c : Char) : Bool := c.isAlphanum || c = '-' || c = '_'

def keyPart : Scan String :=
  (do return String.ofList ((← one isKeyChar) :: (← run isKeyChar))) <|> lineText

/-- How deep keys, lists and inline tables go at most. -/
def depthLimit : Nat := 79

/-- A dotted key: the path to the table and the name in it. -/
def dottedKey : Scan (List String × String) := do
  let parts ← separated (blanks *> keyPart <* blanks) (exactly ".")
  match parts.getLast? with
  | some name => if parts.length ≤ depthLimit then pure (parts.dropLast, name) else failure
  | none => failure

def entry (value : Scan Toml) : Scan ((List String × String) × Toml) := do
  let key ← dottedKey
  exactly "="
  blanks
  return (key, ← value)

def listOf (value : Scan Toml) : Scan Toml := do
  exactly "["
  let items ← (separated (listGap *> value <* listGap) (exactly ",") <* optional (exactly ","))
    <|> pure []
  listGap
  exactly "]"
  pure (list items)

/-- A table between braces. -/
def inlineTable (value : Scan Toml) : Scan Toml := do
  exactly "\x7b"
  let entries ← separated (entry value <* blanks) (exactly ",") <|> pure []
  blanks
  exactly "\x7d"
  let fields ← entries.foldlM (fun fields ((path, name), value) =>
    liftM (put? path name value .inline fields)) []
  pure (table .inline fields)

/-- A value, with so many levels of lists and inline tables in it at most. -/
def valueWithin : Nat → Scan Toml
  | 0 => scalar
  | depth + 1 => scalar <|> listOf (valueWithin depth) <|> inlineTable (valueWithin depth)

inductive Line
  | blank
  | header (path : List String) (name : String)
  | item (path : List String) (name : String)
  | entry (path : List String) (name : String) (value : Toml)

/-- A header between brackets. -/
def headerBetween (opening closing : String) : Scan (List String × String) := do
  exactly opening
  let key ← dottedKey
  exactly closing
  lineEnd
  pure key

def line : Scan Line := do
  blanks
  (comment *> (lineBreak <|> atEnd) *> pure .blank) <|> (lineBreak *> pure .blank)
    <|> ((fun (path, name) => .item path name) <$> headerBetween "[[" "]]")
    <|> ((fun (path, name) => .header path name) <$> headerBetween "[" "]")
    <|> ((fun ((path, name), value) => .entry path name value)
      <$> (entry (valueWithin depthLimit) <* lineEnd))

/-- A document in the making: its tables, and the path of the one that was opened last. -/
structure Draft where
  fields : Fields
  current : List String

/-- A document in the making with one more line. -/
def Draft.add? (draft : Draft) : Line → Option Draft
  | .blank => some draft
  | .header path name => (openTable? path name draft.fields).map (⟨·, path ++ [name]⟩)
  | .item path name => (openItem? path name draft.fields).map (⟨·, path ++ [name]⟩)
  | .entry path name value =>
    (within false (put? path name value) draft.current .headed draft.fields).map
      (⟨·, draft.current⟩)

/-- The lines of a document, which may begin with a byte order mark. -/
def document : Scan (List Line) := do
  discard (optional (exactly "\ufeff"))
  let lines ← many line
  blanks
  atEnd
  pure lines

/-- The document that a text is. -/
def parse? (text : String) : Option Toml := do
  let (lines, _) ← document text.toList
  let draft ← lines.foldlM Draft.add? ⟨[], []⟩
  pure (table .headed draft.fields)

end Flowgraph.Toml
