import Flowgraph.Json

/-!
# Writing JSON

Values are written compactly or indented by two spaces. In strings only the quote, the backslash and
the control characters below U+0020 are escaped.

Main result: `compact` and `pretty` share `quoted` and `Number.text` and differ in white space only.
-/
namespace Flowgraph.Json

/-- A hexadecimal digit in lower case. -/
def hexDigit (n : Nat) : Char := Nat.digitChar (n % 16)

/-- A character as it stands inside quotes. -/
def escaped (c : Char) : List Char :=
  if c = '"' then ['\\', '"']
  else if c = '\\' then ['\\', '\\']
  else if c = '\n' then ['\\', 'n']
  else if c = '\r' then ['\\', 'r']
  else if c = '\t' then ['\\', 't']
  else if c.toNat = 8 then ['\\', 'b']
  else if c.toNat = 12 then ['\\', 'f']
  else if c.toNat < 32 then ['\\', 'u', '0', '0', hexDigit (c.toNat / 16), hexDigit c.toNat]
  else [c]

def quoted (text : String) : String :=
  String.ofList ('"' :: text.toList.flatMap escaped ++ ['"'])

mutual

/-- A value without any white space. -/
def compact : Json → String
  | null => "null"
  | bool value => if value then "true" else "false"
  | number value => value.text
  | string value => quoted value
  | array items => "[" ++ ",".intercalate (compactItems items) ++ "]"
  | object fields => "\x7b" ++ ",".intercalate (compactFields fields) ++ "\x7d"

/-- The written items of an array. -/
def compactItems : List Json → List String
  | [] => []
  | item :: rest => compact item :: compactItems rest

/-- The written fields of an object. -/
def compactFields : List (String × Json) → List String
  | [] => []
  | (key, value) :: rest => (quoted key ++ ":" ++ compact value) :: compactFields rest

end

/-- Written parts on lines of their own between brackets, or the brackets alone. -/
def block (opening closing indent : String) (parts : List String) : String :=
  if parts.isEmpty then opening ++ closing
  else
    let line := "\n" ++ indent
    opening ++ line ++ "  " ++ ("," ++ line ++ "  ").intercalate parts ++ line ++ closing

mutual

/-- A value over several lines, inside an indentation. -/
def prettyAt (indent : String) : Json → String
  | array items => block "[" "]" indent (prettyItems (indent ++ "  ") items)
  | object fields => block "\x7b" "\x7d" indent (prettyFields (indent ++ "  ") fields)
  | null => "null"
  | bool value => if value then "true" else "false"
  | number value => value.text
  | string value => quoted value

/-- The written items of an array. -/
def prettyItems (indent : String) : List Json → List String
  | [] => []
  | item :: rest => prettyAt indent item :: prettyItems indent rest

/-- The written fields of an object. -/
def prettyFields (indent : String) : List (String × Json) → List String
  | [] => []
  | (key, value) :: rest =>
    (quoted key ++ ": " ++ prettyAt indent value) :: prettyFields indent rest

end

/-- A value over several lines, indented by two spaces. -/
def pretty (value : Json) : String := prettyAt "" value

end Flowgraph.Json
