import Flowgraph.Unicode.Unprintable

/-!
# Inspected texts

A text as messages show it: in quotes, with quotes and backslashes escaped, and with every character
that leaves no mark of its own written as its code point.
-/
namespace Flowgraph.Text

/-- A character as an inspected text shows it. -/
def inspectedChar (c : Char) : List Char :=
  if c = '"' then ['\\', '"']
  else if c = '\\' then ['\\', '\\']
  else if c = '\n' then ['\\', 'n']
  else if c = '\r' then ['\\', 'r']
  else if c = '\t' then ['\\', 't']
  else if c.toNat = 0 then ['\\', '0']
  else if Unicode.isUnprintable c then
    ['\\', 'u', '\x7b'] ++ Nat.toDigits 16 c.toNat ++ ['\x7d']
  else [c]

/-- A text in quotes, with everything that would not show escaped. -/
def inspected (text : String) : String :=
  String.ofList ('"' :: text.toList.flatMap inspectedChar ++ ['"'])

end Flowgraph.Text
