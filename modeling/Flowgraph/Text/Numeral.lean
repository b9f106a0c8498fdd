/-!
# Numerals

A numeral is a text of decimal digits, at least one. Escapes spell a number in a fixed count of
hexadecimal digits instead.

Main result: `numeral?` gives the number of a numeral, leading zeros allowed, and `hexValue` that of
so many hexadecimal digits at the start of a text.
-/
namespace Flowgraph.Text

/-- Whether a character is a decimal digit. -/
def isDigit (c : Char) : Bool := '0' ≤ c && c ≤ '9'

/-- The number that a list of decimal digits stands for. -/
def digitsValue (digits : List Char) : Nat :=
  digits.foldl (fun n c => n * 10 + (c.toNat - '0'.toNat)) 0

def numeral? (digits : List Char) : Option Nat :=
  if !digits.isEmpty && digits.all isDigit then some (digitsValue digits) else none

/-- The value of a hexadecimal digit. -/
def hexDigit? (c : Char) : Option Nat :=
  if '0' ≤ c ∧ c ≤ '9' then some (c.toNat - '0'.toNat)
  else if 'a' ≤ c ∧ c ≤ 'f' then some (c.toNat - 'a'.toNat + 10)
  else if 'A' ≤ c ∧ c ≤ 'F' then some (c.toNat - 'A'.toNat + 10)
  else none

/-- A number with so many more hexadecimal digits behind it, and what follows them. -/
def hexValue : Nat → Nat → List Char → Option (Nat × List Char)
  | 0, value, rest => some (value, rest)
  | _ + 1, _, [] => none
  | n + 1, value, c :: rest =>
    (hexDigit? c).bind fun digit => hexValue n (value * 16 + digit) rest

end Flowgraph.Text
