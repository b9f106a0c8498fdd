import Flowgraph.Binary64.Shortest

/-!
# Numbers in JSON documents

A number is kept as a whole number where it fits a 64-bit word, unsigned or signed, and as a finite
binary floating-point number otherwise. The three forms never overlap: a natural number is not
negative, a negative one is below zero, and everything else is a float.

Main result: `Number.text` writes a float with the fewest digits that read back, positionally while
the exponent is at least -5 and below 16.
-/
namespace Flowgraph.Json

/-- How many negative whole numbers fit a word with a sign: 2⁶³. -/
abbrev Number.negatives : Nat := 9223372036854775808

/-- A number of a JSON document. -/
inductive Number
  /-- A whole number from zero on. -/
  | natural (value : UInt64)
  /-- The whole number `-(below + 1)`. -/
  | negative (below : Fin Number.negatives)
  /-- Any other number. -/
  | float (value : Binary64)
deriving DecidableEq

namespace Number

/-- The value, if it is a whole number from zero on. -/
def natural? : Number → Option UInt64
  | natural value => some value
  | _ => none

/-- Whether the number is kept as a whole number. -/
def isWhole : Number → Bool
  | float _ => false
  | _ => true

/-- Zeros, as many as asked for. -/
def zeros (count : Nat) : List Char := List.replicate count '0'

/-- The exponent of scientific notation, always with its sign. -/
def exponentText (exponent : Int) : List Char :=
  'e' :: (if exponent < 0 then '-' else '+') :: Nat.toDigits 10 exponent.natAbs

/-- A positive decimal: positional, with a digit on each side of the point, while the exponent is at
least -5 and below 16, and scientific otherwise. -/
def layout (digits : List Char) (exponent : Int) : List Char :=
  if 0 ≤ exponent ∧ exponent < 16 then
    let whole := exponent.toNat + 1
    if digits.length ≤ whole then digits ++ zeros (whole - digits.length) ++ ['.', '0']
    else digits.take whole ++ '.' :: digits.drop whole
  else if -5 ≤ exponent ∧ exponent < 0 then
    '0' :: '.' :: zeros (exponent.natAbs - 1) ++ digits
  else
    match digits with
    | [] => exponentText exponent
    | [first] => first :: exponentText exponent
    | first :: rest => first :: '.' :: rest ++ exponentText exponent

def floatText (x : Binary64) : List Char :=
  let sign := if x.negative then ['-'] else []
  if x.isZero then sign ++ ['0', '.', '0']
  else
    let decimal := Decimal.ofBinary64 x
    sign ++ layout decimal.trimmed decimal.exponent

def text : Number → String
  | natural value => toString value.toNat
  | negative below => "-" ++ toString (below.val + 1)
  | float value => String.ofList (floatText value)

end Number

end Flowgraph.Json
