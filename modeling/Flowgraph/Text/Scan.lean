import Flowgraph.Text.Numeral

/-!
# Readers of text

A reader takes characters from the front of a text and gives what they mean, or refuses the text.
Where one reader refuses, the next alternative starts at the same place.

Main result: `one`, `exactly` and `many` are the readers from which the others are put together.
-/
namespace Flowgraph.Text

abbrev Scan := StateT (List Char) Option

namespace Scan

/-- One character that passes a test. -/
def one (test : Char → Bool) : Scan Char
  | c :: rest => if test c then some (c, rest) else none
  | [] => none

/-- One character out of a fixed few. -/
def oneOf (chars : List Char) : Scan Char := one chars.contains

def exactly (text : String) : Scan Unit := fun rest =>
  if text.toList.isPrefixOf rest then some ((), rest.drop text.length) else none

/-- The characters up to the first that fails a test. -/
def run (test : Char → Bool) : Scan (List Char) := fun rest =>
  some (rest.takeWhile test, rest.dropWhile test)

/-- What a reader gives, one time after the other, so many times at most. -/
def atMost {α : Type} (item : Scan α) : Nat → Scan (List α)
  | 0 => pure []
  | n + 1 => (do return (← item) :: (← atMost item n)) <|> pure []

/-- What a reader gives as long as it reads something. -/
def many {α : Type} (item : Scan α) : Scan (List α) := fun rest => atMost item rest.length rest

/-- What a reader gives between separators, at least once. -/
def separated {α : Type} (item : Scan α) (separator : Scan Unit) : Scan (List α) := do
  return (← item) :: (← many (separator *> item))

/-- A number of so many hexadecimal digits. -/
def hex (count : Nat) : Scan Nat := hexValue count 0

def atEnd : Scan Unit := fun rest => if rest.isEmpty then some ((), rest) else none

/-- The characters that a reader takes. -/
def spelling {α : Type} (reader : Scan α) : Scan String := fun rest =>
  (reader rest).map fun (_, left) => (String.ofList (rest.take (rest.length - left.length)), left)

end Scan

end Flowgraph.Text
