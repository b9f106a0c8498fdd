import Flowgraph.Unicode.Range

/-!
# Blank characters

The characters with the white space property, taking them off the ends of a text, and the parts that
they leave between them.
-/
namespace Flowgraph.Unicode

/-- The ranges of blank characters, in ascending order. -/
def blankRanges : List (Nat × Nat) := [
  (0x9, 0xd), (0x20, 0x20), (0x85, 0x85), (0xa0, 0xa0), (0x1680, 0x1680), (0x2000, 0x200a),
  (0x2028, 0x2029), (0x202f, 0x202f), (0x205f, 0x205f), (0x3000, 0x3000)]

def isBlank (c : Char) : Bool := inRanges blankRanges c.toNat

/-- A text without the characters of a kind at its ends. -/
def trim (drop : Char → Bool) (text : List Char) : List Char :=
  ((text.dropWhile drop).reverse.dropWhile drop).reverse

/-- The longest parts of a text without blanks. -/
def words : List Char → List (List Char)
  | [] => []
  | c :: rest =>
    if isBlank c then words rest
    else
      match rest, words rest with
      | next :: _, word :: more => if isBlank next then [c] :: word :: more else (c :: word) :: more
      | _, more => [c] :: more

end Flowgraph.Unicode
