import Flowgraph.Yaml.Character

/-!
# Places in a text

A place knows what follows it and where it stands: in which line and column, which decide about
indentation, and behind how many bytes, which limit the length of a key.

Main result: `Place.step` and `Place.lineBreak` are the two motions, within a line and to the next.
-/
namespace Flowgraph.Yaml

/-- A place in a text: what follows it, the bytes in front of it, its line and its column. -/
structure Place where
  rest : List Char
  offset : Nat
  line : Nat
  column : Nat

namespace Place

/-- The place in front of a text. -/
def start (text : List Char) : Place := ⟨text, 0, 0, 0⟩

/-- The place behind the next character of the line. -/
def step : Place → Place
  | ⟨c :: rest, offset, line, column⟩ => ⟨rest, offset + c.utf8Size, line, column + 1⟩
  | place => place

/-- The place behind so many characters of the line. -/
def skip : Nat → Place → Place
  | 0, place => place
  | count + 1, place => skip count place.step

/-- The characters of the line that pass a test. -/
def run (place : Place) (test : Char → Bool) : List Char := place.rest.takeWhile test

/-- The place behind the characters of the line that pass a test. -/
def skipWhile (place : Place) (test : Char → Bool) : Place := place.skip (place.run test).length

/-- The place behind the characters that are left on the line. -/
def lineEnd (place : Place) : Place := place.skipWhile fun c => !isBreak c

/-- The place behind a comment, if one begins here. -/
def skipComment (place : Place) : Place :=
  if place.rest.head? = some '#' then place.lineEnd else place

/-- Whether the text or the line ends here. -/
def atLineEnd (place : Place) : Bool :=
  match place.rest with
  | [] => true
  | c :: _ => isBreak c

/-- What a line break counts for within a scalar, and the place behind it: the separators of lines
and of paragraphs count for themselves, every other break for a line feed. -/
def lineBreak (place : Place) : List Char × Place :=
  match place.rest with
  | '\r' :: '\n' :: rest => (['\n'], ⟨rest, place.offset + 2, place.line + 1, 0⟩)
  | c :: rest =>
    if isBreak c then
      ([if c = '\u2028' || c = '\u2029' then c else '\n'],
        ⟨rest, place.offset + c.utf8Size, place.line + 1, 0⟩)
    else ([], place)
  | [] => ([], place)

/-- Whether a line begins here with three times a character and nothing behind it. -/
def atTriple (place : Place) (mark : Char) : Bool :=
  place.column = 0 && [mark, mark, mark].isPrefixOf place.rest && atGap (place.rest.drop 3)

/-- Whether a mark between documents stands here. -/
def atDocumentMark (place : Place) : Bool := place.atTriple '-' || place.atTriple '.'

end Place

end Flowgraph.Yaml
