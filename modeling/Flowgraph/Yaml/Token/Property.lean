import Flowgraph.Text.Numeral
import Flowgraph.Yaml.Place
import Flowgraph.Yaml.Token

/-!
# Tokens of properties and directives

In front of a node may stand an anchor, which names it, and a tag, which says what it is. A tag is
written out between angle brackets or abbreviated by a handle, whose meaning a directive in front of
the document may give.

Main result: `Place.anchor?`, `Place.tag?` and `Place.directive?` read one of them with its mark.
-/
namespace Flowgraph.Yaml

namespace Octets

/-- How many octets follow the first one of a character. -/
def behind? (first : Nat) : Option Nat :=
  if first < 0x80 then some 0
  else if first < 0xc0 then none
  else if first < 0xe0 then some 1
  else if first < 0xf0 then some 2
  else if first < 0xf8 then some 3
  else none

/-- The octets that a text spells, those behind percent signs included, when so many more are due
for a character. -/
def spelled? : Nat → List Char → Option Octets
  | 0, [] => some []
  | _ + 1, [] => none
  | due, '%' :: high :: low :: rest => do
    let (octet, _) ← Text.hexValue 2 0 [high, low]
    let next ← match due with
      | 0 => behind? octet
      | due + 1 => if 0x80 ≤ octet && octet < 0xc0 then some due else none
    pure (octet.toUInt8 :: (← spelled? next rest))
  | 0, c :: rest => if c = '%' then none else (spelled? 0 rest).map (c.toNat.toUInt8 :: ·)
  | _ + 1, _ :: _ => none

/-- The octets of characters that take one each. -/
def ofChars (chars : List Char) : Octets := chars.map fun c => c.toNat.toUInt8

end Octets

/-- Whether a character may stand in a tag; some only where the tag is written out. -/
def isTagChar (whole : Bool) (c : Char) : Bool :=
  isNameChar c || [';', '/', '?', ':', '@', '&', '=', '+', '$', '.', '%', '!', '~', '*', '\'', '(',
    ')'].contains c || (whole && [',', '[', ']'].contains c)

namespace Place

/-- A name behind a mark, and the place behind it; what may follow is limited. -/
def nameBehindMark? (place : Place) : Option (String × Place) :=
  let name := place.step.run isNameChar
  let after := place.step.skip name.length
  let closes := atGap after.rest || after.rest.head?.any
    (['?', ':', ',', ']', '\x7d', '%', '@', '\x60'].contains ·)
  if name.isEmpty || !closes then none else some (String.ofList name, after)

def anchor? (place : Place) : Option (Token × Place) :=
  place.nameBehindMark?.map fun (name, after) => (.anchor name, after)

def aliasOf? (place : Place) : Option (Token × Place) :=
  place.nameBehindMark?.map fun (name, after) => (.aliasOf name, after)

/-- The octets of a tag up to a null, of which there must be one unless some stand in front. -/
def tagText? (whole : Bool) (front : Option Octets) (place : Place) : Option (Octets × Place) := do
  let octets ← Octets.spelled? 0 (place.run (isTagChar whole))
  if front.isNone && octets.isEmpty then none
  else pure ((front.getD [] ++ octets).takeWhile (· != 0), place.skipWhile (isTagChar whole))

/-- The handle of a tag, as far as one may be written here, and the place behind it. -/
def handle (place : Place) : List Char × Place :=
  let name := place.step.run isNameChar
  let closing := if (place.step.skip name.length).rest.head? = some '!' then ['!'] else []
  let handle := '!' :: name ++ closing
  (handle, place.skip handle.length)

/-- A tag without the check of what follows it. -/
def openTag? (place : Place) : Option (Token × Place) :=
  if place.step.rest.head? = some '<' then do
    let (octets, after) ← (place.skip 2).tagText? true none
    if after.rest.head? = some '>' then pure (.tag "" octets, after.step) else none
  else
    let (handle, after) := place.handle
    if 2 ≤ handle.length && handle.getLast? = some '!' then do
      let (octets, after) ← after.tagText? false none
      pure (.tag (String.ofList handle) octets, after)
    else do
      let (octets, after) ← after.tagText? false (some (.ofChars handle.tail))
      pure (if octets.isEmpty then .tag "" (.ofChars ['!']) else .tag "!" octets, after)

/-- A tag; behind it is a gap, or a comma within a flow collection. -/
def tag? (flow : Bool) (place : Place) : Option (Token × Place) := do
  let (token, after) ← place.openTag?
  if atGap after.rest || (flow && after.rest.head? = some ',') then pure (token, after) else none

/-- A number in the version of the language. -/
def versionNumber? (place : Place) : Option (Nat × Place) :=
  let digits := place.run Text.isDigit
  if digits.isEmpty || 9 < digits.length then none
  else some (Text.digitsValue digits, place.skip digits.length)

/-- The version that a directive gives. -/
def version? (place : Place) : Option (Token × Place) := do
  let (major, after) ← place.versionNumber?
  if after.rest.head? = some '.' then
    let (minor, after) ← after.step.versionNumber?
    pure (.version major minor, after)
  else none

/-- The handle that a directive gives a meaning, and the meaning. -/
def vocabulary? (place : Place) : Option (Token × Place) := do
  let (handle, behind) := place.handle
  let isHandle := place.rest.head? = some '!' && (handle.length = 1 || handle.getLast? = some '!')
  if isHandle && behind.rest.head?.any isSpace then
    let (octets, after) ← (behind.skipWhile isSpace).tagText? true none
    if atGap after.rest then pure (.vocabulary (String.ofList handle) octets, after) else none
  else none

/-- A directive with its line, on which nothing but a comment follows it. -/
def directive? (place : Place) : Option (Token × Place) := do
  let name := place.step.run isNameChar
  let behind := place.step.skip name.length
  let operand := behind.skipWhile isSpace
  if !atGap behind.rest then none
  else
    let (token, after) ← match String.ofList name with
      | "YAML" => operand.version?
      | "TAG" => operand.vocabulary?
      | _ => none
    let after := (after.skipWhile isSpace).skipComment
    if after.atLineEnd then pure (token, after.lineBreak.2) else none

end Place

end Flowgraph.Yaml
