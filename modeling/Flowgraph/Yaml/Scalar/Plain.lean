import Flowgraph.Yaml.Scalar.Gap

/-!
# Plain scalars

A plain scalar stands without quotes. It ends in front of a colon or a comment, in front of the
marks of the flow collection that it stands in, and at the first line that is not indented far
enough.

Main result: `Plain.read?` reads a plain scalar where one begins.
-/
namespace Flowgraph.Yaml

/-- Whether a plain scalar begins with a character, given what follows that. -/
def beginsPlain (flow : Bool) (c : Char) (rest : List Char) : Bool :=
  if c = '-' then !(rest.head?.any isSpace)
  else if c = '?' || c = ':' then !flow && !atGap rest
  else !(isSpace c || isBreak c || isFlowMark c
    || ['#', '&', '*', '!', '|', '>', '\'', '"', '%', '@', '\x60'].contains c)

/-- A plain scalar, whether the line has ended behind it, and the place where the text goes on. -/
structure Plain where
  text : String
  broken : Bool
  place : Place

namespace Plain

/-- Whether a colon is misplaced within a flow collection. -/
def isStrayColon (c : Char) (rest : List Char) : Bool :=
  c = ':' && rest.head?.any fun next => isFlowMark next || next = '?'

/-- The scalar that was read in reverse, given the gap behind it, if there is one. -/
def ending (done : List Char) (gap : Option Gap) (place : Place) : Plain :=
  ⟨String.ofList done.reverse, gap.any Gap.isBroken, place⟩

/-- A plain scalar, from what was read so far in reverse and the gap behind that, if a gap has just
ended. -/
def readFrom? (flow : Bool) (column : Nat) :
    Nat → List Char → Option Gap → Place → Option Plain
  | 0, _, _, _ => none
  | fuel + 1, done, gap, place =>
    match place.rest with
    | [] => some (ending done gap place)
    | c :: rest =>
      if gap.isSome && (c = '#' || place.atDocumentMark) then some (ending done gap place)
      else if isSpace c || isBreak c then do
        let (next, after) ← Gap.at? column fuel place
        if !flow && after.column < column then some (ending done (some next) after)
        else readFrom? flow column fuel done (some next) after
      else if flow && isStrayColon c rest then none
      else if (c = ':' && atGap rest) || (flow && isFlowMark c) then some (ending done gap place)
      else
        let before := (gap.map Gap.text).getD []
        readFrom? flow column fuel (c :: (before.reverse ++ done)) none place.step

/-- The plain scalar that begins at a place; its further lines begin in a column or behind that. -/
def read? (flow : Bool) (column fuel : Nat) (place : Place) : Option Plain :=
  readFrom? flow column fuel [] (some (.blanks [])) place

end Plain

end Flowgraph.Yaml
