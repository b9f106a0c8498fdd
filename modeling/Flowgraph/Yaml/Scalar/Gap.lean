import Flowgraph.Yaml.Place

/-!
# Gaps between words

The words of a quoted or plain scalar are separated by gaps. Blanks within a line are kept. Where
the line ends, the blanks around its end are lost and the line breaks are folded: a single one
becomes a blank, and of several the first is lost.

Main result: `Gap.at?` finds the gap at a place, and `Gap.text` is what it counts for.
-/
namespace Flowgraph.Yaml

/-- What separates two words of a scalar. -/
inductive Gap
  /-- Blanks within a line. -/
  | blanks (text : List Char)
  /-- The first line break, and those that follow it. -/
  | breaks (first further : List Char)

namespace Gap

/-- What a gap counts for within a scalar. -/
def text : Gap → List Char
  | blanks text => text
  | breaks first further =>
    if first = ['\n'] then (if further.isEmpty then [' '] else further) else first ++ further

/-- Whether lines end in a gap. -/
def isBroken : Gap → Bool
  | blanks _ => false
  | breaks _ _ => true

/-- A gap in which a line has ended, with the line breaks that follow; a tab does not count for
indentation and is refused in front of a column. -/
def goesOn? (column : Nat) : Nat → List Char → List Char → Place → Option (Gap × Place)
  | 0, _, _, _ => none
  | fuel + 1, first, further, place =>
    let after := place.skipWhile isSpace
    if ((place.run isSpace).take (column - place.column)).contains '\t' then none
    else if after.rest.isEmpty || !after.atLineEnd then some (breaks first further, after)
    else
      let (text, next) := after.lineBreak
      goesOn? column fuel first (further ++ text) next

/-- The gap at a place, and the place behind it. -/
def at? (column fuel : Nat) (place : Place) : Option (Gap × Place) :=
  let after := place.skipWhile isSpace
  if after.rest.isEmpty || !after.atLineEnd then some (blanks (place.run isSpace), after)
  else
    let (first, next) := after.lineBreak
    goesOn? column fuel first [] next

end Gap

end Flowgraph.Yaml
