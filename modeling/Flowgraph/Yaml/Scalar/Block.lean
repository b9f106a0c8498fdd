import Flowgraph.Text.Numeral
import Flowgraph.Yaml.Scalar.Gap

/-!
# Block scalars

A block scalar consists of whole lines that stand in one column or behind it. A literal one keeps
its lines, and a folded one puts them together like words, except where a line is indented further.
The header says what becomes of the line breaks at the end and may say what the column is;
otherwise the empty lines in front and the first other line decide.

Main result: `Block.read?` reads a block scalar behind its mark.
-/
namespace Flowgraph.Yaml.Block

/-- What becomes of the line breaks at the end. -/
inductive Chomping
  | clip
  | strip
  | keep
deriving DecidableEq

namespace Chomping

/-- What a mark in the header says. -/
def ofMark? : Char → Option Chomping
  | '+' => some keep
  | '-' => some strip
  | _ => none

/-- What is kept of the break behind the last line and of those that follow it. -/
def ending (chomping : Chomping) (last further : List Char) : List Char :=
  match chomping with
  | clip => last
  | strip => []
  | keep => last ++ further

end Chomping

/-- What a header says: what becomes of the line breaks at the end, and how far the lines are
indented. -/
structure Header where
  chomping : Chomping
  indentation : Option Nat

/-- How far lines are indented by the digit of a header. -/
def indentation? (c : Char) : Option Nat :=
  if '1' ≤ c ∧ c ≤ '9' then some (c.toNat - '0'.toNat) else none

/-- A header, whose two parts come in either order, and the place behind it. -/
def header? (place : Place) : Option (Header × Place) :=
  let first := place.rest.head?
  let second := place.step.rest.head?
  match first.bind Chomping.ofMark? with
  | some chomping =>
    if second.any Text.isDigit then
      (second.bind indentation?).map fun count => (⟨chomping, some count⟩, place.skip 2)
    else some (⟨chomping, none⟩, place.step)
  | none =>
    if first.any Text.isDigit then
      (first.bind indentation?).map fun count =>
        match second.bind Chomping.ofMark? with
        | some chomping => (⟨chomping, some count⟩, place.skip 2)
        | none => (⟨.clip, some count⟩, place.step)
    else some (⟨.clip, none⟩, place)

/-- The place behind the line of a header, on which nothing but a comment follows. -/
def headerEnd? (place : Place) : Option Place :=
  let after := (place.skipWhile isSpace).skipComment
  if after.atLineEnd then some after.lineBreak.2 else none

/-- Empty lines: the column of the deepest of them, their line breaks, and the place behind. -/
structure Emptiness where
  deepest : Nat
  breaks : List Char
  place : Place

/-- The empty lines at a place, with the indentation of the line that follows them; as long as the
column of the lines is not known, all blanks are indentation. -/
def emptyLines? (column : Option Nat) : Nat → Emptiness → Option Emptiness
  | 0, _ => none
  | fuel + 1, before =>
    let blanks := (before.place.run (· = ' ')).length
    let indented := before.place.skip
      (column.elim blanks fun column => min blanks (column - before.place.column))
    let deepest := max before.deepest indented.column
    if column.all (indented.column < ·) && indented.rest.head? = some '\t' then none
    else if indented.rest.isEmpty || !indented.atLineEnd then
      some ⟨deepest, before.breaks, indented⟩
    else
      let (text, next) := indented.lineBreak
      emptyLines? column fuel ⟨deepest, before.breaks ++ text, next⟩

/-- What was read of a block scalar: its lines in reverse, whether the last of them begins with a
blank, the break behind it, the further breaks, and the place behind those. -/
structure Lines where
  done : List Char
  blank : Bool
  last : List Char
  further : List Char
  place : Place

/-- The lines of a block scalar that stand in a column. -/
def lines? (folded : Bool) (column : Nat) : Nat → Lines → Option Lines
  | 0, _ => none
  | fuel + 1, lines =>
    if lines.place.column = column && !lines.place.rest.isEmpty then do
      let blank := lines.place.rest.head?.any isSpace
      let gap := Gap.breaks lines.last lines.further
      let between := if folded && !lines.blank && !blank then gap.text
        else lines.last ++ lines.further
      let line := lines.place.run fun c => !isBreak c
      let (last, next) := lines.place.lineEnd.lineBreak
      let empty ← emptyLines? (some column) fuel ⟨0, [], next⟩
      lines? folded column fuel
        ⟨line.reverse ++ (between.reverse ++ lines.done), blank, last, empty.breaks, empty.place⟩
    else some lines

/-- A block scalar behind its mark, within a collection whose column is given, and the place behind
the scalar. -/
def read? (folded : Bool) (parent : Option Nat) (fuel : Nat) (place : Place) :
    Option (String × Place) := do
  let (header, behind) ← header? place
  let start ← headerEnd? behind
  let stated := header.indentation.map (parent.getD 0 + ·)
  let front ← emptyLines? stated fuel ⟨0, [], start⟩
  let column := stated.getD (max front.deepest (max (parent.elim 0 (· + 1)) 1))
  let lines ← lines? folded column fuel ⟨[], false, [], front.breaks, front.place⟩
  pure (String.ofList (lines.done.reverse ++ header.chomping.ending lines.last lines.further),
    lines.place)

end Flowgraph.Yaml.Block
