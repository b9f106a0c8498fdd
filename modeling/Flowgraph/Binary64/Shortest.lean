import Flowgraph.Binary64

/-!
# Shortest decimals

Among the decimals that round to a given number the shortest has the fewest digits, and of several
of one length it is the nearest; an exact tie goes to the even digit. The decimals that round to
the number form an interval, which contains its ends exactly if the significand is even.

Main result: `Decimal.ofBinary64` tries one digit, then two, and so on, and looks only at the two
neighbours of the number on each decimal grid.
-/
namespace Flowgraph

/-- A positive decimal number by its digits, the first before the point, and its exponent. -/
structure Decimal where
  /-- The digits read as one whole number. -/
  digits : Nat
  /-- The power of ten that the first digit stands for. -/
  exponent : Int
deriving DecidableEq, Repr

namespace Decimal

/-- How many decimal digits a number is written with. -/
def digitCount (n : Nat) : Nat := (Nat.toDigits 10 n).length

/-- The exponent of the leading decimal digit of a positive quotient. -/
def leadingExponent (num den : Nat) : Int :=
  if den ≤ num then (digitCount (num / den) : Int) - 1
  else -(digitCount ((den - 1) / num) : Int)

/-- The quotient in units of a power of ten, as numerator and denominator. -/
def onGrid (num den : Nat) (power : Int) : Nat × Nat :=
  if power < 0 then (num * Nat.pow 10 power.natAbs, den)
  else (num, den * Nat.pow 10 power.natAbs)

/-- An interval of quotients with one denominator around a quotient. -/
structure Interval where
  low : Nat
  middle : Nat
  high : Nat
  den : Nat
  /-- Whether the ends belong to the interval. -/
  closed : Bool

/-- The interval of the quotients that round to a number. -/
def Interval.ofBinary64 (x : Binary64) : Interval :=
  let step := 1 <<< x.scale
  let middle := 4 * x.units
  let below := if x.significand = Binary64.fractions ∧ 0 < x.scale then step else 2 * step
  { low := middle - below
    middle
    high := middle + 2 * step
    den := 4 * Binary64.unitsInOne
    closed := x.significand % 2 = 0 }

/-- Whether a multiple of a power of ten lies in an interval. -/
def Interval.holds (i : Interval) (power : Int) (n : Nat) : Bool :=
  let (low, den) := onGrid i.low i.den power
  let (high, _) := onGrid i.high i.den power
  if i.closed then low ≤ n * den && n * den ≤ high else low < n * den && n * den < high

/-- The neighbour of the middle on a decimal grid that lies in the interval, the nearer of two. -/
def Interval.pick? (i : Interval) (power : Int) : Option Nat :=
  let (num, den) := onGrid i.middle i.den power
  let below := num / den
  let lower := i.holds power below
  let upper := i.holds power (below + 1)
  if lower && upper then some (Binary64.nearestNat num den)
  else if lower then some below
  else if upper then some (below + 1)
  else none

/-- The first grid with a hit, from a number of digits on. -/
def search (i : Interval) (leading : Int) : Nat → Nat → Decimal
  | 0, _ => ⟨i.middle / i.den, leading⟩
  | fuel + 1, count =>
    let power := leading - (count - 1 : Nat)
    match i.pick? power with
    | some digits => ⟨digits, (digitCount digits : Int) - 1 + power⟩
    | none => search i leading fuel (count + 1)

/-- The shortest decimal that rounds to a number other than zero; seventeen digits always
suffice. -/
def ofBinary64 (x : Binary64) : Decimal :=
  let interval := Interval.ofBinary64 x
  search interval (leadingExponent interval.middle interval.den) 17 1

/-- The digits without the zeros at their end. -/
def trimmed (d : Decimal) : List Char :=
  ((Nat.toDigits 10 d.digits).reverse.dropWhile (· = '0')).reverse

end Decimal

end Flowgraph
