/-!
# Finite binary floating-point numbers

The finite numbers of the 64-bit binary format, with rounding to nearest stated on exact quotients
of natural numbers. A magnitude is a whole number of units, the unit being the least positive
number of the format, `2⁻¹⁰⁷⁴`; listing all magnitudes in ascending order numbers them from zero,
and that number is the pair of exponent and fraction fields read as one word.

Main result: `nearest?` rounds a quotient; `roundNat_of_lt` says that numbers of at most 53 binary
digits are left as they are.
-/
namespace Flowgraph

/-- How many fractions there are to one exponent: 2⁵². -/
abbrev Binary64.fractions : Nat := 4503599627370496

/-- A finite number of the 64-bit binary format, by its sign, exponent and fraction fields. -/
structure Binary64 where
  /-- Whether the sign is set. -/
  negative : Bool
  /-- The biased exponent; the value 2047 is no finite number's. -/
  exponent : Fin 2047
  /-- The fraction field. -/
  fraction : Fin Binary64.fractions
deriving DecidableEq, Repr

namespace Binary64

/-- Positive zero. -/
def zero : Binary64 := ⟨false, 0, 0⟩

instance : Inhabited Binary64 := ⟨zero⟩

/-- The number with the other sign. -/
def neg (x : Binary64) : Binary64 := { x with negative := !x.negative }

/-- The digits of a magnitude as a whole number; all but the smallest magnitudes have 53 binary
digits. -/
def significand (x : Binary64) : Nat :=
  if x.exponent.val = 0 then x.fraction.val else fractions + x.fraction.val

/-- How many binary places the significand is shifted to count units. -/
def scale (x : Binary64) : Nat := x.exponent.val - 1

/-- The magnitude, counted in units of `2⁻¹⁰⁷⁴`. -/
def units (x : Binary64) : Nat := x.significand <<< x.scale

/-- Whether the magnitude is zero. -/
def isZero (x : Binary64) : Bool := x.units == 0

/-- The number of units in one. -/
def unitsInOne : Nat := 1 <<< 1074

/-- The number whose magnitude has a given place in the ascending list of magnitudes. -/
def ofCode? (negative : Bool) (code : Nat) : Option Binary64 :=
  if inRange : code < 2047 * fractions then
    some ⟨negative, ⟨code / fractions, Nat.div_lt_of_lt_mul (by rwa [Nat.mul_comm])⟩,
      ⟨code % fractions, Nat.mod_lt _ (by decide)⟩⟩
  else none

/-- The whole number nearest to a quotient; a half goes to the even neighbour. -/
def nearestNat (num den : Nat) : Nat :=
  let floor := num / den
  let twice := 2 * (num % den)
  if den < twice ∨ (twice = den ∧ floor % 2 = 1) then floor + 1 else floor

/-- How many binary digits of a whole number of units lie beyond the 53 that a significand holds. -/
def surplus (n : Nat) : Nat := if n < 2 * fractions then 0 else n.log2 - 52

/-- The number nearest to a quotient, or nothing if that is beyond the largest finite number. -/
def nearest? (negative : Bool) (num den : Nat) : Option Binary64 :=
  let scaled := num * unitsInOne
  let shift := surplus (scaled / den)
  ofCode? negative (shift * fractions + nearestNat scaled (den <<< shift))

/-- The number nearest to a natural number. -/
def ofNat? (n : Nat) : Option Binary64 := nearest? false n 1

/-- The product, rounded to nearest. -/
def mul? (x y : Binary64) : Option Binary64 :=
  nearest? (x.negative != y.negative) (x.units * y.units) (unitsInOne * unitsInOne)

/-- The quotient by a number that is not zero, rounded to nearest. -/
def div? (x y : Binary64) : Option Binary64 :=
  nearest? (x.negative != y.negative) x.units y.units

/-- The natural number nearest to another among those that have at most 53 significant binary
digits. -/
def roundNat (n : Nat) : Nat :=
  nearestNat n (1 <<< surplus n) <<< surplus n

theorem roundNat_of_lt {n : Nat} (small : n < 2 * fractions) : roundNat n = n := by
  have none_beyond : surplus n = 0 := if_pos small
  have whole : n % 1 = 0 := Nat.mod_one n
  simp only [roundNat, none_beyond, nearestNat, Nat.shiftLeft_zero, Nat.div_one, whole]
  exact if_neg (by omega)

end Binary64

end Flowgraph
