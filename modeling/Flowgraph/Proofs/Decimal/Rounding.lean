import Mathlib.Algebra.Order.Floor.Defs
import Mathlib.Data.Rat.Floor
import Mathlib.Tactic.Linarith
import Mathlib.Tactic.Ring
import Flowgraph.Binary64.Shortest

/-!
# The rounding intervals

Two numbers of different magnitude have disjoint rounding intervals: where the upper end of one
meets the lower end of the next, at most one of the two significands is even. The width of an
interval exceeds the distance of decimals with seventeen digits, so the search for a decimal ends
with one that lies in the interval.

Main result: `contains_ofBinary64` and `units_eq_of_contains`.
-/
namespace Flowgraph

namespace Binary64

variable (x y : Binary64)

theorem units_eq : x.units = x.significand * 2 ^ x.scale := Nat.shiftLeft_eq _ _

theorem significand_lt : x.significand < 2 * fractions := by
  have bound := x.fraction.isLt
  unfold significand
  split <;> omega

theorem le_significand (scaled : 0 < x.scale) : fractions ≤ x.significand := by
  unfold scale at scaled
  rw [significand, if_neg (by omega)]
  omega

theorem units_pos_iff : 0 < x.units ↔ 0 < x.significand := by
  rw [units_eq]
  exact Nat.mul_pos_iff_of_pos_right (Nat.two_pow_pos _)

variable {x y}

theorem units_eq_zero (zero : x.isZero = true) : x.units = 0 := by
  simpa [isZero] using zero

theorem units_pos (nonzero : x.isZero = false) : 0 < x.units := by
  simpa [isZero, Nat.pos_iff_ne_zero] using nonzero

/-- A larger scale comes with a significand of full length, which the other cannot make up for. -/
theorem units_lt_of_scale_lt (less : x.scale < y.scale) : x.units < y.units := by
  have full := le_significand y (by omega)
  obtain ⟨d, scale⟩ := Nat.exists_eq_add_of_lt less
  rw [units_eq, units_eq, scale]
  calc x.significand * 2 ^ x.scale < 2 * fractions * 2 ^ x.scale :=
        Nat.mul_lt_mul_of_pos_right (significand_lt x) (Nat.two_pow_pos _)
    _ = fractions * 2 ^ (x.scale + 1) := by ring
    _ ≤ y.significand * 2 ^ (x.scale + d + 1) :=
        Nat.mul_le_mul full (Nat.pow_le_pow_right (by decide) (by omega))

/-- The magnitude determines the exponent and the fraction. -/
theorem eq_of_units_eq (signs : x.negative = y.negative) (same : x.units = y.units) : x = y := by
  have scales : x.scale = y.scale := by
    rcases Nat.lt_trichotomy x.scale y.scale with less | equal | greater
    · exact absurd same (Nat.ne_of_lt (units_lt_of_scale_lt less))
    · exact equal
    · exact absurd same.symm (Nat.ne_of_lt (units_lt_of_scale_lt greater))
  have significands : x.significand = y.significand := by
    rw [units_eq, units_eq, scales] at same
    exact Nat.eq_of_mul_eq_mul_right (Nat.two_pow_pos _) same
  obtain ⟨negative, exponent, fraction⟩ := x
  obtain ⟨negative', exponent', fraction'⟩ := y
  simp only [scale, significand] at signs scales significands
  have bound := fraction.isLt
  have bound' := fraction'.isLt
  -- only a significand of full length has an exponent above zero, so none is both
  have exponents : exponent = exponent' := by
    apply Fin.ext
    split at significands <;> split at significands <;> omega
  subst signs exponents
  have fractions : fraction = fraction' := by
    apply Fin.ext
    split at significands <;> omega
  rw [fractions]

end Binary64

namespace Decimal

open Binary64 (fractions)

/-- The rational number that a decimal stands for. -/
def toRat (d : Decimal) : ℚ := d.digits * 10 ^ (d.exponent + 1 - digitCount d.digits)

namespace Interval

/-- A rational number lies in an interval. -/
def Contains (i : Interval) (q : ℚ) : Prop :=
  if i.closed then (i.low : ℚ) ≤ q * i.den ∧ q * i.den ≤ i.high
  else (i.low : ℚ) < q * i.den ∧ q * i.den < i.high

theorem Contains.bounds {i : Interval} {q : ℚ} (inside : i.Contains q) :
    (i.low : ℚ) ≤ q * i.den ∧ q * i.den ≤ i.high := by
  unfold Contains at inside
  split at inside
  · exact inside
  · exact ⟨inside.1.le, inside.2.le⟩

theorem contains_of_lt {i : Interval} {q : ℚ} (above : (i.low : ℚ) < q * i.den)
    (below : q * i.den < i.high) : i.Contains q := by
  unfold Contains
  split
  · exact ⟨above.le, below.le⟩
  · exact ⟨above, below⟩

section

variable {x y : Binary64}

theorem high_ofBinary64 :
    (ofBinary64 x).high = 4 * (x.significand * 2 ^ x.scale) + 2 * 2 ^ x.scale := by
  simp only [ofBinary64, Nat.one_shiftLeft, Binary64.units_eq]

theorem low_ofBinary64 :
    (ofBinary64 x).low = 4 * (x.significand * 2 ^ x.scale) -
      if x.significand = fractions ∧ 0 < x.scale then 2 ^ x.scale else 2 * 2 ^ x.scale := by
  simp only [ofBinary64, Nat.one_shiftLeft, Binary64.units_eq]

theorem middle_ofBinary64 : (ofBinary64 x).middle = 4 * (x.significand * 2 ^ x.scale) := by
  simp only [ofBinary64, Binary64.units_eq]

theorem low_lt_middle (positive : 0 < x.units) : (ofBinary64 x).low < (ofBinary64 x).middle := by
  have step : 0 < 2 ^ x.scale := Nat.two_pow_pos _
  rw [Binary64.units_eq] at positive
  rw [middle_ofBinary64, low_ofBinary64]
  split <;> omega

theorem middle_lt_high : (ofBinary64 x).middle < (ofBinary64 x).high := by
  have step : 0 < 2 ^ x.scale := Nat.two_pow_pos _
  rw [middle_ofBinary64, high_ofBinary64]
  omega

theorem not_contains_zero (positive : 0 < x.units) : ¬ (ofBinary64 x).Contains 0 := by
  intro inside
  have low := inside.bounds.1
  have step : 0 < 2 ^ x.scale := Nat.two_pow_pos _
  rw [Binary64.units_pos_iff] at positive
  have one_step : 2 ^ x.scale ≤ x.significand * 2 ^ x.scale := Nat.le_mul_of_pos_left _ positive
  rw [zero_mul, Nat.cast_nonpos, low_ofBinary64] at low
  split at low <;> omega

/-- An interval is wider than `10⁻¹⁶` of its middle. -/
theorem wide_ofBinary64 (positive : 0 < x.units) :
    (ofBinary64 x).middle + (ofBinary64 x).low * 10 ^ 16 < (ofBinary64 x).high * 10 ^ 16 := by
  have step : 0 < 2 ^ x.scale := Nat.two_pow_pos _
  rw [Binary64.units_pos_iff] at positive
  have one_step : 2 ^ x.scale ≤ x.significand * 2 ^ x.scale := Nat.le_mul_of_pos_left _ positive
  have bound : x.significand * 2 ^ x.scale ≤ 2 * 4503599627370496 * 2 ^ x.scale :=
    Nat.mul_le_mul_right _ (Binary64.significand_lt x).le
  rw [middle_ofBinary64, low_ofBinary64, high_ofBinary64]
  -- a step is more than `10⁻¹⁶` of the middle, since a significand is below `2⁵³`
  split
  · next least =>
    rw [least.1]
    simp only [fractions]
    omega
  · omega

theorem closed_ofBinary64 : (ofBinary64 x).closed = true ↔ x.significand % 2 = 0 := by
  simp [ofBinary64]

/-- Ends of numbers with one scale: half a step on either side of different significands. -/
theorem ends_of_scale_eq {s t step below : Nat} (order : s < t) (positive : 0 < step)
    (short : below ≤ 2 * step) :
    4 * (s * step) + 2 * step ≤ 4 * (t * step) - below ∧
      (s % 2 = 0 → t % 2 = 0 → 4 * (s * step) + 2 * step < 4 * (t * step) - below) := by
  constructor
  · have next : (s + 1) * step ≤ t * step := Nat.mul_le_mul_right step order
    rw [Nat.add_mul] at next
    omega
  · intro even even'
    have next : (s + 2) * step ≤ t * step := Nat.mul_le_mul_right step (by omega)
    rw [Nat.add_mul] at next
    omega

/-- Ends of numbers with different scales: the larger number is at least `2⁵²` of its steps, each
twice as long as those of the smaller, which is below `2⁵³` of them. -/
theorem ends_of_scale_lt {s t step longer below : Nat} (few : s < 2 * fractions)
    (full : fractions ≤ t) (positive : 0 < step) (twice : 2 * step ≤ longer)
    (short : below ≤ longer ∨ (fractions < t ∧ below ≤ 2 * longer)) :
    4 * (s * step) + 2 * step ≤ 4 * (t * longer) - below ∧
      (s % 2 = 0 → t % 2 = 0 → 4 * (s * step) + 2 * step < 4 * (t * longer) - below) := by
  simp only [fractions] at few full short
  have low : (4 * 4503599627370496 - 1) * longer ≤ 4 * (t * longer) - below := by
    rcases short with short | ⟨more, short⟩
    · have above : 4503599627370496 * longer ≤ t * longer := Nat.mul_le_mul_right longer full
      omega
    · have above : (4503599627370496 + 1) * longer ≤ t * longer := Nat.mul_le_mul_right longer more
      omega
  constructor
  · have next : (s + 1) * step ≤ 2 * 4503599627370496 * step := Nat.mul_le_mul_right step few
    rw [Nat.add_mul] at next
    omega
  · intro even _
    have next : (s + 2) * step ≤ 2 * 4503599627370496 * step :=
      Nat.mul_le_mul_right step (by omega)
    rw [Nat.add_mul] at next
    omega

/-- The interval of a larger magnitude lies above; they have an end in common only if one of them
is without its ends. -/
theorem high_le_low (less : x.units < y.units) :
    (ofBinary64 x).high ≤ (ofBinary64 y).low ∧
      ((ofBinary64 x).closed = true → (ofBinary64 y).closed = true →
        (ofBinary64 x).high < (ofBinary64 y).low) := by
  rw [high_ofBinary64, low_ofBinary64, closed_ofBinary64, closed_ofBinary64]
  have positive : 0 < 2 ^ x.scale := Nat.two_pow_pos _
  rcases Nat.lt_trichotomy x.scale y.scale with lower | equal | higher
  -- the larger number has full length; at the least such one the step below is half as long
  · have full := Binary64.le_significand y (by omega)
    apply ends_of_scale_lt (Binary64.significand_lt x) full positive
    · rw [Nat.mul_comm, ← Nat.pow_succ]
      exact Nat.pow_le_pow_right (by decide) lower
    · split
      · exact Or.inl (Nat.le_refl _)
      · next shorter =>
        refine Or.inr ⟨Nat.lt_of_le_of_ne full fun same => ?_, Nat.le_refl _⟩
        exact shorter ⟨same.symm, by omega⟩
  · rw [Binary64.units_eq, Binary64.units_eq, equal] at less
    rw [equal] at positive ⊢
    apply ends_of_scale_eq (Nat.lt_of_mul_lt_mul_right less) positive
    split <;> omega
  · exact absurd (Binary64.units_lt_of_scale_lt higher) (Nat.lt_asymm less)

theorem not_contains_both {q : ℚ} (less : x.units < y.units)
    (inside : (ofBinary64 x).Contains q) : ¬ (ofBinary64 y).Contains q := by
  intro inside'
  obtain ⟨apart, strictly⟩ := high_le_low less
  have below := inside.bounds.2
  have above := inside'.bounds.1
  have den : (ofBinary64 x).den = (ofBinary64 y).den := rfl
  rw [den] at below
  have meet : ((ofBinary64 x).high : ℚ) ≤ (ofBinary64 y).low := by exact_mod_cast apart
  -- the intervals can only meet at an end, and one of them is without its ends there
  cases closed : (ofBinary64 x).closed with
  | false =>
    simp only [Contains, closed, Bool.false_eq_true, if_false, den] at inside
    linarith [inside.2]
  | true =>
    cases closed' : (ofBinary64 y).closed with
    | false =>
      simp only [Contains, closed', Bool.false_eq_true, if_false] at inside'
      linarith [inside'.1]
    | true =>
      have gap : ((ofBinary64 x).high : ℚ) < (ofBinary64 y).low := by
        exact_mod_cast strictly closed closed'
      linarith

/-- A rational number rounds to one magnitude. -/
theorem units_eq_of_contains {q : ℚ} (inside : (ofBinary64 x).Contains q)
    (inside' : (ofBinary64 y).Contains q) : x.units = y.units := by
  rcases Nat.lt_trichotomy x.units y.units with less | equal | greater
  · exact absurd inside' (not_contains_both less inside)
  · exact equal
  · exact absurd inside (not_contains_both greater inside')

end

end Interval

end Decimal

end Flowgraph
