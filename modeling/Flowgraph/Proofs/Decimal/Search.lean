import Mathlib.Tactic.FieldSimp
import Mathlib.Tactic.NormNum
import Flowgraph.Proofs.Decimal.Rounding

/-!
# The search for a decimal

The search looks at the two neighbours of a number on finer and finer decimal grids. On a grid
finer than the interval is wide, one of the two lies in the interval; with seventeen digits that is
so for every number, because a significand is below `10¹⁶`.

Main result: `contains_ofBinary64`, the decimal that is found lies in the interval.
-/
namespace Flowgraph

namespace Decimal

section

variable {num den n : Nat} {power : Int}

/-- By what a quotient is expanded when it is counted on a grid. -/
def expansion (power : Int) : ℚ := if power < 0 then 10 ^ power.natAbs else 1

theorem expansion_pos : 0 < expansion power := by
  unfold expansion
  split <;> positivity

theorem onGrid_num : ((onGrid num den power).1 : ℚ) = num * expansion power := by
  unfold onGrid expansion
  split <;> simp

theorem onGrid_den : ((onGrid num den power).2 : ℚ) = den * 10 ^ power * expansion power := by
  unfold onGrid expansion
  split
  · next negative =>
    have size : power = -(power.natAbs : Int) := by omega
    have cancels : (10 : ℚ) ^ power * 10 ^ power.natAbs = 1 := by
      rw [← zpow_natCast, ← zpow_add₀ (by norm_num)]
      have zero : power + (power.natAbs : Int) = 0 := by omega
      rw [zero, zpow_zero]
    rw [mul_assoc, cancels, mul_one]
  · next nonneg =>
    have size : (power.natAbs : Int) = power := by omega
    have whole : (10 : ℚ) ^ power = 10 ^ power.natAbs := by rw [← zpow_natCast, size]
    rw [whole]
    simp

theorem cast_mul_onGrid_den : ((n * (onGrid num den power).2 : Nat) : ℚ) =
    n * 10 ^ power * den * expansion power := by
  rw [Nat.cast_mul, onGrid_den]
  ring

theorem onGrid_num_le_iff :
    (onGrid num den power).1 ≤ n * (onGrid num den power).2 ↔ (num : ℚ) ≤ n * 10 ^ power * den := by
  rw [← Nat.cast_le (α := ℚ), onGrid_num, cast_mul_onGrid_den,
    mul_le_mul_iff_of_pos_right expansion_pos]

theorem le_onGrid_num_iff :
    n * (onGrid num den power).2 ≤ (onGrid num den power).1 ↔ n * 10 ^ power * den ≤ (num : ℚ) := by
  rw [← Nat.cast_le (α := ℚ), onGrid_num, cast_mul_onGrid_den,
    mul_le_mul_iff_of_pos_right expansion_pos]

end

namespace Interval

variable {i : Interval} {power : Int} {digits n : Nat}

theorem holds_iff : i.holds power n = true ↔ i.Contains (n * 10 ^ power) := by
  have den : (onGrid i.high i.den power).2 = (onGrid i.low i.den power).2 := by
    unfold onGrid
    split <;> rfl
  unfold Contains holds
  cases i.closed <;>
    simp only [Bool.false_eq_true, if_true, if_false, Bool.and_eq_true, decide_eq_true_eq]
  · rw [← not_le, ← not_le, ← not_le, ← not_le, le_onGrid_num_iff, ← den, onGrid_num_le_iff]
  · rw [onGrid_num_le_iff, ← den, le_onGrid_num_iff]

/-- A multiple that is picked lies in the interval. -/
theorem contains_of_pick? (picked : i.pick? power = some digits) :
    i.Contains (digits * 10 ^ power) := by
  rw [← holds_iff]
  simp only [pick?] at picked
  split at picked
  · next both =>
    rw [Bool.and_eq_true] at both
    cases picked
    -- rounding to the nearest whole number gives one of the two neighbours
    simp only [Binary64.nearestNat]
    split
    · exact both.2
    · exact both.1
  · split at picked
    · next lower =>
      cases picked
      exact lower
    · split at picked
      · next upper =>
        cases picked
        exact upper
      · contradiction

/-- On a grid that is finer than the interval is wide, one of the two neighbours is picked. -/
theorem pick?_ne_none (positive : 0 < i.den) (above : i.low < i.middle) (below : i.middle < i.high)
    (fine : (10 : ℚ) ^ power * i.den < i.high - i.low) : i.pick? power ≠ none := by
  have den_pos : 0 < (onGrid i.middle i.den power).2 := by
    rw [← Nat.cast_pos (α := ℚ), onGrid_den]
    exact mul_pos (mul_pos (by exact_mod_cast positive) (zpow_pos (by norm_num) _)) expansion_pos
  set floor := (onGrid i.middle i.den power).1 / (onGrid i.middle i.den power).2 with floored
  have lower : (floor * 10 ^ power * i.den : ℚ) ≤ i.middle :=
    le_onGrid_num_iff.mp (Nat.div_mul_le_self _ _)
  have upper : (i.middle : ℚ) ≤ (floor + 1 : Nat) * 10 ^ power * i.den :=
    onGrid_num_le_iff.mp (Nat.le_of_lt (Nat.lt_mul_of_div_lt (Nat.lt_succ_self _) den_pos))
  have above : (i.low : ℚ) < i.middle := by exact_mod_cast above
  have below : (i.middle : ℚ) < i.high := by exact_mod_cast below
  -- the lower neighbour lies in the interval, or the upper one is less than its width away
  have hit : i.holds power floor = true ∨ i.holds power (floor + 1) = true := by
    rw [holds_iff, holds_iff]
    by_cases near : (i.low : ℚ) < floor * 10 ^ power * i.den
    · exact Or.inl (contains_of_lt near (by linarith))
    · right
      push_cast at upper ⊢
      exact contains_of_lt (by linarith) (by linarith)
  simp only [pick?, ← floored]
  cases lies : i.holds power floor <;> cases lies' : i.holds power (floor + 1) <;> simp_all

end Interval

theorem toRat_of_power {digits : Nat} {power : Int} :
    (⟨digits, (digitCount digits : Int) - 1 + power⟩ : Decimal).toRat = digits * 10 ^ power := by
  simp only [toRat]
  congr 2
  omega

/-- The search ends in the interval if one of its grids has a hit. -/
theorem contains_search {i : Interval} {leading : Int} {fuel count : Nat} (started : 0 < count)
    (ends : 0 < fuel) (hit : i.pick? (leading - (count + fuel - 2 : Nat)) ≠ none) :
    i.Contains (search i leading fuel count).toRat := by
  induction fuel generalizing count with
  | zero => contradiction
  | succ fuel ih =>
    unfold search
    simp only
    split
    · next digits picked =>
      rw [toRat_of_power]
      exact Interval.contains_of_pick? picked
    · next missed =>
      cases fuel with
      | zero => exact absurd missed hit
      | succ fuel =>
        -- the last grid stays the same while the count goes up and the fuel goes down
        apply ih (by omega) (by omega)
        have same : count + 1 + (fuel + 1) - 2 = count + (fuel + 1 + 1) - 2 := by omega
        rwa [same]

theorem pow_digitCount_sub_one_le {n : Nat} (positive : 0 < n) : 10 ^ (digitCount n - 1) ≤ n := by
  unfold digitCount
  cases shorter : (Nat.toDigits 10 n).length - 1 with
  | zero => exact positive
  | succ k =>
    by_contra less
    have few := (Nat.length_toDigits_le_iff (b := 10) (by decide) (Nat.succ_pos k)).mpr
      (Nat.lt_of_not_le less)
    omega

theorem lt_pow_digitCount (n : Nat) : n < 10 ^ digitCount n :=
  (Nat.length_toDigits_le_iff (by decide) Nat.length_toDigits_pos).mp (Nat.le_refl _)

/-- The leading power of ten is not above the quotient. -/
theorem pow_leadingExponent_le {num den : Nat} (positive : 0 < num) (divisible : 0 < den) :
    (10 : ℚ) ^ leadingExponent num den * den ≤ num := by
  unfold leadingExponent
  split
  · next le =>
    have floor : 0 < num / den := Nat.div_pos le divisible
    have digits : 0 < digitCount (num / den) := Nat.length_toDigits_pos
    have whole :
        ((digitCount (num / den) : Int) - 1) = ((digitCount (num / den) - 1 : Nat) : Int) := by
      omega
    rw [whole, zpow_natCast]
    have bound : 10 ^ (digitCount (num / den) - 1) * den ≤ num :=
      (Nat.mul_le_mul_right den (pow_digitCount_sub_one_le floor)).trans
        (Nat.div_mul_le_self num den)
    exact_mod_cast bound
  · next less =>
    have bound : den ≤ num * 10 ^ digitCount ((den - 1) / num) := by
      have ceiling := (Nat.div_lt_iff_lt_mul positive).mp (lt_pow_digitCount ((den - 1) / num))
      rw [Nat.mul_comm] at ceiling
      omega
    rw [zpow_neg, zpow_natCast, inv_mul_le_iff₀ (by positivity), mul_comm]
    exact_mod_cast bound

/-- Seventeen digits are enough for an interval that is wider than `10⁻¹⁶` of its middle. -/
theorem contains_search_of_wide {i : Interval} (positive : 0 < i.den) (above : i.low < i.middle)
    (below : i.middle < i.high) (wide : i.middle + i.low * 10 ^ 16 < i.high * 10 ^ 16) :
    i.Contains (search i (leadingExponent i.middle i.den) 17 1).toRat := by
  apply contains_search (by decide) (by decide)
  apply Interval.pick?_ne_none positive above below
  -- the last grid has sixteen places behind the leading one
  have leading : (10 : ℚ) ^ leadingExponent i.middle i.den * i.den ≤ i.middle :=
    pow_leadingExponent_le (by omega) positive
  have shifted : (10 : ℚ) ^ (leadingExponent i.middle i.den - (1 + 17 - 2 : Nat)) * 10 ^ 16 =
      10 ^ leadingExponent i.middle i.den := by
    rw [← zpow_natCast, ← zpow_add₀ (by norm_num)]
    congr 1
    omega
  have wide : (i.middle + i.low * 10 ^ 16 : ℚ) < i.high * 10 ^ 16 := by exact_mod_cast wide
  rw [← shifted] at leading
  linarith

/-- The shortest decimal of a number other than zero lies in its interval. -/
theorem contains_ofBinary64 {x : Binary64} (nonzero : x.isZero = false) :
    (Interval.ofBinary64 x).Contains (ofBinary64 x).toRat := by
  have positive := Binary64.units_pos nonzero
  have den : 0 < (Interval.ofBinary64 x).den := by
    simp [Interval.ofBinary64, Binary64.unitsInOne]
  exact contains_search_of_wide den (Interval.low_lt_middle positive) Interval.middle_lt_high
    (Interval.wide_ofBinary64 positive)

end Decimal

end Flowgraph
