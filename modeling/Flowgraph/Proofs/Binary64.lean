import Flowgraph.Proofs.Decimal.Rounding

/-!
# Exact quotients

Rounding keeps what needs none. The significand and the scale of a number are what rounding
computes from its magnitude, and they make up the word that lists the number among all others.

Main result: `nearest?_of_units_eq`.
-/
namespace Flowgraph

namespace Binary64

variable {negative : Bool}

theorem log2_mul_two_pow {n k : Nat} (positive : 0 < n) : (n * 2 ^ k).log2 = n.log2 + k := by
  induction k with
  | zero => rw [Nat.pow_zero, Nat.mul_one, Nat.add_zero]
  | succ k ih =>
    have more : 0 < n * 2 ^ k := Nat.mul_pos positive (Nat.two_pow_pos k)
    rw [Nat.pow_succ, ← Nat.mul_assoc, Nat.mul_comm _ 2, Nat.log2_two_mul more.ne', ih,
      Nat.add_assoc]

theorem nearestNat_mul {den : Nat} (positive : 0 < den) (n : Nat) :
    nearestNat (n * den) den = n := by
  have floor : n * den / den = n := Nat.mul_div_cancel n positive
  have whole : n * den % den = 0 := Nat.mul_mod_left n den
  simp only [nearestNat, floor, whole]
  exact if_neg (by omega)

/-- Exactly the significand of full length is scaled. -/
theorem surplus_units (x : Binary64) : surplus x.units = x.scale := by
  have few := significand_lt x
  rw [units_eq, surplus]
  rcases Nat.eq_zero_or_pos x.scale with unscaled | scaled
  · rw [unscaled, Nat.pow_zero, Nat.mul_one, if_pos few]
  · have full := le_significand x scaled
    have twice : 2 ≤ 2 ^ x.scale := Nat.le_self_pow scaled.ne' 2
    have many : 2 * fractions ≤ x.significand * 2 ^ x.scale := by
      rw [Nat.mul_comm 2]
      exact Nat.mul_le_mul full twice
    have digits : x.significand.log2 = 52 := (Nat.log2_eq_iff (by omega)).mpr ⟨full, few⟩
    rw [if_neg (by omega), log2_mul_two_pow (by omega), digits, Nat.add_sub_cancel_left]

theorem ofCode?_of_parts (x : Binary64) :
    ofCode? negative (x.scale * fractions + x.significand) =
      some { x with negative := negative } := by
  obtain ⟨sign, exponent, fraction⟩ := x
  have low := fraction.isLt
  have high := exponent.isLt
  have word : (exponent.val - 1) * fractions +
      (if exponent.val = 0 then fraction.val else fractions + fraction.val) =
      fractions * exponent.val + fraction.val := by
    split <;> simp only [fractions] at * <;> omega
  have bound : fractions * exponent.val + fraction.val < 2047 * fractions := by
    simp only [fractions] at *
    omega
  have field : (fractions * exponent.val + fraction.val) / fractions = exponent.val := by
    rw [Nat.mul_add_div (by decide), Nat.div_eq_of_lt low, Nat.add_zero]
  have rest : (fractions * exponent.val + fraction.val) % fractions = fraction.val := by
    rw [Nat.mul_add_mod, Nat.mod_eq_of_lt low]
  simp only [scale, significand, word]
  rw [ofCode?, dif_pos bound]
  simp only [field, rest]

/-- A quotient that is the magnitude of a number rounds to that number. -/
theorem nearest?_of_units_eq {x : Binary64} {num den : Nat} (positive : 0 < den)
    (same : num * unitsInOne = x.units * den) :
    nearest? negative num den = some { x with negative := negative } := by
  have step : 0 < den * 2 ^ x.scale := Nat.mul_pos positive (Nat.two_pow_pos _)
  have spread : x.units * den = x.significand * (den * 2 ^ x.scale) := by
    rw [units_eq, Nat.mul_assoc, Nat.mul_comm den]
  simp only [nearest?, same, Nat.mul_div_cancel _ positive, surplus_units, Nat.shiftLeft_eq]
  rw [spread, nearestNat_mul step, ofCode?_of_parts]

/-- A number of halves below 2⁵³ is the magnitude of a number. -/
theorem exists_units_eq_half {n : Nat} (small : n < 2 * fractions) :
    ∃ x : Binary64, n * unitsInOne = x.units * 2 := by
  rcases Nat.eq_zero_or_pos n with rfl | positive
  · exact ⟨zero, by rw [Nat.zero_mul]; rfl⟩
  · -- the digits are moved up until the significand has full length
    have short : n.log2 ≤ 52 := by
      have bound : n.log2 < 53 := (Nat.log2_lt positive.ne').mpr small
      omega
    have least := Nat.log2_self_le positive.ne'
    have greatest := @Nat.lt_log2_self n
    have digits : fractions ≤ n * 2 ^ (52 - n.log2) := by
      have power : fractions = 2 ^ n.log2 * 2 ^ (52 - n.log2) := by
        rw [← Nat.pow_add, Nat.add_sub_cancel' short]
      rw [power]
      exact Nat.mul_le_mul_right _ least
    have few : n * 2 ^ (52 - n.log2) < 2 * fractions := by
      have power : 2 * fractions = 2 ^ (n.log2 + 1) * 2 ^ (52 - n.log2) := by
        rw [← Nat.pow_add, show n.log2 + 1 + (52 - n.log2) = 53 by omega]
        rfl
      rw [power]
      exact Nat.mul_lt_mul_of_pos_right greatest (Nat.two_pow_pos _)
    refine ⟨⟨false, ⟨n.log2 + 1022, by omega⟩, ⟨n * 2 ^ (52 - n.log2) - fractions, by omega⟩⟩, ?_⟩
    have whole : fractions + (n * 2 ^ (52 - n.log2) - fractions) = n * 2 ^ (52 - n.log2) :=
      Nat.add_sub_cancel' digits
    have places : 1074 = 52 - n.log2 + (n.log2 + 1022 - 1) + 1 := by omega
    rw [units_eq, significand, scale]
    dsimp only
    rw [if_neg (Nat.succ_ne_zero _), whole, unitsInOne, Nat.one_shiftLeft, places, Nat.pow_succ,
      Nat.pow_add, Nat.mul_assoc, Nat.mul_assoc, Nat.mul_assoc]

end Binary64

end Flowgraph
