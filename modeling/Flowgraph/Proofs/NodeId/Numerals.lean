import Flowgraph.Proofs.Ascending.Bytes
import Flowgraph.Proofs.NodeId

/-!
# Numerals among the node ids

Numerals below 2⁶⁴ come first and by their numbers. A larger numeral is ordered like an id that is
no numeral, by its bytes: it can come before a numeral of a lesser number, and after an id that is
no numeral.

Main result: `compare_ranked`, and `largeNumerals_misranked` for the numerals from 2⁶⁴ on.
-/
namespace Flowgraph.NodeId

/-- An id of decimal digits, at least one. -/
def IsNumeral (id : String) : Prop := id.toList ≠ [] ∧ ∀ c ∈ id.toList, c.isDigit = true

instance (id : String) : Decidable (IsNumeral id) :=
  decidable_of_iff (id.toList.isEmpty = false ∧ id.toList.all Char.isDigit = true)
    (by simp only [IsNumeral, List.isEmpty_eq_false_iff, ne_eq, List.all_eq_true])

/-- The number that decimal digits stand for. -/
def numberOf (id : String) : Nat := Nat.ofDigitChars 10 id.toList 0

/-- The order in which some ids come first and by their numbers, those of one number by their bytes,
and all others by their bytes. -/
def ranked (isNumber : String → Prop) [DecidablePred isNumber] (a b : String) : Ordering :=
  if isNumber a then
    if isNumber b then (Ord.compare (numberOf a) (numberOf b)).then (compareBytes a b) else .lt
  else if isNumber b then .gt else compareBytes a b

/-- A numeral that fits a word of 64 bits. -/
def IsSmall (id : String) : Prop := IsNumeral id ∧ numberOf id < UInt64.size

instance (id : String) : Decidable (IsSmall id) := inferInstanceAs (Decidable (_ ∧ _))

variable {a b : String}

theorem digitsValue_eq (digits : List Char) :
    Text.digitsValue digits = Nat.ofDigitChars 10 digits 0 := by
  simp only [Text.digitsValue, Nat.ofDigitChars_eq_foldl, Nat.mul_comm]

theorem numeral?_toList (id : String) :
    Text.numeral? id.toList = if IsNumeral id then some (numberOf id) else none := by
  have digits : (!id.toList.isEmpty && id.toList.all Text.isDigit) = decide (IsNumeral id) := by
    rw [Bool.eq_iff_iff, decide_eq_true_iff]
    simp only [Bool.and_eq_true, Bool.not_eq_true', List.isEmpty_eq_false_iff, List.all_eq_true]
    rfl
  simp only [Text.numeral?, digits, decide_eq_true_eq, numberOf, digitsValue_eq]

theorem ofId_of_small {id : String} (small : IsSmall id) :
    Key.ofId id = .number (numberOf id) id := by
  simp only [Key.ofId, numeral?_toList, small.1, if_true, small.2]

theorem ofId_of_not_small {id : String} (other : ¬ IsSmall id) : Key.ofId id = .text id := by
  rw [Key.ofId, numeral?_toList]
  by_cases numeral : IsNumeral id
  · have above : ¬ numberOf id < UInt64.size := fun below => other ⟨numeral, below⟩
    simp only [numeral, if_true, above, if_false]
  · simp only [numeral, if_false]

theorem compare_eq_ranked_isSmall (a b : String) : compare a b = ranked IsSmall a b := by
  rw [compare, ranked]
  by_cases small : IsSmall a <;> by_cases small' : IsSmall b
  · rw [if_pos small, if_pos small', ofId_of_small small, ofId_of_small small', Key.compare,
      compareNames_eq_compareBytes]
    rcases Nat.lt_trichotomy (numberOf a) (numberOf b) with below | same | above
    · rw [if_pos below, Nat.compare_eq_lt.mpr below, Ordering.lt_then]
    · rw [same, if_neg (Nat.lt_irrefl _), if_neg (Nat.lt_irrefl _), Nat.compare_eq_eq.mpr rfl,
        Ordering.eq_then]
    · rw [if_neg (Nat.lt_asymm above), if_pos above, Nat.compare_eq_gt.mpr above, Ordering.gt_then]
  · rw [if_pos small, if_neg small', ofId_of_small small, ofId_of_not_small small', Key.compare]
  · rw [if_neg small, if_pos small', ofId_of_not_small small, ofId_of_small small', Key.compare]
  · rw [if_neg small, if_neg small', ofId_of_not_small small, ofId_of_not_small small', Key.compare,
      compareNames_eq_compareBytes]

theorem ranked_of_isSmall_left (small : IsSmall a) : ranked IsSmall a b = ranked IsNumeral a b := by
  simp only [ranked, if_pos small, if_pos small.1]
  by_cases numeral : IsNumeral b
  · by_cases small' : IsSmall b
    · rw [if_pos small', if_pos numeral]
    · -- a small numeral is less than one that is not
      have above : UInt64.size ≤ numberOf b := Nat.le_of_not_lt fun below => small' ⟨numeral, below⟩
      rw [if_neg small', if_pos numeral, Nat.compare_eq_lt.mpr (small.2.trans_le above),
        Ordering.lt_then]
  · rw [if_neg numeral, if_neg fun small' : IsSmall b => numeral small'.1]

theorem ranked_eq_swap (isNumber : String → Prop) [DecidablePred isNumber] (a b : String) :
    ranked isNumber a b = (ranked isNumber b a).swap := by
  have bytes : compareBytes a b = (compareBytes b a).swap := Std.OrientedOrd.eq_swap
  have numbers : Ord.compare (numberOf a) (numberOf b) =
      (Ord.compare (numberOf b) (numberOf a)).swap := Std.OrientedOrd.eq_swap
  unfold ranked
  by_cases first : isNumber a <;> by_cases second : isNumber b
  · rw [if_pos first, if_pos second, if_pos first, if_pos second, Ordering.swap_then, numbers,
      bytes]
  · rw [if_pos first, if_neg second, if_neg second, if_pos first, Ordering.swap_gt]
  · rw [if_neg first, if_pos second, if_pos second, if_neg first, Ordering.swap_lt]
  · rw [if_neg first, if_neg second, if_neg second, if_neg first, bytes]

theorem ranked_of_isSmall_right (small : IsSmall b) :
    ranked IsSmall a b = ranked IsNumeral a b := by
  rw [ranked_eq_swap, ranked_of_isSmall_left small, ← ranked_eq_swap]

/-- Just the numerals below 2⁶⁴ are ranked as numbers. So all numerals are if one of the two ids is
such a numeral, and otherwise only where the bytes happen to say the same. -/
theorem compare_ranked (a b : String) :
    compare a b = ranked IsSmall a b ∧
    (compare a b = ranked IsNumeral a b ↔
      IsSmall a ∨ IsSmall b ∨ compareBytes a b = ranked IsNumeral a b) := by
  rw [compare_eq_ranked_isSmall]
  refine ⟨rfl, ?_⟩
  by_cases small : IsSmall a
  · simp only [ranked_of_isSmall_left small, small, true_or]
  by_cases small' : IsSmall b
  · simp only [ranked_of_isSmall_right small', small', true_or, or_true]
  have bytes : ranked IsSmall a b = compareBytes a b := by
    rw [ranked, if_neg small, if_neg small']
  simp only [bytes, small, small', false_or]

theorem largeNumerals_misranked :
    compare "20000000000000000000" "100000000000000000000" = .gt ∧
    ranked IsNumeral "20000000000000000000" "100000000000000000000" = .lt ∧
    compare "100000000000000000000" "-" = .gt ∧
    ranked IsNumeral "100000000000000000000" "-" = .lt := by
  decide

end Flowgraph.NodeId
