import Flowgraph.Proofs.NodeId

/-!
# Sorting ids

The order of ids is linear: of two ids one comes before the other, unless they are the same. So ids
without repeats can be arranged in one ascending way only, and sorting finds it in whatever order
they come.

Main result: `compare_linear`.
-/
namespace Flowgraph.NodeId

open Ascending (Sorted)

variable {ids others : List String}

theorem perm_sort (ids : List String) : (sort ids).Perm ids := List.mergeSort_perm ids _

theorem pairwise_sort (ids : List String) :
    (sort ids).Pairwise fun a b => (compare a b).isLE = true :=
  Ascending.pairwise_mergeSort id ids

theorem sorted_sort (distinct : ids.Nodup) : Sorted compare (sort ids) :=
  Ascending.sorted_iff.mpr ⟨(perm_sort ids).nodup_iff.mpr distinct, pairwise_sort ids⟩

/-- Ids without repeats have one ascending arrangement. -/
theorem eq_sort_iff (distinct : ids.Nodup) : others = sort ids ↔
    others.Perm ids ∧ others.Pairwise fun a b => (compare a b).isLE = true := by
  constructor
  · rintro rfl
    exact ⟨perm_sort ids, pairwise_sort ids⟩
  · rintro ⟨perm, ascends⟩
    have sorted : Sorted compare others :=
      Ascending.sorted_iff.mpr ⟨perm.nodup_iff.mpr distinct, ascends⟩
    exact sorted.eq_of_mem_iff (sorted_sort distinct) fun id =>
      perm.mem_iff.trans (perm_sort ids).mem_iff.symm

/-- The comparison of ids is a linear order: of two ids one is at most the other, the comparison
turns round when they are swapped, being at most is transitive, and only an id itself compares
equal to it. So ids without repeats are sorted into a strictly ascending list, the only one of these
ids that ascends, in whatever order they come; and as an ascending set they are listed alike. -/
theorem compare_linear :
    (∀ a b, (compare a b).isLE = true ∨ (compare b a).isLE = true) ∧
    (∀ a b, compare b a = (compare a b).swap) ∧
    (∀ a b c, (compare a b).isLE = true → (compare b c).isLE = true →
      (compare a c).isLE = true) ∧
    (∀ a b, compare a b = .eq ↔ a = b) ∧
    ∀ ids, ids.Nodup →
      Sorted compare (sort ids) ∧
      (∀ others, others = sort ids ↔
        others.Perm ids ∧ others.Pairwise fun a b => (compare a b).isLE = true) ∧
      (∀ others, others.Perm ids → sort others = sort ids) ∧
      ascending ids = sort ids := by
  refine ⟨Ascending.isLE_or_isLE, fun _ _ => Std.OrientedCmp.eq_swap,
    fun _ _ _ => Std.TransCmp.isLE_trans, fun _ _ => Std.LawfulEqCmp.compare_eq_iff_eq, ?_⟩
  intro ids distinct
  refine ⟨sorted_sort distinct, fun _ => eq_sort_iff distinct, ?_, ?_⟩
  · intro others perm
    exact (eq_sort_iff distinct).mpr ⟨(perm_sort others).trans perm, pairwise_sort others⟩
  · have ascends : Sorted compare (ascending ids) := Ascending.sorted_ofList ids
    exact ascends.eq_of_mem_iff (sorted_sort distinct) fun id =>
      mem_ascending.trans (perm_sort ids).mem_iff.symm

/-- Two spellings of one number, a numeral from 2⁶⁴ on, signed numbers and the empty id. -/
theorem compare_linear_spellings :
    sort ["2", "", "10", "-1", "18446744073709551616", "02", "+1"] =
      ["02", "2", "10", "", "+1", "-1", "18446744073709551616"] := by
  obtain ⟨-, -, -, -, sorting⟩ := compare_linear
  obtain ⟨-, arranged, -⟩ :=
    sorting ["2", "", "10", "-1", "18446744073709551616", "02", "+1"] (by decide)
  exact ((arranged _).mpr ⟨by decide, by decide⟩).symm

end Flowgraph.NodeId
