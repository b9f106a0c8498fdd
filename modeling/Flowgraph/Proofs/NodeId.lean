import Flowgraph.NodeId
import Flowgraph.Proofs.Ascending

/-!
# The order of node ids is linear

An id is ordered by three things in turn: whether it is a small numeral, the number that it then
stands for, and its characters. Ids of one number are told apart by the third, so only an id
itself compares equal to it.

Main result: `NodeId.compare` is a lawful comparison, so ascending lists of ids depend on their
members alone.
-/
namespace Flowgraph.NodeId

/-- Where an id stands among numerals and other ids: numerals come first. -/
def rank (id : String) : Nat :=
  match Key.ofId id with
  | .number _ _ => 0
  | .text _ => 1

/-- The number that an id is ordered by. -/
def value (id : String) : Nat :=
  match Key.ofId id with
  | .number value _ => value
  | .text _ => 0

theorem ofId_cases (id : String) : (∃ n, Key.ofId id = .number n id) ∨ Key.ofId id = .text id := by
  unfold Key.ofId
  split
  · split
    · exact Or.inl ⟨_, rfl⟩
    · exact Or.inr rfl
  · exact Or.inr rfl

theorem compare_eq_compareLex :
    compare = compareLex (compareOn rank) (compareLex (compareOn value) compareNames) := by
  funext a b
  simp only [compare, compareLex, compareOn, rank, value]
  rcases ofId_cases a with ⟨m, first⟩ | first <;> rcases ofId_cases b with ⟨n, second⟩ | second
  · rw [first, second]
    rcases Nat.lt_trichotomy m n with below | rfl | above
    · simp [Key.compare, below, Nat.compare_eq_lt.mpr below]
    · simp [Key.compare]
    · simp [Key.compare, above, Nat.lt_asymm above, Nat.compare_eq_gt.mpr above]
  · rw [first, second]; rfl
  · rw [first, second]; rfl
  · rw [first, second]; rfl

instance : Std.TransCmp compare := by
  rw [compare_eq_compareLex]
  infer_instance

theorem eq_of_compare_eq {a b : String} (equal : compare a b = .eq) : a = b := by
  rw [compare_eq_compareLex, compareLex_eq_eq, compareLex_eq_eq] at equal
  exact eq_of_compareNames_eq equal.2.2

instance : Std.LawfulEqCmp compare where
  eq_of_compare := eq_of_compare_eq

theorem mem_ascending {id : String} {ids : List String} : id ∈ ascending ids ↔ id ∈ ids :=
  Ascending.mem_ofList_iff

end Flowgraph.NodeId
