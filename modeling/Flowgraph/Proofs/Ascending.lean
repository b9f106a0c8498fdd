import Mathlib.Data.List.Sort
import Flowgraph.Ascending

/-!
# Sets as ascending lists

Under a comparison that is a linear order, the ascending list of a set depends on the set alone:
neither the order in which elements are put in nor how often they are put in matters.

Main result: `ofList_eq_of_mem_iff`, and `Sorted.le_of_mem` for the least element of a set.
-/
namespace Flowgraph

namespace Ascending

variable {α : Type} {compare : α → α → Ordering}

/-- A list that ascends strictly. -/
def Sorted (compare : α → α → Ordering) (l : List α) : Prop :=
  l.Pairwise fun a b => compare a b = .lt

theorem isLE_or_isLE [Std.OrientedCmp compare] (a b : α) :
    (compare a b).isLE = true ∨ (compare b a).isLE = true := by
  have swapped : compare b a = (compare a b).swap := Std.OrientedCmp.eq_swap
  rw [swapped]
  cases compare a b <;> decide

/-- What is sorted by its keys ascends by them. -/
theorem pairwise_mergeSort [Std.TransCmp compare] {β : Type} (key : β → α) (l : List β) :
    (l.mergeSort fun a b => compare (key a) (key b) != .gt).Pairwise
      fun a b => (compare (key a) (key b)).isLE = true := by
  have test (a b : α) : (compare a b != .gt) = (compare a b).isLE := by
    cases compare a b <;> rfl
  simp only [test]
  refine List.pairwise_mergeSort (fun _ _ _ => Std.TransCmp.isLE_trans) ?_ l
  intro a b
  rw [Bool.or_eq_true]
  exact isLE_or_isLE (key a) (key b)

section

variable [Std.LawfulEqCmp compare]

theorem not_lt_self (a : α) : compare a a ≠ .lt := by
  simp [Std.ReflCmp.compare_self]

theorem Sorted.nodup {l : List α} (sorted : Sorted compare l) : l.Nodup := by
  refine List.Pairwise.imp ?_ sorted
  rintro a b below rfl
  exact not_lt_self a below

/-- Where no element comes again, to ascend strictly is to ascend. -/
theorem sorted_iff {l : List α} :
    Sorted compare l ↔ l.Nodup ∧ l.Pairwise fun a b => (compare a b).isLE = true := by
  constructor
  · intro sorted
    exact ⟨sorted.nodup, List.Pairwise.imp (fun below => by rw [below]; rfl) sorted⟩
  · rintro ⟨distinct, ascends⟩
    refine List.Pairwise.imp₂ ?_ distinct ascends
    intro a b different below
    have apart : compare a b ≠ .eq := fun equal => different (Std.LawfulEqCmp.eq_of_compare equal)
    cases compared : compare a b <;> simp_all

/-- The first element is the least. -/
theorem Sorted.le_of_mem {first : α} {rest : List α} (sorted : Sorted compare (first :: rest))
    {z : α} (member : z ∈ first :: rest) : (compare first z).isLE := by
  rcases List.mem_cons.mp member with rfl | later
  · simp [Std.ReflCmp.compare_self]
  · simp [List.rel_of_pairwise_cons sorted later]

theorem mem_insert_iff {x z : α} {l : List α} : z ∈ insert compare x l ↔ z = x ∨ z ∈ l :=
  mem_insert (fun _ _ => Std.LawfulEqCmp.eq_of_compare) x z l

theorem mem_ofList_iff {z : α} {l : List α} : z ∈ ofList compare l ↔ z ∈ l :=
  mem_ofList (fun _ _ => Std.LawfulEqCmp.eq_of_compare) z l

variable [Std.TransCmp compare]

/-- The element that comes before all others is the first. -/
theorem Sorted.head?_eq_some_iff {l : List α} (sorted : Sorted compare l) {x : α} :
    l.head? = some x ↔ x ∈ l ∧ ∀ y ∈ l, (compare x y).isLE := by
  constructor
  · intro first
    obtain ⟨rest, rfl⟩ := List.head?_eq_some_iff.mp first
    exact ⟨List.mem_cons_self, fun _ => sorted.le_of_mem⟩
  · rintro ⟨member, least⟩
    obtain ⟨first, rest, rfl⟩ := List.exists_cons_of_ne_nil (List.ne_nil_of_mem member)
    -- neither of the two comes after the other
    have below := least first List.mem_cons_self
    have above := sorted.le_of_mem member
    exact congrArg some
      (Std.LawfulEqCmp.eq_of_compare (Std.OrientedCmp.isLE_antisymm above below))

/-- Two ascending lists with the same elements are equal. -/
theorem Sorted.eq_of_mem_iff {left right : List α} (first : Sorted compare left)
    (second : Sorted compare right) (same : ∀ z, z ∈ left ↔ z ∈ right) : left = right := by
  have perm : left.Perm right := (List.perm_ext_iff_of_nodup first.nodup second.nodup).mpr same
  refine perm.eq_of_pairwise ?_ first second
  intro a b _ _ below above
  exact absurd above (Std.OrientedCmp.not_lt_of_lt below)

theorem Sorted.insert {l : List α} (sorted : Sorted compare l) (x : α) :
    Sorted compare (insert compare x l) := by
  induction l with
  | nil => exact List.pairwise_singleton _ _
  | cons y rest ih =>
    obtain ⟨above, tail⟩ := List.pairwise_cons.mp sorted
    simp only [Ascending.insert]
    split
    · next below =>
      refine List.pairwise_cons.mpr ⟨?_, sorted⟩
      intro z member
      rcases List.mem_cons.mp member with rfl | later
      · exact below
      · exact Std.TransCmp.lt_trans below (above z later)
    · exact sorted
    · next greater =>
      refine List.pairwise_cons.mpr ⟨?_, ih tail⟩
      intro z member
      rcases mem_insert_iff.mp member with rfl | later
      · exact Std.OrientedCmp.lt_of_gt greater
      · exact above z later

theorem sorted_ofList (l : List α) : Sorted compare (ofList compare l) := by
  induction l with
  | nil => exact List.Pairwise.nil
  | cons x rest ih => exact ih.insert x

/-- The ascending list of a set depends on the set alone. -/
theorem ofList_eq_of_mem_iff {left right : List α} (same : ∀ z, z ∈ left ↔ z ∈ right) :
    ofList compare left = ofList compare right := by
  apply (sorted_ofList left).eq_of_mem_iff (sorted_ofList right)
  intro z
  rw [mem_ofList_iff, mem_ofList_iff, same]

end

end Ascending

instance : Std.TransCmp compareNames :=
  inferInstanceAs (Std.TransCmp (compare : String → String → Ordering))

instance : Std.LawfulEqCmp compareNames :=
  inferInstanceAs (Std.LawfulEqCmp (compare : String → String → Ordering))

theorem nameSet_eq_of_mem_iff {names others : List String}
    (same : ∀ name, name ∈ names ↔ name ∈ others) : nameSet names = nameSet others :=
  Ascending.ofList_eq_of_mem_iff same

theorem nodup_nameSet (names : List String) : (nameSet names).Nodup := by
  have sorted : Ascending.Sorted compareNames (nameSet names) := Ascending.sorted_ofList names
  exact sorted.nodup

end Flowgraph
