import Mathlib.Data.List.Forall2
import Flowgraph.Fingerprint

/-!
# Entries in the order of their names

Sorting entries by name keeps the values of each name in their order, and these values determine
the sorted entries. So two sorted lists are related entry by entry exactly if the values of every
name are.

Main result: `forall₂_sorted_iff`.
-/
namespace Flowgraph

/-- The values of a name, in the order of the entries. -/
def Entries.under {α : Type} (name : String) (entries : List (String × α)) : List α :=
  (entries.filter fun entry => entry.1 = name).map Prod.snd

namespace Content

open Entries (under)
open List (Forall₂)

variable {α β : Type} {R : α → β → Prop}

/-- Two entries have one name and related values. -/
def SameName (R : α → β → Prop) (entry : String × α) (other : String × β) : Prop :=
  entry.1 = other.1 ∧ R entry.2 other.2

/-- The names of entries ascend, repetitions allowed. -/
abbrev Ascends (entries : List (String × α)) : Prop := entries.Pairwise fun a b => a.1 ≤ b.1

theorem names_trans (a b c : String × α) (below : decide (a.1 ≤ b.1) = true)
    (above : decide (b.1 ≤ c.1) = true) : decide (a.1 ≤ c.1) = true := by
  rw [decide_eq_true_eq] at below above ⊢
  exact Std.le_trans below above

theorem names_total (a b : String × α) : (decide (a.1 ≤ b.1) || decide (b.1 ≤ a.1)) = true := by
  rw [Bool.or_eq_true, decide_eq_true_eq, decide_eq_true_eq]
  exact Std.le_total

theorem ascends_sorted (entries : List (String × α)) : Ascends (sorted entries) :=
  (List.pairwise_mergeSort names_trans names_total entries).imp of_decide_eq_true

theorem perm_sorted (entries : List (String × α)) : (sorted entries).Perm entries :=
  List.mergeSort_perm _ _

theorem under_sorted (name : String) (entries : List (String × α)) :
    under name (sorted entries) = under name entries := by
  -- the entries of one name are a sorted sublist, which sorting keeps
  have kept : (entries.filter fun entry => entry.1 = name).Sublist (sorted entries) := by
    apply List.sublist_mergeSort names_trans names_total
    · apply List.Pairwise.imp_of_mem (R := fun _ _ => True)
      · intro a b left right _
        have first : a.1 = name := by simpa using (List.mem_filter.mp left).2
        have second : b.1 = name := by simpa using (List.mem_filter.mp right).2
        simp [first, second]
      · exact List.pairwise_of_forall fun _ _ => trivial
    · exact List.filter_sublist
  have same : (sorted entries).filter (fun entry => entry.1 = name) =
      entries.filter fun entry => entry.1 = name := by
    -- both lists are as long, since sorting is a permutation
    have within := kept.filter fun entry => entry.1 = name
    rw [List.filter_filter] at within
    simp only [Bool.and_self] at within
    exact (within.eq_of_length ((perm_sorted entries).filter _).length_eq.symm).symm
  rw [under, same, under]

theorem sorted_map (f : α → β) (entries : List (String × α)) :
    sorted (entries.map fun entry => (entry.1, f entry.2)) =
      (sorted entries).map fun entry => (entry.1, f entry.2) := by
  refine (List.map_mergeSort (f := fun entry : String × α => (entry.1, f entry.2)) ?_).symm
  intro a _ b _
  rfl

theorem under_cons_self {name : String} {value : α} {rest : List (String × α)} :
    under name ((name, value) :: rest) = value :: under name rest := by
  simp [under]

theorem under_cons_ne {name other : String} {value : α} {rest : List (String × α)}
    (different : other ≠ name) : under name ((other, value) :: rest) = under name rest := by
  simp [under, different]

theorem under_eq_nil_iff {name : String} {entries : List (String × α)} :
    under name entries = [] ↔ ¬ ∃ entry ∈ entries, entry.1 = name := by
  rw [under, List.map_eq_nil_iff, List.filter_eq_nil_iff]
  simp only [decide_eq_true_eq, not_exists, not_and]

/-- Where the values of a name are related, both or neither have the name. -/
theorem has_name_iff {name : String} {entries : List (String × α)} {others : List (String × β)}
    (values : Forall₂ R (under name entries) (under name others)) :
    (∃ entry ∈ entries, entry.1 = name) ↔ ∃ entry ∈ others, entry.1 = name := by
  rw [← not_iff_not, ← under_eq_nil_iff, ← under_eq_nil_iff]
  constructor
  · intro absent
    rw [absent] at values
    exact List.forall₂_nil_left_iff.mp values
  · intro absent
    rw [absent] at values
    exact List.forall₂_nil_right_iff.mp values

theorem under_of_sameName {entries : List (String × α)} {others : List (String × β)}
    (related : Forall₂ (SameName R) entries others) (name : String) :
    Forall₂ R (under name entries) (under name others) := by
  induction related with
  | nil => exact .nil
  | @cons entry other rest rest' same _ ih =>
    obtain ⟨own, value⟩ := entry
    obtain ⟨own', value'⟩ := other
    obtain ⟨names, values⟩ := same
    simp only at names values
    subst names
    by_cases named : own = name
    · subst named
      rw [under_cons_self, under_cons_self]
      exact .cons values ih
    · rwa [under_cons_ne named, under_cons_ne named]

/-- The first name of ascending entries is the least of their names. -/
theorem Ascends.le {name own : String} {value : α} {rest : List (String × α)}
    (ascends : Ascends ((own, value) :: rest))
    (named : ∃ entry ∈ (own, value) :: rest, entry.1 = name) :
    own ≤ name := by
  obtain ⟨entry, member, rfl⟩ := named
  rcases List.mem_cons.mp member with rfl | later
  · exact Std.le_refl _
  · exact List.rel_of_pairwise_cons ascends later

theorem sameName_of_under {entries : List (String × α)} {others : List (String × β)}
    (ascends : Ascends entries) (ascends' : Ascends others)
    (related : ∀ name, Forall₂ R (under name entries) (under name others)) :
    Forall₂ (SameName R) entries others := by
  induction entries generalizing others with
  | nil =>
    cases others with
    | nil => exact .nil
    | cons other rest =>
      have present := (has_name_iff (related other.1)).mpr ⟨other, List.mem_cons_self, rfl⟩
      simp at present
  | cons entry rest ih =>
    obtain ⟨name, value⟩ := entry
    cases others with
    | nil =>
      have present := (has_name_iff (related name)).mp ⟨_, List.mem_cons_self, rfl⟩
      simp at present
    | cons other rest' =>
      obtain ⟨name', value'⟩ := other
      -- each list holds the first name of the other, so the two first names are the same
      have below := ascends.le ((has_name_iff (related name')).mpr ⟨_, List.mem_cons_self, rfl⟩)
      have above := ascends'.le ((has_name_iff (related name)).mp ⟨_, List.mem_cons_self, rfl⟩)
      have same : name = name' := Std.le_antisymm below above
      subst same
      -- with the first entries taken off, the values of every name are still related
      have first := related name
      rw [under_cons_self, under_cons_self] at first
      refine .cons ⟨rfl, (List.forall₂_cons.mp first).1⟩ (ih ascends.tail ascends'.tail ?_)
      intro other
      have later := related other
      by_cases equal : name = other
      · subst equal
        exact (List.forall₂_cons.mp first).2
      · rwa [under_cons_ne equal, under_cons_ne equal] at later

/-- Sorted entries are related one by one exactly if the values of every name are. -/
theorem forall₂_sorted_iff {entries : List (String × α)} {others : List (String × β)} :
    Forall₂ (SameName R) (sorted entries) (sorted others) ↔
      ∀ name, Forall₂ R (under name entries) (under name others) := by
  constructor
  · intro related name
    have values := under_of_sameName related name
    rwa [under_sorted, under_sorted] at values
  · intro related
    apply sameName_of_under (ascends_sorted entries) (ascends_sorted others)
    intro name
    rw [under_sorted, under_sorted]
    exact related name

end Content

end Flowgraph
