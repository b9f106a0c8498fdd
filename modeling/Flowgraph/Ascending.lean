/-!
# Ascending lists

A set, printed in a fixed order, is a list without repeats that ascends under a comparison. Names
are compared character by character, which is also the order of their UTF-8 bytes.

Main result: `mem_ofList` says that collecting keeps exactly the elements, for every comparison
that calls only equal elements equal.
-/
namespace Flowgraph

namespace Ascending

variable {α : Type}

/-- Puts an element at its place; an element that compares equal to one present is left out. -/
def insert (compare : α → α → Ordering) (x : α) : List α → List α
  | [] => [x]
  | y :: rest =>
    match compare x y with
    | .lt => x :: y :: rest
    | .eq => y :: rest
    | .gt => y :: insert compare x rest

/-- The elements of a list in ascending order, without repeats. -/
def ofList (compare : α → α → Ordering) : List α → List α
  | [] => []
  | x :: rest => insert compare x (ofList compare rest)

theorem mem_insert {compare : α → α → Ordering} (exact : ∀ x y, compare x y = .eq → x = y)
    (x z : α) (l : List α) : z ∈ insert compare x l ↔ z = x ∨ z ∈ l := by
  induction l with
  | nil => simp [insert]
  | cons y rest ih =>
    simp only [insert]
    split
    · simp
    · next equal => simp [exact x y equal]
    · rw [List.mem_cons, ih, List.mem_cons]
      exact or_left_comm

theorem mem_ofList {compare : α → α → Ordering} (exact : ∀ x y, compare x y = .eq → x = y)
    (z : α) (l : List α) : z ∈ ofList compare l ↔ z ∈ l := by
  induction l with
  | nil => simp [ofList]
  | cons x rest ih => rw [ofList, mem_insert exact, ih, List.mem_cons]

end Ascending

/-- The order of names by their characters' code points. -/
def compareNames (a b : String) : Ordering :=
  if a < b then .lt else if a = b then .eq else .gt

theorem eq_of_compareNames_eq {a b : String} (equal : compareNames a b = .eq) : a = b := by
  unfold compareNames at equal
  split at equal
  · contradiction
  · split at equal
    · assumption
    · contradiction

/-- A set of names, listed in ascending order. -/
def nameSet (names : List String) : List String :=
  Ascending.ofList compareNames names

theorem mem_nameSet (name : String) (names : List String) : name ∈ nameSet names ↔ name ∈ names :=
  Ascending.mem_ofList (fun _ _ => eq_of_compareNames_eq) name names

end Flowgraph
