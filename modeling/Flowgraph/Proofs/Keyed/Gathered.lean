import Mathlib.Data.List.Induction
import Mathlib.Data.List.Nodup
import Flowgraph.Proofs.Keyed.Latest

/-!
# Groups of items

A list is gone through once and each item is taken into the group of its name. In the end each group
has taken in the items of its name one after the other, and the groups stand in the order in which
their names were first seen.

Main results: `Keyed.keys_foldl_gather` and `Keyed.get?_foldl_gather`; `firstSeen_eraseDups` says
what it is to be listed as first seen.
-/
namespace Flowgraph

universe u v

/-- A list has just the names that were seen, in the order in which they were first seen. -/
structure FirstSeen (seen names : List String) : Prop where
  mem : ∀ name, name ∈ names ↔ name ∈ seen
  order : names.Pairwise fun a b => seen.idxOf a < seen.idxOf b

theorem FirstSeen.nodup {seen names : List String} (first : FirstSeen seen names) :
    names.Nodup := by
  refine first.order.imp ?_
  rintro a b before rfl
  exact Nat.lt_irrefl _ before

theorem FirstSeen.count_eq_one {seen names : List String} (first : FirstSeen seen names)
    {name : String} (member : name ∈ seen) : names.count name = 1 :=
  List.count_eq_one_of_mem first.nodup ((first.mem name).mpr member)

theorem firstSeen_eraseDups (seen : List String) : FirstSeen seen seen.eraseDups := by
  refine ⟨fun name => List.mem_eraseDups, ?_⟩
  -- from the end: the last name seen comes behind all names seen before, unless it is one of them
  induction seen using List.reverseRecOn with
  | nil => exact List.Pairwise.nil
  | append_singleton seen last ih =>
    have before : seen.eraseDups.Pairwise fun a b =>
        (seen ++ [last]).idxOf a < (seen ++ [last]).idxOf b := by
      refine ih.imp_of_mem fun {a b} first second earlier => ?_
      rwa [List.idxOf_append_of_mem (List.mem_eraseDups.mp first),
        List.idxOf_append_of_mem (List.mem_eraseDups.mp second)]
    rw [List.eraseDups_append]
    by_cases known : last ∈ seen
    · simpa [List.removeAll, known] using before
    · have fresh : ([last].removeAll seen).eraseDups = [last] := by
        simp [List.removeAll, known, List.eraseDups_cons]
      rw [fresh, List.pairwise_append]
      refine ⟨before, List.pairwise_singleton _ _, fun a first b second => ?_⟩
      obtain rfl := List.mem_singleton.mp second
      have seenBefore := List.mem_eraseDups.mp first
      rw [List.idxOf_append_of_mem seenBefore, List.idxOf_append_of_notMem known]
      exact Nat.lt_add_right _ (List.idxOf_lt_length_of_mem seenBefore)

namespace Keyed

variable {ι : Type u} {α : Type v} {key : ι → String} {start : String → α} {add : α → ι → α}

/-- Takes an item into the group of its name, which starts with the first item. -/
def gather (key : ι → String) (start : String → α) (add : α → ι → α) (m : Keyed α) (item : ι) :
    Keyed α :=
  m.insert (key item) (add ((m.get? (key item)).getD (start (key item))) item)

theorem keys_foldl_gather (items : List ι) (m : Keyed α) :
    (items.foldl (gather key start add) m).keys = (m.keys ++ items.map key).eraseDups :=
  keys_foldl (fun _ _ => ⟨_, rfl⟩) items m

theorem get?_foldl_gather (items : List ι) (m : Keyed α) (name : String) :
    (items.foldl (gather key start add) m).get? name =
      if (items.filter fun item => key item = name) = [] then m.get? name
      else some ((items.filter fun item => key item = name).foldl add
        ((m.get? name).getD (start name))) := by
  induction items generalizing m with
  | nil => rfl
  | cons item rest ih =>
    rw [List.foldl_cons, ih, gather, get?_insert]
    by_cases same : key item = name
    · -- the group has this item from now on, whether or not others follow
      subst same
      by_cases last : (rest.filter fun other => key other = key item) = [] <;> simp [last]
    · rw [List.filter_cons_of_neg (by simpa using same), if_neg same]

theorem get?_foldl_gather_empty (items : List ι) (name : String) :
    (items.foldl (gather key start add) .empty).get? name =
      if (items.filter fun item => key item = name) = [] then none
      else some ((items.filter fun item => key item = name).foldl add (start name)) := by
  rw [get?_foldl_gather, get?_empty, Option.getD_none]

end Keyed

end Flowgraph
