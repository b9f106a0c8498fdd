import Mathlib.Data.List.Perm.Subperm
import Flowgraph.Proofs.Schedule.Counts

/-!
# Greedy runs

A greedy run takes, each time, the least of the nodes that can run, and ends when there is none.
There is only one greedy run, and it depends on the nodes and on which of them feed which.

Main result: `greedy_runnable` says that the nodes that can run are listed by the greedy run, and
`not_mem_of_cycle` that no node that needs itself is among them.
-/
namespace Flowgraph

namespace Schedule

open Edges (Feeds)
open Relation (TransGen)

/-- The greedy run behind nodes that have run before. -/
def Greedy (ids : List String) (edges : List Edge) : List String → List String → Prop
  | before, [] => ∀ id, ¬ CanRun ids edges before id
  | before, node :: rest => CanRun ids edges before node ∧
      (∀ other, CanRun ids edges before other → (NodeId.compare node other).isLE) ∧
      Greedy ids edges (before ++ [node]) rest

section

variable {ids : List String} {edges : List Edge} {before order : List String}

/-- A list without repeats whose members are all among others is no longer than those. -/
theorem length_le_of_inside (distinct : order.Nodup) (inside : ∀ id ∈ order, id ∈ ids) :
    order.length ≤ ids.length :=
  (List.subperm_of_subset distinct inside).length_le

theorem greedy_advance {fuel : Nat} {schedule : Schedule} (counts : Counts ids edges [] schedule)
    (endpoints : ∀ edge ∈ edges, edge.consumer ∈ ids)
    (enough : ids.length ≤ schedule.order.length + fuel) :
    ∃ rest, (advance edges fuel schedule).order = schedule.order ++ rest ∧
      Greedy ids edges schedule.order rest := by
  induction fuel generalizing schedule with
  | zero =>
    refine ⟨[], (List.append_nil _).symm, ?_⟩
    -- as many nodes have run as there are, so none is left
    intro id can
    have distinct : (id :: schedule.order).Nodup :=
      List.nodup_cons.mpr ⟨can.2.1, counts.distinct⟩
    have bound : (id :: schedule.order).length ≤ ids.length := length_le_of_inside distinct (by
      intro other member
      rcases List.mem_cons.mp member with rfl | ran
      · exact can.1
      · exact counts.inside other ran)
    simp only [List.length_cons] at bound
    omega
  | succ fuel ih =>
    unfold advance
    split
    · next none_ready =>
      refine ⟨[], (List.append_nil _).symm, ?_⟩
      intro id can
      have present := counts.canRun_iff_mem_ready.mp can
      rw [none_ready] at present
      contradiction
    · next node rest first =>
      have onward := counts.run endpoints first
      obtain ⟨later, listed, greedy⟩ := ih onward (by
        rw [order_run, List.length_append, List.length_singleton]
        omega)
      rw [order_run] at listed greedy
      obtain ⟨can, least⟩ := counts.canRun_first first
      exact ⟨node :: later, by rw [listed, List.append_assoc, List.singleton_append],
        can, least, greedy⟩

theorem greedy_runnable (endpoints : ∀ edge ∈ edges, edge.consumer ∈ ids) :
    Greedy ids edges [] (runnable ids edges) := by
  obtain ⟨rest, listed, greedy⟩ := greedy_advance (counts_start ids edges) endpoints
    (show ids.length ≤ (start ids edges).order.length + ids.length from Nat.le_add_left _ _)
  have all : runnable ids edges = rest := listed
  exact all ▸ greedy

theorem Greedy.canRun {node : String} {first rest : List String}
    (greedy : Greedy ids edges before (first ++ node :: rest)) :
    CanRun ids edges (before ++ first) node := by
  induction first generalizing before with
  | nil => simpa using greedy.1
  | cons head first ih => simpa using ih greedy.2.2

theorem Greedy.inside (greedy : Greedy ids edges before order) : ∀ id ∈ order, id ∈ ids := by
  intro id member
  obtain ⟨first, rest, rfl⟩ := List.append_of_mem member
  exact greedy.canRun.1

theorem Greedy.nodup (greedy : Greedy ids edges before order) (distinct : before.Nodup) :
    (before ++ order).Nodup := by
  induction order generalizing before with
  | nil => simpa using distinct
  | cons node rest ih =>
    have longer : (before ++ [node]).Nodup :=
      List.concat_eq_append ▸ distinct.concat greedy.1.2.1
    simpa using ih greedy.2.2 longer

/-- When a greedy run ends, no node can run. -/
theorem Greedy.ended (greedy : Greedy ids edges before order) (id : String) :
    ¬ CanRun ids edges (before ++ order) id := by
  induction order generalizing before with
  | nil => simpa using greedy id
  | cons node rest ih => simpa using ih greedy.2.2

/-- In a greedy run a producer runs before its consumer. -/
theorem Greedy.idxOf_lt (greedy : Greedy ids edges [] order) {producer consumer : String}
    (feeds : Feeds edges producer consumer) (member : consumer ∈ order) :
    producer ∈ order ∧ order.idxOf producer < order.idxOf consumer := by
  -- the producers of a node had all run when it could
  obtain ⟨first, rest, rfl⟩ := List.append_of_mem member
  obtain ⟨_, unrun, fed⟩ := greedy.canRun
  have ran := fed producer (Edges.mem_producers_iff.mpr feeds)
  simp only [List.nil_append] at ran unrun
  refine ⟨List.mem_append_left _ ran, ?_⟩
  rw [List.idxOf_append_of_mem ran, List.idxOf_append_of_notMem unrun, List.idxOf_cons_self]
  have place := List.idxOf_lt_length_of_mem ran
  omega

theorem Greedy.idxOf_lt_of_needs (greedy : Greedy ids edges [] order) {producer consumer : String}
    (path : TransGen (Feeds edges) producer consumer) (member : consumer ∈ order) :
    producer ∈ order ∧ order.idxOf producer < order.idxOf consumer := by
  induction path using TransGen.head_induction_on with
  | single feeds => exact greedy.idxOf_lt feeds member
  | head feeds path ih =>
    obtain ⟨ran, place⟩ := ih
    obtain ⟨earlier, sooner⟩ := greedy.idxOf_lt feeds ran
    exact ⟨earlier, Nat.lt_trans sooner place⟩

/-- A node that needs itself never runs. -/
theorem Greedy.not_mem_of_cycle (greedy : Greedy ids edges [] order) {id : String}
    (cycle : TransGen (Feeds edges) id id) : id ∉ order := by
  intro member
  exact Nat.lt_irrefl _ (greedy.idxOf_lt_of_needs cycle member).2

/-- Which nodes can run depends on the nodes and on which feed which. -/
theorem canRun_congr {ids' : List String} {edges' : List Edge}
    (nodes : ∀ id, id ∈ ids ↔ id ∈ ids')
    (feeds : ∀ a b, Feeds edges a b ↔ Feeds edges' a b) {id : String} :
    CanRun ids edges before id ↔ CanRun ids' edges' before id := by
  simp only [CanRun, nodes, Edges.mem_producers_iff, feeds]

theorem Greedy.congr {ids' : List String} {edges' : List Edge}
    (nodes : ∀ id, id ∈ ids ↔ id ∈ ids')
    (feeds : ∀ a b, Feeds edges a b ↔ Feeds edges' a b)
    (greedy : Greedy ids edges before order) : Greedy ids' edges' before order := by
  induction order generalizing before with
  | nil => exact fun id can => greedy id ((canRun_congr nodes feeds).mpr can)
  | cons node rest ih =>
    obtain ⟨can, least, onward⟩ := greedy
    exact ⟨(canRun_congr nodes feeds).mp can,
      fun other can => least other ((canRun_congr nodes feeds).mpr can), ih onward⟩

/-- There is one greedy run. -/
theorem Greedy.unique {other : List String} (greedy : Greedy ids edges before order)
    (greedy' : Greedy ids edges before other) : order = other := by
  induction order generalizing before other with
  | nil =>
    cases other with
    | nil => rfl
    | cons node rest => exact absurd greedy'.1 (greedy node)
  | cons node rest ih =>
    cases other with
    | nil => exact absurd greedy.1 (greedy' node)
    | cons node' rest' =>
      obtain ⟨can, least, onward⟩ := greedy
      obtain ⟨can', least', onward'⟩ := greedy'
      -- each node is the least that can run, so neither is above the other
      have same : node = node' := Std.LawfulEqCmp.eq_of_compare
        (Std.OrientedCmp.isLE_antisymm (least node' can') (least' node can))
      subst same
      rw [ih onward onward']

end

end Schedule

end Flowgraph
