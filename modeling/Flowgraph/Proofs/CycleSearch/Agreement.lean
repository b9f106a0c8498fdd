import Flowgraph.Drawing
import Flowgraph.Proofs.CycleSearch.Search
import Flowgraph.Proofs.Schedule.LeftOver

/-!
# The two cycle tests agree

A search that finds no cycle leaves the nodes in an order with producers first, so the schedule
runs all of them. A cycle that is found is made of nodes that need themselves, and none of these
ever runs.

Main result: `checkAcyclic_agrees`.
-/
namespace Flowgraph

open Edges (Feeds Acyclic)
open Relation (TransGen)

namespace CycleSearch

/-- Every node of a closed path leads back to itself. -/
theorem Closed.transGen {targets : String → List String} {cycle : List String} {id : String}
    (closed : Closed targets cycle) (member : id ∈ cycle) :
    TransGen (fun a b => b ∈ targets a) id id := by
  cases cycle with
  | nil => contradiction
  | cons first rest =>
    have chain : List.IsChain (TransGen fun a b => b ∈ targets a) (first :: (rest ++ [first])) :=
      List.IsChain.imp (fun _ _ leads => .single leads) closed.2
    rcases List.mem_cons.mp member with rfl | inside
    · exact chain.rel_cons (by simp)
    · -- from the first node out to this one, and on around to the first node
      have out : TransGen (fun a b => b ∈ targets a) first id := chain.rel_cons (by simp [inside])
      obtain ⟨before, after, rfl⟩ := List.append_of_mem inside
      have back : TransGen (fun a b => b ∈ targets a) id first := by
        have onward :
            List.IsChain (TransGen fun a b => b ∈ targets a) (id :: (after ++ [first])) := by
          have whole := chain
          rw [List.append_assoc, ← List.cons_append] at whole
          exact whole.right_of_append
        exact onward.rel_cons (by simp)
      exact back.trans out

theorem Closed.needsItself {edges : List Edge} {cycle : List String} {id : String}
    (closed : Closed (Edges.producers edges) cycle) (member : id ∈ cycle) :
    TransGen (Feeds edges) id id := by
  have around := closed.transGen member
  simp only [Edges.mem_producers_iff] at around
  exact Relation.transGen_swap.mp around

end CycleSearch

namespace Graph

variable {graph : Graph} {refusal : Refusal}

theorem acyclic_of_cycle?_eq_none (searched : graph.cycle? = none) : Acyclic graph.edges := by
  obtain ⟨left, distinct, all, targetsFirst⟩ := CycleSearch.find?_eq_none searched
  -- the order in which nodes were left has producers first: the targets are the producers
  have orders : Orders graph.ids graph.edges left := by
    refine ⟨(List.perm_ext_iff_of_nodup distinct nodup_ids).mpr all, ?_⟩
    intro edge member
    apply targetsFirst edge.consumer
    · exact (all _).mpr (consumer_mem_ids member)
    · exact Edges.mem_producers_iff.mpr ⟨edge, member, rfl, rfl⟩
    · exact producer_mem_ids member
  exact Schedule.acyclic_of_orders orders

/-- A refused graph has a closed path of producers, and its first node is named. -/
theorem closed_of_checkAcyclic_eq_error (refused : graph.checkAcyclic = .error refusal) :
    ∃ first rest, refusal = .circular first (first :: rest) ∧
      CycleSearch.Closed (Edges.producers graph.edges) (first :: rest) ∧
      ∀ id ∈ first :: rest, id ∈ graph.ids := by
  unfold checkAcyclic at refused
  split at refused
  · contradiction
  · next cycle found =>
    cases refused
    obtain ⟨closed, inside⟩ := CycleSearch.find?_eq_some found
    cases cycle with
    | nil => contradiction
    | cons first rest => exact ⟨first, rest, rfl, closed, inside⟩

theorem checkAcyclic_eq_ok_iff : graph.checkAcyclic = .ok () ↔ Acyclic graph.edges := by
  cases checked : graph.checkAcyclic with
  | ok =>
    refine iff_of_true rfl (acyclic_of_cycle?_eq_none ?_)
    unfold checkAcyclic at checked
    split at checked
    · assumption
    · contradiction
  | error refusal =>
    obtain ⟨first, rest, -, closed, -⟩ := closed_of_checkAcyclic_eq_error checked
    refine iff_of_false (by simp) ?_
    intro acyclic
    exact acyclic first (closed.needsItself List.mem_cons_self)

/-- A refused graph has a cycle of nodes that need themselves, and the first of them is named. -/
theorem checkAcyclic_eq_error (refused : graph.checkAcyclic = .error refusal) :
    ∃ node cycle, refusal = .circular node cycle ∧ cycle.head? = some node ∧
      ∀ id ∈ cycle, id ∈ graph.ids ∧ TransGen (Feeds graph.edges) id id := by
  obtain ⟨first, rest, rfl, closed, inside⟩ := closed_of_checkAcyclic_eq_error refused
  exact ⟨first, first :: rest, rfl, rfl,
    fun id member => ⟨inside id member, closed.needsItself member⟩⟩

/-- A graph that cannot be ordered has nodes that never run, and among them all that need
themselves; the one that is named comes before all of these. -/
theorem executionOrder_eq_error (refused : graph.executionOrder = .error refusal) :
    ∃ node remaining, refusal = .unorderable node remaining ∧
      ∀ id ∈ graph.ids, TransGen (Feeds graph.edges) id id →
        id ∈ remaining ∧ (NodeId.compare node id).isLE := by
  obtain ⟨blamed, remaining, rfl, diagnosis⟩ := executionOrder_eq_error_iff.mp refused
  refine ⟨blamed, remaining, rfl, fun id _ cycle => ?_⟩
  have knot := transGen_reads_iff.mpr cycle
  exact ⟨(diagnosis.left id).mpr ⟨id, knot, .refl⟩, diagnosis.least id knot⟩

/-- The search for a cycle and the schedule refuse the same graphs, and so does the plan: those in
which a chain of inputs leads from a node back to itself. When they refuse one, such a chain leads
from every node of the cycle that the search gives; each of them is among the nodes that the
schedule leaves over, and the node that the schedule names comes after none of them. -/
theorem checkAcyclic_agrees (graph : Graph) :
    (graph.checkAcyclic = .ok () ↔ ∀ id, ¬ TransGen graph.Reads id id) ∧
    (graph.checkAcyclic = .ok () ↔ ∃ order, graph.executionOrder = .ok order) ∧
    (graph.checkAcyclic = .ok () ↔ ∃ text, graph.plan = .ok text) ∧
    ∀ search schedule, graph.checkAcyclic = .error search →
      graph.executionOrder = .error schedule →
      ∃ node cycle blamed remaining,
        search = .circular node cycle ∧ schedule = .unorderable blamed remaining ∧
        cycle.head? = some node ∧
        ∀ id ∈ cycle, TransGen graph.Reads id id ∧ id ∈ remaining ∧
          (NodeId.compare blamed id).isLE = true := by
  have ordered : graph.checkAcyclic = .ok () ↔ ∃ order, graph.executionOrder = .ok order := by
    rw [checkAcyclic_eq_ok_iff, exists_executionOrder_iff]
  refine ⟨checkAcyclic_eq_ok_iff.trans acyclic_iff_reads, ordered, ?_, ?_⟩
  · rw [ordered]
    simp only [plan]
    cases graph.executionOrder <;> simp [Except.map]
  · intro search schedule circular unorderable
    -- the cycle is made of nodes that need themselves, and the schedule leaves over all of these
    obtain ⟨node, cycle, rfl, first, needs⟩ := checkAcyclic_eq_error circular
    obtain ⟨blamed, remaining, rfl, left⟩ := executionOrder_eq_error unorderable
    refine ⟨node, cycle, blamed, remaining, rfl, rfl, first, ?_⟩
    intro id member
    obtain ⟨inside, around⟩ := needs id member
    exact ⟨transGen_reads_iff.mpr around, left id inside around⟩

/-- Two nodes feed each other; a third needs them and is left over too, but not on the cycle. -/
def paired : Graph :=
  ⟨.ofList [("9", .reading [("a", "10")]), ("10", .reading [("a", "9")]),
    ("2", .reading [("a", "9")])]⟩

theorem checkAcyclic_agrees_paired :
    paired.checkAcyclic = .error (.circular "9" ["9", "10"]) ∧
    paired.executionOrder = .error (.unorderable "9" ["2", "9", "10"]) ∧
    ∀ id ∈ ["9", "10"], TransGen paired.Reads id id ∧ id ∈ ["2", "9", "10"] ∧
      (NodeId.compare "9" id).isLE = true := by
  have circular : paired.checkAcyclic = .error (.circular "9" ["9", "10"]) := by decide
  have unorderable : paired.executionOrder = .error (.unorderable "9" ["2", "9", "10"]) := by decide
  obtain ⟨-, -, -, refused⟩ := checkAcyclic_agrees paired
  obtain ⟨_, _, _, _, search, schedule, -, around⟩ := refused _ _ circular unorderable
  cases search
  cases schedule
  exact ⟨circular, unorderable, around⟩

end Graph

end Flowgraph
