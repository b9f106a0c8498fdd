import Mathlib.Data.List.Chain
import Mathlib.Order.Bounds.Basic
import Flowgraph.Proofs.Keyed.Latest
import Flowgraph.Proofs.Schedule.LeftOver

/-!
# The longest chain

A chain goes from node to node, each reading from the one before. When a node runs, all its
producers have run, so a longest chain that ends at the node goes on from a longest one that ends at
the deepest of them. Nodes that never run are on no such chain, since whoever needs one of them
never runs either.

Main result: `longestChain_greatest`.
-/
namespace Flowgraph

open Edges (Feeds Acyclic)
open Relation (ReflTransGen TransGen)

theorem isGreatest_foldl_max {α : Type} (f : α → Nat) (l : List α) :
    IsGreatest (insert 0 {n | ∃ x ∈ l, f x = n}) (l.foldl (fun n x => max n (f x)) 0) := by
  induction l using List.reverseRecOn with
  | nil => simp
  | append_singleton l x ih =>
    have more : insert 0 {n | ∃ y ∈ l ++ [x], f y = n} =
        insert (f x) (insert 0 {n | ∃ y ∈ l, f y = n}) := by
      ext n
      simp only [List.mem_append, List.mem_singleton, Set.mem_insert_iff, Set.mem_ofPred_eq]
      grind
    rw [more, List.foldl_concat, max_comm]
    exact ih.insert (f x)

namespace Schedule

/-- The lengths of the chains that end at a node. -/
def lengthsUpTo (edges : List Edge) (id : String) : Set Nat :=
  {n | ∃ before : List String, (before ++ [id]).IsChain (Feeds edges) ∧
    (before ++ [id]).length = n}

/-- The greatest of the depths that the producers of a node have. -/
def deepest (edges : List Edge) (known : List (String × Nat)) (id : String) : Nat :=
  (Edges.producers edges id).foldl
    (fun depth producer => max depth ((Entries.find? producer known).getD 0)) 0

/-- Every depth is the length of a longest chain that ends at its node. -/
def Measured (edges : List Edge) (order : List String) : Prop :=
  ∀ entry ∈ depths edges order, IsGreatest (lengthsUpTo edges entry.1) entry.2

variable {ids : List String} {edges : List Edge} {before order : List String} {id node : String}

theorem mem_lengthsUpTo_iff {n : Nat} : n ∈ lengthsUpTo edges id ↔
    n = 1 ∨ ∃ producer, Feeds edges producer id ∧ ∃ m ∈ lengthsUpTo edges producer, m + 1 = n := by
  constructor
  · rintro ⟨before, chain, rfl⟩
    rcases before.eq_nil_or_concat with rfl | ⟨earlier, producer, rfl⟩
    · exact .inl rfl
    · -- a chain of more than one node goes through a producer
      rw [List.concat_eq_append, List.append_assoc, List.singleton_append,
        List.isChain_append_cons_cons] at chain
      exact .inr ⟨producer, chain.2.1, _, ⟨earlier, chain.1, rfl⟩, by simp⟩
  · rintro (rfl | ⟨producer, feeds, m, ⟨earlier, chain, rfl⟩, rfl⟩)
    · exact ⟨[], by simp, rfl⟩
    · refine ⟨earlier ++ [producer], ?_, by simp⟩
      rw [List.append_assoc, List.singleton_append, List.isChain_append_cons_cons]
      exact ⟨chain, feeds, List.isChain_singleton _⟩

theorem depths_concat (edges : List Edge) (order : List String) (id : String) :
    depths edges (order ++ [id]) =
      (id, deepest edges (depths edges order) id + 1) :: depths edges order :=
  List.foldl_concat ..

theorem map_fst_depths (edges : List Edge) (order : List String) :
    (depths edges order).map Prod.fst = order.reverse := by
  induction order using List.reverseRecOn with
  | nil => rfl
  | append_singleton order id ih => rw [depths_concat, List.map_cons, ih, List.reverse_concat]

theorem Measured.exists_depth (measured : Measured edges order) (ran : id ∈ order) :
    ∃ depth, Entries.find? id (depths edges order) = some depth ∧
      (id, depth) ∈ depths edges order ∧ IsGreatest (lengthsUpTo edges id) depth := by
  have known : Entries.find? id (depths edges order) ≠ none := by
    rw [ne_eq, Entries.find?_eq_none_iff, map_fst_depths, List.mem_reverse, not_not]
    exact ran
  obtain ⟨depth, found⟩ := Option.ne_none_iff_exists'.mp known
  have listed := Entries.mem_of_find? found
  exact ⟨depth, found, listed, measured _ listed⟩

/-- The depth of a node whose producers have all run is one more than the greatest of theirs. -/
theorem Measured.isGreatest_deepest (measured : Measured edges order)
    (fed : ∀ producer ∈ Edges.producers edges id, producer ∈ order) :
    IsGreatest (lengthsUpTo edges id) (deepest edges (depths edges order) id + 1) := by
  have greatest := isGreatest_foldl_max
    (fun producer => (Entries.find? producer (depths edges order)).getD 0)
    (Edges.producers edges id)
  obtain ⟨attained, above⟩ := greatest
  constructor
  · -- the greatest depth is that of a producer, unless there is none
    rw [mem_lengthsUpTo_iff]
    rcases attained with none | ⟨producer, feeds, deep⟩
    · exact .inl (congrArg (· + 1) none)
    · obtain ⟨depth, found, -, longest⟩ := measured.exists_depth (fed producer feeds)
      refine .inr ⟨producer, Edges.mem_producers_iff.mp feeds, depth, longest.1, ?_⟩
      rw [found, Option.getD_some] at deep
      exact congrArg (· + 1) deep
  · intro n chain
    rcases mem_lengthsUpTo_iff.mp chain with rfl | ⟨producer, feeds, m, shorter, rfl⟩
    · exact Nat.le_add_left 1 _
    · have member := Edges.mem_producers_iff.mpr feeds
      obtain ⟨depth, found, -, longest⟩ := measured.exists_depth (fed producer member)
      have bound : depth ≤ deepest edges (depths edges order) id :=
        above (.inr ⟨producer, member, by rw [found, Option.getD_some]⟩)
      exact Nat.succ_le_succ ((longest.2 shorter).trans bound)

theorem Measured.run (measured : Measured edges before) (can : CanRun ids edges before node) :
    Measured edges (before ++ [node]) := by
  intro entry listed
  rw [depths_concat] at listed
  rcases List.mem_cons.mp listed with rfl | earlier
  · exact measured.isGreatest_deepest can.2.2
  · exact measured entry earlier

theorem Greedy.measured (greedy : Greedy ids edges before order)
    (measured : Measured edges before) : Measured edges (before ++ order) := by
  induction order generalizing before with
  | nil => rwa [List.append_nil]
  | cons node rest ih => simpa using ih greedy.2.2 (measured.run greedy.1)

end Schedule

namespace Graph

/-- A node that is on no cycle, and needs no node that is. -/
def Free (graph : Graph) (id : String) : Prop :=
  id ∈ graph.ids ∧ ∀ knot, TransGen graph.Reads knot knot → ¬ ReflTransGen graph.Reads id knot

/-- The lengths of the chains among some nodes, each of which reads from the one before it. -/
def chainLengths (graph : Graph) (among : String → Prop) : Set Nat :=
  {n | ∃ chain : List String, (∀ id ∈ chain, among id) ∧
    chain.IsChain (fun producer consumer => graph.Reads consumer producer) ∧ chain.length = n}

variable {graph : Graph} {id : String}

theorem mem_runnable_iff : id ∈ graph.runnable ↔ graph.Free id := by
  constructor
  · intro ran
    refine ⟨graph.greedy_runnable.inside id ran, fun knot cycle path => ?_⟩
    exact (left_over_iff.mpr ⟨knot, cycle, path⟩).2 ran
  · rintro ⟨member, free⟩
    by_contra unrun
    obtain ⟨knot, cycle, path⟩ := left_over_iff.mp ⟨member, unrun⟩
    exact free knot cycle path

theorem Free.of_reads {consumer producer : String} (free : graph.Free consumer)
    (reads : graph.Reads consumer producer) : graph.Free producer :=
  ⟨reads.1, fun knot cycle path => free.2 knot cycle (path.head reads)⟩

theorem measured_runnable (graph : Graph) : Schedule.Measured graph.edges graph.runnable :=
  graph.greedy_runnable.measured (by simp [Schedule.Measured, Schedule.depths])

theorem isGreatest_longestChain (graph : Graph) :
    IsGreatest (graph.chainLengths graph.Free) graph.longestChain := by
  have related : (fun producer consumer => graph.Reads consumer producer) = Feeds graph.edges := by
    rw [reads_eq]
  obtain ⟨attained, above⟩ := isGreatest_foldl_max Prod.snd
    (Schedule.depths graph.edges graph.runnable)
  constructor
  · rcases attained with none | ⟨⟨id, depth⟩, listed, deep⟩
    · exact ⟨[], by simp, List.isChain_nil, none.symm⟩
    · obtain ⟨before, chain, length⟩ := (graph.measured_runnable _ listed).1
      have ran : id ∈ graph.runnable := by
        rw [← List.mem_reverse, ← Schedule.map_fst_depths]
        exact List.mem_map_of_mem listed
      rw [← related] at chain
      -- the chain ends at a node that runs, so all nodes on it do
      refine ⟨before ++ [id], ?_, chain, length.trans deep⟩
      refine chain.backwards_induction graph.Free _ (fun _ _ reads free => free.of_reads reads) ?_
      intro _
      rw [List.getLast_append_singleton]
      exact mem_runnable_iff.mp ran
  · rintro n ⟨chain, free, reads, rfl⟩
    rcases chain.eq_nil_or_concat with rfl | ⟨before, id, rfl⟩
    · exact Nat.zero_le _
    · rw [List.concat_eq_append] at free reads ⊢
      have ran := mem_runnable_iff.mpr (free id (by simp))
      obtain ⟨depth, -, listed, longest⟩ := graph.measured_runnable.exists_depth ran
      rw [related] at reads
      exact (longest.2 ⟨before, reads, rfl⟩).trans (above (.inr ⟨_, listed, rfl⟩))

theorem isGreatest_longestChain_of_acyclic (acyclic : Acyclic graph.edges) :
    IsGreatest (graph.chainLengths (· ∈ graph.ids)) graph.longestChain := by
  have all : graph.Free = (· ∈ graph.ids) := by
    funext id
    refine propext ⟨And.left, fun member => ⟨member, fun knot cycle => ?_⟩⟩
    exact absurd (transGen_reads_iff.mp cycle) (acyclic knot)
  rw [← all]
  exact graph.isGreatest_longestChain

/-- The longest chain is as long as any chain of nodes that are on no cycle and need none that is,
and there is one of that length; so it has no node only if there are no such nodes. Without cycles
it is the longest of all chains. -/
theorem longestChain_greatest (graph : Graph) :
    IsGreatest (graph.chainLengths graph.Free) graph.longestChain ∧
    (graph.longestChain = 0 ↔ ∀ id, ¬ graph.Free id) ∧
    (Acyclic graph.edges →
      IsGreatest (graph.chainLengths (· ∈ graph.ids)) graph.longestChain) := by
  obtain ⟨attained, above⟩ := graph.isGreatest_longestChain
  refine ⟨⟨attained, above⟩, ⟨?_, ?_⟩, isGreatest_longestChain_of_acyclic⟩
  · intro zero id free
    have one : 1 ≤ graph.longestChain := above ⟨[id], by simpa using free, by simp, rfl⟩
    omega
  · intro none_free
    obtain ⟨chain, free, -, length⟩ := attained
    cases chain with
    | nil => exact length.symm
    | cons id rest => exact absurd (free id List.mem_cons_self) (none_free id)

/-- Two ways lead from the first node to the last, which reads from the first twice and from a node
that does not exist. -/
def detoured : Graph :=
  let reading (inputs : List (String × String)) : Node :=
    { Node.ofClass "Add" with
      inputs := .ofList (inputs.map fun (name, producer) => (name, .wired ⟨producer, 0⟩)) }
  ⟨.ofList [("4", reading [("a", "1"), ("b", "1"), ("c", "3"), ("d", "gone")]),
    ("3", reading [("a", "2")]), ("2", reading [("a", "1")]), ("1", reading [])]⟩

theorem longestChain_greatest_detoured :
    Acyclic detoured.edges ∧ detoured.longestChain = 4 ∧
    IsGreatest (detoured.chainLengths (· ∈ detoured.ids)) 4 := by
  have acyclic : Acyclic detoured.edges :=
    exists_executionOrder_iff.mp ⟨["1", "2", "3", "4"], by decide⟩
  have length : detoured.longestChain = 4 := by decide
  obtain ⟨-, -, whole⟩ := longestChain_greatest detoured
  exact ⟨acyclic, length, length ▸ whole acyclic⟩

/-- What lies on a cycle, or behind one, counts for nothing. -/
example : knotted.longestChain = 1 := by decide

end Graph

end Flowgraph
