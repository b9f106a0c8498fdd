import Flowgraph.Proofs.Schedule.LeastOrder

/-!
# Graphs that cannot be ordered

A run that ends early leaves some nodes over, and each of these has a producer that is left over
too. Going on from producer to producer, one comes to a cycle, since there are finitely many nodes.
So what is left over is what lies on a cycle or reads, directly or through others, from one; and of
the nodes on cycles the least is named.

Main result: `executionOrder_diagnosed`, for every way to list the strongly connected components.
-/
namespace Flowgraph

namespace Graph

open Edges (Feeds Acyclic)
open Relation (ReflTransGen TransGen)

/-- What is said of a graph that cannot be ordered. -/
structure Diagnosis (graph : Graph) (blamed : String) (remaining : List String) : Prop where
  ascending : Ascending.Sorted NodeId.compare remaining
  /-- Left over are the nodes on cycles and those that read from them. -/
  left : ∀ id, id ∈ remaining ↔
    ∃ knot, TransGen graph.Reads knot knot ∧ ReflTransGen graph.Reads id knot
  onCycle : TransGen graph.Reads blamed blamed
  least : ∀ id, TransGen graph.Reads id id → (NodeId.compare blamed id).isLE = true

/-- A list of strongly connected components: every node is in one of them, together with just the
nodes that it needs and that need it. -/
structure Components (graph : Graph) (components : List (List String)) : Prop where
  covers : components.flatten.Perm graph.ids
  connected : ∀ component ∈ components, ∀ a ∈ component, ∀ b,
    b ∈ component ↔ ReflTransGen graph.Reads a b ∧ ReflTransGen graph.Reads b a

/-- Whether a component has several nodes, or one that reads from itself. -/
def isKnotted (graph : Graph) (component : List String) : Bool :=
  1 < component.length || component.head?.any fun id =>
    (Edges.producers graph.edges id).contains id

def leastKnot? (graph : Graph) (components : List (List String)) : Option String :=
  (NodeId.ascending (components.filter graph.isKnotted).flatten).head?

section

variable {graph : Graph} {blamed blamed' id : String} {remaining remaining' : List String}
variable {components : List (List String)}

theorem mem_ids_of_cycle (cycle : TransGen graph.Reads id id) : id ∈ graph.ids := by
  obtain ⟨_, -, inside, -⟩ := TransGen.tail'_iff.mp cycle
  exact inside

theorem left_over_iff : id ∈ graph.ids ∧ id ∉ graph.runnable ↔
    ∃ knot, TransGen graph.Reads knot knot ∧ ReflTransGen graph.Reads id knot := by
  simp only [transGen_reads_iff, reflTransGen_reads_iff]
  constructor
  · rintro ⟨member, unrun⟩
    exact graph.greedy_runnable.exists_cycle (fun _ => producer_mem_ids) member unrun
  · rintro ⟨knot, cycle, path⟩
    have unrun := graph.greedy_runnable.not_mem_of_cycle cycle
    -- had the node run, the node on the cycle would have run before it
    rcases Relation.reflTransGen_iff_eq_or_transGen.mp path with rfl | path
    · exact ⟨mem_ids_of_cycle (transGen_reads_iff.mpr cycle), unrun⟩
    · obtain ⟨_, -, edge, member, -, rfl⟩ := TransGen.tail'_iff.mp path
      refine ⟨consumer_mem_ids member, fun ran => unrun ?_⟩
      exact (graph.greedy_runnable.idxOf_lt_of_needs path ran).1

theorem find?_onCycle_eq_some_iff :
    (NodeId.ascending graph.ids).find? (Edges.onCycle graph.edges) = some blamed ↔
      TransGen graph.Reads blamed blamed ∧
        ∀ id, TransGen graph.Reads id id → (NodeId.compare blamed id).isLE = true := by
  have sorted : Ascending.Sorted NodeId.compare
      ((NodeId.ascending graph.ids).filter (Edges.onCycle graph.edges)) :=
    (Ascending.sorted_ofList graph.ids).filter _
  have mem_iff (id : String) :
      id ∈ (NodeId.ascending graph.ids).filter (Edges.onCycle graph.edges) ↔
        TransGen graph.Reads id id := by
    rw [List.mem_filter, NodeId.mem_ascending, Edges.onCycle_iff, ← transGen_reads_iff,
      and_iff_right_iff_imp]
    exact mem_ids_of_cycle
  -- what is found first in an ascending list is the least
  rw [← List.head?_filter, sorted.head?_eq_some_iff]
  simp only [mem_iff]

theorem Diagnosis.unique (first : graph.Diagnosis blamed remaining)
    (second : graph.Diagnosis blamed' remaining') : blamed = blamed' ∧ remaining = remaining' := by
  constructor
  · exact Std.LawfulEqCmp.eq_of_compare (Std.OrientedCmp.isLE_antisymm
      (first.least _ second.onCycle) (second.least _ first.onCycle))
  · exact first.ascending.eq_of_mem_iff second.ascending fun id =>
      (first.left id).trans (second.left id).symm

theorem exists_diagnosis (cycle : TransGen graph.Reads id id) :
    ∃ blamed remaining, graph.executionOrder = .error (.unorderable blamed remaining) ∧
      graph.Diagnosis blamed remaining := by
  have short : graph.runnable.length < graph.size := by
    rw [← Nat.not_le, size_le_runnable_iff]
    exact fun acyclic => acyclic id (transGen_reads_iff.mp cycle)
  have some_found :
      ((NodeId.ascending graph.ids).find? (Edges.onCycle graph.edges)).isSome := by
    rw [List.find?_isSome]
    exact ⟨id, NodeId.mem_ascending.mpr (mem_ids_of_cycle cycle),
      Edges.onCycle_iff.mpr (transGen_reads_iff.mp cycle)⟩
  obtain ⟨blamed, found⟩ := Option.isSome_iff_exists.mp some_found
  obtain ⟨onCycle, least⟩ := find?_onCycle_eq_some_iff.mp found
  refine ⟨blamed, NodeId.ascending (graph.ids.filter fun id => !graph.runnable.contains id),
    ?_, Ascending.sorted_ofList _, fun id => ?_, onCycle, least⟩
  · simp only [executionOrder, short, if_true, unorderable, found, Option.some_or,
      Option.getD_some]
  · rw [← left_over_iff, NodeId.mem_ascending]
    simp

theorem executionOrder_eq_error_iff {refusal : Refusal} :
    graph.executionOrder = .error refusal ↔
      ∃ blamed remaining, refusal = .unorderable blamed remaining ∧
        graph.Diagnosis blamed remaining := by
  constructor
  · intro refused
    have cyclic : ¬ Acyclic graph.edges := by
      rw [← exists_executionOrder_iff, refused]
      simp
    obtain ⟨id, cycle⟩ := not_forall_not.mp cyclic
    obtain ⟨blamed, remaining, refused', diagnosis⟩ :=
      exists_diagnosis (transGen_reads_iff.mpr cycle)
    exact ⟨blamed, remaining, Except.error.inj (refused.symm.trans refused'), diagnosis⟩
  · rintro ⟨blamed, remaining, rfl, diagnosis⟩
    obtain ⟨blamed', remaining', refused, diagnosis'⟩ := exists_diagnosis diagnosis.onCycle
    obtain ⟨rfl, rfl⟩ := diagnosis.unique diagnosis'
    exact refused

/-- A component with two nodes is made of nodes on cycles. -/
theorem Components.cycle_of_ne (list : graph.Components components) {component : List String}
    (listed : component ∈ components) {a b : String} (first : a ∈ component)
    (second : b ∈ component) (different : a ≠ b) : TransGen graph.Reads a a := by
  obtain ⟨out, back⟩ := (list.connected component listed a first b).mp second
  rcases Relation.reflTransGen_iff_eq_or_transGen.mp out with rfl | out
  · exact absurd rfl different
  · exact out.trans_left back

theorem Components.mem_knotted_iff (list : graph.Components components) :
    id ∈ (components.filter graph.isKnotted).flatten ↔ TransGen graph.Reads id id := by
  simp only [List.mem_flatten, List.mem_filter, isKnotted, Bool.or_eq_true, decide_eq_true_eq,
    Option.any_eq_true, List.contains_iff_mem, mem_producers_iff_reads]
  constructor
  · rintro ⟨component, ⟨listed, several | ⟨first, head, reads⟩⟩, member⟩
    · have distinct : component.Nodup :=
        (List.nodup_flatten.mp (list.covers.nodup_iff.mpr nodup_ids)).1 component listed
      -- each of two members needs the other, so both are on a cycle
      obtain ⟨other, inside, different⟩ : ∃ other ∈ component, id ≠ other := by
        by_contra! same
        have bound : component.length ≤ [id].length := Schedule.length_le_of_inside distinct
          fun other inside => List.mem_singleton.mpr (same other inside).symm
        exact absurd several (Nat.not_lt.mpr bound)
      exact list.cycle_of_ne listed member inside different
    · -- the first member reads from itself, and whatever else the component has is on a cycle too
      by_cases same : id = first
      · subst same
        exact .single reads
      · exact list.cycle_of_ne listed member (List.mem_of_mem_head? head) same
  · intro cycle
    obtain ⟨component, listed, member⟩ :=
      List.mem_flatten.mp (list.covers.mem_iff.mpr (mem_ids_of_cycle cycle))
    refine ⟨component, ⟨listed, ?_⟩, member⟩
    by_cases several : 1 < component.length
    · exact .inl several
    · -- the component is the node alone, and what the node reads from on its cycle is in it
      obtain ⟨only, rfl⟩ := List.length_eq_one_iff.mp
        (Nat.le_antisymm (Nat.not_lt.mp several) (List.length_pos_of_mem member))
      obtain ⟨next, reads, back⟩ := TransGen.head'_iff.mp cycle
      have inside := (list.connected _ listed id member next).mpr ⟨.single reads, back⟩
      rw [List.mem_singleton] at member inside
      subst member inside
      exact .inr ⟨next, rfl, reads⟩

theorem Diagnosis.leastKnot?_eq (diagnosis : graph.Diagnosis blamed remaining)
    (list : graph.Components components) : graph.leastKnot? components = some blamed := by
  have sorted : Ascending.Sorted NodeId.compare
      (NodeId.ascending (components.filter graph.isKnotted).flatten) :=
    Ascending.sorted_ofList _
  rw [leastKnot?, sorted.head?_eq_some_iff]
  simp only [NodeId.mem_ascending, list.mem_knotted_iff]
  exact ⟨diagnosis.onCycle, diagnosis.least⟩

/-- Whether lists are the strongly connected components can be told from what the nodes need. -/
theorem components_of_needs (covers : components.flatten.Perm graph.ids)
    (connected : ∀ component ∈ components, ∀ a ∈ component, ∀ b ∈ graph.ids, b ∈ component ↔
      b = a ∨ b ∈ Edges.needs graph.edges a ∧ a ∈ Edges.needs graph.edges b) :
    graph.Components components := by
  refine ⟨covers, fun component listed a first b => ?_⟩
  have inside (id : String) (member : id ∈ component) : id ∈ graph.ids :=
    covers.mem_iff.mp (List.mem_flatten_of_mem listed member)
  simp only [Relation.reflTransGen_iff_eq_or_transGen, transGen_reads_iff, ← Edges.mem_needs_iff]
  constructor
  · intro member
    rcases (connected component listed a first b (inside b member)).mp member with rfl | both
    · exact ⟨.inl rfl, .inl rfl⟩
    · exact ⟨.inr both.1, .inr both.2⟩
  · rintro ⟨same | out, same' | back⟩
    · exact same ▸ first
    · exact same ▸ first
    · exact same' ▸ first
    · obtain ⟨_, -, edge, member, -, rfl⟩ := TransGen.tail'_iff.mp (Edges.mem_needs_iff.mp back)
      exact (connected component listed a first _ (consumer_mem_ids member)).mpr (.inr ⟨out, back⟩)

end

/-- A graph is refused just with its diagnosis: all nodes that are on a cycle or read from one,
strictly ascending, and the least of those on a cycle. That node is also the least in those strongly
connected components that have several nodes, or one that reads from itself. -/
theorem executionOrder_diagnosed (graph : Graph) :
    (∀ refusal, graph.executionOrder = .error refusal ↔
      ∃ blamed remaining, refusal = .unorderable blamed remaining ∧
        graph.Diagnosis blamed remaining) ∧
    ∀ components, graph.Components components → ∀ blamed remaining,
      graph.executionOrder = .error (.unorderable blamed remaining) →
      graph.leastKnot? components = some blamed := by
  refine ⟨fun refusal => executionOrder_eq_error_iff, ?_⟩
  intro components list blamed remaining refused
  obtain ⟨_, _, same, diagnosis⟩ := executionOrder_eq_error_iff.mp refused
  cases same
  exact diagnosis.leastKnot?_eq list

/-- A node that reads from itself, two that read from each other, nodes before and behind them, and
one that reads from a node that does not exist. -/
def knotted : Graph :=
  let reading (producers : List String) : Node :=
    { Node.ofClass "Add" with
      inputs := Keyed.ofList (producers.map fun producer => (producer, .wired ⟨producer, 0⟩)) }
  ⟨Keyed.ofList [("3", reading ["2", "self"]), ("self", reading ["self"]), ("2", reading ["10"]),
    ("10", reading ["9", "1"]), ("9", reading ["10"]), ("1", reading []), ("7", reading ["gone"])]⟩

theorem executionOrder_diagnosed_knotted :
    knotted.executionOrder = .error (.unorderable "9" ["2", "3", "9", "10", "self"]) ∧
    knotted.Diagnosis "9" ["2", "3", "9", "10", "self"] ∧
    knotted.leastKnot? [["3"], ["self"], ["2"], ["9", "10"], ["1"], ["7"]] = some "9" := by
  have refused : knotted.executionOrder =
      .error (.unorderable "9" ["2", "3", "9", "10", "self"]) := by decide
  have list : knotted.Components [["3"], ["self"], ["2"], ["9", "10"], ["1"], ["7"]] :=
    components_of_needs (by decide) (by decide)
  obtain ⟨refused_iff, least⟩ := executionOrder_diagnosed knotted
  obtain ⟨_, _, same, diagnosis⟩ := (refused_iff _).mp refused
  cases same
  exact ⟨refused, diagnosis, least _ list _ _ refused⟩

end Graph

end Flowgraph
