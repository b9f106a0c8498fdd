import Mathlib.Data.Set.Finite.List
import Mathlib.Order.WellFounded
import Flowgraph.Proofs.Schedule.Greedy

/-!
# The execution order

An order of the nodes is an execution order if every producer stands before its consumers. There
is one exactly if no node needs itself, and then the greedy run is the least of them, element by
element under the order of ids.

Main result: `executionOrder_least`.
-/
namespace Flowgraph

open Edges (Feeds Acyclic)
open Relation (ReflTransGen TransGen)

/-- All nodes, each once, with every producer before its consumers. -/
structure Orders (ids : List String) (edges : List Edge) (order : List String) : Prop where
  perm : order.Perm ids
  producerFirst : ∀ edge ∈ edges, order.idxOf edge.producer < order.idxOf edge.consumer

/-- Places go up along every path. -/
theorem Orders.idxOf_lt {ids : List String} {edges : List Edge} {order : List String}
    (orders : Orders ids edges order) {a b : String} (path : TransGen (Feeds edges) a b) :
    order.idxOf a < order.idxOf b := by
  induction path with
  | single feeds =>
    obtain ⟨edge, member, rfl, rfl⟩ := feeds
    exact orders.producerFirst edge member
  | tail path feeds ih =>
    obtain ⟨edge, member, rfl, rfl⟩ := feeds
    exact Nat.lt_trans ih (orders.producerFirst edge member)

namespace Schedule

variable {ids : List String} {edges : List Edge} {before order : List String}

theorem acyclic_of_orders (orders : Orders ids edges order) : Acyclic edges :=
  fun _ cycle => Nat.lt_irrefl _ (orders.idxOf_lt cycle)

/-- A greedy run of all nodes is an execution order. -/
theorem Greedy.orders (greedy : Greedy ids edges [] order)
    (endpoints : ∀ edge ∈ edges, edge.consumer ∈ ids) (all : ids.length ≤ order.length) :
    Orders ids edges order := by
  have distinct : order.Nodup := by simpa using greedy.nodup List.nodup_nil
  have perm : order.Perm ids :=
    (List.subperm_of_subset distinct greedy.inside).perm_of_length_le all
  refine ⟨perm, ?_⟩
  intro edge member
  exact (greedy.idxOf_lt ⟨edge, member, rfl, rfl⟩
    (perm.mem_iff.mpr (endpoints edge member))).2

/-- Of finitely many nodes one is fed by none of the others, unless one of them needs itself. -/
theorem exists_unfed {left : List String}
    (acyclic : ∀ id ∈ left, ¬ TransGen (Feeds edges) id id) (some_left : left ≠ []) :
    ∃ id ∈ left, ∀ other ∈ left, ¬ Feeds edges other id := by
  -- needing is transitive and, without a cycle, irreflexive, so on a finite type it is well-founded
  let Left := {id : String // id ∈ left}
  have : Finite Left := (List.finite_toSet left).to_subtype
  let Needs : Left → Left → Prop := fun a b => TransGen (Feeds edges) a.1 b.1
  have : IsTrans Left Needs := ⟨fun _ _ _ first second => first.trans second⟩
  have : Std.Irrefl Needs := ⟨fun id => acyclic id.1 id.2⟩
  obtain ⟨first, rest, rfl⟩ := List.exists_cons_of_ne_nil some_left
  obtain ⟨least, -, minimal⟩ := (Finite.wellFounded_of_trans_of_irrefl Needs).has_min Set.univ
    ⟨⟨first, List.mem_cons_self⟩, trivial⟩
  refine ⟨least.1, least.2, ?_⟩
  intro other member feeds
  exact minimal ⟨other, member⟩ trivial (.single feeds)

/-- A node that never runs needs a node that needs itself, or is one. -/
theorem Greedy.exists_cycle (greedy : Greedy ids edges [] order)
    (producers : ∀ edge ∈ edges, edge.producer ∈ ids) {id : String} (member : id ∈ ids)
    (unrun : id ∉ order) :
    ∃ knot, TransGen (Feeds edges) knot knot ∧ ReflTransGen (Feeds edges) knot id := by
  classical
  by_contra! acyclic
  -- of the nodes that never run and that this one needs, take one that is fed by none of them
  let left := ids.filter fun other => other ∉ order ∧ ReflTransGen (Feeds edges) other id
  have mem_left (other : String) : other ∈ left ↔
      other ∈ ids ∧ other ∉ order ∧ ReflTransGen (Feeds edges) other id := by simp [left]
  have here : id ∈ left := (mem_left id).mpr ⟨member, unrun, .refl⟩
  have acyclic_left (other : String) (inside : other ∈ left) :
      ¬ TransGen (Feeds edges) other other :=
    fun cycle => acyclic other cycle ((mem_left other).mp inside).2.2
  obtain ⟨next, leftNext, unfed⟩ := exists_unfed acyclic_left (List.ne_nil_of_mem here)
  obtain ⟨inside, unrunNext, path⟩ := (mem_left next).mp leftNext
  -- all that feeds it has run, so it could have run next
  apply greedy.ended next
  refine ⟨inside, by simpa using unrunNext, ?_⟩
  intro producer feeds
  rw [List.nil_append]
  by_contra unrunProducer
  obtain ⟨edge, edgeMember, rfl, consumer⟩ := Edges.mem_producers_iff.mp feeds
  have feeds : Feeds edges edge.producer next := ⟨edge, edgeMember, rfl, consumer⟩
  exact unfed edge.producer
    ((mem_left _).mpr ⟨producers edge edgeMember, unrunProducer, path.head feeds⟩) feeds

/-- Without a cycle, a greedy run takes in all nodes. -/
theorem Greedy.length_le (greedy : Greedy ids edges [] order) (distinct : ids.Nodup)
    (producers : ∀ edge ∈ edges, edge.producer ∈ ids) (acyclic : Acyclic edges) :
    ids.length ≤ order.length := by
  apply length_le_of_inside distinct
  intro id member
  by_contra unrun
  obtain ⟨knot, cycle, -⟩ := greedy.exists_cycle producers member unrun
  exact acyclic knot cycle

/-- In an execution order, what comes next can run. -/
theorem canRun_of_orders {node : String} {rest : List String}
    (orders : Orders ids edges (before ++ node :: rest)) (distinct : ids.Nodup) :
    CanRun ids edges before node := by
  have nodup : (before ++ node :: rest).Nodup := orders.perm.nodup_iff.mpr distinct
  have unrun : node ∉ before := fun ran =>
    (List.nodup_append.mp nodup).2.2 node ran node List.mem_cons_self rfl
  refine ⟨orders.perm.mem_iff.mp (by simp), unrun, ?_⟩
  intro producer feeds
  obtain ⟨edge, inside, rfl, rfl⟩ := Edges.mem_producers_iff.mp feeds
  have place := orders.producerFirst edge inside
  rw [List.idxOf_append_of_notMem unrun, List.idxOf_cons_self, Nat.add_zero] at place
  -- a producer outside `before` would stand no earlier than the node
  by_contra outside
  rw [List.idxOf_append_of_notMem outside] at place
  omega

/-- A greedy run comes before every execution order that begins with the same nodes: where the two
part, the other has taken a node that could run, and the greedy run the least of these. -/
theorem Greedy.compareLex_isLE {other : List String} (greedy : Greedy ids edges before order)
    (distinct : ids.Nodup) (orders : Orders ids edges (before ++ other)) :
    (List.compareLex NodeId.compare order other).isLE := by
  induction order generalizing before other with
  | nil => cases other <;> rfl
  | cons node rest ih =>
    obtain ⟨can, least, onward⟩ := greedy
    cases other with
    | nil =>
      have ran : node ∈ before := by simpa using orders.perm.mem_iff.mpr can.1
      exact absurd ran can.2.1
    | cons node' rest' =>
      -- the other order takes a node that could run here too, so the greedy one is not above it
      have below := least node' (canRun_of_orders orders distinct)
      rw [List.compareLex_cons_cons]
      cases compared : NodeId.compare node node' with
      | lt => rfl
      | eq =>
        have same := NodeId.eq_of_compare_eq compared
        subst same
        exact ih onward (by simpa using orders)
      | gt => simp [compared] at below

end Schedule

namespace Graph

theorem greedy_runnable (graph : Graph) :
    Schedule.Greedy graph.ids graph.edges [] graph.runnable :=
  Schedule.greedy_runnable fun _ => consumer_mem_ids

theorem size_eq_length_ids (graph : Graph) : graph.size = graph.ids.length := by
  simp [size, ids, Keyed.size, Keyed.keys]

theorem executionOrder_eq_ok_iff {graph : Graph} {order : List String} :
    graph.executionOrder = .ok order ↔
      graph.size ≤ graph.runnable.length ∧ graph.runnable = order := by
  simp only [executionOrder]
  split
  · next short => simp [short]
  · next long => simp [Nat.not_lt.mp long]

theorem size_le_runnable_iff {graph : Graph} :
    graph.size ≤ graph.runnable.length ↔ Acyclic graph.edges := by
  rw [size_eq_length_ids]
  constructor
  · intro all
    exact Schedule.acyclic_of_orders
      (graph.greedy_runnable.orders (fun _ => consumer_mem_ids) all)
  · intro acyclic
    exact graph.greedy_runnable.length_le nodup_ids (fun _ => producer_mem_ids) acyclic

theorem exists_executionOrder_iff {graph : Graph} :
    (∃ order, graph.executionOrder = .ok order) ↔ Acyclic graph.edges := by
  rw [← size_le_runnable_iff]
  constructor
  · rintro ⟨order, ordered⟩
    exact (executionOrder_eq_ok_iff.mp ordered).1
  · intro all
    exact ⟨_, executionOrder_eq_ok_iff.mpr ⟨all, rfl⟩⟩

theorem runnable_congr {graph other : Graph} (nodes : ∀ id, id ∈ graph.ids ↔ id ∈ other.ids)
    (feeds : ∀ a b, Feeds graph.edges a b ↔ Feeds other.edges a b) :
    graph.runnable = other.runnable :=
  (graph.greedy_runnable.congr nodes feeds).unique other.greedy_runnable

/-- What is said about a graph that cannot be ordered depends on the nodes and on which of them
feed which, as does the order of one that can. -/
theorem executionOrder_congr {graph other : Graph} (nodes : ∀ id, id ∈ graph.ids ↔ id ∈ other.ids)
    (feeds : ∀ a b, Feeds graph.edges a b ↔ Feeds other.edges a b) :
    graph.executionOrder = other.executionOrder := by
  -- the run, its length, the cycles and the listed ids each depend on these facts alone
  have runnable := runnable_congr nodes feeds
  have size : graph.size = other.size := by
    rw [size_eq_length_ids, size_eq_length_ids]
    exact ((List.perm_ext_iff_of_nodup nodup_ids nodup_ids).mpr nodes).length_eq
  have related : Feeds graph.edges = Feeds other.edges := by
    funext a b
    exact propext (feeds a b)
  have onCycle : Edges.onCycle graph.edges = Edges.onCycle other.edges := by
    funext id
    apply Bool.eq_iff_iff.mpr
    rw [Edges.onCycle_iff, Edges.onCycle_iff, related]
  have listed : NodeId.ascending graph.ids = NodeId.ascending other.ids :=
    Ascending.ofList_eq_of_mem_iff nodes
  have remaining : NodeId.ascending (graph.ids.filter fun id => !other.runnable.contains id) =
      NodeId.ascending (other.ids.filter fun id => !other.runnable.contains id) := by
    apply Ascending.ofList_eq_of_mem_iff
    intro id
    simp [nodes]
  simp only [executionOrder, unorderable, runnable, size, onCycle, listed, remaining]

theorem orders_of_executionOrder {graph : Graph} {order : List String}
    (ordered : graph.executionOrder = .ok order) : Orders graph.ids graph.edges order := by
  obtain ⟨all, rfl⟩ := executionOrder_eq_ok_iff.mp ordered
  exact graph.greedy_runnable.orders (fun _ => consumer_mem_ids) (size_eq_length_ids graph ▸ all)

/-- All nodes of a graph, each once, and each behind those that it reads from. -/
structure RunsIn (graph : Graph) (order : List String) : Prop where
  perm : order.Perm graph.ids
  producerFirst : ∀ consumer producer, graph.Reads consumer producer →
    order.idxOf producer < order.idxOf consumer

theorem runsIn_iff {graph : Graph} {order : List String} :
    graph.RunsIn order ↔ Orders graph.ids graph.edges order := by
  constructor
  · rintro ⟨perm, first⟩
    refine ⟨perm, fun edge member => first edge.consumer edge.producer ?_⟩
    exact feeds_edges_iff.mp ⟨edge, member, rfl, rfl⟩
  · rintro ⟨perm, first⟩
    refine ⟨perm, fun consumer producer reads => ?_⟩
    obtain ⟨edge, member, rfl, rfl⟩ := feeds_edges_iff.mpr reads
    exact first edge member

/-- A graph has an execution order exactly if no chain of inputs leads from a node back to itself.
The order is then the least of all orders in which each node stands behind those that it reads from,
and the nodes and which of them read from which determine it. -/
theorem executionOrder_least (graph : Graph) :
    ((∃ order, graph.executionOrder = .ok order) ↔ ∀ id, ¬ TransGen graph.Reads id id) ∧
    (∀ order, graph.executionOrder = .ok order →
      graph.RunsIn order ∧
      ∀ other, graph.RunsIn other →
        (List.compareLex NodeId.compare order other).isLE = true) ∧
    (∀ other : Graph, (∀ id, id ∈ graph.ids ↔ id ∈ other.ids) →
      (∀ a b, graph.Reads a b ↔ other.Reads a b) →
      graph.executionOrder = other.executionOrder) := by
  refine ⟨exists_executionOrder_iff.trans acyclic_iff_reads, ?_, ?_⟩
  · intro order ordered
    refine ⟨runsIn_iff.mpr (orders_of_executionOrder ordered), fun other orders => ?_⟩
    obtain ⟨-, rfl⟩ := executionOrder_eq_ok_iff.mp ordered
    exact graph.greedy_runnable.compareLex_isLE nodup_ids (runsIn_iff.mp orders)
  · intro other nodes reads
    refine executionOrder_congr nodes fun a b => ?_
    rw [feeds_edges_iff, feeds_edges_iff]
    exact reads b a

/-- Two nodes read from one, the first of them twice; the second also reads from a given node, which
need not exist and may be itself. -/
def braided (given : String) : Graph :=
  ⟨.ofList [("10", .reading [("a", "9"), ("b", "9")]), ("2", .reading [("a", "9"), ("b", given)]),
    ("9", .reading [])]⟩

theorem executionOrder_least_braided :
    (braided "gone").executionOrder = .ok ["9", "2", "10"] ∧
    (braided "gone").RunsIn ["9", "10", "2"] ∧
    (List.compareLex NodeId.compare ["9", "2", "10"] ["9", "10", "2"]).isLE = true ∧
    (braided "2").Reads "2" "2" ∧ ¬ ∃ order, (braided "2").executionOrder = .ok order := by
  have ordered : (braided "gone").executionOrder = .ok ["9", "2", "10"] := by decide
  have other : (braided "gone").RunsIn ["9", "10", "2"] := runsIn_iff.mpr ⟨by decide, by decide⟩
  have own : (braided "2").Reads "2" "2" := ⟨by decide, _, "b", ⟨"2", 0⟩, rfl, rfl, rfl⟩
  obtain ⟨-, least, -⟩ := executionOrder_least (braided "gone")
  refine ⟨ordered, other, (least _ ordered).2 _ other, own, ?_⟩
  rw [(executionOrder_least (braided "2")).1]
  exact fun acyclic => acyclic "2" (.single own)

end Graph

end Flowgraph
