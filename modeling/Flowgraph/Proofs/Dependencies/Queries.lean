import Flowgraph.Proofs.Schedule.LeastOrder

/-!
# Asking for dependencies

The producers and the consumers of a node are read off the same edges, once from either end, so each
list says what the other does. What a node needs is reached by going from a node to its producers
again and again; in an execution order such a path goes back at every step, so without cycles
needing is a strict order.

Main result: `queries_agree`.
-/
namespace Flowgraph

namespace Graph

open Edges (Feeds)
open Relation (TransGen)

/-- A node is listed among the producers of another. -/
def ListsProducer (graph : Graph) (a b : String) : Prop :=
  ∃ producers, graph.dependencies? a = some producers ∧ b ∈ producers

/-- A node is listed among the consumers of another. -/
def ListsConsumer (graph : Graph) (a b : String) : Prop :=
  ∃ consumers, graph.dependents? a = some consumers ∧ b ∈ consumers

/-- What the answers to questions about dependencies say about each other. -/
structure QueriesAgree (graph : Graph) : Prop where
  /-- Each node has both lists, and they ascend strictly. -/
  listed : ∀ id ∈ graph.ids, ∃ producers consumers,
    graph.dependencies? id = some producers ∧ graph.dependents? id = some consumers ∧
    producers.Pairwise (fun a b => NodeId.compare a b = .lt) ∧
    consumers.Pairwise (fun a b => NodeId.compare a b = .lt)
  /-- A node's producers are the nodes to which its inputs are wired. -/
  wired : ∀ a b, graph.ListsProducer a b ↔ graph.Reads a b
  converse : ∀ a b, graph.ListsProducer a b ↔ graph.ListsConsumer b a
  /-- A node needs those that are reached from it from one list of producers to the next. -/
  reached : ∀ a b, a ≠ b → (graph.dependsOn a b = true ↔ TransGen graph.ListsProducer a b)
  ordered : ∀ order, graph.executionOrder = .ok order → ∀ a b, graph.dependsOn a b = true →
    a ∈ order ∧ b ∈ order ∧ order.idxOf b < order.idxOf a
  strict : ∀ order, graph.executionOrder = .ok order →
    IsStrictOrder String fun a b => graph.dependsOn a b = true

variable {graph : Graph} {a b : String} {order : List String}

theorem listsProducer_iff : graph.ListsProducer a b ↔ Feeds graph.edges b a := by
  simp only [ListsProducer, dependencies?, Option.ite_none_right_eq_some, Option.some.injEq]
  constructor
  · rintro ⟨_, ⟨-, rfl⟩, member⟩
    exact Edges.mem_producers_iff.mp (NodeId.mem_ascending.mp member)
  · rintro ⟨edge, inside, rfl, rfl⟩
    refine ⟨_, ⟨has_iff.mpr (consumer_mem_ids inside), rfl⟩, ?_⟩
    exact NodeId.mem_ascending.mpr (Edges.mem_producers_iff.mpr ⟨edge, inside, rfl, rfl⟩)

theorem listsConsumer_iff : graph.ListsConsumer a b ↔ Feeds graph.edges a b := by
  simp only [ListsConsumer, dependents?, Option.ite_none_right_eq_some, Option.some.injEq]
  constructor
  · rintro ⟨_, ⟨-, rfl⟩, member⟩
    exact Edges.mem_consumers_iff.mp (NodeId.mem_ascending.mp member)
  · rintro ⟨edge, inside, rfl, rfl⟩
    refine ⟨_, ⟨has_iff.mpr (producer_mem_ids inside), rfl⟩, ?_⟩
    exact NodeId.mem_ascending.mpr (Edges.mem_consumers_iff.mpr ⟨edge, inside, rfl, rfl⟩)

theorem transGen_listsProducer_iff :
    TransGen graph.ListsProducer a b ↔ TransGen (Feeds graph.edges) b a := by
  have related : graph.ListsProducer = Function.swap (Feeds graph.edges) := by
    funext a b
    exact propext listsProducer_iff
  rw [related, Relation.transGen_swap]

theorem dependsOn_iff_transGen (different : a ≠ b) :
    graph.dependsOn a b = true ↔ TransGen graph.ListsProducer a b := by
  rw [dependsOn_iff, transGen_listsProducer_iff]
  constructor
  · rintro ⟨-, -, -, path⟩
    exact path
  · intro path
    -- the first and the last edge of the path have their ends in the graph
    obtain ⟨_, ⟨first, inside, producer, -⟩, -⟩ := TransGen.head'_iff.mp path
    obtain ⟨_, -, last, inside', -, consumer⟩ := TransGen.tail'_iff.mp path
    exact ⟨consumer ▸ consumer_mem_ids inside', producer ▸ producer_mem_ids inside, different, path⟩

theorem idxOf_lt_of_dependsOn (orders : Orders graph.ids graph.edges order)
    (needs : graph.dependsOn a b = true) :
    a ∈ order ∧ b ∈ order ∧ order.idxOf b < order.idxOf a := by
  obtain ⟨first, second, -, path⟩ := dependsOn_iff.mp needs
  exact ⟨orders.perm.mem_iff.mpr first, orders.perm.mem_iff.mpr second, orders.idxOf_lt path⟩

theorem isStrictOrder_dependsOn (orders : Orders graph.ids graph.edges order) :
    IsStrictOrder String fun a b => graph.dependsOn a b = true where
  irrefl a needs := Nat.lt_irrefl _ (idxOf_lt_of_dependsOn orders needs).2.2
  trans a b c needs onward := by
    obtain ⟨-, -, first⟩ := idxOf_lt_of_dependsOn orders needs
    obtain ⟨-, -, second⟩ := idxOf_lt_of_dependsOn orders onward
    -- the last node stands before the first, so it is another one
    have different : a ≠ c := by
      rintro rfl
      exact Nat.lt_asymm first second
    obtain ⟨inside, -, -, path⟩ := dependsOn_iff.mp needs
    obtain ⟨-, inside', -, path'⟩ := dependsOn_iff.mp onward
    exact dependsOn_iff.mpr ⟨inside, inside', different, path'.trans path⟩

/-- Whatever is asked about the dependencies of a graph, the answers agree with each other, and with
the execution order if there is one. -/
theorem queries_agree (graph : Graph) : graph.QueriesAgree where
  listed id member := by
    have there : graph.has id = true := has_iff.mpr member
    exact ⟨_, _, if_pos there, if_pos there, Ascending.sorted_ofList _, Ascending.sorted_ofList _⟩
  wired _ _ := listsProducer_iff.trans feeds_edges_iff
  converse a b := by rw [listsProducer_iff, listsConsumer_iff]
  reached a b := dependsOn_iff_transGen
  ordered order ordered a b := idxOf_lt_of_dependsOn (orders_of_executionOrder ordered)
  strict order ordered := isStrictOrder_dependsOn (orders_of_executionOrder ordered)

/-- A node reads twice from another and also from one that does not exist, and a third reads from
it. What the second reads from is given. -/
def chained (given : String) : Graph :=
  ⟨.ofList [("2", .reading [("a", "10")]),
    ("10", .reading [("a", "1"), ("b", "1"), ("c", "gone")]), ("1", .reading [("a", given)])]⟩

theorem queries_agree_chained :
    (chained "gone").dependencies? "10" = some ["1"] ∧ (chained "gone").Reads "10" "1" ∧
    (chained "gone").executionOrder = .ok ["1", "10", "2"] ∧
    (chained "gone").dependsOn "2" "1" = true ∧
    ["1", "10", "2"].idxOf "1" < ["1", "10", "2"].idxOf "2" ∧
    (chained "2").dependsOn "1" "2" = true ∧ (chained "2").dependsOn "2" "1" = true ∧
    TransGen (chained "2").ListsProducer "1" "2" := by
  have listed : (chained "gone").dependencies? "10" = some ["1"] := by decide
  have ordered : (chained "gone").executionOrder = .ok ["1", "10", "2"] := by decide
  have needs : (chained "gone").dependsOn "2" "1" = true := by decide
  have around : (chained "2").dependsOn "1" "2" = true := by decide
  have agree := queries_agree (chained "gone")
  refine ⟨listed, (agree.wired "10" "1").mp ⟨_, listed, by decide⟩, ordered, needs,
    (agree.ordered _ ordered _ _ needs).2.2, around, by decide, ?_⟩
  exact ((queries_agree (chained "2")).reached "1" "2" (by decide)).mp around

end Graph

end Flowgraph
