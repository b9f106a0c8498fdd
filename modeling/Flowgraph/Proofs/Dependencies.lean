import Mathlib.Data.List.Basic
import Mathlib.Logic.Relation
import Flowgraph.Edges
import Flowgraph.Proofs.Links

/-!
# Dependencies as a relation

Edges make a relation between nodes; what a node needs, directly or through others, is its
transitive closure. Exploring pops one node at a time, and a node is expanded once, so the fuel
only has to cover what is on the list and the edges of the nodes that are not yet expanded.

Main result: `mem_needs_iff` and `onCycle_iff` say that exploring finds exactly this closure.
-/
namespace Flowgraph

namespace Edges

open Relation (TransGen ReflTransGen)

/-- A node reads from another. -/
def Feeds (edges : List Edge) (producer consumer : String) : Prop :=
  ∃ edge ∈ edges, edge.producer = producer ∧ edge.consumer = consumer

/-- No node needs itself. -/
def Acyclic (edges : List Edge) : Prop := ∀ id, ¬ TransGen (Feeds edges) id id

section

variable {edges : List Edge} {id producer : String}

theorem mem_producers_iff : producer ∈ producers edges id ↔ Feeds edges producer id := by
  simp only [producers, Feeds, List.mem_map, List.mem_filter, decide_eq_true_eq]
  constructor
  · rintro ⟨edge, ⟨member, consumer⟩, producer⟩
    exact ⟨edge, member, producer, consumer⟩
  · rintro ⟨edge, member, producer, consumer⟩
    exact ⟨edge, ⟨member, consumer⟩, producer⟩

theorem mem_consumers_iff : id ∈ consumers edges producer ↔ Feeds edges producer id := by
  simp only [consumers, Feeds, List.mem_map, List.mem_filter, decide_eq_true_eq, and_assoc]

theorem count_consumers :
    (consumers edges producer).count id = (producers edges id).count producer := by
  simp only [consumers, producers, List.count, List.countP_map, List.countP_filter]
  apply List.countP_congr
  intro edge _
  simp [and_comm]

/-- How many edges lead to nodes that are not yet expanded. -/
def unexpanded (edges : List Edge) (seen : List String) : Nat :=
  (edges.filter fun edge => edge.consumer ∉ seen).length

theorem unexpanded_cons (edges : List Edge) {seen : List String} (fresh : id ∉ seen) :
    (producers edges id).length + unexpanded edges (id :: seen) = unexpanded edges seen := by
  simp only [producers, unexpanded, List.length_map, List.mem_cons]
  induction edges with
  | nil => rfl
  | cons edge rest ih =>
    simp only [List.filter_cons]
    -- an edge leads to the node itself, to an expanded node, or to one that is still not expanded
    by_cases own : edge.consumer = id
    · simp only [own, fresh, true_or, not_true_eq_false, not_false_eq_true, decide_true,
        decide_false, Bool.false_eq_true, if_true, if_false, List.length_cons]
      omega
    · by_cases old : edge.consumer ∈ seen
      · simpa [own, old] using ih
      · simp only [own, old, or_self, not_false_eq_true, decide_true, decide_false,
          Bool.false_eq_true, if_true, if_false, List.length_cons]
        omega

/-- What is found holds all that was to be looked at, and with a node all its producers. -/
theorem explore_closed {fuel : Nat} {todo seen : List String}
    (enough : todo.length + unexpanded edges seen ≤ fuel)
    (closed : ∀ x ∈ seen, ∀ y ∈ producers edges x, y ∈ seen ∨ y ∈ todo) :
    (∀ x, x ∈ seen ∨ x ∈ todo → x ∈ explore (producers edges) fuel todo seen) ∧
      ∀ x ∈ explore (producers edges) fuel todo seen, ∀ y ∈ producers edges x,
        y ∈ explore (producers edges) fuel todo seen := by
  fun_induction explore (producers edges) fuel todo seen with
  | case1 todo seen =>
    -- the fuel covers the list, so without fuel the list is empty
    have none_left : todo = [] := List.length_eq_zero_iff.mp (by omega)
    subst none_left
    simpa using closed
  | case2 fuel seen => simpa using closed
  | case3 fuel x todo seen old ih =>
    -- an expanded node at the head of the list is already among the found ones
    have onward := ih (by simp only [List.length_cons] at enough; omega) (by
      intro y member z feeds
      rcases closed y member z feeds with inside | later
      · exact Or.inl inside
      · rcases List.mem_cons.mp later with rfl | later
        · exact Or.inl old
        · exact Or.inr later)
    refine ⟨?_, onward.2⟩
    rintro y (inside | later)
    · exact onward.1 y (Or.inl inside)
    · rcases List.mem_cons.mp later with rfl | later
      · exact onward.1 y (Or.inl old)
      · exact onward.1 y (Or.inr later)
  | case4 fuel x todo seen fresh ih =>
    -- expanding moves the edges that lead to the node from the unexpanded ones to the list
    have expanded := unexpanded_cons edges fresh
    have onward := ih (by
        simp only [List.length_cons, List.length_append] at enough ⊢
        omega) (by
      intro y member z feeds
      rcases List.mem_cons.mp member with rfl | member
      · exact Or.inr (List.mem_append_left _ feeds)
      · rcases closed y member z feeds with inside | later
        · exact Or.inl (List.mem_cons_of_mem _ inside)
        · rcases List.mem_cons.mp later with rfl | later
          · exact Or.inl List.mem_cons_self
          · exact Or.inr (List.mem_append_right _ later))
    refine ⟨?_, onward.2⟩
    rintro y (inside | later)
    · exact onward.1 y (Or.inl (List.mem_cons_of_mem _ inside))
    · rcases List.mem_cons.mp later with rfl | later
      · exact onward.1 y (Or.inl List.mem_cons_self)
      · exact onward.1 y (Or.inr (List.mem_append_right _ later))

/-- Only what feeds something that was to be looked at is found. -/
theorem explore_sound {fuel : Nat} {todo seen : List String} {x : String}
    (found : x ∈ explore (producers edges) fuel todo seen) :
    x ∈ seen ∨ ∃ start ∈ todo, ReflTransGen (Feeds edges) x start := by
  fun_induction explore (producers edges) fuel todo seen with
  | case1 todo seen => exact Or.inl found
  | case2 fuel seen => exact Or.inl found
  | case3 fuel first todo seen old ih =>
    rcases ih found with inside | ⟨start, later, path⟩
    · exact Or.inl inside
    · exact Or.inr ⟨start, List.mem_cons_of_mem _ later, path⟩
  | case4 fuel first todo seen fresh ih =>
    rcases ih found with inside | ⟨start, later, path⟩
    · rcases List.mem_cons.mp inside with rfl | inside
      · exact Or.inr ⟨x, List.mem_cons_self, .refl⟩
      · exact Or.inl inside
    · rcases List.mem_append.mp later with feeds | later
      · exact Or.inr ⟨first, List.mem_cons_self, path.tail (mem_producers_iff.mp feeds)⟩
      · exact Or.inr ⟨start, List.mem_cons_of_mem _ later, path⟩

theorem mem_needs_iff : producer ∈ needs edges id ↔ TransGen (Feeds edges) producer id := by
  -- the first producers and the edges that lead to all nodes are within the fuel
  have enough : (producers edges id).length + unexpanded edges [] ≤ 2 * edges.length + 1 := by
    have few : (producers edges id).length ≤ edges.length := by
      simpa [producers] using List.length_filter_le _ edges
    simp only [unexpanded, List.not_mem_nil, not_false_eq_true, decide_true, List.filter_true]
    omega
  have closed := explore_closed enough (by simp)
  constructor
  · intro found
    rcases explore_sound found with inside | ⟨start, feeds, path⟩
    · simp at inside
    · exact .tail' path (mem_producers_iff.mp feeds)
  · intro path
    induction path using TransGen.head_induction_on with
    | single feeds => exact closed.1 _ (Or.inr (mem_producers_iff.mpr feeds))
    | head feeds path found => exact closed.2 _ found _ (mem_producers_iff.mpr feeds)

theorem onCycle_iff : onCycle edges id = true ↔ TransGen (Feeds edges) id id := by
  rw [onCycle, List.contains_iff_mem, mem_needs_iff]

end

end Edges

/-- A node that adds what its inputs read from the first slots of other nodes. -/
def Node.reading (inputs : List (String × String)) : Node :=
  { Node.ofClass "Add" with
    inputs := .ofList (inputs.map fun (name, producer) => (name, .wired ⟨producer, 0⟩)) }

namespace Graph

variable {graph : Graph}

theorem mem_edges_iff {edge : Edge} :
    edge ∈ graph.edges ↔ edge.producer ∈ graph.ids ∧
      ∃ source, ⟨edge.consumer, edge.input, source⟩ ∈ graph.links ∧
        source.node = edge.producer := by
  simp only [edges, List.mem_map, List.mem_filter, has_iff]
  constructor
  · rintro ⟨link, ⟨member, inside⟩, rfl⟩
    exact ⟨inside, link.source, member, rfl⟩
  · rintro ⟨inside, source, member, leads⟩
    refine ⟨_, ⟨member, leads ▸ inside⟩, ?_⟩
    rw [leads]

theorem producer_mem_ids {edge : Edge} (member : edge ∈ graph.edges) :
    edge.producer ∈ graph.ids :=
  (mem_edges_iff.mp member).1

theorem consumer_mem_ids {edge : Edge} (member : edge ∈ graph.edges) :
    edge.consumer ∈ graph.ids := by
  obtain ⟨_, source, link, _⟩ := mem_edges_iff.mp member
  obtain ⟨node, found, _⟩ := mem_links_iff.mp link
  exact Keyed.mem_keys_of_get? found

theorem nodup_ids : graph.ids.Nodup := graph.nodes.distinct

theorem feeds_edges_iff {producer consumer : String} :
    Edges.Feeds graph.edges producer consumer ↔ producer ∈ graph.ids ∧
      ∃ node name source, graph.get? consumer = some node ∧
        node.inputs.get? name = some (.wired source) ∧ source.node = producer := by
  constructor
  · rintro ⟨edge, member, rfl, rfl⟩
    obtain ⟨inside, source, link, leads⟩ := mem_edges_iff.mp member
    obtain ⟨node, found, wired⟩ := mem_links_iff.mp link
    exact ⟨inside, node, edge.input, source, found, wired, leads⟩
  · rintro ⟨inside, node, name, source, found, wired, leads⟩
    refine ⟨⟨producer, name, consumer⟩, mem_edges_iff.mpr ⟨inside, source, ?_, leads⟩, rfl, rfl⟩
    exact mem_links_iff.mpr ⟨node, found, wired⟩

/-- A node has an input that is wired to a node of the graph. -/
def Reads (graph : Graph) (consumer producer : String) : Prop :=
  producer ∈ graph.ids ∧ ∃ node name source, graph.get? consumer = some node ∧
    node.inputs.get? name = some (.wired source) ∧ source.node = producer

/-- Reading goes against the direction of feeding. -/
theorem reads_eq (graph : Graph) : graph.Reads = Function.swap (Edges.Feeds graph.edges) := by
  funext consumer producer
  exact propext feeds_edges_iff.symm

theorem mem_producers_iff_reads {consumer producer : String} :
    producer ∈ Edges.producers graph.edges consumer ↔ graph.Reads consumer producer := by
  rw [Edges.mem_producers_iff, feeds_edges_iff, Reads]

theorem transGen_reads_iff {a b : String} :
    Relation.TransGen graph.Reads a b ↔ Relation.TransGen (Edges.Feeds graph.edges) b a := by
  rw [reads_eq, Relation.transGen_swap]

theorem acyclic_iff_reads :
    Edges.Acyclic graph.edges ↔ ∀ id, ¬ Relation.TransGen graph.Reads id id :=
  forall_congr' fun _ => not_congr transGen_reads_iff.symm

theorem reflTransGen_reads_iff {a b : String} :
    Relation.ReflTransGen graph.Reads a b ↔
      Relation.ReflTransGen (Edges.Feeds graph.edges) b a := by
  rw [reads_eq, Relation.reflTransGen_swap]

theorem dependsOn_iff {a b : String} : graph.dependsOn a b = true ↔
    a ∈ graph.ids ∧ b ∈ graph.ids ∧ a ≠ b ∧ Relation.TransGen (Edges.Feeds graph.edges) b a := by
  simp only [dependsOn, Bool.and_eq_true, has_iff, bne_iff_ne, List.contains_iff_mem,
    Edges.mem_needs_iff, and_assoc]

end Graph

end Flowgraph
