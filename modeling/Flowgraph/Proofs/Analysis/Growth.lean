import Flowgraph.Analysis
import Flowgraph.Catalogue.Core
import Flowgraph.Proofs.Binary64
import Flowgraph.Proofs.Schedule.Depth

/-!
# Complexity and growth

A workflow grows by nodes and connections. Nodes and connections may come anywhere, and a connection
that led nowhere leads to a node when that node comes, so the order in which the nodes run can
change throughout. The chains of the smaller graph are still chains of the larger, though, and that
is what depth is about.

Main result: `complexity_grows`.
-/
namespace Flowgraph

open Edges (Feeds Acyclic)
open Relation (TransGen)

/-- The place of a level among the levels. -/
def ComplexityLevel.rank : ComplexityLevel → Nat
  | simple => 0
  | moderate => 1
  | complex => 2

namespace Complexity

/-- In nothing that is said about it, the one is above the other. -/
structure AtMost (c d : Complexity) : Prop where
  nodes : c.nodes ≤ d.nodes
  connections : c.connections ≤ d.connections
  depth : c.depth ≤ d.depth
  custom : c.custom ≤ d.custom
  /-- The weighted sum, in halves. -/
  halves : c.halves ≤ d.halves
  level : c.level.rank ≤ d.level.rank

variable {c d : Complexity}

theorem rank_level (c : Complexity) :
    c.level.rank = if 150 ≤ c.halves then 2 else if 50 ≤ c.halves then 1 else 0 := by
  rw [level, apply_ite ComplexityLevel.rank, apply_ite ComplexityLevel.rank]
  rfl

theorem AtMost.of_counts (nodes : c.nodes ≤ d.nodes) (connections : c.connections ≤ d.connections)
    (depth : c.depth ≤ d.depth) (custom : c.custom ≤ d.custom) : c.AtMost d := by
  have halves : c.halves ≤ d.halves := by
    unfold Complexity.halves
    omega
  have level : c.level.rank ≤ d.level.rank := by
    rw [rank_level, rank_level]
    split_ifs <;> omega
  exact ⟨nodes, connections, depth, custom, halves, level⟩

theorem AtMost.halves_lt (most : c.AtMost d)
    (more : c.nodes < d.nodes ∨ c.connections < d.connections) : c.halves < d.halves := by
  have nodes := most.nodes
  have connections := most.connections
  have depth := most.depth
  have custom := most.custom
  unfold Complexity.halves
  omega

/-- Below 2⁵³ halves nothing of the sum is rounded away. -/
theorem score_exact (small : c.halves < 2 * Binary64.fractions) :
    c.score.negative = false ∧ c.score.units * 2 = c.halves * Binary64.unitsInOne := by
  obtain ⟨x, half⟩ := Binary64.exists_units_eq_half small
  have score : c.score = { x with negative := false } := by
    rw [Complexity.score, score_eq_halves small, Binary64.nearest?_of_units_eq (by decide) half,
      Option.getD_some]
  rw [score]
  exact ⟨rfl, half.symm⟩

end Complexity

namespace Graph

/-- The wired inputs, each by its node and its name. -/
def wiredInputs (graph : Graph) : List (String × String) :=
  graph.links.map fun link => (link.consumer, link.input)

/-- Every node of a graph is there in the other with its class, and every connection at the same
input and from the same node. -/
structure PartOf (graph larger : Graph) : Prop where
  nodes : ∀ entry ∈ graph.entries, ∃ node, larger.get? entry.1 = some node ∧
    node.classType = entry.2.classType
  links : ∀ link ∈ graph.links, ∃ source, ⟨link.consumer, link.input, source⟩ ∈ larger.links ∧
    source.node = link.source.node

/-- There is a node or a connection that the other does not have. -/
def HasMore (larger graph : Graph) : Prop :=
  (∃ id ∈ larger.ids, id ∉ graph.ids) ∨
    ∃ input ∈ larger.wiredInputs, input ∉ graph.wiredInputs

variable {graph larger : Graph}

theorem length_wiredInputs : graph.wiredInputs.length = graph.linkCount := by
  rw [wiredInputs, List.length_map, linkCount_eq]

namespace PartOf

variable (part : graph.PartOf larger)
include part

theorem ids_subset : graph.ids ⊆ larger.ids := by
  intro id member
  obtain ⟨node, held⟩ := Keyed.exists_of_mem_keys member
  obtain ⟨_, found, -⟩ := part.nodes (id, node) (Keyed.get?_eq_some_iff.mp held)
  exact Keyed.mem_keys_of_get? found

theorem wiredInputs_subset : graph.wiredInputs ⊆ larger.wiredInputs := by
  intro input member
  obtain ⟨link, inside, rfl⟩ := List.mem_map.mp member
  obtain ⟨source, kept, -⟩ := part.links link inside
  exact List.mem_map.mpr ⟨_, kept, rfl⟩

theorem feeds {producer consumer : String} (feeds : Feeds graph.edges producer consumer) :
    Feeds larger.edges producer consumer := by
  obtain ⟨edge, member, rfl, rfl⟩ := feeds
  obtain ⟨inside, source, link, leads⟩ := mem_edges_iff.mp member
  obtain ⟨other, kept, same⟩ := part.links _ link
  exact ⟨edge, mem_edges_iff.mpr ⟨part.ids_subset inside, other, kept, same.trans leads⟩, rfl, rfl⟩

theorem acyclic (acyclic : Acyclic larger.edges) : Acyclic graph.edges :=
  fun id cycle => acyclic id (TransGen.mono (fun _ _ => part.feeds) id id cycle)

theorem chainLengths_subset :
    graph.chainLengths (· ∈ graph.ids) ⊆ larger.chainLengths (· ∈ larger.ids) := by
  rintro n ⟨chain, inside, reads, length⟩
  rw [reads_eq] at reads
  refine ⟨chain, fun id member => part.ids_subset (inside id member), ?_, length⟩
  rw [reads_eq]
  exact reads.imp fun _ _ => part.feeds

/-- Without cycles in the larger graph both depths are those of a longest chain. -/
theorem longestChain_le (acyclic : Acyclic larger.edges) :
    graph.longestChain ≤ larger.longestChain :=
  (isGreatest_longestChain_of_acyclic (part.acyclic acyclic)).mono
    (isGreatest_longestChain_of_acyclic acyclic) part.chainLengths_subset

theorem length_filter_isCustom_le (catalogue : Catalogue) :
    (graph.entries.filter fun entry => isCustom catalogue entry.2).length ≤
      (larger.entries.filter fun entry => isCustom catalogue entry.2).length := by
  have distinct : ((graph.entries.filter fun entry => isCustom catalogue entry.2).map
      Prod.fst).Nodup := nodup_ids.sublist (List.filter_sublist.map _)
  have subset : ((graph.entries.filter fun entry => isCustom catalogue entry.2).map Prod.fst) ⊆
      (larger.entries.filter fun entry => isCustom catalogue entry.2).map Prod.fst := by
    intro id member
    obtain ⟨⟨_, node⟩, custom, rfl⟩ := List.mem_map.mp member
    obtain ⟨inside, custom⟩ := List.mem_filter.mp custom
    obtain ⟨kept, found, same⟩ := part.nodes _ inside
    -- whether a node is custom is a matter of its class
    rw [isCustom, ← same] at custom
    exact List.mem_map.mpr ⟨_, List.mem_filter.mpr ⟨Keyed.get?_eq_some_iff.mp found, custom⟩, rfl⟩
  simpa only [List.length_map] using distinct.length_le_of_subset subset

theorem complexity_atMost (catalogue : Catalogue) (acyclic : Acyclic larger.edges) :
    (graph.complexity catalogue).AtMost (larger.complexity catalogue) := by
  refine .of_counts ?nodes ?connections ?depth ?custom
  case nodes =>
    change graph.size ≤ larger.size
    rw [size_eq_length_ids, size_eq_length_ids]
    exact nodup_ids.length_le_of_subset part.ids_subset
  case connections =>
    change graph.linkCount ≤ larger.linkCount
    rw [← length_wiredInputs, ← length_wiredInputs]
    exact graph.nodup_links_inputs.length_le_of_subset part.wiredInputs_subset
  case depth => exact part.longestChain_le acyclic
  case custom => exact part.length_filter_isCustom_le catalogue

theorem size_lt_or_linkCount_lt (more : larger.HasMore graph) :
    graph.size < larger.size ∨ graph.linkCount < larger.linkCount := by
  rcases more with ⟨id, there, fresh⟩ | ⟨input, there, fresh⟩
  · refine .inl ?_
    rw [size_eq_length_ids, size_eq_length_ids]
    exact (List.nodup_cons.mpr ⟨fresh, nodup_ids⟩).length_le_of_subset
      (List.cons_subset.mpr ⟨there, part.ids_subset⟩)
  · refine .inr ?_
    rw [← length_wiredInputs, ← length_wiredInputs]
    exact (List.nodup_cons.mpr ⟨fresh, graph.nodup_links_inputs⟩).length_le_of_subset
      (List.cons_subset.mpr ⟨there, part.wiredInputs_subset⟩)

end PartOf

/-- What grows without cycles grows in complexity: nothing that is measured becomes less, and the
weighted sum becomes more when a node or a connection is added. The score is that sum exactly, below
2⁵³ halves. -/
theorem complexity_grows (catalogue : Catalogue) (part : graph.PartOf larger)
    (acyclic : Acyclic larger.edges) :
    (graph.complexity catalogue).AtMost (larger.complexity catalogue) ∧
    (larger.HasMore graph →
      (graph.complexity catalogue).halves < (larger.complexity catalogue).halves) ∧
    ∀ c : Complexity, c.halves < 2 * Binary64.fractions →
      c.score.negative = false ∧ c.score.units * 2 = c.halves * Binary64.unitsInOne := by
  have most := part.complexity_atMost catalogue acyclic
  refine ⟨most, fun more => ?_, fun c => Complexity.score_exact⟩
  exact most.halves_lt (part.size_lt_or_linkCount_lt more)

/-- A sampler whose model is missing. -/
def unfinished : Graph := ⟨.ofList [
  ("1", { Node.ofClass "KSampler" with inputs := .ofList [("model", .wired ⟨"2", 0⟩)] })]⟩

/-- The model is there, behind the sampler that reads another of its slots, and made of one more
node. -/
def finished : Graph := ⟨.ofList [
  ("3", Node.ofClass "CheckpointLoaderSimple"),
  ("1", { Node.ofClass "KSampler" with inputs := .ofList [("model", .wired ⟨"2", 1⟩)] }),
  ("2", { Node.ofClass "Patch" with inputs := .ofList [("model", .wired ⟨"3", 0⟩)] })]⟩

theorem complexity_grows_finished :
    (unfinished.complexity .core).AtMost (finished.complexity .core) ∧
    unfinished.complexity .core = ⟨1, 1, 1, 0⟩ ∧ finished.complexity .core = ⟨3, 2, 3, 1⟩ ∧
    (unfinished.complexity .core).halves < (finished.complexity .core).halves ∧
    (finished.complexity .core).score.units * 2 = 26 * Binary64.unitsInOne := by
  have part : unfinished.PartOf finished := by
    constructor
    case nodes =>
      intro entry member
      rw [List.mem_singleton.mp member]
      exact ⟨_, rfl, rfl⟩
    case links =>
      intro link member
      rw [List.mem_singleton.mp member]
      exact ⟨⟨"2", 1⟩, by decide, rfl⟩
  have acyclic : Acyclic finished.edges :=
    exists_executionOrder_iff.mp ⟨["3", "2", "1"], by decide⟩
  have more : finished.HasMore unfinished := .inl ⟨"3", by decide, by decide⟩
  have sum : (finished.complexity .core).halves = 26 := by decide
  obtain ⟨most, strict, exactly⟩ := complexity_grows .core part acyclic
  obtain ⟨-, score⟩ := exactly (finished.complexity .core) (by rw [sum]; decide)
  exact ⟨most, by decide, by decide, strict more, sum ▸ score⟩

end Graph

end Flowgraph
