import Mathlib.Algebra.BigOperators.Group.List.Lemmas
import Flowgraph.Proofs.Analysis
import Flowgraph.Proofs.Keyed.Gathered

/-!
# Counting the connections of a graph

The statistics, the table of suppliers, the edges with the issues, and the usage of the output
slots go over the wired inputs of a graph each in its own way. Each of them meets every wired input
once: those whose source is a node make the edges and the usage, the others make the issues.

Main result: `Graph.counts_agree`.
-/
namespace Flowgraph

theorem sum_count_of_mem_iff {α : Type} [DecidableEq α] {distinct l : List α}
    (once : distinct.Nodup) (same : ∀ x, x ∈ distinct ↔ x ∈ l) :
    (distinct.map fun x => l.count x).sum = l.length := by
  have perm : distinct.Perm l.dedup :=
    (List.perm_ext_iff_of_nodup once (List.nodup_dedup l)).mpr fun x => by rw [same, List.mem_dedup]
  rw [(perm.map _).sum_eq, List.sum_map_count_dedup_eq_length]

/-- Whether an input is wired. -/
def Input.isWired : Input → Bool
  | .wired _ => true
  | .constant _ => false

theorem Node.length_links (node : Node) :
    node.links.length = node.inputs.entries.countP fun input => input.2.isWired := by
  rw [links, List.length_filterMap_eq_countP]
  refine List.countP_congr fun input _ => ?_
  obtain ⟨name, wired | constant⟩ := input <;> rfl

namespace Graph

/-- The inputs of a node that are wired to a node of an id. -/
def inputsFrom (node : Node) (id : String) : List String :=
  (node.links.filter fun link => link.2.node = id).map Prod.fst

theorem suppliers_eq (node : Node) : suppliers node =
    node.links.foldl (Keyed.gather (fun link => link.2.node) (fun _ => [])
      fun names link => names ++ [link.1]) .empty := rfl

theorem get?_suppliers (node : Node) (id : String) : (suppliers node).get? id =
    if inputsFrom node id = [] then none else some (inputsFrom node id) := by
  have names (links : List (String × Source)) :
      links.foldl (fun names link => names ++ [link.1]) [] = links.map Prod.fst := by
    rw [List.foldl_append_eq_append, List.nil_append, ← List.flatMap_def, List.map_eq_flatMap]
  rw [suppliers_eq, Keyed.get?_foldl_gather_empty, names]
  simp only [inputsFrom, List.map_eq_nil_iff]

variable {catalogue : Catalogue} {graph : Graph} {node : Node}

theorem mem_keys_suppliers {id : String} :
    id ∈ (suppliers node).keys ↔ id ∈ node.links.map fun link => link.2.node := by
  rw [suppliers_eq, Keyed.keys_foldl_gather]
  exact List.mem_eraseDups

/-- How many names the lists of a collection hold together. -/
def nameCount (table : Keyed (List String)) : Nat := (table.values.map List.length).sum

theorem nameCount_suppliers (node : Node) : nameCount (suppliers node) = node.links.length := by
  -- under each producer stand as many names as there are links from it
  have names (id : String) : (((suppliers node).get? id).getD []).length =
      (node.links.map fun link => link.2.node).count id := by
    have count : (node.links.map fun link => link.2.node).count id =
        (inputsFrom node id).length := by
      rw [inputsFrom, List.length_map, List.count, List.countP_map, List.countP_eq_length_filter]
      exact congrArg _ (List.filter_congr fun _ _ => rfl)
    rw [get?_suppliers, count]
    split
    · next none_read => rw [none_read, Option.getD_none]
    · rw [Option.getD_some]
  have once : (suppliers node).keys.Nodup := (suppliers node).distinct
  rw [nameCount, Keyed.values_eq_map_keys _ [], List.map_map]
  simp only [Function.comp_def, names]
  rw [sum_count_of_mem_iff once fun id => mem_keys_suppliers, List.length_map]

/-- How many inputs are wired, over the inputs of all nodes. -/
def wiredCount (graph : Graph) : Nat :=
  (graph.entries.map fun entry =>
    entry.2.inputs.entries.countP fun input => input.2.isWired).sum

theorem length_links : graph.links.length = graph.wiredCount := by
  simp only [links, wiredCount, List.length_flatMap, List.length_map, Node.length_links]

theorem linkCount_eq_wiredCount : graph.linkCount = graph.wiredCount := by
  rw [linkCount_eq, length_links]

theorem total_connectionStats : graph.connectionStats.total = graph.wiredCount := by
  rw [connectionStats_eq, linkCount_eq_wiredCount]

theorem sum_nameCount_supplierTable :
    (graph.supplierTable.map fun entry => nameCount entry.2).sum = graph.wiredCount := by
  rw [supplierTable, List.map_map, wiredCount]
  simp only [Function.comp_def, nameCount_suppliers, Node.length_links]

theorem length_edges_add_length_issues :
    graph.edges.length + graph.issues.length = graph.wiredCount := by
  simp only [edges, issues, List.length_map]
  rw [← length_links]
  exact (List.length_eq_length_filter_add _).symm

theorem usage_eq_map : graph.connectionStats.usage =
    (Ascending.ofList Source.compare graph.readSlots).map fun source =>
      ⟨source, graph.readSlots.count source⟩ := by
  rw [connectionStats_eq]

theorem map_source_usage (graph : Graph) : graph.connectionStats.usage.map OutputUsage.source =
    Ascending.ofList Source.compare graph.readSlots := by
  rw [usage_eq_map, List.map_map]
  exact List.map_id _

theorem length_readSlots : graph.readSlots.length = graph.edges.length := by
  simp only [readSlots, edges, List.length_map, List.filter_map, Function.comp_def]

theorem sum_consumers_usage :
    (graph.connectionStats.usage.map OutputUsage.consumers).sum = graph.edges.length := by
  have once : (Ascending.ofList Source.compare graph.readSlots).Nodup :=
    (Ascending.sorted_ofList graph.readSlots).nodup
  rw [usage_eq_map, List.map_map, ← length_readSlots]
  exact sum_count_of_mem_iff once fun _ => Ascending.mem_ofList_iff

theorem mem_readSlots_iff {source : Source} : source ∈ graph.readSlots ↔
    source.node ∈ graph.ids ∧ ∃ link ∈ graph.links, link.source = source := by
  simp only [readSlots, List.mem_filter, List.mem_map, has_iff]
  exact and_comm

theorem count_readSlots {source : Source} (member : source ∈ graph.readSlots) :
    graph.readSlots.count source =
      (graph.links.filter fun link => link.source = source).length := by
  have there : graph.has source.node = true := has_iff.mpr (mem_readSlots_iff.mp member).1
  rw [readSlots, List.count_filter (p := fun source : Source => graph.has source.node) there,
    List.count, List.countP_map, List.countP_eq_length_filter]
  exact congrArg _ (List.filter_congr fun _ _ => rfl)

theorem dependencies?_of_supplierTable {id : String} {table : Keyed (List String)}
    (member : (id, table) ∈ graph.supplierTable) :
    ∃ producers, graph.dependencies? id = some producers ∧
      Ascending.Sorted NodeId.compare producers ∧
      ∀ other, other ∈ producers ↔ other ∈ table.keys ∧ other ∈ graph.ids := by
  obtain ⟨⟨own, node⟩, inside, same⟩ := List.mem_map.mp member
  obtain ⟨rfl, rfl⟩ := Prod.mk.inj same
  have found : graph.get? own = some node := Keyed.get?_eq_some_iff.mpr inside
  have there : graph.has own = true := has_iff.mpr (Keyed.mem_keys_of_get? found)
  refine ⟨_, if_pos there, Ascending.sorted_ofList _, fun other => ?_⟩
  rw [NodeId.mem_ascending, Edges.mem_producers_iff, feeds_edges_iff, mem_keys_suppliers]
  simp only [found, Option.some.injEq, List.mem_map, Prod.exists, Node.mem_links_iff]
  constructor
  · rintro ⟨inside, _, name, source, rfl, wired, leads⟩
    exact ⟨⟨name, source, wired, leads⟩, inside⟩
  · rintro ⟨⟨name, source, wired, leads⟩, inside⟩
    exact ⟨inside, node, name, source, rfl, wired, leads⟩

/-- The output slots of nodes of the graph that are read, each with how often it is read. -/
structure UsageExact (graph : Graph) (usage : List OutputUsage) : Prop where
  slots : ∀ source, source ∈ usage.map OutputUsage.source ↔
    source.node ∈ graph.ids ∧ ∃ link ∈ graph.links, link.source = source
  /-- The slots ascend by node and then by number, so none stands twice. -/
  ascending : (usage.map OutputUsage.source).Pairwise fun a b => Source.compare a b = .lt
  consumers : ∀ use ∈ usage,
    use.consumers = (graph.links.filter fun link => link.source = use.source).length
  total : (usage.map OutputUsage.consumers).sum = graph.edges.length

theorem usageExact_usage (graph : Graph) : graph.UsageExact graph.connectionStats.usage := by
  have sources := graph.map_source_usage
  constructor
  case slots =>
    intro source
    rw [sources, Ascending.mem_ofList_iff, mem_readSlots_iff]
  case ascending =>
    rw [sources]
    exact Ascending.sorted_ofList graph.readSlots
  case consumers =>
    intro use member
    rw [usage_eq_map] at member
    obtain ⟨source, listed, rfl⟩ := List.mem_map.mp member
    exact count_readSlots (Ascending.mem_ofList_iff.mp listed)
  case total => exact sum_consumers_usage

/-- What has to be said about the connections of a graph alike, however they are counted. -/
structure CountsAgree (catalogue : Catalogue) (graph : Graph) : Prop where
  total : (graph.analyze catalogue).connections.total = graph.wiredCount
  links : graph.links.length = graph.wiredCount
  linkCount : graph.linkCount = graph.wiredCount
  suppliers : (graph.supplierTable.map fun entry => nameCount entry.2).sum = graph.wiredCount
  edges : graph.edges.length + (graph.analyze catalogue).issues.length = graph.wiredCount
  usage : graph.UsageExact (graph.analyze catalogue).connections.usage
  /-- Each node has its entry in the table of suppliers. -/
  tabled : graph.supplierTable.map Prod.fst = graph.ids
  /-- The direct producers of a node are those of its suppliers that are there, ascending. -/
  dependencies : ∀ id table, (id, table) ∈ graph.supplierTable →
    ∃ producers, graph.dependencies? id = some producers ∧
      producers.Pairwise (fun a b => NodeId.compare a b = .lt) ∧
      ∀ other, other ∈ producers ↔ other ∈ table.keys ∧ other ∈ graph.ids

/-- However the connections of a graph are counted, each is counted once. -/
theorem counts_agree (catalogue : Catalogue) (graph : Graph) : graph.CountsAgree catalogue where
  total := total_connectionStats
  links := length_links
  linkCount := linkCount_eq_wiredCount
  suppliers := sum_nameCount_supplierTable
  edges := length_edges_add_length_issues
  usage := graph.usageExact_usage
  tabled := by
    rw [supplierTable, List.map_map]
    rfl
  dependencies _ _ member := dependencies?_of_supplierTable member

/-- A node reads one slot twice, itself, and a node that does not exist. -/
def shared : Graph :=
  let reader := Node.reading [("a", "1"), ("b", "1"), ("c", "2"), ("d", "gone")]
  ⟨.ofList [("1", .ofClass "Noise"), ("2", reader.withInput "e" (.constant .null))]⟩

theorem counts_agree_shared : shared.CountsAgree .core ∧ shared.wiredCount = 4 ∧
    shared.edges.length = 3 ∧ shared.issues.length = 1 ∧
    shared.connectionStats.usage = [⟨⟨"1", 0⟩, 2⟩, ⟨⟨"2", 0⟩, 1⟩] ∧
    shared.dependencies? "2" = some ["1", "2"] := by
  refine ⟨counts_agree .core shared, by decide, by decide, by decide, ?_, by decide⟩
  rw [usage_eq_map]
  decide

end Graph

end Flowgraph
