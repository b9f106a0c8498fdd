import Flowgraph.Catalogue.Core
import Flowgraph.Proofs.Cleaning.Runs
import Flowgraph.Proofs.Graph.Alike

/-!
# Cleaning and the order of nodes

Where an input leads depends on the nodes and on what their inputs are wired to, not on the order in
which nodes and inputs stand. So a graph in another order is cleaned to the same nodes with the same
inputs, and the same is noted of it, in some order.

Main result: `run_reordered`.
-/
namespace Flowgraph

/-- The same node with its inputs in any order. -/
structure Node.Reordered (node other : Node) : Prop where
  classType : node.classType = other.classType
  outputs : node.outputs = other.outputs
  info : node.info = other.info
  inputs : ∀ name, node.inputs.get? name = other.inputs.get? name

/-- The same nodes under the same ids, in any order. -/
structure Graph.Reordered (graph other : Graph) : Prop where
  ids : ∀ id, id ∈ graph.ids ↔ id ∈ other.ids
  nodes : ∀ id node node', graph.get? id = some node → other.get? id = some node' →
    node.Reordered node'

namespace Node.Reordered

variable {node other : Node}

theorem alike (same : node.Reordered other) : node.Alike other :=
  .of_get? same.classType same.inputs

/-- Two orders of the wired inputs are the same if there is only one. -/
theorem links_cases (same : node.Reordered other) :
    (∃ link, node.links = [link] ∧ other.links = [link]) ∨
      node.links.length ≠ 1 ∧ other.links.length ≠ 1 := by
  by_cases one : node.links.length = 1
  · obtain ⟨link, single⟩ := List.length_eq_one_iff.mp one
    have others := same.alike.links_perm
    rw [single] at others
    exact .inl ⟨link, single, (List.singleton_perm.mp others).symm⟩
  · exact .inr ⟨one, same.alike.links_perm.length_eq ▸ one⟩

end Node.Reordered

namespace Graph

variable {graph : Graph}

namespace Reordered

variable {other : Graph}

theorem get?_cases (same : graph.Reordered other) (id : String) :
    graph.get? id = none ∧ other.get? id = none ∨
      ∃ node node', graph.get? id = some node ∧ other.get? id = some node' ∧
        node.Reordered node' := by
  cases found : graph.get? id with
  | none =>
    have absent : id ∉ other.ids := (same.ids id).not.mp (Keyed.get?_eq_none_iff.mp found)
    exact .inl ⟨rfl, Keyed.get?_eq_none_iff.mpr absent⟩
  | some node =>
    obtain ⟨node', found'⟩ :=
      Keyed.exists_of_mem_keys ((same.ids id).mp (Keyed.mem_keys_of_get? found))
    exact .inr ⟨node, node', rfl, found', same.nodes id node node' found found'⟩

theorem alike (same : graph.Reordered other) : graph.Alike other := by
  intro id
  change Option.Rel Node.Alike (graph.get? id) (other.get? id)
  rcases same.get?_cases id with ⟨absent, absent'⟩ | ⟨node, node', found, found', nodes⟩
  · rw [absent, absent']
    exact .none
  · rw [found, found']
    exact .some nodes.alike

theorem routing?_eq (same : graph.Reordered other) (catalogue : Catalogue) (id : String) :
    graph.routing? catalogue id = other.routing? catalogue id := by
  rw [routing?, routing?]
  rcases same.get?_cases id with ⟨absent, absent'⟩ | ⟨node, node', found, found', nodes⟩
  · rw [absent, absent']
  · rw [found, found', Option.map_some, Option.map_some, nodes.classType]

theorem follow_eq (same : graph.Reordered other) (catalogue : Catalogue) (fed : String) (fuel : Nat)
    (visited : List String) (current : String) :
    graph.follow catalogue fed fuel visited current =
      other.follow catalogue fed fuel visited current := by
  induction fuel generalizing visited current with
  | zero => rfl
  | succ fuel ih =>
    rcases same.get?_cases current with ⟨absent, absent'⟩ | ⟨node, node', found, found', nodes⟩
    · simp only [follow, absent, absent']
    · rcases nodes.links_cases with ⟨⟨input, source⟩, single, single'⟩ | ⟨several, several'⟩
      · rw [follow_of_single found single, follow_of_single found' single', same.routing?_eq,
          nodes.classType, ih]
      · rw [follow_of_notSingle found several, follow_of_notSingle found' several', nodes.classType]

theorem feed_eq (same : graph.Reordered other) (catalogue : Catalogue) (relay : String) :
    graph.feed catalogue relay = other.feed catalogue relay := by
  rw [feed, feed, same.alike.size_eq, same.follow_eq]

theorem trace_eq (same : graph.Reordered other) (catalogue : Catalogue) (source : Source) :
    graph.trace catalogue source = other.trace catalogue source := by
  simp only [trace, same.routing?_eq, same.feed_eq, same.alike.has_eq]

theorem cleanInput_eq (same : graph.Reordered other) (catalogue : Catalogue) (input : Input) :
    graph.cleanInput catalogue input = other.cleanInput catalogue input := by
  cases input with
  | constant value => rfl
  | wired source => simp only [cleanInput, same.trace_eq]

theorem unfedRelay?_eq (same : graph.Reordered other) (catalogue : Catalogue) (id : String) :
    graph.unfedRelay? catalogue id = other.unfedRelay? catalogue id := by
  simp only [unfedRelay?, same.routing?_eq, same.feed_eq]

theorem brokenLink?_eq (same : graph.Reordered other) (catalogue : Catalogue) (link : Link) :
    graph.brokenLink? catalogue link = other.brokenLink? catalogue link := by
  simp only [brokenLink?, stays, same.routing?_eq, same.trace_eq]
  rfl

theorem clean (same : graph.Reordered other) (catalogue : Catalogue) :
    (graph.clean catalogue).graph.Reordered (other.clean catalogue).graph := by
  refine ⟨fun id => ?_, fun id after after' kept kept' => ?_⟩
  · rw [mem_ids_clean, mem_ids_clean, same.routing?_eq]
  · have member := Keyed.mem_keys_of_get? kept
    obtain ⟨node, found, -⟩ := routing?_eq_some_iff.mp (mem_ids_clean.mp member)
    have member' := Keyed.mem_keys_of_get? kept'
    obtain ⟨node', found', -⟩ := routing?_eq_some_iff.mp (mem_ids_clean.mp member')
    have nodes := same.nodes id node node' found found'
    rw [eq_of_get?_clean found kept, eq_of_get?_clean found' kept']
    refine ⟨nodes.classType, nodes.outputs, nodes.info, fun name => ?_⟩
    rw [Keyed.get?_filterMap, Keyed.get?_filterMap, nodes.inputs]
    congr 1
    funext input
    exact same.cleanInput_eq catalogue input

theorem removed_eq (same : graph.Reordered other) (catalogue : Catalogue) :
    (graph.clean catalogue).removed = (other.clean catalogue).removed := by
  have removed_iff (graph : Graph) (id : String) : id ∈ (graph.clean catalogue).removed ↔
      id ∈ graph.ids ∧ graph.routing? catalogue id ≠ some .ordinary := by
    rw [mem_removed_iff_not_mem, mem_ids_clean]
  refine (Ascending.sorted_ofList _).eq_of_mem_iff (Ascending.sorted_ofList _) fun id => ?_
  change id ∈ (graph.clean catalogue).removed ↔ id ∈ (other.clean catalogue).removed
  rw [removed_iff, removed_iff, same.ids, same.routing?_eq]

theorem anomalies_perm (same : graph.Reordered other) (catalogue : Catalogue) :
    (graph.clean catalogue).anomalies.Perm (other.clean catalogue).anomalies := by
  change (graph.unfedRelays catalogue ++ graph.brokenLinks catalogue).Perm
    (other.unfedRelays catalogue ++ other.brokenLinks catalogue)
  rw [unfedRelays_eq, unfedRelays_eq, brokenLinks_eq, brokenLinks_eq,
    funext (same.unfedRelay?_eq catalogue), funext (same.brokenLink?_eq catalogue)]
  exact (same.alike.ids_perm.filterMap _).append (same.alike.links_perm.filterMap _)

end Reordered

/-- Graphs are the same in another order if their entries are, and the entries of each node. -/
theorem reordered_of_perm {other : Graph} (ids : graph.ids.Perm other.ids)
    (nodes : ∀ entry ∈ graph.entries, ∀ entry' ∈ other.entries, entry.1 = entry'.1 →
      entry.2.classType = entry'.2.classType ∧ entry.2.outputs = entry'.2.outputs ∧
      entry.2.info = entry'.2.info ∧ entry.2.inputs.entries.Perm entry'.2.inputs.entries) :
    graph.Reordered other := by
  refine ⟨fun id => ids.mem_iff, fun id node node' found found' => ?_⟩
  obtain ⟨classType, outputs, info, inputs⟩ := nodes (id, node) (Keyed.get?_eq_some_iff.mp found)
    (id, node') (Keyed.get?_eq_some_iff.mp found') rfl
  exact ⟨classType, outputs, info, Keyed.get?_eq_of_perm inputs⟩

end Graph

/-- Cleaners that hold whatever outcomes clean a graph and its reordering alike. -/
theorem run_reordered (catalogue : Catalogue) {graph other : Graph} (same : graph.Reordered other)
    (cleaner cleaner' : Cleaning) :
    cleaner.run catalogue graph = graph.clean catalogue ∧
    cleaner'.run catalogue other = other.clean catalogue ∧
    (cleaner.run catalogue graph).graph.Reordered (cleaner'.run catalogue other).graph ∧
    (cleaner.run catalogue graph).removed = (cleaner'.run catalogue other).removed ∧
    (cleaner.run catalogue graph).anomalies.Perm (cleaner'.run catalogue other).anomalies := by
  have cleaned := run_eq_clean catalogue cleaner graph
  have cleaned' := run_eq_clean catalogue cleaner' other
  refine ⟨cleaned, cleaned', ?_⟩
  rw [cleaned, cleaned']
  exact ⟨same.clean catalogue, same.removed_eq catalogue, same.anomalies_perm catalogue⟩

/-- Two relays in a row, a relay that nothing feeds, and an input that leads nowhere. -/
def relayed : Graph := ⟨.ofList [
  ("1", Node.ofClass "VAELoader"),
  ("2", (Node.ofClass "Reroute").withInput "in" (.wired ⟨"1", 0⟩)),
  ("3", (Node.ofClass "Reroute").withInput "in" (.wired ⟨"2", 0⟩)),
  ("4", ((Node.ofClass "VAEDecode").withInput "vae" (.wired ⟨"3", 0⟩)).withInput "samples"
    (.wired ⟨"gone", 1⟩)),
  ("5", Node.ofClass "Reroute")]⟩

/-- The nodes of `relayed` and the inputs of its decoder from last to first. -/
def relayedBack : Graph := ⟨.ofList [
  ("5", Node.ofClass "Reroute"),
  ("4", ((Node.ofClass "VAEDecode").withInput "samples" (.wired ⟨"gone", 1⟩)).withInput "vae"
    (.wired ⟨"3", 0⟩)),
  ("3", (Node.ofClass "Reroute").withInput "in" (.wired ⟨"2", 0⟩)),
  ("2", (Node.ofClass "Reroute").withInput "in" (.wired ⟨"1", 0⟩)),
  ("1", Node.ofClass "VAELoader")]⟩

theorem run_reordered_relayed :
    let cleaner := Cleaning.none.run .core relayed
    (cleaner.run .core relayedBack).removed = ["2", "3", "5"] ∧
    (cleaner.run .core relayedBack).anomalies.Perm
      [.brokenLink "4" "samples" "gone", .unfedRelay "5" "Reroute"] ∧
    (Cleaning.none.run .core relayed).graph.Reordered (cleaner.run .core relayedBack).graph := by
  have same : relayed.Reordered relayedBack := Graph.reordered_of_perm (by decide) (by decide)
  obtain ⟨first, -, graphs, removed, anomalies⟩ :=
    run_reordered .core same .none (Cleaning.none.run .core relayed)
  refine ⟨removed.symm.trans ?_, anomalies.symm.trans ?_, graphs⟩
  · rw [first]
    decide
  · rw [first]
    decide

end Flowgraph
