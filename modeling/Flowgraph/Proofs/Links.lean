import Mathlib.Data.List.Nodup
import Flowgraph.Graph
import Flowgraph.Proofs.Keyed

/-!
# The links of a graph

Main result: `mem_links_iff` finds a link by looking up its consumer and its input, and
`links_filter_consumer` finds the links of one node among those of the graph, in their order.
-/
namespace Flowgraph

theorem Node.mem_links_iff {node : Node} {name : String} {source : Source} :
    (name, source) ∈ node.links ↔ node.inputs.get? name = some (.wired source) := by
  rw [Keyed.get?_eq_some_iff]
  simp only [Node.links, List.mem_filterMap]
  constructor
  · rintro ⟨⟨other, input⟩, member, image⟩
    cases input with
    | constant value => simp [Input.source?] at image
    | wired target =>
      obtain ⟨rfl, rfl⟩ : other = name ∧ target = source := by simpa [Input.source?] using image
      exact member
  · intro member
    exact ⟨_, member, rfl⟩

theorem Node.links_names_sublist (node : Node) :
    (node.links.map Prod.fst).Sublist node.inputs.keys := by
  simp only [Node.links, Keyed.keys]
  generalize node.inputs.entries = entries
  induction entries with
  | nil => simp
  | cons entry rest ih =>
    obtain ⟨name, input⟩ := entry
    cases input with
    | constant value => simpa [Input.source?] using ih.trans (List.sublist_cons_self _ _)
    | wired source => simpa [Input.source?] using ih

theorem Node.links_names_nodup (node : Node) : (node.links.map Prod.fst).Nodup :=
  node.inputs.distinct.sublist node.links_names_sublist

namespace Graph

variable {graph : Graph} {id : String} {node : Node}

theorem mem_links_iff {link : Link} :
    link ∈ graph.links ↔ ∃ node, graph.get? link.consumer = some node ∧
      node.inputs.get? link.input = some (.wired link.source) := by
  simp only [links, entries, List.mem_flatMap, List.mem_map]
  constructor
  · rintro ⟨⟨consumer, node⟩, member, ⟨input, source⟩, wired, rfl⟩
    exact ⟨node, Keyed.get?_eq_some_iff.mpr member, Node.mem_links_iff.mp wired⟩
  · rintro ⟨node, found, wired⟩
    exact ⟨_, Keyed.get?_eq_some_iff.mp found, _, Node.mem_links_iff.mpr wired, rfl⟩

theorem foldl_length_links (entries : List (String × Node)) (total : Nat) :
    entries.foldl (fun total entry => total + entry.2.links.length) total =
      total + (entries.flatMap fun entry => entry.2.links).length := by
  induction entries generalizing total with
  | nil => rfl
  | cons entry rest ih =>
    rw [List.foldl_cons, ih, List.flatMap_cons, List.length_append, Nat.add_assoc]

theorem linkCount_eq (graph : Graph) : graph.linkCount = graph.links.length := by
  rw [linkCount, Keyed.values, List.foldl_map]
  simp only [foldl_length_links, links, List.length_flatMap, List.length_map]
  exact Nat.zero_add _

/-- No input of a node is wired twice. -/
theorem nodup_links_inputs (graph : Graph) :
    (graph.links.map fun link => (link.consumer, link.input)).Nodup := by
  rw [links, List.map_flatMap, List.nodup_flatMap]
  constructor
  · rintro ⟨id, node⟩ -
    have names : node.links.map (fun link => (id, link.1)) =
        (node.links.map Prod.fst).map (Prod.mk id) := by
      rw [List.map_map]
      rfl
    rw [List.map_map]
    change (node.links.map fun link => (id, link.1)).Nodup
    rw [names]
    exact node.links_names_nodup.map fun _ _ equal => (Prod.mk.inj equal).2
  · -- nodes with different ids have no input in common
    refine (List.pairwise_map.mp graph.nodes.distinct).imp ?_
    rintro ⟨id, node⟩ ⟨other, late⟩ different key first second
    simp only [List.mem_map] at first second
    obtain ⟨link, ⟨_, -, rfl⟩, rfl⟩ := first
    obtain ⟨link, ⟨_, -, rfl⟩, same⟩ := second
    exact different (Prod.mk.inj same).1.symm

/-- What the nodes of a graph make, each for itself, falls apart again by the node that made it. -/
theorem filter_flatMap_entries {β : Type} (f : String → Node → List β) (owner : β → String)
    (owned : ∀ id node, ∀ item ∈ f id node, owner item = id) (found : graph.get? id = some node) :
    (graph.entries.flatMap fun entry => f entry.1 entry.2).filter (fun item => owner item = id) =
      f id node := by
  have member : (id, node) ∈ graph.nodes.entries := Keyed.get?_eq_some_iff.mp found
  have distinct := graph.nodes.distinct
  -- the induction is on the entries; that the node is among them and that no id stands
  -- twice are generalized with them
  rw [entries]
  generalize graph.nodes.entries = entries at member distinct
  induction entries with
  | nil => simp at member
  | cons entry rest ih =>
    obtain ⟨absent, later⟩ := List.nodup_cons.mp distinct
    rw [List.flatMap_cons, List.filter_append]
    rcases List.mem_cons.mp member with rfl | inside
    · -- the node itself: no later node has its id
      rw [List.filter_eq_self.mpr fun item first => by simpa using owned _ _ item first,
        List.filter_eq_nil_iff.mpr, List.append_nil]
      intro item inside
      obtain ⟨other, outside, inside⟩ := List.mem_flatMap.mp inside
      have different : other.1 ≠ id := fun equal =>
        absent (equal ▸ List.mem_map.mpr ⟨other, outside, rfl⟩)
      simpa [owned _ _ item inside] using different
    · have different : entry.1 ≠ id := fun equal =>
        absent (equal ▸ List.mem_map.mpr ⟨_, inside, rfl⟩)
      rw [ih inside later, List.filter_eq_nil_iff.mpr, List.nil_append]
      intro item first
      simpa [owned _ _ item first] using different

theorem links_filter_consumer (found : graph.get? id = some node) :
    graph.links.filter (fun link => link.consumer = id) =
      node.links.map fun link => ⟨id, link.1, link.2⟩ := by
  refine filter_flatMap_entries (fun id node => node.links.map fun link => ⟨id, link.1, link.2⟩)
    Link.consumer ?_ found
  intro consumer node link inside
  obtain ⟨_, _, rfl⟩ := List.mem_map.mp inside
  rfl

end Graph

end Flowgraph
