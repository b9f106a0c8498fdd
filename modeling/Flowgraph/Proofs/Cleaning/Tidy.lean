import Flowgraph.Proofs.Cleaning.Anomalies

/-!
# Cleaning twice

A graph is tidy if it holds neither relays nor ornaments, and no input leads out of it. Cleaning
makes a graph tidy in one run, and has nothing to do for a graph that is tidy.

Main result: `run_twice`.
-/
namespace Flowgraph

/-- Nothing is left to clean. -/
structure Graph.Tidy (catalogue : Catalogue) (graph : Graph) : Prop where
  ordinary : ∀ id node, graph.get? id = some node → catalogue.routing node.classType = .ordinary
  closed : ∀ link ∈ graph.links, graph.has link.source.node = true

section

variable {catalogue : Catalogue} {graph : Graph}

theorem tidy_clean (catalogue : Catalogue) (graph : Graph) :
    (graph.clean catalogue).graph.Tidy catalogue where
  ordinary id after kept := by
    obtain ⟨before, found, stays⟩ :=
      routing?_eq_some_iff.mp (mem_ids_clean.mp (Keyed.mem_keys_of_get? kept))
    rw [eq_of_get?_clean found kept]
    exact stays
  closed _ := closed_clean

namespace Graph.Tidy

theorem routing?_of_has (tidy : graph.Tidy catalogue) {id : String} (present : graph.has id = true) :
    graph.routing? catalogue id = some .ordinary := by
  obtain ⟨node, found⟩ := Option.isSome_iff_exists.mp present
  rw [routing?_of_get? found, tidy.ordinary id node found]

/-- Every wired input leads to just the slot that it is wired to. -/
theorem trace_eq (tidy : graph.Tidy catalogue) {link : Link} (member : link ∈ graph.links) :
    graph.trace catalogue link.source = .kept link.source := by
  rw [trace, tidy.routing?_of_has (tidy.closed link member)]

theorem cleanNode_eq (tidy : graph.Tidy catalogue) {id : String} {node : Node}
    (found : graph.get? id = some node) : graph.cleanNode catalogue node = some node := by
  have inputs : (node.inputs.filterMap fun _ input => graph.cleanInput catalogue input) =
      node.inputs := by
    rw [← Keyed.filterMap_some node.inputs, Keyed.filterMap_filterMap]
    apply Keyed.filterMap_congr
    intro name input held
    cases input with
    | constant value => rfl
    | wired source =>
      have member : ⟨id, name, source⟩ ∈ graph.links := mem_links_iff.mpr ⟨node, found, held⟩
      simp only [Option.bind_some, cleanInput, tidy.trace_eq member]
  rw [cleanNode, tidy.ordinary id node found]
  simp only [inputs]

theorem removed_eq_nil (tidy : graph.Tidy catalogue) : (graph.clean catalogue).removed = [] := by
  refine List.eq_nil_iff_forall_not_mem.mpr fun id member => ?_
  obtain ⟨node, found, goes⟩ := mem_removed_iff.mp member
  exact goes (tidy.ordinary id node found)

theorem anomalies_eq_nil (tidy : graph.Tidy catalogue) :
    (graph.clean catalogue).anomalies = [] := by
  have blames (id : String) (member : id ∈ graph.ids) : graph.blame? catalogue id = none := by
    refine Option.eq_none_iff_forall_not_mem.mpr fun classType blamed => ?_
    have relay := (blame?_eq_some_iff.mp blamed).1
    rw [tidy.routing?_of_has (has_iff.mpr member)] at relay
    contradiction
  have losses (link : Link) (member : link ∈ graph.links) :
      graph.missing? catalogue link = none := by
    simp [missing?, tidy.trace_eq member]
  rw [anomalies_clean, List.append_eq_nil_iff, List.filterMap_eq_nil_iff,
    List.filterMap_eq_nil_iff]
  refine ⟨fun id member => ?_, fun link member => ?_⟩
  · rw [blames id member, Option.map_none]
  · rw [losses link member, Option.map_none]

theorem clean_eq (tidy : graph.Tidy catalogue) : graph.clean catalogue = ⟨graph, [], []⟩ := by
  have same : (graph.clean catalogue).graph = graph := by
    apply congrArg Graph.mk
    rw [← Keyed.filterMap_some graph.nodes, Keyed.filterMap_filterMap]
    exact Keyed.filterMap_congr fun _ _ found => tidy.cleanNode_eq found
  calc graph.clean catalogue
      = ⟨(graph.clean catalogue).graph, (graph.clean catalogue).removed,
          (graph.clean catalogue).anomalies⟩ := rfl
    _ = ⟨graph, [], []⟩ := by rw [same, tidy.removed_eq_nil, tidy.anomalies_eq_nil]

end Graph.Tidy

theorem clean_eq_self_iff :
    graph.clean catalogue = ⟨graph, [], []⟩ ↔ graph.Tidy catalogue := by
  constructor
  · intro same
    have tidy := tidy_clean catalogue graph
    rwa [same] at tidy
  · exact Graph.Tidy.clean_eq

end

/-- A graph that was cleaned is left as it is by every cleaner, the one that cleaned it among them,
and nothing is noted of it; as it is with the tidy graphs, and only with these. -/
theorem run_twice (catalogue : Catalogue) (cleaner other : Cleaning) (graph : Graph) :
    let cleaned := (cleaner.run catalogue graph).graph
    other.run catalogue cleaned = ⟨cleaned, [], []⟩ ∧
    ∀ another : Graph,
      other.run catalogue another = ⟨another, [], []⟩ ↔ another.Tidy catalogue := by
  intro cleaned
  have tidy : cleaned.Tidy catalogue := by
    rw [show cleaned = (graph.clean catalogue).graph from
      congrArg Cleaning.graph (run_eq_clean catalogue cleaner graph)]
    exact tidy_clean catalogue graph
  constructor
  · rw [run_eq_clean]
    exact tidy.clean_eq
  · intro another
    rw [run_eq_clean]
    exact clean_eq_self_iff

end Flowgraph
