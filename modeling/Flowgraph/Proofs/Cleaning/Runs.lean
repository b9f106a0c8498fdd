import Flowgraph.Proofs.Cleaning.Flow

/-!
# Cleaning as a run

A cleaner keeps the outcome of its latest run. The next run clears what was noted, visits the nodes
in their order and takes relays and ornaments out of a copy of the graph, noting what goes and which
relays nothing single feeds. At the end the inputs that lead nowhere are noted and cut.

Main result: `run_eq_clean`, whatever the cleaner held before.
-/
namespace Flowgraph

namespace Graph

/-- What is noted of a node that is visited. -/
def unfedRelay? (catalogue : Catalogue) (graph : Graph) (id : String) : Option Anomaly :=
  match graph.routing? catalogue id with
  | some .relay =>
    match graph.feed catalogue id with
    | .unfed classType => some (.unfedRelay id classType)
    | _ => none
  | _ => none

/-- What is noted of a link, if its consumer stays. -/
def brokenLink? (catalogue : Catalogue) (graph : Graph) (link : Link) : Option Anomaly :=
  if graph.stays catalogue link.consumer then
    match graph.trace catalogue link.source with
    | .broken missing => some (.brokenLink link.consumer link.input missing)
    | _ => none
  else none

/-- The inputs that are wired to nodes that do not exist. -/
def dangling (graph : Graph) : List Anomaly :=
  graph.links.filterMap fun link =>
    if graph.has link.source.node then none
    else some (.brokenLink link.consumer link.input link.source.node)

end Graph

namespace Cleaning

/-- A run begins: what an earlier run noted is cleared. -/
def begin (cleaner : Cleaning) (graph : Graph) : Cleaning :=
  { cleaner with graph, removed := [], anomalies := [] }

/-- Visits a node: unless it stays, it is taken out of the copy. -/
def visit (catalogue : Catalogue) (graph : Graph) (cleaner : Cleaning) (id : String) : Cleaning :=
  if graph.stays catalogue id then cleaner
  else
    { graph := graph.takeOut catalogue cleaner.graph id
      removed := Ascending.insert compareNames id cleaner.removed
      anomalies := cleaner.anomalies ++ (graph.unfedRelay? catalogue id).toList }

/-- A run ends: the inputs that lead nowhere are cut. -/
def finish (cleaner : Cleaning) : Cleaning :=
  { cleaner with
    graph := cleaner.graph.prune
    anomalies := cleaner.anomalies ++ cleaner.graph.dangling }

/-- One run of a cleaner. -/
def run (catalogue : Catalogue) (cleaner : Cleaning) (graph : Graph) : Cleaning :=
  (graph.ids.foldl (visit catalogue graph) (cleaner.begin graph)).finish

end Cleaning

/-- A run that has visited some nodes. -/
structure Midway (catalogue : Catalogue) (graph : Graph) (seen : List String) (cleaner : Cleaning) :
    Prop where
  copy : cleaner.graph =
    copyWithout catalogue graph (seen.filter fun id => !graph.stays catalogue id).reverse
  sorted : Ascending.Sorted compareNames cleaner.removed
  removed : ∀ id, id ∈ cleaner.removed ↔ id ∈ seen ∧ graph.stays catalogue id = false
  anomalies : cleaner.anomalies = seen.filterMap (graph.unfedRelay? catalogue)

section

variable {catalogue : Catalogue} {graph : Graph} {seen : List String} {cleaner : Cleaning}

theorem midway_begin (catalogue : Catalogue) (graph : Graph) (cleaner : Cleaning) :
    Midway catalogue graph [] (cleaner.begin graph) where
  copy := copyWithout_nil.symm
  sorted := List.Pairwise.nil
  removed _ := by simp [Cleaning.begin]
  anomalies := rfl

theorem unfedRelay?_of_stays {id : String} (stays : graph.stays catalogue id = true) :
    graph.unfedRelay? catalogue id = none := by
  have routed : graph.routing? catalogue id = some .ordinary := by simpa [Graph.stays] using stays
  rw [Graph.unfedRelay?, routed]

theorem Midway.visit (midway : Midway catalogue graph seen cleaner) {id : String}
    (fresh : id ∉ seen) :
    Midway catalogue graph (seen ++ [id]) (cleaner.visit catalogue graph id) := by
  unfold Cleaning.visit
  split
  · next stays =>
    refine ⟨?_, midway.sorted, ?_, ?_⟩
    · simpa [stays] using midway.copy
    · intro other
      rw [midway.removed, List.mem_append, List.mem_singleton]
      constructor
      · rintro ⟨member, goes⟩
        exact ⟨.inl member, goes⟩
      · rintro ⟨member | rfl, goes⟩
        · exact ⟨member, goes⟩
        · rw [stays] at goes
          contradiction
    · simp [midway.anomalies, unfedRelay?_of_stays stays]
  · next goes =>
    rw [Bool.not_eq_true] at goes
    refine ⟨?_, midway.sorted.insert id, ?_, ?_⟩
    · -- the node is not among those that have gone, so taking it out is one more step
      have left : id ∉ (seen.filter fun id => !graph.stays catalogue id).reverse := by simp [fresh]
      rw [midway.copy, takeOut_copyWithout left]
      simp [goes]
    · intro other
      rw [Ascending.mem_insert_iff, midway.removed, List.mem_append, List.mem_singleton]
      constructor
      · rintro (rfl | ⟨member, gone⟩)
        · exact ⟨.inr rfl, goes⟩
        · exact ⟨.inl member, gone⟩
      · rintro ⟨member | rfl, gone⟩
        · exact .inr ⟨member, gone⟩
        · exact .inl rfl
    · simp only [midway.anomalies, List.filterMap_append]
      cases noted : graph.unfedRelay? catalogue id <;> simp [noted]

theorem Midway.foldl_visit {rest : List String} (distinct : (seen ++ rest).Nodup)
    (midway : Midway catalogue graph seen cleaner) : Midway catalogue graph (seen ++ rest)
      (rest.foldl (Cleaning.visit catalogue graph) cleaner) := by
  induction rest generalizing seen cleaner with
  | nil => simpa using midway
  | cons id rest ih =>
    have fresh : id ∉ seen := by
      rw [List.nodup_middle, List.nodup_cons] at distinct
      exact fun member => distinct.1 (List.mem_append_left _ member)
    rw [← List.singleton_append, ← List.append_assoc] at distinct ⊢
    exact ih distinct (midway.visit fresh)

theorem allGone_visited (catalogue : Catalogue) (graph : Graph) :
    AllGone catalogue graph (graph.ids.filter fun id => !graph.stays catalogue id).reverse := by
  intro id
  rw [List.mem_reverse, List.mem_filter]
  constructor
  · rintro ⟨inside, goes⟩
    obtain ⟨node, found⟩ := Keyed.exists_of_mem_keys inside
    exact ⟨node, found, by simpa [Graph.stays, routing?_of_get? found] using goes⟩
  · rintro ⟨node, found, goes⟩
    exact ⟨Keyed.mem_keys_of_get? found, by simp [Graph.stays, routing?_of_get? found, goes]⟩

theorem unfedRelays_eq (catalogue : Catalogue) (graph : Graph) :
    graph.unfedRelays catalogue = graph.ids.filterMap (graph.unfedRelay? catalogue) := by
  rw [Graph.ids, Keyed.keys, List.filterMap_map, Graph.unfedRelays]
  refine List.filterMap_congr fun entry member => ?_
  have found : graph.get? entry.1 = some entry.2 := Keyed.get?_eq_some_iff.mpr member
  simp only [Function.comp_def, Graph.unfedRelay?, routing?_of_get? found]
  cases catalogue.routing entry.2.classType <;> rfl

theorem brokenLinks_eq (catalogue : Catalogue) (graph : Graph) :
    graph.brokenLinks catalogue = graph.links.filterMap (graph.brokenLink? catalogue) := by
  rw [Graph.links, List.filterMap_flatMap, Graph.brokenLinks]
  refine List.flatMap_congr fun entry member => ?_
  have found : graph.get? entry.1 = some entry.2 := Keyed.get?_eq_some_iff.mpr member
  rw [List.filterMap_map]
  simp only [Function.comp_def, Graph.brokenLink?, Graph.stays, routing?_of_get? found]
  cases catalogue.routing entry.2.classType with
  | ordinary => rfl
  | relay => simp
  | ornament => simp

/-- The inputs of a node that lead nowhere once the nodes that go have gone are those that led to
nothing in the graph as it was. -/
theorem dangling_nodeWithout {gone : List String} (left : AllGone catalogue graph gone)
    (id : String) {node : Node} (stays : catalogue.routing node.classType = .ordinary) :
    ((nodeWithout catalogue graph gone node).links.filterMap fun link =>
        if (copyWithout catalogue graph gone).has link.2.node then none
        else some (Anomaly.brokenLink id link.1 link.2.node)) =
      node.links.filterMap fun link =>
        match graph.trace catalogue link.2 with
        | .broken missing => some (Anomaly.brokenLink id link.1 missing)
        | _ => none := by
  simp only [nodeWithout, stays, if_true, Node.links, Keyed.filterMap, List.filterMap_filterMap]
  refine List.filterMap_congr fun entry _ => ?_
  obtain ⟨name, input⟩ := entry
  cases input with
  | constant value => rfl
  | wired source =>
    simp only [Input.source?, Option.map_some, Option.bind_some, trace_without left source]
    rcases inputWithout_wired catalogue graph gone source with absent | ⟨target, wired⟩
    · simp [absent]
    · cases present : (copyWithout catalogue graph gone).has target.node <;>
        simp [wired, present]

theorem dangling_copyWithout {gone : List String} (left : AllGone catalogue graph gone) :
    (copyWithout catalogue graph gone).dangling = graph.brokenLinks catalogue := by
  have entries : (copyWithout catalogue graph gone).entries = graph.entries.flatMap fun entry =>
      if entry.1 ∈ gone then [] else [(entry.1, nodeWithout catalogue graph gone entry.2)] := by
    simp only [Graph.entries, copyWithout, Keyed.filterMap, List.filterMap_eq_flatMap_toList]
    refine List.flatMap_congr fun entry _ => ?_
    split <;> rfl
  rw [Graph.dangling, Graph.links, entries, List.flatMap_assoc, List.filterMap_flatMap,
    Graph.brokenLinks]
  refine List.flatMap_congr fun entry member => ?_
  have found : graph.get? entry.1 = some entry.2 := Keyed.get?_eq_some_iff.mpr member
  have goes_iff := left.mem_iff found
  cases routing : catalogue.routing entry.2.classType with
  | ordinary =>
    have inside : entry.1 ∉ gone := by simp [goes_iff, routing]
    have own := dangling_nodeWithout left entry.1 routing
    simp only [routing, inside, if_false, List.flatMap_singleton, List.filterMap_map]
    exact own
  | relay => simp [goes_iff, routing]
  | ornament => simp [goes_iff, routing]

/-- A run gives the cleaned graph and what became of the rest; nothing of an earlier run is left. -/
theorem run_eq_clean (catalogue : Catalogue) (cleaner : Cleaning) (graph : Graph) :
    cleaner.run catalogue graph = graph.clean catalogue := by
  have midway : Midway catalogue graph graph.ids
      (graph.ids.foldl (Cleaning.visit catalogue graph) (cleaner.begin graph)) :=
    (midway_begin catalogue graph cleaner).foldl_visit graph.nodes.distinct
  have pruned := prune_copyWithout (allGone_visited catalogue graph)
  have dangling := dangling_copyWithout (allGone_visited catalogue graph)
  have removed : (graph.ids.foldl (Cleaning.visit catalogue graph) (cleaner.begin graph)).removed =
      (graph.clean catalogue).removed := by
    refine midway.sorted.eq_of_mem_iff (Ascending.sorted_ofList _) fun id => ?_
    have gone := allGone_visited catalogue graph id
    rw [List.mem_reverse, List.mem_filter, Bool.not_eq_true'] at gone
    rw [midway.removed, gone]
    exact mem_removed_iff.symm
  rw [← midway.copy] at pruned dangling
  rw [Cleaning.run, Cleaning.finish, pruned, dangling, removed, midway.anomalies, ← unfedRelays_eq]
  rfl

end

end Flowgraph
