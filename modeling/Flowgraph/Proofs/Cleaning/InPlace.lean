import Flowgraph.Proofs.Ascending
import Flowgraph.Proofs.Cleaning.Relays
import Flowgraph.Proofs.Links

/-!
# Cleaning a copy, one node at a time

A graph can also be cleaned by taking its relays and ornaments out of a copy, one after the other:
before a node goes, every input of a node that stays that was wired to it is wired to what feeds
it, or removed. What feeds a node and which inputs were wired to it is read off the graph as it
was. At the end, inputs that lead nowhere are removed.

Main result: `prune_takeOut` says that every order of the nodes that go gives the cleaned graph.
-/
namespace Flowgraph

/-- Wires an input of a node to a source, or removes it. -/
def Node.rewire (source? : Option Source) (node : Node) (input : String) : Node :=
  { node with inputs := node.inputs.update input (source?.map .wired) }

namespace Graph

/-- Whether a node is neither a relay nor an ornament. -/
def stays (catalogue : Catalogue) (graph : Graph) (id : String) : Bool :=
  graph.routing? catalogue id == some .ordinary

/-- What an input is wired to once the node that it was wired to has gone. -/
def replacement? (catalogue : Catalogue) (graph : Graph) (id : String) : Option Source :=
  match graph.routing? catalogue id with
  | some .relay =>
    match graph.feed catalogue id with
    | .source source => some source
    | _ => none
  | _ => none

/-- Wires one input of a copy to a source, or removes it. -/
def rewire (source? : Option Source) (copy : Graph) (link : Link) : Graph where
  nodes := copy.nodes.modify link.consumer fun node => node.rewire source? link.input

/-- The inputs of nodes that stay that are wired to a node. -/
def affected (catalogue : Catalogue) (graph : Graph) (id : String) : List Link :=
  graph.links.filter fun link => link.source.node = id ∧ graph.stays catalogue link.consumer

/-- Takes one node out of a copy. -/
def takeOut (catalogue : Catalogue) (graph copy : Graph) (id : String) : Graph :=
  ((graph.affected catalogue id).foldl (rewire (graph.replacement? catalogue id)) copy).erase id

/-- Removes the inputs that are wired to nodes that do not exist. -/
def prune (graph : Graph) : Graph where
  nodes := graph.nodes.filterMap fun _ node => some { node with
    inputs := node.inputs.filterMap fun _ input =>
      match input with
      | .constant value => some (.constant value)
      | .wired source => if graph.has source.node then some (.wired source) else none }

end Graph

section

variable {catalogue : Catalogue} {graph : Graph}

/-- What an input has become once some nodes have gone. -/
def inputWithout (catalogue : Catalogue) (graph : Graph) (gone : List String) :
    Input → Option Input
  | .constant value => some (.constant value)
  | .wired source =>
    if source.node ∈ gone then (graph.replacement? catalogue source.node).map .wired
    else some (.wired source)

/-- What a node has become once some nodes have gone. -/
def nodeWithout (catalogue : Catalogue) (graph : Graph) (gone : List String) (node : Node) : Node :=
  if catalogue.routing node.classType = .ordinary then
    { node with
      inputs := node.inputs.filterMap fun _ input => inputWithout catalogue graph gone input }
  else node

/-- The copy once some nodes have gone. -/
def copyWithout (catalogue : Catalogue) (graph : Graph) (gone : List String) : Graph where
  nodes := graph.nodes.filterMap fun id node =>
    if id ∈ gone then none else some (nodeWithout catalogue graph gone node)

theorem copyWithout_nil : copyWithout catalogue graph [] = graph := by
  have unchanged (node : Node) : nodeWithout catalogue graph [] node = node := by
    have inputs : (node.inputs.filterMap fun _ input => inputWithout catalogue graph [] input) =
        node.inputs := by
      rw [← Keyed.filterMap_some node.inputs, Keyed.filterMap_filterMap]
      apply Keyed.filterMap_congr
      intro name input _
      cases input <;> simp [inputWithout]
    simp [nodeWithout, inputs]
  simp [copyWithout, unchanged, Keyed.filterMap_some]

theorem foldl_rewire_inputs (source? : Option Source) (names : List String) (node : Node) :
    names.foldl (Node.rewire source?) node =
      { node with
        inputs := names.foldl (fun inputs name => inputs.update name (source?.map .wired))
          node.inputs } := by
  induction names generalizing node with
  | nil => rfl
  | cons name rest ih => rw [List.foldl_cons, ih, List.foldl_cons, Node.rewire]

/-- Rewiring the inputs of one node that lead to a node is what the departure of that node does. -/
theorem foldl_update_links (catalogue : Catalogue) (graph : Graph) {gone : List String}
    {id : String} (fresh : id ∉ gone) (node : Node) :
    ((node.links.filter fun link => link.2.node = id).map Prod.fst).foldl
        (fun inputs name => inputs.update name ((graph.replacement? catalogue id).map .wired))
        (node.inputs.filterMap fun _ input => inputWithout catalogue graph gone input) =
      node.inputs.filterMap fun _ input => inputWithout catalogue graph (id :: gone) input := by
  -- said without a quantifier, so that the pass can branch on it
  have names {name : String} :
      name ∈ (node.links.filter fun link => link.2.node = id).map Prod.fst ↔
        ((node.inputs.get? name).bind Input.source?).map Source.node = some id := by
    simp only [List.mem_map, List.mem_filter, decide_eq_true_eq, Option.map_eq_some_iff,
      Option.bind_eq_some_iff]
    constructor
    · rintro ⟨⟨_, source⟩, ⟨wired, leads⟩, rfl⟩
      exact ⟨source, ⟨_, Node.mem_links_iff.mp wired, rfl⟩, leads⟩
    · rintro ⟨source, ⟨input, found, leads⟩, rfl⟩
      cases input with
      | constant value => contradiction
      | wired target =>
        cases leads
        exact ⟨(name, source), ⟨Node.mem_links_iff.mpr found, rfl⟩, rfl⟩
  rw [Keyed.foldl_update _ _ (node.links_names_nodup.sublist (List.filter_sublist.map _)),
    Keyed.filterMap_filterMap]
  · apply Keyed.filterMap_congr
    intro name input found
    simp only [names, found]
    cases input with
    | constant value => simp [inputWithout, Input.source?]
    | wired source =>
      -- an input of another node was settled when that node went, or is still as it was
      by_cases leads : source.node = id
      · simp [inputWithout, Input.source?, leads, fresh]
      · cases without : inputWithout catalogue graph gone (.wired source) <;>
          simp_all [inputWithout, Input.source?]
  · intro name member
    obtain ⟨source, wired, leads⟩ := Option.map_eq_some_iff.mp (names.mp member)
    obtain ⟨input, found, image⟩ := Option.bind_eq_some_iff.mp wired
    cases input with
    | constant value => contradiction
    | wired target =>
      have kept :
          (node.inputs.filterMap fun _ input => inputWithout catalogue graph gone input).get? name =
            some (.wired target) := by
        simp_all [Keyed.get?_filterMap, inputWithout, Input.source?]
      exact Keyed.mem_keys_of_get? kept

theorem nodes_foldl_rewire (source? : Option Source) (links : List Link) (copy : Graph) :
    (links.foldl (Graph.rewire source?) copy).nodes =
      (links.map fun link => (link.consumer, fun node => Node.rewire source? node link.input)).foldl
        (fun nodes change => nodes.modify change.1 change.2) copy.nodes := by
  induction links generalizing copy with
  | nil => rfl
  | cons link rest ih => rw [List.foldl_cons, ih, List.map_cons, List.foldl_cons, Graph.rewire]

theorem affected_filter_consumer (catalogue : Catalogue) (id : String) {key : String} {node : Node}
    (found : graph.get? key = some node) :
    (graph.affected catalogue id).filter (fun link => link.consumer = key) =
      if catalogue.routing node.classType = .ordinary then
        (node.links.filter fun link => link.2.node = id).map fun link => ⟨key, link.1, link.2⟩
      else [] := by
  -- both filters look at one link at a time, so the consumer can be picked out first
  have ofConsumer : (graph.affected catalogue id).filter (fun link => link.consumer = key) =
      (graph.links.filter fun link => link.consumer = key).filter fun link =>
        link.source.node = id ∧ graph.stays catalogue link.consumer := by
    simp only [Graph.affected, List.filter_filter, Bool.and_comm]
  rw [ofConsumer, Graph.links_filter_consumer found, List.filter_map]
  split
  · next stays =>
    congr 1
    apply List.filter_congr
    intro link _
    simp [Graph.stays, routing?_of_get? found, stays]
  · next goes =>
    rw [List.map_eq_nil_iff, List.filter_eq_nil_iff]
    intro link _
    simp [Graph.stays, routing?_of_get? found, goes]

/-- What the departure of one node does to another. -/
theorem foldl_affected (catalogue : Catalogue) {gone : List String} {id key : String}
    (fresh : id ∉ gone) {node : Node} (found : graph.get? key = some node) :
    (((graph.affected catalogue id).map fun link => (link.consumer, fun node =>
        Node.rewire (graph.replacement? catalogue id) node link.input)).filter
          fun change => change.1 = key).foldl (fun node change => change.2 node)
            (nodeWithout catalogue graph gone node) =
      nodeWithout catalogue graph (id :: gone) node := by
  have owned := affected_filter_consumer catalogue id found
  rw [List.filter_map]
  simp only [Function.comp_def, owned]
  split
  · next stays =>
    -- the changes to this node are changes to its inputs, which the pass over them accounts for
    have inputs := foldl_update_links catalogue graph fresh node
    have rewired := foldl_rewire_inputs (graph.replacement? catalogue id)
      ((node.links.filter fun link => link.2.node = id).map Prod.fst)
      (nodeWithout catalogue graph gone node)
    simp only [nodeWithout, stays, if_true] at rewired ⊢
    rw [inputs] at rewired
    rw [List.map_map, List.foldl_map, ← rewired, List.foldl_map]
    rfl
  · next goes => simp [nodeWithout, goes]

/-- One node goes: the step that the pass repeats. -/
theorem takeOut_copyWithout {gone : List String} {id : String} (fresh : id ∉ gone) :
    graph.takeOut catalogue (copyWithout catalogue graph gone) id =
      copyWithout catalogue graph (id :: gone) := by
  have nodes : (graph.takeOut catalogue (copyWithout catalogue graph gone) id).nodes =
      (copyWithout catalogue graph (id :: gone)).nodes := by
    -- rewiring and erasing are passes over the nodes, and come to one pass over the first graph
    simp only [Graph.takeOut, Graph.erase, nodes_foldl_rewire, Keyed.foldl_modify,
      Keyed.erase_eq_filterMap, copyWithout, Keyed.filterMap_filterMap]
    apply Keyed.filterMap_congr
    intro key node found
    by_cases left : key ∈ gone
    · simp [left]
    · by_cases same : key = id
      · simp [same]
      · have step := foldl_affected catalogue fresh found
        simp only [left, same, if_false, Option.bind_some, step, List.mem_cons, or_self]
  exact congrArg Graph.mk nodes

/-- The whole pass, from any point on. -/
theorem foldl_takeOut {order gone : List String} (distinct : order.Nodup)
    (fresh : ∀ id ∈ order, id ∉ gone) :
    order.foldl (graph.takeOut catalogue) (copyWithout catalogue graph gone) =
      copyWithout catalogue graph (order.reverse ++ gone) := by
  induction order generalizing gone with
  | nil => rfl
  | cons id rest ih =>
    obtain ⟨absent, distinct⟩ := List.nodup_cons.mp distinct
    rw [List.foldl_cons, takeOut_copyWithout (fresh id List.mem_cons_self), ih distinct]
    · simp
    · intro other member
      have different : other ≠ id := fun equal => absent (equal ▸ member)
      simpa [different] using fresh other (List.mem_cons_of_mem _ member)

/-- The ids that go are those of the relays and ornaments. -/
theorem mem_removed_iff {id : String} :
    id ∈ (graph.clean catalogue).removed ↔
      ∃ node, graph.get? id = some node ∧ catalogue.routing node.classType ≠ .ordinary := by
  simp only [Graph.clean, mem_nameSet, List.mem_map, List.mem_filter, bne_iff_ne]
  constructor
  · rintro ⟨⟨id, node⟩, ⟨member, goes⟩, rfl⟩
    exact ⟨node, Keyed.get?_eq_some_iff.mpr member, goes⟩
  · rintro ⟨node, found, goes⟩
    exact ⟨(id, node), ⟨Keyed.get?_eq_some_iff.mp found, goes⟩, rfl⟩

theorem has_copyWithout {gone : List String} {id : String} :
    (copyWithout catalogue graph gone).has id = (graph.has id && decide (id ∉ gone)) := by
  simp only [Graph.has, Graph.get?, copyWithout, Keyed.get?_filterMap]
  cases graph.nodes.get? id with
  | none => rfl
  | some node => by_cases left : id ∈ gone <;> simp [left]

/-- All nodes that go have gone. -/
def AllGone (catalogue : Catalogue) (graph : Graph) (gone : List String) : Prop :=
  ∀ id, id ∈ gone ↔
    ∃ node, graph.get? id = some node ∧ catalogue.routing node.classType ≠ .ordinary

theorem AllGone.mem_iff {gone : List String} (left : AllGone catalogue graph gone) {id : String}
    {node : Node} (found : graph.get? id = some node) :
    id ∈ gone ↔ catalogue.routing node.classType ≠ .ordinary := by
  simp [left id, found]

/-- What an input is wired to once the nodes that go have gone tells where it led in the graph as it
was. -/
theorem trace_without {gone : List String} (left : AllGone catalogue graph gone)
    (source : Source) :
    graph.trace catalogue source =
      match inputWithout catalogue graph gone (.wired source) with
      | some (.wired target) =>
        if (copyWithout catalogue graph gone).has target.node then .kept target
        else .broken target.node
      | _ => .dropped := by
  simp only [inputWithout, Graph.trace, Graph.replacement?, has_copyWithout]
  cases found : graph.get? source.node with
  | none =>
    have inside : source.node ∉ gone := by simp [left source.node, found]
    simp [routing?_eq_none_iff.mpr found, inside, Graph.has, found]
  | some node =>
    have routed : graph.routing? catalogue source.node = _ := routing?_of_get? found
    cases routing : catalogue.routing node.classType with
    | ordinary =>
      have inside : source.node ∉ gone := by simp [left.mem_iff found, routing]
      simp [routed, routing, inside, Graph.has, found]
    | ornament =>
      have outside : source.node ∈ gone := by simp [left.mem_iff found, routing]
      simp [routed, routing, outside]
    | relay =>
      have outside : source.node ∈ gone := by simp [left.mem_iff found, routing]
      simp only [routed, routing, outside, if_true]
      cases fed : graph.feed catalogue source.node with
      | nothing => rfl
      | unfed classType => rfl
      | source target =>
        -- what feeds a relay never goes, so only its existence is in question
        have inside : target.node ∉ gone := by
          rw [left target.node]
          rintro ⟨feeder, feederFound, goes⟩
          rcases follow_source fed with absent | stays
          · simp [routing?_of_get? feederFound] at absent
          · rw [routing?_of_get? feederFound, Option.some.injEq] at stays
            exact goes stays
        cases exists_ : graph.has target.node <;> simp [inside, exists_]

theorem inputWithout_wired (catalogue : Catalogue) (graph : Graph) (gone : List String)
    (source : Source) :
    inputWithout catalogue graph gone (.wired source) = none ∨
      ∃ target, inputWithout catalogue graph gone (.wired source) = some (.wired target) := by
  rw [inputWithout]
  by_cases left : source.node ∈ gone
  · cases graph.replacement? catalogue source.node <;> simp [left]
  · simp [left]

/-- What pruning leaves of an input is where the input led in the graph as it was. -/
theorem prune_inputWithout {gone : List String} (left : AllGone catalogue graph gone)
    (input : Input) :
    ((inputWithout catalogue graph gone input).bind fun input =>
        match input with
        | .constant value => some (.constant value)
        | .wired source =>
          if (copyWithout catalogue graph gone).has source.node then some (.wired source)
          else none) =
      graph.cleanInput catalogue input := by
  cases input with
  | constant value => rfl
  | wired source =>
    rw [Graph.cleanInput, trace_without left]
    rcases inputWithout_wired catalogue graph gone source with absent | ⟨target, wired⟩
    · rw [absent]
      rfl
    · rw [wired]
      cases present : (copyWithout catalogue graph gone).has target.node <;> simp [present]

theorem prune_copyWithout {gone : List String} (left : AllGone catalogue graph gone) :
    (copyWithout catalogue graph gone).prune = (graph.clean catalogue).graph := by
  apply congrArg Graph.mk
  have nodes : (copyWithout catalogue graph gone).nodes = graph.nodes.filterMap fun id node =>
      if id ∈ gone then none else some (nodeWithout catalogue graph gone node) := rfl
  rw [nodes, Keyed.filterMap_filterMap]
  apply Keyed.filterMap_congr
  intro id node found
  have goes_iff := left.mem_iff found
  cases routing : catalogue.routing node.classType with
  | ordinary =>
    have inside : id ∉ gone := by simp [goes_iff, routing]
    simp only [inside, if_false, Option.bind_some, nodeWithout, routing, if_true, Graph.cleanNode,
      Keyed.filterMap_filterMap, prune_inputWithout left]
  | relay => simp [goes_iff, routing, Graph.cleanNode]
  | ornament => simp [goes_iff, routing, Graph.cleanNode]

/-- The nodes that go can be taken out of a copy in any order. -/
theorem prune_takeOut {order : List String} (all : order.Perm (graph.clean catalogue).removed) :
    (order.foldl (graph.takeOut catalogue) graph).prune = (graph.clean catalogue).graph := by
  -- the nodes that have gone are listed in reverse; pruning only asks which they are
  have pass : order.foldl (graph.takeOut catalogue) (copyWithout catalogue graph []) =
      copyWithout catalogue graph (order.reverse ++ []) :=
    foldl_takeOut (all.nodup_iff.mpr (nodup_nameSet _)) (by simp)
  rw [copyWithout_nil] at pass
  rw [pass, List.append_nil]
  apply prune_copyWithout
  intro id
  rw [List.mem_reverse, all.mem_iff, mem_removed_iff]

end

end Flowgraph
