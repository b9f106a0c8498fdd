import Flowgraph.Proofs.Cleaning.InPlace

/-!
# Cleaning keeps the flow of data

What the cleaned graph holds, said of the graph as it was: the nodes that stay, untouched but for
their wired inputs, and each wired input with what it led to, if that stays.

Main result: `clean_flow`, for every catalogue and every graph.
-/
namespace Flowgraph

/-- What the wired inputs of a node must have become. -/
structure InputsFollow (catalogue : Catalogue) (graph : Graph) (before after : Keyed Input) :
    Prop where
  /-- No input is new, and those that are left keep their order. -/
  order : after.keys.Sublist before.keys
  constants : ∀ name value, before.get? name = some (.constant value) →
    after.get? name = some (.constant value)
  /-- An input is left if it led to a node that stays, and is wired to just that slot. -/
  wired : ∀ name source, before.get? name = some (.wired source) → ∀ input,
    after.get? name = some input ↔
      ∃ target, Leads catalogue graph [] source (.kept target) ∧ input = .wired target

/-- What a cleaning must have done to a graph. -/
structure FlowKept (catalogue : Catalogue) (graph : Graph) (cleaning : Cleaning) : Prop where
  ids : cleaning.graph.ids =
    graph.ids.filter fun id => graph.routing? catalogue id = some .ordinary
  removed : ∀ id, id ∈ cleaning.removed ↔ id ∈ graph.ids ∧ id ∉ cleaning.graph.ids
  removedOnce : cleaning.removed.Nodup
  nodes : ∀ id before after, graph.get? id = some before → cleaning.graph.get? id = some after →
    after.classType = before.classType ∧ after.outputs = before.outputs ∧
      after.info = before.info ∧ InputsFollow catalogue graph before.inputs after.inputs
  /-- No input leads out of the graph. -/
  closed : ∀ link ∈ cleaning.graph.links, cleaning.graph.has link.source.node = true

section

variable {catalogue : Catalogue} {graph : Graph}

theorem get?_clean (id : String) :
    (graph.clean catalogue).graph.get? id =
      (graph.get? id).bind fun node => graph.cleanNode catalogue node :=
  Keyed.get?_filterMap _ _ _

theorem ids_clean : (graph.clean catalogue).graph.ids =
    graph.ids.filter fun id => graph.routing? catalogue id = some .ordinary := by
  refine (Keyed.keys_filterMap _ _).trans (List.filter_congr ?_)
  intro id member
  obtain ⟨node, found⟩ := Keyed.exists_of_mem_keys member
  rw [found, routing?_of_get? found, Option.bind_some, Graph.cleanNode]
  cases catalogue.routing node.classType <;> simp

theorem mem_ids_clean {id : String} :
    id ∈ (graph.clean catalogue).graph.ids ↔ graph.routing? catalogue id = some .ordinary := by
  rw [ids_clean, List.mem_filter, decide_eq_true_eq, and_iff_right_iff_imp]
  intro stays
  obtain ⟨node, found, _⟩ := routing?_eq_some_iff.mp stays
  exact Keyed.mem_keys_of_get? found

theorem mem_removed_iff_not_mem {id : String} :
    id ∈ (graph.clean catalogue).removed ↔
      id ∈ graph.ids ∧ id ∉ (graph.clean catalogue).graph.ids := by
  rw [mem_removed_iff, mem_ids_clean]
  constructor
  · rintro ⟨node, found, goes⟩
    refine ⟨Keyed.mem_keys_of_get? found, ?_⟩
    rw [routing?_of_get? found]
    exact fun stays => goes (Option.some.inj stays)
  · rintro ⟨inside, goes⟩
    obtain ⟨node, found⟩ := Keyed.exists_of_mem_keys inside
    refine ⟨node, found, fun stays => goes ?_⟩
    rw [routing?_of_get? found, stays]

/-- A node of the cleaned graph is a node that stays with its inputs cleaned. -/
theorem eq_of_get?_clean {id : String} {before after : Node} (found : graph.get? id = some before)
    (kept : (graph.clean catalogue).graph.get? id = some after) :
    after = { before with
      inputs := before.inputs.filterMap fun _ input => graph.cleanInput catalogue input } := by
  rw [get?_clean, found, Option.bind_some, Graph.cleanNode] at kept
  split at kept
  · exact (Option.some.inj kept).symm
  · contradiction

theorem get?_clean_of_ordinary {id : String} {node : Node} (found : graph.get? id = some node)
    (stays : catalogue.routing node.classType = .ordinary) :
    (graph.clean catalogue).graph.get? id = some { node with
      inputs := node.inputs.filterMap fun _ input => graph.cleanInput catalogue input } := by
  rw [get?_clean, found, Option.bind_some, Graph.cleanNode, stays]

/-- An input is left exactly if it led to a node that stays. -/
theorem cleanInput_wired_iff {source : Source} {input : Input} :
    graph.cleanInput catalogue (.wired source) = some input ↔
      ∃ target, Leads catalogue graph [] source (.kept target) ∧ input = .wired target := by
  simp only [leads_iff_trace, Graph.cleanInput]
  cases graph.trace catalogue source with
  | kept slot => simp [eq_comm]
  | dropped => simp
  | broken missing => simp

theorem inputsFollow_filterMap (inputs : Keyed Input) :
    InputsFollow catalogue graph inputs
      (inputs.filterMap fun _ input => graph.cleanInput catalogue input) where
  order := Keyed.keys_filterMap_sublist _ _
  constants name value found := by
    rw [Keyed.get?_filterMap, found]
    rfl
  wired name source found input := by
    rw [Keyed.get?_filterMap, found]
    exact cleanInput_wired_iff

/-- What an input leads to stays. -/
theorem Leads.kept_stays {passed : List String} {source target : Source}
    (leads : Leads catalogue graph passed source (.kept target)) :
    graph.routing? catalogue target.node = some .ordinary := by
  generalize result : Trace.kept target = trace at leads
  -- the result is generalized, since passing a relay changes the relays passed but not the result
  induction leads with
  | ordinary found stays =>
    cases result
    rw [routing?_of_get? found, stays]
  | relay found relays fresh single onward ih => exact ih result
  | _ => contradiction

theorem closed_clean {link : Link} (member : link ∈ (graph.clean catalogue).graph.links) :
    (graph.clean catalogue).graph.has link.source.node = true := by
  obtain ⟨after, kept, wired⟩ := Graph.mem_links_iff.mp member
  have stays := mem_ids_clean.mp (Keyed.mem_keys_of_get? kept)
  obtain ⟨before, found, _⟩ := routing?_eq_some_iff.mp stays
  -- an input that is left was wired to a source, and leads to a node that stays
  have inputs := congrArg Node.inputs (eq_of_get?_clean found kept)
  rw [inputs, Keyed.get?_filterMap] at wired
  obtain ⟨input, _, cleaned⟩ := Option.bind_eq_some_iff.mp wired
  cases input with
  | constant value => simp [Graph.cleanInput] at cleaned
  | wired source =>
    obtain ⟨target, leads, equal⟩ := cleanInput_wired_iff.mp cleaned
    rw [Graph.has_iff, mem_ids_clean, Input.wired.inj equal]
    exact leads.kept_stays

theorem flowKept_clean : FlowKept catalogue graph (graph.clean catalogue) where
  ids := ids_clean
  removed _ := mem_removed_iff_not_mem
  removedOnce := nodup_nameSet _
  nodes id before after found kept := by
    rw [eq_of_get?_clean found kept]
    exact ⟨rfl, rfl, rfl, inputsFollow_filterMap _⟩
  closed _ := closed_clean

end

/-- Cleaning keeps exactly the flow of data between the nodes that stay, every source leads to
exactly one result, and taking the other nodes out of a copy one by one, in whatever order, gives
the same graph. -/
theorem clean_flow (catalogue : Catalogue) (graph : Graph) :
    FlowKept catalogue graph (graph.clean catalogue) ∧
    (∀ source, ∃! result, Leads catalogue graph [] source result) ∧
    (∀ order : List String, order.Perm (graph.clean catalogue).removed →
      (order.foldl (graph.takeOut catalogue) graph).prune = (graph.clean catalogue).graph) := by
  refine ⟨flowKept_clean, ?_, fun order all => prune_takeOut all⟩
  intro source
  exact ⟨_, leads_trace source, fun other leads => leads.unique (leads_trace source)⟩

end Flowgraph
