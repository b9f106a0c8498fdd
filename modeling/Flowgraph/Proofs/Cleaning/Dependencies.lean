import Flowgraph.Catalogue.Core
import Flowgraph.Proofs.Cleaning.Flow
import Flowgraph.Proofs.CycleSearch.Agreement

/-!
# Cleaning makes no dependency

An edge of the cleaned graph stands for a path of the graph as it was, out of the producer, through
the relays that were passed, into the consumer. So what a node needs after cleaning it needed
before, and an execution order stays one when the nodes that went are struck from it.

Main result: `clean_dependencies`.
-/
namespace Flowgraph

open Edges (Feeds Acyclic)
open Relation (ReflTransGen TransGen)

/-- Striking other elements from a list keeps one element before another. -/
theorem idxOf_filter_lt {p : String → Bool} {order : List String} {a b : String}
    (kept : p a = true) (first : order.idxOf a < order.idxOf b) :
    (order.filter p).idxOf a < (order.filter p).idxOf b := by
  induction order with
  | nil => simp at first
  | cons id rest ih =>
    by_cases here : id = a
    · subst here
      have different : id ≠ b := by
        rintro rfl
        exact Nat.lt_irrefl _ first
      simp [kept, different]
    · have different : id ≠ b := by
        rintro rfl
        simp at first
      have later : rest.idxOf a < rest.idxOf b := by simpa [here, different] using first
      cases stays : p id <;> simp [stays, here, different, ih later]

section

variable {catalogue : Catalogue} {graph : Graph} {producer consumer : String}

/-- What an input leads to feeds the node that the input is wired to, if it is not that node. -/
theorem Leads.reflTransGen {passed : List String} {source target : Source}
    (leads : Leads catalogue graph passed source (.kept target)) :
    source.node ∈ graph.ids ∧ ReflTransGen (Feeds graph.edges) target.node source.node := by
  generalize result : Trace.kept target = trace at leads
  -- the path is built from its end: each relay that is passed puts one edge behind it
  induction leads with
  | ordinary found stays =>
    cases result
    exact ⟨Keyed.mem_keys_of_get? found, .refl⟩
  | @relay passed source next node input trace found relays fresh single onward ih =>
    obtain ⟨inside, path⟩ := ih result
    have wired : node.inputs.get? input = some (.wired next) :=
      Node.mem_links_iff.mp (single ▸ List.mem_singleton_self _)
    refine ⟨Keyed.mem_keys_of_get? found, path.tail ?_⟩
    exact Graph.feeds_edges_iff.mpr ⟨inside, node, input, next, found, wired, rfl⟩
  | _ => contradiction

/-- A node of the cleaned graph reads from those nodes that its inputs led to. -/
theorem feeds_clean_iff : Feeds (graph.clean catalogue).graph.edges producer consumer ↔
    ∃ node name source target, graph.get? consumer = some node ∧
      catalogue.routing node.classType = .ordinary ∧
      node.inputs.get? name = some (.wired source) ∧
      Leads catalogue graph [] source (.kept target) ∧ target.node = producer := by
  rw [Graph.feeds_edges_iff]
  constructor
  · rintro ⟨-, after, name, target, kept, wired, rfl⟩
    obtain ⟨node, found, stays⟩ :=
      routing?_eq_some_iff.mp (mem_ids_clean.mp (Keyed.mem_keys_of_get? kept))
    rw [eq_of_get?_clean found kept, Keyed.get?_filterMap] at wired
    obtain ⟨input, held, cleaned⟩ := Option.bind_eq_some_iff.mp wired
    -- a constant stays a constant, so the input was wired before
    cases input with
    | constant value => simp [Graph.cleanInput] at cleaned
    | wired source =>
      obtain ⟨slot, leads, same⟩ := cleanInput_wired_iff.mp cleaned
      cases same
      exact ⟨node, name, source, target, found, stays, held, leads, rfl⟩
  · rintro ⟨node, name, source, target, found, stays, held, leads, rfl⟩
    have kept := get?_clean_of_ordinary found stays
    refine ⟨mem_ids_clean.mpr leads.kept_stays, _, name, target, kept, ?_, rfl⟩
    rw [Keyed.get?_filterMap, held]
    exact cleanInput_wired_iff.mpr ⟨target, leads, rfl⟩

theorem transGen_of_feeds_clean
    (feeds : Feeds (graph.clean catalogue).graph.edges producer consumer) :
    TransGen (Feeds graph.edges) producer consumer := by
  obtain ⟨node, name, source, target, found, -, held, leads, rfl⟩ := feeds_clean_iff.mp feeds
  obtain ⟨inside, path⟩ := leads.reflTransGen
  exact .tail' path (Graph.feeds_edges_iff.mpr ⟨inside, node, name, source, found, held, rfl⟩)

theorem transGen_of_clean
    (path : TransGen (Feeds (graph.clean catalogue).graph.edges) producer consumer) :
    TransGen (Feeds graph.edges) producer consumer :=
  TransGen.closed (fun _ _ => transGen_of_feeds_clean) _ _ path

theorem acyclic_clean (acyclic : Acyclic graph.edges) :
    Acyclic (graph.clean catalogue).graph.edges :=
  fun id cycle => acyclic id (transGen_of_clean cycle)

theorem mem_ids_of_mem_ids_clean {id : String} (member : id ∈ (graph.clean catalogue).graph.ids) :
    id ∈ graph.ids := by
  rw [ids_clean] at member
  exact List.mem_of_mem_filter member

/-- An execution order without the nodes that went is one of the cleaned graph. -/
theorem orders_clean {order : List String} (orders : Orders graph.ids graph.edges order) :
    Orders (graph.clean catalogue).graph.ids (graph.clean catalogue).graph.edges
      (order.filter fun id => id ∈ (graph.clean catalogue).graph.ids) := by
  constructor
  · have kept : graph.ids.filter (fun id => id ∈ (graph.clean catalogue).graph.ids) =
        (graph.clean catalogue).graph.ids :=
      (List.filter_congr fun id _ => decide_eq_decide.mpr mem_ids_clean).trans ids_clean.symm
    exact (orders.perm.filter _).trans (.of_eq kept)
  · intro edge member
    apply idxOf_filter_lt
    · simpa using Graph.producer_mem_ids member
    · exact orders.idxOf_lt (transGen_of_feeds_clean ⟨edge, member, rfl, rfl⟩)

/-- What a node needs in the cleaned graph it needed before, and a graph that can be ordered can be
ordered after cleaning, by any of its orders without the nodes that went. -/
theorem clean_dependencies (catalogue : Catalogue) (graph : Graph) :
    (∀ a b, (graph.clean catalogue).graph.dependsOn a b = true → graph.dependsOn a b = true) ∧
    ((∃ order, graph.executionOrder = .ok order) →
      ∃ order, (graph.clean catalogue).graph.executionOrder = .ok order) ∧
    (graph.checkAcyclic = .ok () → (graph.clean catalogue).graph.checkAcyclic = .ok ()) ∧
    ∀ order, Orders graph.ids graph.edges order →
      Orders (graph.clean catalogue).graph.ids (graph.clean catalogue).graph.edges
        (order.filter fun id => id ∈ (graph.clean catalogue).graph.ids) := by
  refine ⟨?_, ?_, ?_, fun order => orders_clean⟩
  · intro a b needs
    obtain ⟨first, second, different, path⟩ := Graph.dependsOn_iff.mp needs
    exact Graph.dependsOn_iff.mpr ⟨mem_ids_of_mem_ids_clean first, mem_ids_of_mem_ids_clean second,
      different, transGen_of_clean path⟩
  · rw [Graph.exists_executionOrder_iff, Graph.exists_executionOrder_iff]
    exact acyclic_clean
  · rw [Graph.checkAcyclic_eq_ok_iff, Graph.checkAcyclic_eq_ok_iff]
    exact acyclic_clean

end

/-- An image that is saved behind two relays. -/
def routed : Graph :=
  let reading (classType producer : String) : Node :=
    (Node.ofClass classType).withInput "input" (.wired ⟨producer, 0⟩)
  ⟨.ofList [("9", reading "SaveImage" "r"), ("r", reading "Reroute" "s"),
    ("s", reading "Reroute" "10"), ("10", reading "VAEDecode" "n"), ("n", Node.ofClass "Note")]⟩

theorem clean_dependencies_routed :
    (routed.clean .core).graph.ids = ["9", "10"] ∧
    (routed.clean .core).graph.dependsOn "9" "10" = true ∧
    routed.dependsOn "9" "10" = true ∧
    routed.executionOrder = .ok ["n", "10", "s", "r", "9"] ∧
    (∃ order, (routed.clean .core).graph.executionOrder = .ok order) ∧
    Orders (routed.clean .core).graph.ids (routed.clean .core).graph.edges ["10", "9"] := by
  obtain ⟨needs, orderable, -, orders⟩ := clean_dependencies .core routed
  have ids : (routed.clean .core).graph.ids = ["9", "10"] := by decide
  have reads : (routed.clean .core).graph.dependsOn "9" "10" = true := by decide
  have ordered : routed.executionOrder = .ok ["n", "10", "s", "r", "9"] := by decide
  have struck := orders ["n", "10", "s", "r", "9"] ⟨by decide, by decide⟩
  rw [ids] at struck ⊢
  exact ⟨rfl, reads, needs "9" "10" reads, ordered, orderable ⟨_, ordered⟩, struck⟩

end Flowgraph
