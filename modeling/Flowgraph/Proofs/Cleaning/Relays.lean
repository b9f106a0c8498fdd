import Mathlib.Data.List.Perm.Subperm
import Flowgraph.Cleaning
import Flowgraph.Proofs.Keyed

/-!
# Where wired inputs lead

The rule of relays, said without fuel: a wired input leads to the slot that it is wired to, unless
that slot belongs to a relay. A relay with exactly one wired input passes on what that input leads
to; a relay met a second time, or with no such input or several, passes on nothing.

Main result: `leads_iff_trace` says that `Graph.trace` computes this rule, so that every source
leads to exactly one result.
-/
namespace Flowgraph

/-- Where a source leads, given the relays that were passed on the way to it. -/
inductive Leads (catalogue : Catalogue) (graph : Graph) : List String → Source → Trace → Prop
  | missing {passed : List String} {source : Source}
      (absent : graph.get? source.node = none) :
      Leads catalogue graph passed source (.broken source.node)
  | ordinary {passed : List String} {source : Source} {node : Node}
      (found : graph.get? source.node = some node)
      (stays : catalogue.routing node.classType = .ordinary) :
      Leads catalogue graph passed source (.kept source)
  | ornament {passed : List String} {source : Source} {node : Node}
      (found : graph.get? source.node = some node)
      (goes : catalogue.routing node.classType = .ornament) :
      Leads catalogue graph passed source .dropped
  | relay {passed : List String} {source next : Source} {node : Node} {input : String}
      {result : Trace}
      (found : graph.get? source.node = some node)
      (relays : catalogue.routing node.classType = .relay)
      (fresh : source.node ∉ passed)
      (single : node.links = [(input, next)])
      (onward : Leads catalogue graph (source.node :: passed) next result) :
      Leads catalogue graph passed source result
  | revisited {passed : List String} {source : Source} {node : Node}
      (found : graph.get? source.node = some node)
      (relays : catalogue.routing node.classType = .relay)
      (again : source.node ∈ passed) :
      Leads catalogue graph passed source .dropped
  | unfed {passed : List String} {source : Source} {node : Node}
      (found : graph.get? source.node = some node)
      (relays : catalogue.routing node.classType = .relay)
      (notSingle : node.links.length ≠ 1) :
      Leads catalogue graph passed source .dropped

section

variable {catalogue : Catalogue} {graph : Graph}

theorem routing?_eq_none_iff {id : String} :
    graph.routing? catalogue id = none ↔ graph.get? id = none := by
  simp [Graph.routing?]

theorem routing?_eq_some_iff {id : String} {routing : Routing} :
    graph.routing? catalogue id = some routing ↔
      ∃ node, graph.get? id = some node ∧ catalogue.routing node.classType = routing := by
  simp [Graph.routing?]

theorem routing?_of_get? {id : String} {node : Node} (found : graph.get? id = some node) :
    graph.routing? catalogue id = some (catalogue.routing node.classType) :=
  routing?_eq_some_iff.mpr ⟨node, found, rfl⟩

theorem Graph.follow_of_single {current fed input : String} {node : Node} {source : Source}
    (found : graph.get? current = some node) (single : node.links = [(input, source)])
    (fuel : Nat) (visited : List String) :
    graph.follow catalogue fed (fuel + 1) visited current =
      match graph.routing? catalogue source.node with
      | some .relay =>
        if source.node ∈ visited then .unfed node.classType
        else graph.follow catalogue fed fuel (source.node :: visited) source.node
      | some .ornament => .nothing
      | _ => .source source := by
  cases routed : graph.routing? catalogue source.node with
  | none => simp [follow, found, single, routed]
  | some routing => cases routing <;> simp [follow, found, single, routed]

theorem Graph.follow_of_notSingle {current fed : String} {node : Node}
    (found : graph.get? current = some node) (several : node.links.length ≠ 1) (fuel : Nat)
    (visited : List String) :
    graph.follow catalogue fed (fuel + 1) visited current =
      if current = fed then .unfed node.classType else .nothing := by
  simp only [follow, found]
  split
  · next single => simp [single] at several
  · rfl

/-- No source leads to two results. -/
theorem Leads.unique {passed : List String} {source : Source} {left right : Trace}
    (first : Leads catalogue graph passed source left)
    (second : Leads catalogue graph passed source right) : left = right := by
  induction first with
  | missing absent => cases second <;> simp_all
  | ordinary found stays => cases second <;> simp_all
  | ornament found goes => cases second <;> simp_all
  | revisited found relays again => cases second <;> simp_all
  | unfed found relays notSingle => cases second <;> simp_all
  -- only a relay that is passed reads on: both derivations pass it through its one input
  | relay found relays fresh single onward ih =>
    cases second with
    | relay found' _ _ single' onward' =>
      cases Option.some.inj (found.symm.trans found')
      cases single.symm.trans single'
      exact ih onward'
    | _ => simp_all

/-- What a relay passes on to the inputs that are wired to it. -/
def Feed.passedOn (graph : Graph) : Feed → Trace
  | .source slot => if graph.has slot.node then .kept slot else .broken slot.node
  | .nothing => .dropped
  | .unfed _ => .dropped

/-- A relay is fed from a node that stays or from a node that does not exist. -/
theorem follow_source {fed : String} {fuel : Nat} {visited : List String} {current : String}
    {source : Source}
    (followed : graph.follow catalogue fed fuel visited current = .source source) :
    graph.routing? catalogue source.node = none ∨
      graph.routing? catalogue source.node = some .ordinary := by
  induction fuel generalizing visited current with
  | zero => simp [Graph.follow] at followed
  | succ fuel ih =>
    unfold Graph.follow at followed
    -- the function branches on the node, its links, the routing of the next node and the visits
    split at followed
    · contradiction
    · split at followed
      · split at followed
        · split at followed
          · contradiction
          · exact ih followed
        · contradiction
        · next notRelay notOrnament =>
          cases followed
          cases routed : graph.routing? catalogue source.node with
          | none => exact Or.inl rfl
          | some routing => cases routing <;> simp_all
      · split at followed <;> contradiction

theorem length_le_size {visited : List String} (distinct : visited.Nodup)
    (members : ∀ id ∈ visited, id ∈ graph.ids) : visited.length ≤ graph.size := by
  have bound := (List.subperm_of_subset distinct members).length_le
  simpa [Graph.ids, Graph.size, Keyed.keys, Keyed.size] using bound

/-- Following relays obeys the rule as long as the fuel exceeds the number of nodes that are not
yet visited; the visited relays are the one looked at and those passed before it. -/
theorem leads_follow {fed : String} {fuel : Nat} {passed : List String} {source : Source}
    {node : Node} (found : graph.get? source.node = some node)
    (relays : catalogue.routing node.classType = .relay)
    (distinct : (source.node :: passed).Nodup)
    (members : ∀ id ∈ source.node :: passed, id ∈ graph.ids)
    (enough : graph.size < fuel + (passed.length + 1)) :
    Leads catalogue graph passed source
      ((graph.follow catalogue fed fuel (source.node :: passed) source.node).passedOn graph) := by
  induction fuel generalizing passed source node with
  | zero =>
    -- without fuel more relays are visited than the graph has nodes
    have bound : passed.length + 1 ≤ graph.size := length_le_size distinct members
    omega
  | succ fuel ih =>
    have fresh : source.node ∉ passed := (List.nodup_cons.mp distinct).1
    simp only [Graph.follow, found]
    split
    · next input next single =>
      apply Leads.relay found relays fresh single
      split
      · next routed =>
        obtain ⟨nextNode, nextFound, nextRelays⟩ := routing?_eq_some_iff.mp routed
        split
        · next again => exact Leads.revisited nextFound nextRelays again
        · next unseen =>
          have inside : next.node ∈ graph.ids := Keyed.mem_keys_of_get? nextFound
          -- the next relay had not been visited: one fewer is left to visit, and one unit of
          -- fuel is spent
          apply ih nextFound nextRelays (List.nodup_cons.mpr ⟨unseen, distinct⟩)
          · intro id member
            rcases List.mem_cons.mp member with rfl | member
            · exact inside
            · exact members id member
          · simp only [List.length_cons]
            omega
      · next routed =>
        obtain ⟨nextNode, nextFound, goes⟩ := routing?_eq_some_iff.mp routed
        exact Leads.ornament nextFound goes
      · next notRelay notOrnament =>
        simp only [Feed.passedOn]
        cases nextFound : graph.get? next.node with
        | none => simpa [Graph.has, nextFound] using Leads.missing nextFound
        | some nextNode =>
          have routed : graph.routing? catalogue next.node = _ := routing?_of_get? nextFound
          have stays : catalogue.routing nextNode.classType = .ordinary := by
            cases routing : catalogue.routing nextNode.classType <;> simp_all
          simpa [Graph.has, nextFound] using Leads.ordinary nextFound stays
    · next notSingle =>
      have several : node.links.length ≠ 1 := by
        intro one
        obtain ⟨link, single⟩ := List.length_eq_one_iff.mp one
        exact notSingle link.1 link.2 single
      split <;> exact Leads.unfed found relays several

theorem leads_trace (source : Source) :
    Leads catalogue graph [] source (graph.trace catalogue source) := by
  unfold Graph.trace
  split
  · next routed => exact Leads.missing (routing?_eq_none_iff.mp routed)
  · next routed =>
    obtain ⟨node, found, stays⟩ := routing?_eq_some_iff.mp routed
    exact Leads.ordinary found stays
  · next routed =>
    obtain ⟨node, found, goes⟩ := routing?_eq_some_iff.mp routed
    exact Leads.ornament found goes
  · next routed =>
    obtain ⟨node, found, relays⟩ := routing?_eq_some_iff.mp routed
    have inside : source.node ∈ graph.ids := Keyed.mem_keys_of_get? found
    -- a relay is followed with fuel for every node of the graph
    have followed : Leads catalogue graph [] source
        ((graph.follow catalogue source.node graph.size [source.node] source.node).passedOn
          graph) :=
      leads_follow found relays (by simp) (by simpa using inside) (by simp)
    unfold Graph.feed
    split
    · next target equal => rwa [equal] at followed
    · next notSource =>
      cases fed : graph.follow catalogue source.node graph.size [source.node] source.node with
      | source target => exact absurd fed (notSource target)
      | nothing => rwa [fed] at followed
      | unfed classType => rwa [fed] at followed

/-- The rule of relays is what `Graph.trace` computes. -/
theorem leads_iff_trace {source : Source} {result : Trace} :
    Leads catalogue graph [] source result ↔ graph.trace catalogue source = result := by
  constructor
  · exact fun leads => (leads_trace source).unique leads
  · rintro rfl
    exact leads_trace source

end

end Flowgraph
