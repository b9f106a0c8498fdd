import Mathlib.Data.List.Chain
import Mathlib.Logic.Relation
import Flowgraph.Proofs.Cleaning.Relays

/-!
# Relays that nothing single feeds

A relay with one wired input passes on what that input leads to. Going on from relay to relay, one
comes to a node that is no relay, to a relay that has no wired input or several, or to a relay that
was met before. Only in the last case, and if the first relay itself has no single input, is the
first relay to blame.

Main result: `feed_eq_unfed_iff` says so, with the class that the blame names.
-/
namespace Flowgraph

open Relation (ReflTransGen)

/-- A relay has one wired input, and that input leads to a node. -/
def PassesOn (catalogue : Catalogue) (graph : Graph) (relay next : String) : Prop :=
  ∃ node input source, graph.get? relay = some node ∧
    catalogue.routing node.classType = .relay ∧ node.links = [(input, source)] ∧
    source.node = next

/-- A chain of relays, each passing on what the next one gives, none twice and none that was passed
before; the last one passes on what one of them, or one that was passed before, gives. -/
structure Loop (catalogue : Catalogue) (graph : Graph) (passed chain : List String)
    (last : String) : Prop where
  linked : chain.IsChain (PassesOn catalogue graph)
  distinct : (chain ++ passed).Nodup
  ends : chain.getLast? = some last
  closes : ∃ met ∈ chain ++ passed, PassesOn catalogue graph last met

section

variable {catalogue : Catalogue} {graph : Graph} {passed path : List String}
variable {current next last id fed classType : String} {node : Node} {fuel : Nat}

theorem PassesOn.relay (passes : PassesOn catalogue graph current next) :
    graph.routing? catalogue current = some .relay := by
  obtain ⟨node, -, -, found, relays, -⟩ := passes
  rw [routing?_of_get? found, relays]

theorem loop_singleton_iff : Loop catalogue graph passed [current] last ↔
    (current :: passed).Nodup ∧ current = last ∧
      ∃ met ∈ current :: passed, PassesOn catalogue graph current met := by
  constructor
  · rintro ⟨-, distinct, ends, closes⟩
    cases ends
    exact ⟨distinct, rfl, closes⟩
  · rintro ⟨distinct, rfl, closes⟩
    exact ⟨.singleton _, distinct, rfl, closes⟩

/-- Of a chain, the first relay can as well be one that was passed before. -/
theorem loop_cons_iff : Loop catalogue graph passed (current :: next :: path) last ↔
    PassesOn catalogue graph current next ∧
      Loop catalogue graph (current :: passed) (next :: path) last := by
  have perm : (next :: path ++ current :: passed).Perm (current :: next :: path ++ passed) :=
    List.perm_middle
  constructor
  · rintro ⟨linked, distinct, ends, closes⟩
    obtain ⟨passes, linked⟩ := List.isChain_cons_cons.mp linked
    refine ⟨passes, linked, perm.nodup_iff.mpr distinct, ?_, ?_⟩
    · rwa [List.getLast?_cons_cons] at ends
    · simpa only [perm.mem_iff] using closes
  · rintro ⟨passes, linked, distinct, ends, closes⟩
    refine ⟨linked.cons_cons passes, perm.nodup_iff.mp distinct, ?_, ?_⟩
    · rwa [List.getLast?_cons_cons]
    · simpa only [perm.mem_iff] using closes

theorem Loop.relays (loop : Loop catalogue graph passed (current :: path) last) :
    ∀ id ∈ current :: path, graph.routing? catalogue id = some .relay := by
  induction path generalizing passed current with
  | nil =>
    obtain ⟨-, rfl, met, -, passes⟩ := loop_singleton_iff.mp loop
    simpa using passes.relay
  | cons next rest ih =>
    obtain ⟨passes, onward⟩ := loop_cons_iff.mp loop
    exact List.forall_mem_cons.mpr ⟨passes.relay, ih onward⟩

theorem loop_of_follow (found : graph.get? current = some node)
    (relays : catalogue.routing node.classType = .relay) (distinct : (current :: passed).Nodup)
    (inside : fed ∈ current :: passed)
    (followed : graph.follow catalogue fed fuel (current :: passed) current = .unfed classType) :
    (current = fed ∧ node.links.length ≠ 1 ∧ node.classType = classType) ∨
      ∃ path last, Loop catalogue graph passed (current :: path) last ∧
        graph.classOf last = classType := by
  -- on the fuel: with one unit a relay hands on to the next, and then stands among those passed
  induction fuel generalizing passed current node with
  | zero => simp [Graph.follow] at followed
  | succ fuel ih =>
    by_cases single : node.links.length = 1
    · obtain ⟨⟨input, source⟩, single⟩ := List.length_eq_one_iff.mp single
      have passes : PassesOn catalogue graph current source.node :=
        ⟨node, input, source, found, relays, single, rfl⟩
      rw [Graph.follow_of_single found single] at followed
      right
      split at followed
      · next routed =>
        split at followed
        · next again =>
          -- the chain closes here, so the class that is named is the one of this relay
          cases followed
          refine ⟨[], current, loop_singleton_iff.mpr ⟨distinct, rfl, _, again, passes⟩, ?_⟩
          simp [Graph.classOf, found]
        · next fresh =>
          obtain ⟨nextNode, nextFound, nextRelays⟩ := routing?_eq_some_iff.mp routed
          rcases ih nextFound nextRelays (List.nodup_cons.mpr ⟨fresh, distinct⟩)
            (List.mem_cons_of_mem _ inside) followed with ⟨rfl, -⟩ | ⟨path, last, loop, named⟩
          · -- the relay that is fed was passed, so it is not the next one
            exact absurd inside fresh
          · exact ⟨_, last, loop_cons_iff.mpr ⟨passes, loop⟩, named⟩
      · contradiction
      · contradiction
    · rw [Graph.follow_of_notSingle found single] at followed
      split at followed
      · next same =>
        cases followed
        exact .inl ⟨same, single, rfl⟩
      · contradiction

theorem follow_of_loop (relays : ∀ id ∈ passed, graph.routing? catalogue id = some .relay)
    (loop : Loop catalogue graph passed (current :: path) last) (enough : path.length < fuel) :
    graph.follow catalogue fed fuel (current :: passed) current =
      .unfed (graph.classOf last) := by
  -- on the chain, whose relays each take one unit of the fuel
  induction path generalizing passed current fuel with
  | nil =>
    obtain ⟨fuel, rfl⟩ := Nat.exists_eq_add_one_of_ne_zero (Nat.ne_zero_of_lt enough)
    obtain ⟨distinct, rfl, met, member, passes⟩ := loop_singleton_iff.mp loop
    have seen : ∀ id ∈ current :: passed, graph.routing? catalogue id = some .relay :=
      List.forall_mem_cons.mpr ⟨passes.relay, relays⟩
    have routed := seen met member
    obtain ⟨node, input, source, found, -, single, rfl⟩ := passes
    rw [Graph.follow_of_single found single]
    simp only [routed, member, if_true, Graph.classOf, found, Option.map_some, Option.getD_some]
  | cons next rest ih =>
    obtain ⟨fuel, rfl⟩ := Nat.exists_eq_add_one_of_ne_zero (Nat.ne_zero_of_lt enough)
    obtain ⟨passes, onward⟩ := loop_cons_iff.mp loop
    have routed := onward.relays next List.mem_cons_self
    -- the chain goes on, so the next relay has not been visited
    have fresh : next ∉ current :: passed := fun member =>
      (List.nodup_append.mp onward.distinct).2.2 next List.mem_cons_self next member rfl
    have seen : ∀ id ∈ current :: passed, graph.routing? catalogue id = some .relay :=
      List.forall_mem_cons.mpr ⟨passes.relay, relays⟩
    obtain ⟨node, input, source, found, -, single, rfl⟩ := passes
    rw [Graph.follow_of_single found single]
    simp only [routed, fresh, if_false]
    exact ih seen onward (Nat.lt_of_succ_lt_succ enough)

theorem feed_eq_unfed_iff (found : graph.get? id = some node)
    (relays : catalogue.routing node.classType = .relay) :
    graph.feed catalogue id = .unfed classType ↔
      node.links.length ≠ 1 ∧ node.classType = classType ∨
        ∃ path last, Loop catalogue graph [] (id :: path) last ∧
          graph.classOf last = classType := by
  have inside : id ∈ graph.ids := Keyed.mem_keys_of_get? found
  constructor
  · intro unfed
    rcases loop_of_follow found relays (by simp) (by simp) unfed with ⟨-, own⟩ | loop
    · exact .inl own
    · exact .inr loop
  · rintro (⟨several, rfl⟩ | ⟨path, last, loop, rfl⟩)
    · have nonempty : 1 ≤ graph.size :=
        length_le_size (List.nodup_singleton id) (by simpa using inside)
      obtain ⟨fuel, enough⟩ := Nat.exists_eq_add_one.mpr nonempty
      rw [Graph.feed, enough, Graph.follow_of_notSingle found several, if_pos rfl]
    · -- the relays of a loop are different nodes of the graph
      have bound : (id :: path).length ≤ graph.size := by
        apply length_le_size (by simpa using loop.distinct)
        intro other member
        obtain ⟨_, otherFound, -⟩ := routing?_eq_some_iff.mp (loop.relays other member)
        exact Keyed.mem_keys_of_get? otherFound
      exact follow_of_loop (by simp) loop bound

/-- If a relay passes on nothing and is not to blame, the chain that begins with it comes to an
ornament, or to a relay that has no wired input or several. -/
theorem end_of_follow (found : graph.get? current = some node)
    (relays : catalogue.routing node.classType = .relay) (distinct : (current :: passed).Nodup)
    (members : ∀ id ∈ current :: passed, id ∈ graph.ids)
    (enough : graph.size < fuel + (passed.length + 1))
    (followed : graph.follow catalogue fed fuel (current :: passed) current = .nothing) :
    ∃ last, ReflTransGen (PassesOn catalogue graph) current last ∧
      (graph.routing? catalogue last = some .ornament ∨
        ∃ node, graph.get? last = some node ∧ catalogue.routing node.classType = .relay ∧
          node.links.length ≠ 1) := by
  induction fuel generalizing passed current node with
  | zero =>
    -- without fuel more relays are visited than the graph has nodes
    have bound : passed.length + 1 ≤ graph.size := length_le_size distinct members
    omega
  | succ fuel ih =>
    by_cases single : node.links.length = 1
    · obtain ⟨⟨input, source⟩, single⟩ := List.length_eq_one_iff.mp single
      have passes : PassesOn catalogue graph current source.node :=
        ⟨node, input, source, found, relays, single, rfl⟩
      rw [Graph.follow_of_single found single] at followed
      split at followed
      · next routed =>
        split at followed
        · contradiction
        · next fresh =>
          obtain ⟨nextNode, nextFound, nextRelays⟩ := routing?_eq_some_iff.mp routed
          obtain ⟨last, path, ended⟩ := ih nextFound nextRelays
            (List.nodup_cons.mpr ⟨fresh, distinct⟩)
            (List.forall_mem_cons.mpr ⟨Keyed.mem_keys_of_get? nextFound, members⟩)
            (by simp only [List.length_cons]; omega) followed
          exact ⟨last, path.head passes, ended⟩
      · next routed => exact ⟨_, .single passes, .inl routed⟩
      · contradiction
    · exact ⟨current, .refl, .inr ⟨node, found, relays, single⟩⟩

end

end Flowgraph
