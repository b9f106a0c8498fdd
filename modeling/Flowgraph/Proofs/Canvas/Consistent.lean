import Flowgraph.Proofs.Canvas.OfGraph

/-!
# The three records of a connection

A canvas says of every connection three times where it runs: in the wire table, at the inlet where
the wire ends and at the outlet where it begins. On a canvas that is made from a graph the three
agree, and nothing else is recorded. Ids and slots are machine words there, so what is said of them
as numbers is said as long as the words suffice to count.

Main result: `ofGraph_consistent`.
-/
namespace Flowgraph

namespace Graph

variable {graph : Graph} {id : String} {node : Node} {item : NumberedLink} {slot : Nat}

theorem map_id_numbered (graph : Graph) :
    graph.numbered.map NumberedLink.id = List.range' 1 graph.linkCount := by
  have count := congrArg List.length (map_link_numbered graph)
  rw [numbered, List.length_map, List.length_map, List.length_zipIdx] at count
  rw [linkCount_eq, ← count, ← List.zipIdx_map_snd 1, numbered, List.map_map]
  rfl

theorem getElem?_numbered_filter_consumer (found : graph.get? id = some node) :
    (graph.numbered.filter fun item => item.link.consumer = id)[slot]? = some item ↔
      item ∈ graph.numbered ∧ item.link.consumer = id ∧ item.slot = slot := by
  have at_slot (slot : Nat) (item : NumberedLink)
      (there : (graph.numbered.filter fun item => item.link.consumer = id)[slot]? = some item) :
      item.slot = slot := by
    have pair := congrArg (fun pairs => pairs[slot]?) (numbered_filter_consumer found)
    simp only [List.getElem?_map, there, Option.map_some, slotted, List.getElem?_zipIdx,
      Option.map_map, Nat.zero_add] at pair
    obtain ⟨link, -, same⟩ := Option.map_eq_some_iff.mp pair.symm
    exact (Prod.mk.inj same).2.symm
  constructor
  · intro there
    obtain ⟨member, consumer⟩ := List.mem_filter.mp (List.mem_of_getElem? there)
    exact ⟨member, of_decide_eq_true consumer, at_slot slot item there⟩
  · rintro ⟨member, consumer, rfl⟩
    -- the item stands somewhere, and where it stands is its slot
    have inside : item ∈ graph.numbered.filter fun item => item.link.consumer = id :=
      List.mem_filter.mpr ⟨member, decide_eq_true consumer⟩
    obtain ⟨place, there⟩ := List.getElem?_of_mem inside
    rwa [at_slot place item there]

end Graph

namespace Canvas

/-- The canvas lists the id of a wire at an outlet of a node. -/
def ListsAt (canvas : Canvas) (wire : UInt64) (id : String) (slot : Nat) : Prop :=
  ∃ drawn ∈ canvas.nodes, drawn.id = id ∧ ∃ outlet wires,
    drawn.outlets[slot]? = some outlet ∧ outlet.wires = some wires ∧ wire ∈ wires

/-- Wire table, inlets and outlets of a canvas all say what the connections of a graph are. -/
structure Consistent (graph : Graph) (canvas : Canvas) : Prop where
  nodes : canvas.nodes.map Node.id = graph.ids
  /-- The wires are numbered from one. -/
  ids : canvas.wires.map Wire.id = (List.range' 1 graph.linkCount).map Nat.toUInt64
  /-- Each wire runs as the connection at its place among the connections of the graph. -/
  ends : canvas.wires.map (fun wire => (wire.origin, wire.target)) =
    graph.links.map fun link => (link.source, link.consumer)
  /-- At the slot of a wire its target has the inlet of the connection. -/
  lands : ∀ (place : Nat) (wire : Wire) (link : Link), canvas.wires[place]? = some wire →
    graph.links[place]? = some link → ∃ drawn ∈ canvas.nodes, drawn.id = wire.target ∧
      ∃ slot, wire.slot = slot.toUInt32 ∧
        drawn.inlets[slot]? = some ⟨link.input, "", some wire.id⟩ ∧
        (drawn.inlets.length ≤ UInt32.size → wire.slot.toNat = slot)
  /-- Every inlet is that of a connection. -/
  inlets : ∀ drawn ∈ canvas.nodes, ∀ (slot : Nat) (inlet : Inlet),
    drawn.inlets[slot]? = some inlet → ∃ (place : Nat) (wire : Wire) (link : Link),
      canvas.wires[place]? = some wire ∧ graph.links[place]? = some link ∧
      wire.target = drawn.id ∧ wire.slot = slot.toUInt32 ∧ inlet = ⟨link.input, "", some wire.id⟩
  /-- An outlet has its own slot and lists the wires that begin there, in their order. -/
  outlets : ∀ drawn ∈ canvas.nodes, ∀ (slot : Nat) (outlet : Outlet),
    drawn.outlets[slot]? = some outlet → outlet.slot = some slot.toUInt32 ∧
      outlet.wires = some ((canvas.wires.filter fun wire =>
        wire.origin = ⟨drawn.id, slot.toUInt32⟩).map Wire.id)
  ascending : graph.linkCount < UInt64.size → ∀ drawn ∈ canvas.nodes, ∀ outlet ∈ drawn.outlets,
    ∀ wires, outlet.wires = some wires → wires.Pairwise (· < ·)
  /-- A wire is listed at its origin if the origin is on the canvas, and nowhere else. -/
  listed : graph.linkCount < UInt64.size →
    (∀ drawn ∈ canvas.nodes, drawn.outlets.length ≤ UInt32.size) →
    ∀ wire ∈ canvas.wires, ∀ id slot, canvas.ListsAt wire.id id slot ↔
      id ∈ graph.ids ∧ wire.origin.node = id ∧ wire.origin.slot.toNat = slot

section

variable {catalogue : Catalogue} {graph : Graph} {links : List NumberedLink} {id : String}
  {node : Flowgraph.Node} {slot : Nat}

theorem mem_nodes_ofGraph {drawn : Node} : drawn ∈ (ofGraph catalogue graph).nodes ↔
    ∃ id node, graph.get? id = some node ∧ nodeOf catalogue graph.numbered id node = drawn := by
  simp only [ofGraph, List.mem_map, Prod.exists, Graph.get?, Keyed.get?_eq_some_iff]
  rfl

theorem getElem?_inlets_nodeOf (catalogue : Catalogue) (found : graph.get? id = some node)
    {inlet : Inlet} :
    (nodeOf catalogue graph.numbered id node).inlets[slot]? = some inlet ↔
      ∃ item ∈ graph.numbered, item.link.consumer = id ∧ item.slot = slot ∧
        inletOf item = inlet := by
  simp only [nodeOf, List.getElem?_map, Option.map_eq_some_iff,
    Graph.getElem?_numbered_filter_consumer found, and_assoc]

theorem outletCount_le_iff {count : Nat} : outletCount links id node ≤ count ↔
    node.outputs.length ≤ count ∧
      ∀ item ∈ links, item.link.source.node = id → item.link.source.slot.toNat < count := by
  rw [outletCount]
  -- the count starts from the outputs that are named, and that start is generalized
  generalize node.outputs.length = named
  induction links generalizing named with
  | nil => simp
  | cons item rest ih =>
    rw [List.foldl_cons, ih]
    simp only [List.forall_mem_cons]
    by_cases own : item.link.source.node = id
    · rw [if_pos own, Nat.max_le]
      simp only [own, forall_const, Nat.succ_le_iff, and_assoc]
    · rw [if_neg own]
      simp only [own, false_implies, true_and]

theorem slot_lt_outletCount {item : NumberedLink} (member : item ∈ links)
    (own : item.link.source.node = id) :
    item.link.source.slot.toNat < outletCount links id node :=
  (outletCount_le_iff.mp (Nat.le_refl _)).2 item member own

theorem getElem?_outlets_nodeOf {outlet : Outlet} :
    (nodeOf catalogue links id node).outlets[slot]? = some outlet ↔
      slot < outletCount links id node ∧ outletAt links id node slot = outlet := by
  simp only [nodeOf, List.getElem?_map, Option.map_eq_some_iff, List.getElem?_eq_some_iff,
    List.length_range, List.getElem_range]
  constructor
  · rintro ⟨_, ⟨bound, rfl⟩, same⟩
    exact ⟨bound, same⟩
  · rintro ⟨bound, same⟩
    exact ⟨slot, ⟨bound, rfl⟩, same⟩

/-- A wire and a connection at one place are those of one numbered link. -/
theorem getElem?_wires_links_iff (catalogue : Catalogue) {place : Nat} {wire : Wire} {link : Link} :
    (ofGraph catalogue graph).wires[place]? = some wire ∧ graph.links[place]? = some link ↔
      ∃ item, graph.numbered[place]? = some item ∧ wireOf item = wire ∧ item.link = link := by
  rw [← Graph.map_link_numbered]
  simp only [ofGraph, List.getElem?_map, Option.map_eq_some_iff]
  constructor
  · rintro ⟨⟨item, numbered, same⟩, other, again, connection⟩
    cases again.symm.trans numbered
    exact ⟨item, numbered, same, connection⟩
  · rintro ⟨item, numbered, same, connection⟩
    exact ⟨⟨item, numbered, same⟩, item, numbered, connection⟩

theorem map_id_wires (catalogue : Catalogue) (graph : Graph) :
    (ofGraph catalogue graph).wires.map Wire.id =
      (List.range' 1 graph.linkCount).map Nat.toUInt64 := by
  rw [← Graph.map_id_numbered, List.map_map]
  simp only [ofGraph, List.map_map]
  rfl

theorem pairwise_wires (catalogue : Catalogue) (fits : graph.linkCount < UInt64.size) :
    (ofGraph catalogue graph).wires.Pairwise fun wire later => wire.id < later.id := by
  rw [← List.pairwise_map (f := Wire.id) (R := (· < ·)), map_id_wires, List.pairwise_map]
  -- the numbers ascend, and a word that they fit keeps them as they are
  refine (List.pairwise_lt_range' 1).imp_of_mem ?_
  intro first later early late before
  have counted (number : Nat) (listed : number ∈ List.range' 1 graph.linkCount) :
      number.toUInt64.toNat = number := by
    have bound := List.mem_range'_1.mp listed
    exact UInt64.toNat_ofNat_of_lt' (by omega)
  rw [UInt64.lt_iff_toNat_lt, counted first early, counted later late]
  exact before

theorem wires_outletAt (catalogue : Catalogue) (graph : Graph) (id : String)
    (node : Flowgraph.Node) (slot : Nat) : (outletAt graph.numbered id node slot).wires =
      some (((ofGraph catalogue graph).wires.filter fun wire =>
        wire.origin = ⟨id, slot.toUInt32⟩).map Wire.id) := by
  simp only [outletAt, ofGraph, List.filter_map, List.map_map]
  rfl

theorem listsAt_ofGraph_iff (fits : graph.linkCount < UInt64.size)
    (spare : ∀ drawn ∈ (ofGraph catalogue graph).nodes, drawn.outlets.length ≤ UInt32.size)
    {wire : Wire} (member : wire ∈ (ofGraph catalogue graph).wires) :
    (ofGraph catalogue graph).ListsAt wire.id id slot ↔
      id ∈ graph.ids ∧ wire.origin.node = id ∧ wire.origin.slot.toNat = slot := by
  constructor
  · rintro ⟨drawn, inside, rfl, outlet, wires, there, lists, listed⟩
    obtain ⟨id, node, found, rfl⟩ := mem_nodes_ofGraph.mp inside
    have room : outletCount graph.numbered id node ≤ UInt32.size := by
      simpa only [nodeOf, List.length_map, List.length_range] using spare _ inside
    obtain ⟨bound, rfl⟩ := getElem?_outlets_nodeOf.mp there
    rw [wires_outletAt catalogue] at lists
    cases lists
    obtain ⟨other, begins, same⟩ := List.mem_map.mp listed
    obtain ⟨present, origin⟩ := List.mem_filter.mp begins
    -- ids do not repeat, so the wire that is listed is the wire
    have distinct : ((ofGraph catalogue graph).wires.map Wire.id).Nodup :=
      List.pairwise_map.mpr ((pairwise_wires catalogue fits).imp UInt64.ne_of_lt)
    obtain rfl := List.inj_on_of_nodup_map distinct present member same
    rw [of_decide_eq_true origin]
    exact ⟨Keyed.mem_keys_of_get? found, rfl,
      UInt32.toNat_ofNat_of_lt' (Nat.lt_of_lt_of_le bound room)⟩
  · rintro ⟨present, rfl, rfl⟩
    obtain ⟨node, found⟩ := Keyed.exists_of_mem_keys present
    obtain ⟨item, numbered, rfl⟩ := List.mem_map.mp member
    refine ⟨_, nodeOf_mem catalogue found, rfl, _, _,
      getElem?_outlets_nodeOf.mpr ⟨slot_lt_outletCount numbered rfl, rfl⟩,
      wires_outletAt catalogue graph _ node _, ?_⟩
    refine List.mem_map_of_mem (List.mem_filter.mpr ⟨member, decide_eq_true ?_⟩)
    rw [Nat.toUInt32, UInt32.ofNat_toNat]

theorem ofGraph_consistent (catalogue : Catalogue) (graph : Graph) :
    Consistent graph (ofGraph catalogue graph) where
  nodes := ids_ofGraph catalogue graph
  ids := map_id_wires catalogue graph
  ends := by
    rw [← Graph.map_link_numbered, List.map_map]
    simp only [ofGraph, List.map_map]
    rfl
  lands := by
    intro place wire link there connection
    obtain ⟨item, numbered, rfl, rfl⟩ := (getElem?_wires_links_iff catalogue).mp ⟨there, connection⟩
    have member := List.mem_of_getElem? numbered
    obtain ⟨node, found, -⟩ := Graph.getElem?_links_of_mem_numbered member
    have inlet := (getElem?_inlets_nodeOf catalogue found).mpr ⟨item, member, rfl, rfl, rfl⟩
    obtain ⟨inside, -⟩ := List.getElem?_eq_some_iff.mp inlet
    exact ⟨_, nodeOf_mem catalogue found, rfl, item.slot, rfl, inlet,
      fun room => UInt32.toNat_ofNat_of_lt' (Nat.lt_of_lt_of_le inside room)⟩
  inlets := by
    intro drawn inside slot inlet there
    obtain ⟨id, node, found, rfl⟩ := mem_nodes_ofGraph.mp inside
    obtain ⟨item, member, consumer, rfl, rfl⟩ := (getElem?_inlets_nodeOf catalogue found).mp there
    obtain ⟨place, numbered⟩ := List.getElem?_of_mem member
    obtain ⟨wire, connection⟩ :=
      (getElem?_wires_links_iff catalogue).mpr ⟨item, numbered, rfl, rfl⟩
    exact ⟨place, wireOf item, item.link, wire, connection, consumer, rfl, rfl⟩
  outlets := by
    intro drawn inside slot outlet there
    obtain ⟨id, node, -, rfl⟩ := mem_nodes_ofGraph.mp inside
    obtain ⟨-, rfl⟩ := getElem?_outlets_nodeOf.mp there
    exact ⟨rfl, wires_outletAt catalogue graph id node slot⟩
  ascending := by
    intro fits drawn inside outlet member wires lists
    obtain ⟨id, node, -, rfl⟩ := mem_nodes_ofGraph.mp inside
    obtain ⟨slot, there⟩ := List.getElem?_of_mem member
    obtain ⟨-, rfl⟩ := getElem?_outlets_nodeOf.mp there
    rw [wires_outletAt catalogue] at lists
    cases lists
    exact List.pairwise_map.mpr ((pairwise_wires catalogue fits).filter _)
  listed := fun fits spare _ member _ _ => listsAt_ofGraph_iff fits spare member

end

/-- A node that is read twice at a slot it does not name, by a node that reads itself too. -/
def fanned : Graph := ⟨.ofList [
  ("b", ⟨"Mixer", .ofList [("left", .wired ⟨"a", 2⟩), ("gain", .constant (.ofWord 5)),
    ("right", .wired ⟨"a", 2⟩), ("back", .wired ⟨"b", 0⟩), ("side", .wired ⟨"gone", 0⟩)],
    [], none⟩),
  ("a", ⟨"Dice", .ofList [], ["high"], none⟩)]⟩

theorem ofGraph_consistent_fanned :
    (∃ drawn ∈ (ofGraph .core fanned).nodes, drawn.id = "b" ∧
      drawn.inlets[1]? = some ⟨"right", "", some 2⟩) ∧
    (ofGraph .core fanned).ListsAt 1 "a" 2 ∧ (ofGraph .core fanned).ListsAt 2 "a" 2 ∧
    (ofGraph .core fanned).ListsAt 3 "b" 0 ∧ ¬ (ofGraph .core fanned).ListsAt 4 "gone" 0 := by
  have consistent := ofGraph_consistent .core fanned
  obtain ⟨drawn, member, target, slot, -, inlet, counted⟩ :=
    consistent.lands 1 ⟨2, ⟨"a", 2⟩, "b", 1⟩ ⟨"b", "right", ⟨"a", 2⟩⟩ (by decide) (by decide)
  have listed := consistent.listed (by decide) (by decide)
  refine ⟨⟨drawn, member, target, ?_⟩, ?_, ?_, ?_, ?_⟩
  · have few : ∀ drawn ∈ (ofGraph .core fanned).nodes, drawn.inlets.length ≤ UInt32.size := by
      decide
    obtain rfl : 1 = slot := counted (few drawn member)
    exact inlet
  · exact (listed ⟨1, ⟨"a", 2⟩, "b", 0⟩ (by decide) _ _).mpr (by decide)
  · exact (listed ⟨2, ⟨"a", 2⟩, "b", 1⟩ (by decide) _ _).mpr (by decide)
  · exact (listed ⟨3, ⟨"b", 0⟩, "b", 2⟩ (by decide) _ _).mpr (by decide)
  · exact fun lists => absurd
      ((listed ⟨4, ⟨"gone", 0⟩, "b", 3⟩ (by decide) _ _).mp lists).1 (by decide)

end Canvas

end Flowgraph
