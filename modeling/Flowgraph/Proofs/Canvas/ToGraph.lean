import Mathlib.Data.List.Dedup
import Flowgraph.Canvas.Reader
import Flowgraph.Catalogue.Core
import Flowgraph.Proofs.Canvas.Inputs
import Flowgraph.Proofs.Links
import Flowgraph.Proofs.Shape

/-!
# From canvas to graph, by its specification

The graph of a canvas has the nodes of the canvas, each with the inputs that `Canvas.Holds` says,
and every wire either lands at one of these inputs or is dropped with its reason.

Main result: `toGraph_compiled`.
-/
namespace Flowgraph.Canvas

/-- Walking the wire table, one message for each wire that lands nowhere. -/
inductive Reports (catalogue : Catalogue) (canvas : Canvas) : List Wire → List DroppedWire → Prop
  | done : Reports catalogue canvas [] []
  | lands {wire : Wire} {wires : List Wire} {dropped : List DroppedWire} {id name : String}
      (lands : Lands catalogue canvas id name wire)
      (rest : Reports catalogue canvas wires dropped) :
      Reports catalogue canvas (wire :: wires) dropped
  | unknownTarget {wire : Wire} {wires : List Wire} {dropped : List DroppedWire}
      (unknown : ∀ node ∈ canvas.nodes, node.id ≠ wire.target)
      (rest : Reports catalogue canvas wires dropped) :
      Reports catalogue canvas (wire :: wires) (.unknownTarget wire :: dropped)
  | unnamedSlot {wire : Wire} {wires : List Wire} {dropped : List DroppedWire} {node : Node}
      (member : node ∈ canvas.nodes) (target : node.id = wire.target)
      (unnamed : ∀ name, ¬ Names catalogue node wire.slot.toNat name)
      (rest : Reports catalogue canvas wires dropped) :
      Reports catalogue canvas (wire :: wires) (.unnamedSlot wire :: dropped)

/-- What the graph of a canvas and the dropped wires have to be. -/
structure Compiled (catalogue : Catalogue) (canvas : Canvas) (graph : Graph)
    (dropped : List DroppedWire) : Prop where
  ids : graph.ids = canvas.nodes.map Node.id
  nodes : ∀ node ∈ canvas.nodes, ∃ made, graph.get? node.id = some made ∧
    made.classType = node.classType ∧
    ∀ name input, made.inputs.get? name = some input ↔ Holds catalogue canvas node name input
  reports : Reports catalogue canvas canvas.wires dropped
  balance : graph.linkCount + dropped.length ≤ canvas.wires.length
  /-- A wire is lost without a message only where a later one lands at the same input. -/
  overlaid : graph.linkCount + dropped.length = canvas.wires.length ↔
    canvas.wires.Pairwise fun wire other =>
      ∀ id name, Lands catalogue canvas id name wire → ¬ Lands catalogue canvas id name other

theorem nodup_of_readNodes {position : Nat} {seen : List String} {values : List Json}
    {nodes : List Node} (read : readNodes position seen values = .ok nodes) :
    (nodes.map Node.id).Nodup ∧ ∀ node ∈ nodes, node.id ∉ seen := by
  induction values generalizing position seen nodes with
  | nil =>
    cases read
    simp
  | cons value rest ih =>
    rw [readNodes] at read
    split at read
    · contradiction
    · next node _ =>
      split at read
      · contradiction
      · next fresh =>
        obtain ⟨later, taken, rfl⟩ := map_eq_ok_iff.mp read
        -- the later nodes were read with this node's id among those seen
        obtain ⟨distinct, unseen⟩ := ih taken
        simp only [List.mem_cons, not_or] at unseen
        refine ⟨?_, ?_⟩
        · rw [List.map_cons, List.nodup_cons]
          refine ⟨?_, distinct⟩
          intro member
          obtain ⟨other, inside, same⟩ := List.mem_map.mp member
          exact (unseen other inside).1 same
        · intro other member
          rcases List.mem_cons.mp member with rfl | inside
          · exact fresh
          · exact (unseen other inside).2

theorem eq_filterMap_of_readNodes {position : Nat} {seen : List String} {values : List Json}
    {nodes : List Node} (read : readNodes position seen values = .ok nodes) :
    nodes = values.filterMap fun value => (Node.read value).toOption := by
  induction values generalizing position seen nodes with
  | nil =>
    cases read
    rfl
  | cons value rest ih =>
    rw [readNodes] at read
    split at read
    · contradiction
    · next node taken =>
      split at read
      · contradiction
      · obtain ⟨later, others, rfl⟩ := map_eq_ok_iff.mp read
        have first : (Node.read value).toOption = some node := toOption_eq_some_iff.mpr taken
        rw [ih others, List.filterMap_cons, first]

theorem nodup_of_ofJson {document : Json} {canvas : Canvas}
    (read : Canvas.ofJson document = .ok canvas) : (canvas.nodes.map Node.id).Nodup := by
  obtain ⟨nodes, taken, made⟩ := bind_eq_ok_iff.mp read
  cases made
  exact (nodup_of_readNodes taken).1

theorem nodes_of_ofJson {document : Json} {canvas : Canvas}
    (read : Canvas.ofJson document = .ok canvas) : canvas.nodes =
      (itemsOf document "nodes").filterMap fun value => (Node.read value).toOption := by
  obtain ⟨nodes, taken, made⟩ := bind_eq_ok_iff.mp read
  cases made
  exact eq_filterMap_of_readNodes taken

section

variable {catalogue : Catalogue} {canvas : Canvas}

theorem entries_toGraph (catalogue : Catalogue) (distinct : (canvas.nodes.map Node.id).Nodup) :
    (canvas.toGraph catalogue).1.entries = canvas.nodes.map fun node =>
      (node.id, node.compile catalogue (landings catalogue canvas)) := by
  apply Keyed.entries_ofList
  rw [List.map_map]
  exact distinct

theorem ids_toGraph (distinct : (canvas.nodes.map Node.id).Nodup) :
    (canvas.toGraph catalogue).1.ids = canvas.nodes.map Node.id := by
  have entries := entries_toGraph catalogue distinct
  simp only [Graph.ids, Keyed.keys, Graph.entries] at entries ⊢
  rw [entries, List.map_map]
  rfl

theorem get?_toGraph (distinct : (canvas.nodes.map Node.id).Nodup) {id : String}
    {made : Flowgraph.Node} : (canvas.toGraph catalogue).1.get? id = some made ↔
      ∃ node ∈ canvas.nodes, node.id = id ∧
        made = node.compile catalogue (landings catalogue canvas) := by
  have entries := entries_toGraph catalogue distinct
  rw [Graph.get?, Keyed.get?_eq_some_iff, ← Graph.entries, entries, List.mem_map]
  simp only [Prod.mk.injEq]
  constructor
  · rintro ⟨node, member, same, rfl⟩
    exact ⟨node, member, same, rfl⟩
  · rintro ⟨node, member, same, rfl⟩
    exact ⟨node, member, same, rfl⟩

theorem reports_dropped (distinct : (canvas.nodes.map Node.id).Nodup) :
    Reports catalogue canvas canvas.wires (dropped catalogue canvas) := by
  unfold dropped
  -- the wires are walked while the canvas that they are looked up in stays whole
  generalize canvas.wires = wires
  induction wires with
  | nil => exact .done
  | cons wire rest ih =>
    cases landed : landing catalogue canvas wire with
    | ok link =>
      have lands := ((landing_eq_ok_iff distinct).mp landed).1
      simp only [List.filterMap_cons, landed]
      exact .lands lands ih
    | error reason =>
      simp only [List.filterMap_cons, landed]
      unfold landing at landed
      split at landed
      · next unknown =>
        cases landed
        refine .unknownTarget (fun node member => ?_) ih
        have other := List.find?_eq_none.mp unknown node member
        simpa using other
      · next node found =>
        obtain ⟨member, target⟩ := (node?_eq_some_iff distinct).mp found
        split at landed
        · next unnamed =>
          cases landed
          refine .unnamedSlot member target (fun name names => ?_) ih
          rw [inputName?_eq_some_iff.mpr names] at unnamed
          contradiction
        · contradiction

theorem dropped_eq_nil_iff (distinct : (canvas.nodes.map Node.id).Nodup) :
    dropped catalogue canvas = [] ↔
      ∀ wire ∈ canvas.wires, ∃ id name, Lands catalogue canvas id name wire := by
  rw [dropped, List.filterMap_eq_nil_iff]
  refine forall₂_congr fun wire _ => ?_
  constructor
  · intro kept
    cases landed : landing catalogue canvas wire with
    | ok link => exact ⟨_, _, ((landing_eq_ok_iff distinct).mp landed).1⟩
    | error reason => simp [landed] at kept
  · rintro ⟨id, name, lands⟩
    have landed : landing catalogue canvas wire = .ok ⟨id, name, wire.origin⟩ :=
      (landing_eq_ok_iff distinct).mpr ⟨lands, rfl⟩
    rw [landed]

theorem length_landings_add_length_dropped (catalogue : Catalogue) (canvas : Canvas) :
    (landings catalogue canvas).length + (dropped catalogue canvas).length =
      canvas.wires.length := by
  unfold landings dropped
  generalize canvas.wires = wires
  induction wires with
  | nil => rfl
  | cons wire rest ih =>
    have taken (link : Link) :
        (Except.ok link : Except DroppedWire Link).toOption = some link := rfl
    have refused (reason : DroppedWire) :
        (Except.error reason : Except DroppedWire Link).toOption = none := rfl
    cases landed : landing catalogue canvas wire <;>
      simp only [List.filterMap_cons, landed, taken, refused, List.length_cons] <;> omega

theorem exists_mem_landings_iff (distinct : (canvas.nodes.map Node.id).Nodup) {id name : String} :
    (id, name) ∈ (landings catalogue canvas).map (fun link => (link.consumer, link.input)) ↔
      ∃ wire ∈ canvas.wires, Lands catalogue canvas id name wire := by
  simp only [List.mem_map, landings, List.mem_filterMap, toOption_landing_eq_some_iff distinct]
  constructor
  · rintro ⟨link, ⟨wire, member, lands, -⟩, same⟩
    obtain ⟨rfl, rfl⟩ := Prod.mk.inj same
    exact ⟨wire, member, lands⟩
  · rintro ⟨wire, member, lands⟩
    exact ⟨⟨id, name, wire.origin⟩, ⟨wire, member, lands, rfl⟩, rfl⟩

theorem wired_toGraph_iff (distinct : (canvas.nodes.map Node.id).Nodup) {id name : String}
    {source : Source} : (∃ made, (canvas.toGraph catalogue).1.get? id = some made ∧
      made.inputs.get? name = some (.wired source)) ↔
        ∃ wire, LastOf canvas.wires (Lands catalogue canvas id name) wire ∧
          source = wire.origin := by
  simp only [get?_toGraph distinct]
  constructor
  · rintro ⟨made, ⟨node, member, rfl, rfl⟩, held⟩
    exact holds_wired_iff.mp ((get?_compile_eq_some_iff distinct).mp held)
  · rintro ⟨wire, last, rfl⟩
    obtain ⟨node, inside, rfl, -⟩ := last.holds.slot
    exact ⟨_, ⟨node, inside, rfl, rfl⟩, (get?_compile_eq_some_iff distinct).mpr (.wired last)⟩

theorem exists_mem_links_toGraph_iff (distinct : (canvas.nodes.map Node.id).Nodup)
    {id name : String} : (id, name) ∈
      (canvas.toGraph catalogue).1.links.map (fun link => (link.consumer, link.input)) ↔
        ∃ wire ∈ canvas.wires, Lands catalogue canvas id name wire := by
  simp only [List.mem_map, Graph.mem_links_iff, wired_toGraph_iff distinct]
  constructor
  · rintro ⟨link, ⟨wire, last, -⟩, same⟩
    obtain ⟨rfl, rfl⟩ := Prod.mk.inj same
    -- an input that is wired has a last wire, and that one lands there
    exact ⟨wire, last.mem, last.holds⟩
  · intro lands
    obtain ⟨last, is⟩ := LastOf.exists_iff.mpr lands
    exact ⟨⟨id, name, last.origin⟩, ⟨last, is, rfl⟩, rfl⟩

theorem linkCount_toGraph (catalogue : Catalogue)
    (distinct : (canvas.nodes.map Node.id).Nodup) :
    (canvas.toGraph catalogue).1.linkCount =
      ((landings catalogue canvas).map fun link => (link.consumer, link.input)).dedup.length := by
  -- the links are those of the landings, each input once
  have same : ((canvas.toGraph catalogue).1.links.map fun link => (link.consumer, link.input)).Perm
      ((landings catalogue canvas).map fun link => (link.consumer, link.input)).dedup := by
    rw [List.perm_ext_iff_of_nodup (Graph.nodup_links_inputs _) (List.nodup_dedup _)]
    rintro ⟨id, name⟩
    rw [List.mem_dedup, exists_mem_links_toGraph_iff distinct, exists_mem_landings_iff distinct]
  rw [Graph.linkCount_eq, ← same.length_eq, List.length_map]

theorem nodup_landings_iff (distinct : (canvas.nodes.map Node.id).Nodup) :
    ((landings catalogue canvas).map fun link => (link.consumer, link.input)).Nodup ↔
      canvas.wires.Pairwise fun wire other => ∀ id name,
        Lands catalogue canvas id name wire → ¬ Lands catalogue canvas id name other := by
  rw [List.Nodup, List.pairwise_map, landings, List.pairwise_filterMap]
  apply List.Pairwise.iff
  intro wire other
  simp only [toOption_landing_eq_some_iff distinct]
  constructor
  · intro apart id name first second
    exact apart ⟨id, name, wire.origin⟩ ⟨first, rfl⟩ ⟨id, name, other.origin⟩ ⟨second, rfl⟩ rfl
  · rintro apart link ⟨first, -⟩ later ⟨second, -⟩ same
    obtain ⟨consumer, input⟩ := Prod.mk.inj same
    rw [← consumer, ← input] at second
    exact apart _ _ first second

end

/-- A canvas that was read is compiled by its specification. -/
theorem toGraph_compiled {document : Json} {canvas : Canvas}
    (read : Canvas.ofJson document = .ok canvas) (catalogue : Catalogue) :
    Compiled catalogue canvas (canvas.toGraph catalogue).1 (canvas.toGraph catalogue).2 := by
  have distinct := nodup_of_ofJson read
  have total := length_landings_add_length_dropped catalogue canvas
  have count := linkCount_toGraph catalogue distinct
  have lost : (canvas.toGraph catalogue).2 = dropped catalogue canvas := rfl
  have fewer := (List.dedup_sublist
    ((landings catalogue canvas).map fun link => (link.consumer, link.input)))
  refine ⟨ids_toGraph distinct, ?_, reports_dropped distinct, ?_, ?_⟩
  · intro node member
    refine ⟨_, (get?_toGraph distinct).mpr ⟨node, member, rfl, rfl⟩, rfl, ?_⟩
    exact fun name input => get?_compile_eq_some_iff distinct
  · have short := fewer.length_le
    rw [List.length_map] at short
    rw [lost]
    omega
  · rw [← nodup_landings_iff distinct, ← List.dedup_eq_self]
    constructor
    · intro equal
      apply fewer.eq_of_length
      rw [lost] at equal
      rw [List.length_map]
      omega
    · intro equal
      rw [count, equal, List.length_map, lost, total]

/-- Two wires into one input, one to no node and one into a slot without a name. -/
def crossed : Json := .object [
  ("nodes", .array [
    .object [("id", .ofWord 1), ("type", .string "CheckpointLoaderSimple"),
      ("widgets_values", .object [("ckpt_name", .string "a.safetensors")])],
    .object [("id", .string "k"), ("type", .string "KSampler"),
      ("inputs", .array [.object [("name", .string "")]]),
      ("widgets_values", .array [.ofWord 5, .string "fixed", .ofWord 20])]]),
  ("links", .array [
    .array [.ofWord 1, .ofWord 1, .ofWord 0, .string "k", .ofWord 0],
    .array [.ofWord 2, .ofWord 1, .ofWord 1, .string "k", .ofWord 0],
    .array [.ofWord 3, .ofWord 1, .ofWord 0, .string "gone", .ofWord 0],
    .array [.ofWord 4, .ofWord 1, .ofWord 0, .string "k", .ofWord 9]])]

theorem toGraph_compiled_crossed : ∃ canvas, Canvas.ofJson crossed = .ok canvas ∧
    (canvas.toGraph .core).2.map DroppedWire.message =
      ["link 3 targets unknown node 'gone'",
        "link 4 into node 'k' slot 9 has no input name"] ∧
    (canvas.toGraph .core).1.linkCount = 1 ∧
    Compiled .core canvas (canvas.toGraph .core).1 (canvas.toGraph .core).2 := by
  refine ⟨_, rfl, by decide, by decide, ?_⟩
  exact toGraph_compiled (rfl : Canvas.ofJson crossed = .ok _) .core

end Flowgraph.Canvas
