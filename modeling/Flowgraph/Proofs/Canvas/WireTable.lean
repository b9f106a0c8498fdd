import Flowgraph.Proofs.Canvas.ToGraph
import Flowgraph.Proofs.Workflow

/-!
# What a valid workflow has of its wire table

An entry of the wire table can be lost in three ways. If it reads as no wire it is passed over; if
its wire has no place it is dropped with a message; if a later wire lands at the same input it is
laid over. Only the second makes a workflow invalid, though the others lose part of the document as
well.

Main result: `Workflow.accounted_of_canvas`.
-/
namespace Flowgraph

namespace Canvas

/-- An entry of the wire table is in the graph: it reads as a wire, the wire lands at an input, and
that input is wired to the origin of the wire. -/
def Represented (catalogue : Catalogue) (canvas : Canvas) (graph : Graph) (entry : Json) : Prop :=
  ∃ wire, Wire.ofJson? entry = some wire ∧ ∃ id name, Lands catalogue canvas id name wire ∧
    ∃ node, graph.get? id = some node ∧ node.inputs.get? name = some (.wired wire.origin)

/-- What becomes of the entries of a wire table. -/
structure Accounted (catalogue : Catalogue) (canvas : Canvas) (entries : List Json)
    (workflow : Workflow) : Prop where
  reads : canvas.wires = entries.filterMap Wire.ofJson?
  reports : Reports catalogue canvas canvas.wires workflow.dropped
  silent : workflow.isValid = true ↔ workflow.errors = []
  valid : workflow.isValid = true ↔ ∀ entry ∈ entries, ∀ wire, Wire.ofJson? entry = some wire →
    ∃ id name, Lands catalogue canvas id name wire
  /-- The wired inputs of the graph, each with the origin of the last wire that lands there. -/
  wired : ∀ id name source, (∃ node, workflow.graph.get? id = some node ∧
    node.inputs.get? name = some (.wired source)) ↔
      ∃ wire, LastOf canvas.wires (Lands catalogue canvas id name) wire ∧ source = wire.origin
  /-- An entry is lost without a message only if it reads as no wire, or if the last wire at the
  same input has another origin. -/
  represented : workflow.isValid = true → ∀ entry ∈ entries,
    (Represented catalogue canvas workflow.graph entry ↔
      ∃ wire, Wire.ofJson? entry = some wire ∧ ∀ id name last,
        Lands catalogue canvas id name wire →
        LastOf canvas.wires (Lands catalogue canvas id name) last → last.origin = wire.origin)

theorem ofJson_eq_ok_iff {document : Json} {canvas : Canvas} :
    Canvas.ofJson document = .ok canvas ↔
      readNodes 0 [] (itemsOf document "nodes") = .ok canvas.nodes ∧
      canvas.wires = (itemsOf document "links").filterMap Wire.ofJson? := by
  obtain ⟨nodes, wires⟩ := canvas
  rw [Canvas.ofJson, bind_eq_ok_iff]
  constructor
  · rintro ⟨read, taken, made⟩
    obtain ⟨rfl, rfl⟩ := Canvas.mk.inj (Except.ok.inj made)
    exact ⟨taken, rfl⟩
  · rintro ⟨taken, rfl⟩
    exact ⟨nodes, taken, rfl⟩

theorem Lands.unique {catalogue : Catalogue} {canvas : Canvas}
    (distinct : (canvas.nodes.map Node.id).Nodup) {id name other input : String} {wire : Wire}
    (lands : Lands catalogue canvas id name wire)
    (again : Lands catalogue canvas other input wire) : id = other ∧ name = input := by
  have first : landing catalogue canvas wire = .ok ⟨id, name, wire.origin⟩ :=
    (landing_eq_ok_iff distinct).mpr ⟨lands, rfl⟩
  have second : landing catalogue canvas wire = .ok ⟨other, input, wire.origin⟩ :=
    (landing_eq_ok_iff distinct).mpr ⟨again, rfl⟩
  obtain ⟨consumer, named, -⟩ := Link.mk.inj (Except.ok.inj (first.symm.trans second))
  exact ⟨consumer, named⟩

theorem represented_iff {catalogue : Catalogue} {canvas : Canvas}
    (distinct : (canvas.nodes.map Node.id).Nodup) {entry : Json} :
    Represented catalogue canvas (canvas.toGraph catalogue).1 entry ↔
      ∃ wire, Wire.ofJson? entry = some wire ∧ ∃ id name, Lands catalogue canvas id name wire ∧
        ∃ last, LastOf canvas.wires (Lands catalogue canvas id name) last ∧
          wire.origin = last.origin := by
  simp only [Represented, wired_toGraph_iff distinct]

end Canvas

open Canvas

theorem Workflow.isValid_iff {workflow : Workflow} :
    workflow.isValid = true ↔ workflow.dropped = [] := List.isEmpty_iff

/-- Of a valid workflow, every entry of the wire table that reads as a wire lands at an input, and
each input is wired to where the last wire at it comes from. -/
theorem Workflow.accounted_of_canvas {catalogue : Catalogue} {document : Json}
    {workflow : Workflow} (read : Workflow.ofJson catalogue document = .ok workflow)
    (form : workflow.form = .canvas) : ∃ canvas, Canvas.ofJson document = .ok canvas ∧
      Accounted catalogue canvas (itemsOf document "links") workflow := by
  obtain ⟨canvas, taken, graph, lost⟩ := exists_canvas read form
  have distinct := nodup_of_ofJson taken
  have wires := (Canvas.ofJson_eq_ok_iff.mp taken).2
  have all_land : workflow.isValid = true ↔
      ∀ wire ∈ canvas.wires, ∃ id name, Lands catalogue canvas id name wire := by
    rw [isValid_iff, lost]
    exact dropped_eq_nil_iff distinct
  refine ⟨canvas, taken, wires, lost.symm ▸ reports_dropped distinct, ?_, ?_, ?_, ?_⟩
  · rw [isValid_iff, errors, List.map_eq_nil_iff]
  · rw [all_land, wires]
    simp only [List.mem_filterMap]
    exact ⟨fun lands entry member wire reads => lands wire ⟨entry, member, reads⟩,
      fun lands wire ⟨entry, member, reads⟩ => lands entry member wire reads⟩
  · rw [graph]
    exact fun id name source => wired_toGraph_iff distinct
  · intro valid entry member
    rw [graph, represented_iff distinct]
    refine exists_congr fun wire => and_congr_right fun reads => ?_
    have listed : wire ∈ canvas.wires := wires ▸ List.mem_filterMap.mpr ⟨entry, member, reads⟩
    constructor
    · rintro ⟨id, name, lands, last, is, origin⟩ other input later landed latest
      -- the wire lands at one input only, and that input has one origin
      obtain ⟨rfl, rfl⟩ := lands.unique distinct landed
      exact (latest.unique is) ▸ origin.symm
    · intro kept
      obtain ⟨id, name, lands⟩ := all_land.mp valid wire listed
      obtain ⟨last, is⟩ := LastOf.exists_iff.mpr ⟨wire, listed, lands⟩
      exact ⟨id, name, lands, last, is, (kept id name last lands is).symm⟩

/-- A wire from the first slot of the loader of `overlaid` to its decoder. -/
def laidUnder : Json := .array [.ofWord 1, .ofWord 1, .ofWord 0, .ofWord 2, .ofWord 0]

/-- A wire from the third slot of the loader of `overlaid` to the same input. -/
def laidOver : Json := .array [.ofWord 2, .ofWord 1, .ofWord 2, .ofWord 2, .ofWord 0]

/-- An entry too short for a wire. -/
def noWire : Json := .array [.ofWord 1, .ofWord 2]

/-- A loader, a decoder, two wires into one input and an entry that is no wire. -/
def overlaid : Json := .object [
  ("nodes", .array [
    .object [("id", .ofWord 1), ("type", .string "CheckpointLoaderSimple")],
    .object [("id", .ofWord 2), ("type", .string "VAEDecode")]]),
  ("links", .array [laidUnder, laidOver, noWire])]

/-- The graph of `overlaid`. -/
def overlaidGraph : Graph := ⟨.ofList [
  ("1", Node.ofClass "CheckpointLoaderSimple"),
  ("2", (Node.ofClass "VAEDecode").withInput "samples" (.wired ⟨"1", 2⟩))]⟩

theorem overlaid_not_represented : ∃ canvas,
    Workflow.ofJson .core overlaid = .ok ⟨overlaidGraph, .canvas, []⟩ ∧
    Workflow.isValid ⟨overlaidGraph, .canvas, []⟩ = true ∧
    Workflow.errors ⟨overlaidGraph, .canvas, []⟩ = [] ∧
    Canvas.ofJson overlaid = .ok canvas ∧
    itemsOf overlaid "links" = [laidUnder, laidOver, noWire] ∧
    Wire.ofJson? laidUnder = some ⟨1, ⟨"1", 0⟩, "2", 0⟩ ∧
    Lands .core canvas "2" "samples" ⟨1, ⟨"1", 0⟩, "2", 0⟩ ∧
    ¬ Represented .core canvas overlaidGraph laidUnder ∧
    ¬ Represented .core canvas overlaidGraph noWire := by
  have read : Canvas.ofJson overlaid = .ok _ := rfl
  refine ⟨_, by rfl, rfl, rfl, read, rfl, by rfl, ?_, ?_, ?_⟩
  · refine ((landing_eq_ok_iff (nodup_of_ofJson read)).mp
      (?_ : landing .core _ _ = .ok ⟨"2", "samples", ⟨"1", 0⟩⟩)).1
    rfl
  · rintro ⟨wire, reads, id, name, -, node, found, held⟩
    obtain rfl : wire = ⟨1, ⟨"1", 0⟩, "2", 0⟩ := Option.some.inj (reads.symm.trans (by rfl))
    -- no link of the graph comes from the first slot of the loader
    have origins : ∀ link ∈ overlaidGraph.links, link.source ≠ ⟨"1", 0⟩ := by decide
    exact origins ⟨id, name, ⟨"1", 0⟩⟩ (Graph.mem_links_iff.mpr ⟨node, found, held⟩) rfl
  · rintro ⟨wire, reads, -⟩
    cases reads

theorem accounted_of_canvas_overlaid : ∃ canvas workflow,
    Workflow.ofJson .core overlaid = .ok workflow ∧ workflow.form = .canvas ∧
    Canvas.ofJson overlaid = .ok canvas ∧
    Accounted .core canvas [laidUnder, laidOver, noWire] workflow ∧ workflow.isValid = true ∧
    (∃ id name, Lands .core canvas id name ⟨1, ⟨"1", 0⟩, "2", 0⟩) ∧
    ∃ wire, LastOf canvas.wires (Lands .core canvas "2" "samples") wire ∧
      wire.origin = ⟨"1", 2⟩ := by
  have read : Workflow.ofJson .core overlaid = .ok ⟨overlaidGraph, .canvas, []⟩ := by rfl
  obtain ⟨canvas, taken, accounted⟩ := Workflow.accounted_of_canvas read rfl
  have lands := accounted.valid.mp rfl laidUnder List.mem_cons_self _ (by rfl)
  obtain ⟨wire, last, origin⟩ := (accounted.wired "2" "samples" ⟨"1", 2⟩).mp ⟨_, by rfl, by rfl⟩
  exact ⟨canvas, _, read, rfl, taken, accounted, rfl, lands, wire, last, origin.symm⟩

end Flowgraph
