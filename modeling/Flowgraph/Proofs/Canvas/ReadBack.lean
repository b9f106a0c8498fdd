import Flowgraph.Canvas.Printer
import Flowgraph.Canvas.Reader
import Flowgraph.Form
import Flowgraph.Proofs.Shape

/-!
# Reading back what a canvas is written as

Every part of a canvas is read back from what it is written as: ids as texts or as numbers, slots
and wire ids as words, and what was left out as what it counts as when it is absent. Widget values
that are null count as none, so a canvas must not hold them to come back.

Main result: `ofJson_toJson`.
-/
namespace Flowgraph

namespace Json

theorem readWord_ofWord (n : UInt64) : readWord (ofWord n) = .ok n := rfl

theorem readSlot_ofSlot (n : UInt32) : readSlot (ofSlot n) = .ok n := by
  have small : n.toNat < UInt32.size := n.toNat_lt_size
  simp [readSlot, ofSlot, ofWord, small]

end Json

namespace Canvas

theorem Wire.ofJson?_toJson (wire : Wire) : Wire.ofJson? wire.toJson = some wire := by
  obtain ⟨id, ⟨origin, originSlot⟩, target, slot⟩ := wire
  have slots (n : UInt32) : slot? (.ofSlot n) = some n := by
    rw [slot?, Json.readSlot_ofSlot]
    rfl
  have word : (Json.ofWord id).natural? = some id := rfl
  simp [Wire.toJson, Wire.ofJson?, Wire.ofParts?, slots, word, Id.ofJson?_toJson]

theorem Id.read_toJson (id : String) : Id.read (Id.toJson id) = .ok id := by
  rw [Id.read, Id.ofJson?_toJson]

open Legible

theorem readFields_filledField {α : Type} {read : α → String → Json → Except Mismatch α}
    {start result : α} {name text : String} (empty : text = "" → result = start)
    (filled : read start name (.string text) = .ok result) :
    readFields read start (filledField name text) = .ok result := by
  unfold filledField
  split
  · next none =>
    rw [empty none]
    rfl
  · simp [filled]

theorem filledField_sublist (name text : String) :
    ((filledField name text).map Prod.fst).Sublist [name] := by
  unfold filledField
  split <;> simp

theorem Inlet.read_toJson (inlet : Inlet) : Inlet.read inlet.toJson = .ok inlet := by
  obtain ⟨name, slotType, wire⟩ := inlet
  rw [Inlet.read, Inlet.toJson, Legible.recordOf_object (by decide) ?_ rfl]
  · have named : readFields readField blank [("name", .string name)] = .ok ⟨name, "", none⟩ := rfl
    have typed : readFields readField ⟨name, "", none⟩ (filledField "type" slotType) =
        .ok ⟨name, slotType, none⟩ := readFields_filledField (by rintro rfl; rfl) rfl
    have wired : readFields readField ⟨name, slotType, none⟩
        [("link", (wire.map Json.ofWord).getD .null)] = .ok ⟨name, slotType, wire⟩ := by
      cases wire <;> rfl
    exact foldlM_append_eq_ok (foldlM_append_eq_ok named typed) wired
  · exact append_sublist (append_sublist (field_sublist "name" _)
      (filledField_sublist "type" slotType)) (field_sublist "link" _)

theorem Outlet.read_toJson (outlet : Outlet) : Outlet.read outlet.toJson = .ok outlet := by
  obtain ⟨name, slotType, wires, slot⟩ := outlet
  rw [Outlet.read, Outlet.toJson, Legible.recordOf_object (by decide) ?_ rfl]
  · have named : readFields readField blank [("name", .string name)] =
        .ok ⟨name, "", none, none⟩ := rfl
    have typed : readFields readField ⟨name, "", none, none⟩ (filledField "type" slotType) =
        .ok ⟨name, slotType, none, none⟩ := readFields_filledField (by rintro rfl; rfl) rfl
    have wired : readFields readField ⟨name, slotType, none, none⟩
        [("links", (wires.map fun wires => .array (wires.map Json.ofWord)).getD .null)] =
          .ok ⟨name, slotType, wires, none⟩ := by
      cases wires with
      | none => rfl
      | some wires =>
        have words : Legible.listOf Json.readWord (Json.array (wires.map Json.ofWord)) =
            .ok wires := Legible.listOf_array fun wire _ => Json.readWord_ofWord wire
        have there : Json.array (wires.map Json.ofWord) ≠ .null := nofun
        have held := Legible.optional_eq_ok there words
        change Outlet.readField _ "links" (.array (wires.map Json.ofWord)) >>= pure = _
        rw [readField, held]
        rfl
    have slotted : readFields readField ⟨name, slotType, wires, none⟩
        (slot.map fun slot => ("slot_index", Json.ofSlot slot)).toList =
          .ok ⟨name, slotType, wires, slot⟩ := by
      refine readFields_toList (by rintro rfl; rfl) ?_
      rintro slot rfl
      have there : Json.ofSlot slot ≠ .null := nofun
      have held := Legible.optional_eq_ok there (Json.readSlot_ofSlot slot)
      rw [readField, held]
      rfl
    exact foldlM_append_eq_ok (foldlM_append_eq_ok (foldlM_append_eq_ok named typed) wired) slotted
  · exact append_sublist (append_sublist (append_sublist
      (field_sublist "name" _) (filledField_sublist "type" slotType)) (field_sublist "links" _))
      (toList_sublist "slot_index" Json.ofSlot slot)

theorem Node.read_toJson {node : Node} (unset : node.widgets ≠ some .null) :
    Node.read node.toJson = .ok node := by
  obtain ⟨own, classType, title, inlets, outlets, widgets⟩ := node
  -- each stretch of what is written sets one part of the node
  rw [Node.read, Node.toJson, Legible.recordOf_object (by decide) ?_ ?_]
  · have named : readFields readField blank [("id", Id.toJson own), ("type", .string classType)] =
        .ok ⟨own, classType, none, [], [], none⟩ := by
      change readField blank "id" (Id.toJson own) >>= _ = _
      rw [readField, Id.read_toJson]
      rfl
    have titled : readFields readField ⟨own, classType, none, [], [], none⟩
        (title.map fun title => ("title", Json.string title)).toList =
          .ok ⟨own, classType, title, [], [], none⟩ := by
      refine readFields_toList (by rintro rfl; rfl) ?_
      rintro title rfl
      rfl
    have fed : readFields readField ⟨own, classType, title, [], [], none⟩
        (if inlets.isEmpty then [] else [("inputs", .array (inlets.map Inlet.toJson))]) =
          .ok ⟨own, classType, title, inlets, [], none⟩ := by
      refine readFields_listField (by rintro rfl; rfl) ?_
      have all := Legible.listOf_array fun inlet (_ : inlet ∈ inlets) => inlet.read_toJson
      rw [readField, all]
      rfl
    have feeding : readFields readField ⟨own, classType, title, inlets, [], none⟩
        (if outlets.isEmpty then [] else [("outputs", .array (outlets.map Outlet.toJson))]) =
          .ok ⟨own, classType, title, inlets, outlets, none⟩ := by
      refine readFields_listField (by rintro rfl; rfl) ?_
      have all := Legible.listOf_array fun outlet (_ : outlet ∈ outlets) => outlet.read_toJson
      rw [readField, all]
      rfl
    have set : readFields readField ⟨own, classType, title, inlets, outlets, none⟩
        (widgets.map fun widgets => ("widgets_values", widgets)).toList =
          .ok ⟨own, classType, title, inlets, outlets, widgets⟩ := by
      refine readFields_toList (by rintro rfl; rfl) ?_
      rintro value rfl
      have kept := Legible.optional_eq_ok (fun null => unset (congrArg some null))
        (rfl : Except.ok value = .ok value)
      rw [readField, kept]
      rfl
    exact foldlM_append_eq_ok (foldlM_append_eq_ok (foldlM_append_eq_ok (foldlM_append_eq_ok
      named titled) fed) feeding) set
  · exact append_sublist (append_sublist (append_sublist
      (append_sublist (append_sublist (field_sublist "id" _)
      (field_sublist "type" _)) (toList_sublist "title" Json.string title))
      (listField_sublist "inputs" Inlet.toJson inlets))
      (listField_sublist "outputs" Outlet.toJson outlets))
      (toList_sublist "widgets_values" (fun value => value) widgets)
  · simp [Record.missing?, shape]

theorem readNodes_map_toJson {nodes : List Node} (distinct : (nodes.map Node.id).Nodup)
    (unset : ∀ node ∈ nodes, node.widgets ≠ some .null) (position : Nat) {seen : List String}
    (fresh : ∀ node ∈ nodes, node.id ∉ seen) :
    readNodes position seen (nodes.map Node.toJson) = .ok nodes := by
  induction nodes generalizing position seen with
  | nil => rfl
  | cons node rest ih =>
    obtain ⟨absent, distinct⟩ := List.nodup_cons.mp distinct
    have read := Node.read_toJson (unset node List.mem_cons_self)
    have fresh_here : node.id ∉ seen := fresh node List.mem_cons_self
    -- the ids that were seen grow with the induction; those to come are not among them
    have fresh_later : ∀ other ∈ rest, other.id ∉ node.id :: seen := by
      intro other member
      have different : other.id ≠ node.id := fun equal =>
        absent (equal ▸ List.mem_map_of_mem member)
      have unseen : other.id ∉ seen := fresh other (List.mem_cons_of_mem _ member)
      simp [different, unseen]
    have later := ih distinct (fun other member => unset other (List.mem_cons_of_mem _ member))
      (position + 1) fresh_later
    rw [List.map_cons, readNodes, read]
    simp [fresh_here, later, Except.map]

theorem itemsOf_nodes (canvas : Canvas) :
    itemsOf canvas.toJson "nodes" = canvas.nodes.map Node.toJson := rfl

theorem itemsOf_links (canvas : Canvas) :
    itemsOf canvas.toJson "links" = canvas.wires.map Wire.toJson := rfl

/-- A canvas comes back from what it is written as if no two nodes have the same id. -/
theorem ofJson_toJson {canvas : Canvas} (distinct : (canvas.nodes.map Node.id).Nodup)
    (unset : ∀ node ∈ canvas.nodes, node.widgets ≠ some .null) :
    Canvas.ofJson canvas.toJson = .ok canvas := by
  have nodes := readNodes_map_toJson distinct unset 0 fun node _ => List.not_mem_nil
  have wires : (canvas.wires.map Wire.toJson).filterMap Wire.ofJson? = canvas.wires := by
    have back : Wire.ofJson? ∘ Wire.toJson = some := funext Wire.ofJson?_toJson
    rw [List.filterMap_map, back, List.filterMap_some]
  rw [Canvas.ofJson, itemsOf_nodes, itemsOf_links, nodes, wires]
  rfl

theorem form_toJson (canvas : Canvas) : Form.ofJson canvas.toJson = .canvas := rfl

end Canvas

end Flowgraph
