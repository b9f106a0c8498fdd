import Flowgraph.Proofs.Canvas.ReadBack
import Flowgraph.Proofs.Canvas.ToGraph

/-!
# Canvas documents lose nothing

What `ofJson_toJson` asks of a canvas holds of every canvas that was read: a repeated id is refused,
and a null among the widget values counts as none. So a canvas that was read is written as a
document that reads as the same canvas, whatever form its ids, nodes and wires first had.

Main result: `ofJson_toJson_of_ofJson`.
-/
namespace Flowgraph.Canvas

open Legible (optional)

theorem Node.readField_unset {node next : Node} {name : String} {value : Json}
    (unset : node.widgets ≠ some .null) (read : node.readField name value = .ok next) :
    next.widgets ≠ some .null := by
  unfold readField at read
  split at read
  case h_6 =>
    obtain ⟨widgets, taken, rfl⟩ := map_eq_ok_iff.mp read
    by_cases null : value = .null
    · -- a null reads as no widget values at all
      rw [null] at taken
      cases taken
      nofun
    · rw [Legible.optional_eq_ok null rfl] at taken
      cases taken
      exact fun same => null (Option.some.inj same)
  case h_7 =>
    cases read
    exact unset
  -- every other field sets its part and leaves the widget values alone
  all_goals
    obtain ⟨part, -, rfl⟩ := map_eq_ok_iff.mp read
    exact unset

theorem Node.widgets_ne_null_of_read {value : Json} {node : Node}
    (read : Node.read value = .ok node) : node.widgets ≠ some .null := by
  obtain ⟨steps, -, folded⟩ := bind_eq_ok_iff.mp read
  refine foldlM_invariant (P := fun node : Node => node.widgets ≠ some .null) ?_ (by simp [blank])
    folded
  intro before step after _ unset taken
  obtain ⟨⟨name, part⟩, -, set⟩ := bind_eq_ok_iff.mp taken
  exact readField_unset unset set

theorem widgets_ne_null_of_ofJson {document : Json} {canvas : Canvas}
    (read : Canvas.ofJson document = .ok canvas) :
    ∀ node ∈ canvas.nodes, node.widgets ≠ some .null := by
  intro node member
  rw [nodes_of_ofJson read] at member
  obtain ⟨value, -, taken⟩ := List.mem_filterMap.mp member
  exact Node.widgets_ne_null_of_read (toOption_eq_some_iff.mp taken)

/-- The five parts of a wire, each as a document gives it. -/
structure Wire.Parts where
  id : Json
  origin : Json
  originSlot : Json
  target : Json
  targetSlot : Json

/-- An entry of the wire table gives the parts of a wire: as a list that may go on behind them, or
as an object that has them among its fields. -/
inductive Wire.Parts.GivenBy (parts : Wire.Parts) : Json → Prop
  | list (rest : List Json) : GivenBy parts (.array
      (parts.id :: parts.origin :: parts.originSlot :: parts.target :: parts.targetSlot :: rest))
  | object {fields : List (String × Json)}
      (id : Entries.find? "id" fields = some parts.id)
      (origin : Entries.find? "origin_id" fields = some parts.origin)
      (originSlot : Entries.find? "origin_slot" fields = some parts.originSlot)
      (target : Entries.find? "target_id" fields = some parts.target)
      (targetSlot : Entries.find? "target_slot" fields = some parts.targetSlot) :
      GivenBy parts (.object fields)

theorem Wire.Parts.GivenBy.ofJson?_eq {parts : Wire.Parts} {value : Json}
    (given : parts.GivenBy value) : Wire.ofJson? value =
      Wire.ofParts? parts.id parts.origin parts.originSlot parts.target parts.targetSlot := by
  cases given with
  | list rest => rfl
  | object id origin originSlot target targetSlot =>
    simp [Wire.ofJson?, id, origin, originSlot, target, targetSlot]

/-- A canvas that was read is written as a document that reads as the same canvas, nodes, ids,
widget values and wires included; and it makes no difference to a wire in which form its entry of
the table gives its parts. -/
theorem ofJson_toJson_of_ofJson :
    (∀ document canvas, Canvas.ofJson document = .ok canvas →
      Canvas.ofJson canvas.toJson = .ok canvas) ∧
    ∀ (parts : Wire.Parts) value other, parts.GivenBy value → parts.GivenBy other →
      Wire.ofJson? value = Wire.ofJson? other := by
  constructor
  · intro document canvas read
    exact ofJson_toJson (nodup_of_ofJson read) (widgets_ne_null_of_ofJson read)
  · intro parts value other given another
    rw [given.ofJson?_eq, another.ofJson?_eq]

/-- A wire as an object, with its parts in another order and a field more. -/
def fielded : Json := .object [("type", .string "CLIP"), ("target_slot", .ofWord 1),
  ("target_id", .string "-0"), ("origin_slot", .ofWord 2), ("origin_id", .string "+5"),
  ("id", .ofWord 2)]

/-- A canvas document with ids of all kinds, and with nodes and wires in both forms. -/
def motley : Json := .object [
  ("nodes", .array [
    .object [("id", .string "007"), ("type", .string "KSampler"), ("title", .null),
      ("inputs", .array [.array [.string "model", .string "MODEL", .ofWord 1], .object []]),
      ("widgets_values", .object [("seed", .null)])],
    .array [.ofWord 18446744073709551615, .string "VAEDecode"],
    .object [("id", .number (.negative ⟨9223372036854775807, by decide⟩)), ("pos", .array []),
      ("outputs", .array [.object [("links", .null), ("slot_index", .ofWord 3)]]),
      ("widgets_values", .null)],
    .object [("id", .string "-0")], .object [("id", .ofWord 7)]]),
  ("links", .array [fielded, .array [.ofWord 3, .ofWord 7],
    .array [.ofWord 1, .ofWord 7, .ofWord 0, .string "007", .ofWord 0, .string "MODEL"]])]

theorem ofJson_toJson_of_ofJson_motley : ∃ canvas, Canvas.ofJson motley = .ok canvas ∧
    canvas.nodes.map Node.id =
      ["007", "18446744073709551615", "-9223372036854775808", "-0", "7"] ∧
    canvas.wires = [⟨2, ⟨"+5", 2⟩, "-0", 1⟩, ⟨1, ⟨"7", 0⟩, "007", 0⟩] ∧
    Canvas.ofJson canvas.toJson = .ok canvas ∧
    Wire.ofJson? fielded = Wire.ofJson? (.array
      [.ofWord 2, .string "+5", .ofWord 2, .string "-0", .ofWord 1, .string "CLIP"]) := by
  obtain ⟨again, forms⟩ := ofJson_toJson_of_ofJson
  have read : Canvas.ofJson motley = .ok _ := rfl
  have parts : Wire.Parts.GivenBy ⟨.ofWord 2, .string "+5", .ofWord 2, .string "-0", .ofWord 1⟩
      fielded := .object rfl rfl rfl rfl rfl
  exact ⟨_, read, rfl, rfl, again _ _ read, forms _ _ _ parts (.list [.string "CLIP"])⟩

end Flowgraph.Canvas
