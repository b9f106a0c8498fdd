import Flowgraph.Proofs.Content.Sorted
import Flowgraph.Proofs.Json.ScalarText

/-!
# What a graph computes

Graphs are alike if they have the same nodes under the same ids, each of the same class and with the
same inputs under the same names. An input is the same if it is wired to the same slot, or holds the
same constant up to the order of the fields of objects, at every depth. A scalar is the same only as
itself, the sign of a zero included.

Main result: `Graph.Alike`, and `Graph.texts` for the texts that a content puts behind their
lengths.
-/
namespace Flowgraph

open Entries (under)
open List (Forall₂)

namespace Json

/-- Two values are the same up to the order of the fields of objects. -/
inductive Alike : Json → Json → Prop
  | scalar {value : Json} (scalar : value.isScalar = true) : Alike value value
  | array {items others : List Json} (each : Forall₂ Alike items others) :
      Alike (.array items) (.array others)
  | object {fields others : List (String × Json)}
      (each : ∀ name, Forall₂ Alike (under name fields) (under name others)) :
      Alike (.object fields) (.object others)

mutual

/-- The texts of a value: the names of fields and the texts of scalars. -/
def texts : Json → List String
  | object fields => fieldTexts fields
  | array items => itemTexts items
  | value => [value.compact]

def itemTexts : List Json → List String
  | [] => []
  | item :: rest => texts item ++ itemTexts rest

def fieldTexts : List (String × Json) → List String
  | [] => []
  | (name, value) :: rest => name :: texts value ++ fieldTexts rest

end

/-- What holds of scalars, and of values whose parts it holds of, holds of all values. -/
theorem induct_parts {P : Json → Prop} (scalar : ∀ value, value.isScalar = true → P value)
    (array : ∀ items : List Json, (∀ item ∈ items, P item) → P (.array items))
    (object : ∀ fields : List (String × Json), (∀ field ∈ fields, P field.2) → P (.object fields)) :
    ∀ value, P value
  | .object fields => object fields fun field _ => induct_parts scalar array object field.2
  | .array items => array items fun item _ => induct_parts scalar array object item
  | .null => scalar .null rfl
  | .bool value => scalar (.bool value) rfl
  | .number value => scalar (.number value) rfl
  | .string value => scalar (.string value) rfl
termination_by value => sizeOf value
decreasing_by
  · next member =>
    have smaller := List.sizeOf_lt_of_mem member
    obtain ⟨name, value⟩ := field
    simp only [Prod.mk.sizeOf_spec, Json.object.sizeOf_spec] at smaller ⊢
    omega
  · next member =>
    have smaller := List.sizeOf_lt_of_mem member
    simp only [Json.array.sizeOf_spec]
    omega

theorem Alike.eq_of_isScalar {value other : Json} (alike : value.Alike other)
    (scalar : value.isScalar = true) : value = other := by
  cases alike with
  | scalar => rfl
  | _ => contradiction

theorem Alike.under {fields others : List (String × Json)}
    (alike : Alike (.object fields) (.object others)) (name : String) :
    Forall₂ Alike (Entries.under name fields) (Entries.under name others) := by
  generalize left : Json.object fields = value at alike
  cases alike with
  | scalar scalar => contradiction
  | object each =>
    cases left
    exact each name

theorem texts_scalar {value : Json} (scalar : value.isScalar = true) :
    value.texts = [value.compact] := by
  cases value <;> first | rfl | contradiction

theorem texts_subset_of_mem_items {items : List Json} {item : Json} (member : item ∈ items) :
    item.texts ⊆ (array items).texts := by
  simp only [texts]
  induction items with
  | nil => contradiction
  | cons first rest ih =>
    rw [itemTexts]
    rcases List.mem_cons.mp member with rfl | later
    · exact List.subset_append_left _ _
    · exact List.subset_append_of_subset_right _ (ih later)

theorem texts_subset_of_mem_fields {fields : List (String × Json)} {field : String × Json}
    (member : field ∈ fields) : field.1 :: field.2.texts ⊆ (object fields).texts := by
  simp only [texts]
  induction fields with
  | nil => contradiction
  | cons first rest ih =>
    obtain ⟨name, value⟩ := first
    rw [fieldTexts]
    rcases List.mem_cons.mp member with rfl | later
    · exact List.subset_append_left (name :: value.texts) _
    · exact List.subset_append_of_subset_right (name :: value.texts) (ih later)

end Json

namespace Input

/-- Two inputs are wired to one slot, or hold the same constant up to the order of fields. -/
inductive Alike : Input → Input → Prop
  | wired (source : Source) : Alike (.wired source) (.wired source)
  | constant {value other : Json} (alike : value.Alike other) :
      Alike (.constant value) (.constant other)

/-- The texts of an input: the node that it is wired to, or those of its constant. -/
def texts : Input → List String
  | wired source => [source.node]
  | constant value => value.texts

end Input

namespace Node

/-- Two nodes have one class, and inputs that are alike under the same names. -/
structure Alike (node other : Node) : Prop where
  classType : node.classType = other.classType
  inputs : ∀ name, Option.Rel Input.Alike (node.inputs.get? name) (other.inputs.get? name)

/-- The texts of a node: its class, the names of its inputs, and their texts. -/
def texts (node : Node) : List String :=
  node.classType :: node.inputs.entries.flatMap fun (name, input) => name :: input.texts

theorem texts_subset_of_mem {node : Node} {entry : String × Input}
    (member : entry ∈ Content.sorted node.inputs.entries) :
    entry.1 :: entry.2.texts ⊆ node.texts := by
  intro text inside
  refine List.mem_cons_of_mem _ (List.mem_flatMap.mpr ⟨entry, ?_, inside⟩)
  exact (Content.perm_sorted _).mem_iff.mp member

end Node

namespace Graph

/-- Two graphs have nodes that are alike under the same ids. -/
def Alike (graph other : Graph) : Prop :=
  ∀ id, Option.Rel Node.Alike (graph.nodes.get? id) (other.nodes.get? id)

/-- The texts of a graph: the ids of its nodes, and their texts. -/
def texts (graph : Graph) : List String :=
  graph.entries.flatMap fun (id, node) => id :: node.texts

theorem texts_subset_of_mem {graph : Graph} {entry : String × Node}
    (member : entry ∈ Content.sorted graph.entries) : entry.1 :: entry.2.texts ⊆ graph.texts := by
  intro text inside
  refine List.mem_flatMap.mpr ⟨entry, ?_, inside⟩
  exact (Content.perm_sorted _).mem_iff.mp member

end Graph

namespace Keyed

variable {α β : Type} {R : α → β → Prop}

theorem under_entries (m : Keyed α) (name : String) :
    under name m.entries = (m.get? name).toList := by
  obtain ⟨entries, distinct⟩ := m
  simp only [get?]
  induction entries with
  | nil => rfl
  | cons entry rest ih =>
    obtain ⟨own, value⟩ := entry
    obtain ⟨fresh, distinct⟩ := List.nodup_cons.mp distinct
    rw [Entries.find?]
    split
    · next same =>
      subst same
      -- names are distinct, so the name has no value behind this one
      have none_later : under own rest = [] := by
        rw [Content.under_eq_nil_iff]
        rintro ⟨entry, member, named⟩
        exact fresh (List.mem_map.mpr ⟨entry, member, named⟩)
      rw [Content.under_cons_self, none_later]
      rfl
    · next different => rw [Content.under_cons_ne different, ih distinct]

theorem forall₂_toList_iff {value : Option α} {other : Option β} :
    Forall₂ R value.toList other.toList ↔ Option.Rel R value other := by
  cases value <;> cases other <;> simp

/-- Two collections are related name by name exactly if they are so in the order of names. -/
theorem forall₂_sorted_iff {m : Keyed α} {other : Keyed β} :
    Forall₂ (Content.SameName R) (Content.sorted m.entries) (Content.sorted other.entries) ↔
      ∀ name, Option.Rel R (m.get? name) (other.get? name) := by
  rw [Content.forall₂_sorted_iff]
  simp only [under_entries, forall₂_toList_iff]

end Keyed

end Flowgraph
