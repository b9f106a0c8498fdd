import Flowgraph.Json.Tree
import Flowgraph.Proofs.Keyed.Latest
import Flowgraph.Proofs.Shape

/-!
# Names that do not repeat

A reader of texts puts the fields of an object in one after the other, and a name that comes again
takes the later value at its place. So no object of a document that was read from a text has a name
twice, however deep it lies.

Main result: `unrepeated_of_parse`.
-/
namespace Flowgraph.Json

/-- No object in a value has a name twice. -/
inductive Unrepeated : Json → Prop
  | null : Unrepeated .null
  | bool (value : Bool) : Unrepeated (.bool value)
  | number (value : Number) : Unrepeated (.number value)
  | string (value : String) : Unrepeated (.string value)
  | array {items : List Json} (each : ∀ item ∈ items, Unrepeated item) : Unrepeated (.array items)
  | object {fields : List (String × Json)} (distinct : (fields.map Prod.fst).Nodup)
      (each : ∀ field ∈ fields, Unrepeated field.2) : Unrepeated (.object fields)

theorem unrepeated_array_iff {items : List Json} :
    (Json.array items).Unrepeated ↔ ∀ item ∈ items, item.Unrepeated := by
  constructor
  · rintro ⟨⟩
    assumption
  · exact .array

theorem unrepeated_object_iff {fields : List (String × Json)} : (Json.object fields).Unrepeated ↔
    (fields.map Prod.fst).Nodup ∧ ∀ field ∈ fields, field.2.Unrepeated := by
  constructor
  · rintro ⟨⟩
    exact ⟨by assumption, by assumption⟩
  · rintro ⟨distinct, each⟩
    exact .object distinct each

namespace Tree

mutual

theorem unrepeated_of_toJsonWithin : ∀ {depth : Nat} {tree : Tree} {value : Json},
    toJsonWithin depth tree = .ok value → value.Unrepeated
  | _, .null, _, read => by
    cases read
    exact .null
  | _, .bool value, _, read => by
    cases read
    exact .bool value
  | _, .number _, _, read => by
    obtain ⟨value, -, rfl⟩ := map_eq_ok_iff.mp read
    exact .number value
  | _, .string _, _, read => by
    obtain ⟨text, -, rfl⟩ := map_eq_ok_iff.mp read
    exact .string text
  | depth + 2, .array _ items ending, _, read => by
    obtain ⟨values, taken, read⟩ := bind_eq_ok_iff.mp read
    obtain ⟨-, -, read⟩ := bind_eq_ok_iff.mp read
    cases read
    exact .array (unrepeated_of_itemsWithin taken)
  | depth + 2, .object _ fields ending, _, read => by
    obtain ⟨values, taken, read⟩ := bind_eq_ok_iff.mp read
    obtain ⟨-, -, read⟩ := bind_eq_ok_iff.mp read
    cases read
    obtain ⟨distinct, each⟩ := unrepeated_of_fieldsWithin taken List.nodup_nil (by simp)
    exact .object distinct each

theorem unrepeated_of_itemsWithin : ∀ {depth : Nat} {items : List Tree} {values : List Json},
    itemsWithin depth items = .ok values → ∀ value ∈ values, value.Unrepeated
  | _, [], _, read => by
    cases read
    simp
  | _, item :: rest, _, read => by
    obtain ⟨first, taken, read⟩ := bind_eq_ok_iff.mp read
    obtain ⟨others, later, read⟩ := bind_eq_ok_iff.mp read
    cases read
    exact List.forall_mem_cons.mpr
      ⟨unrepeated_of_toJsonWithin taken, unrepeated_of_itemsWithin later⟩

-- what was put in before stays free of repeats, and so does what is put in next
theorem unrepeated_of_fieldsWithin : ∀ {depth : Nat} {done : List (String × Json)}
    {fields : List (Except Fault String × Tree)} {values : List (String × Json)},
    fieldsWithin depth done fields = .ok values → (done.map Prod.fst).Nodup →
    (∀ field ∈ done, field.2.Unrepeated) →
    (values.map Prod.fst).Nodup ∧ ∀ field ∈ values, field.2.Unrepeated
  | _, _, [], _, read, distinct, each => by
    cases read
    exact ⟨distinct, each⟩
  | _, done, (name, tree) :: rest, _, read, distinct, each => by
    obtain ⟨name, -, read⟩ := bind_eq_ok_iff.mp read
    obtain ⟨value, taken, read⟩ := bind_eq_ok_iff.mp read
    refine unrepeated_of_fieldsWithin read (Entries.nodup_put name value distinct) ?_
    intro field member
    rcases Entries.mem_of_mem_put member with old | rfl
    · exact each field old
    · exact unrepeated_of_toJsonWithin taken

end

end Tree

/-- A value that was read from a text has no object with a name twice. -/
theorem unrepeated_of_parse {text : String} {value : Json} (read : parse text = .ok value) :
    value.Unrepeated := by
  rw [parse] at read
  obtain ⟨read_value, taken, read⟩ := bind_eq_ok_iff.mp read
  split at read
  · contradiction
  · cases read
    exact Tree.unrepeated_of_toJsonWithin taken

end Flowgraph.Json
