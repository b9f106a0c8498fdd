import Mathlib.Data.List.Forall2
import Flowgraph.Shape

/-!
# Reading by shape what was written by shape

A reading that goes over the parts of a value stops at the first that is refused. Where none is, it
is a plain fold; and a record whose fields are all known, different and complete is read by just
these fields, in the order in which they are written.

Main result: `Legible.recordOf_object` and `Legible.listOf_array` read what was written, and
`Legible.recordOf_object_eq_ok_iff` and `Legible.mapOf_object_eq_ok_iff` say what can be read.
-/
namespace Flowgraph

open List (Forall₂)

section Outcomes

variable {α β ε : Type}

theorem map_eq_ok_iff {result : Except ε α} {f : α → β} {value : β} :
    result.map f = .ok value ↔ ∃ part, result = .ok part ∧ f part = value := by
  cases result <;> simp [Except.map]

theorem bind_eq_ok_iff {result : Except ε α} {f : α → Except ε β} {value : β} :
    result >>= f = .ok value ↔ ∃ part, result = .ok part ∧ f part = .ok value := by
  cases result <;> simp [bind, Except.bind]

theorem toOption_eq_some_iff {result : Except ε α} {value : α} :
    result.toOption = some value ↔ result = .ok value := by
  cases result <;> simp [Except.toOption]

/-- Items are read one after the other just where every one of them is read. -/
theorem mapM_eq_ok_iff {f : α → Except ε β} {items : List α} {parts : List β} :
    items.mapM f = .ok parts ↔ Forall₂ (fun item part => f item = .ok part) items parts := by
  induction items generalizing parts with
  | nil => simp [pure, Except.pure, eq_comm]
  | cons item rest ih =>
    rw [List.mapM_cons, bind_eq_ok_iff, List.forall₂_cons_left_iff]
    simp only [bind_eq_ok_iff, ih, pure, Except.pure, Except.ok.injEq]
    constructor
    · rintro ⟨part, taken, others, each, rfl⟩
      exact ⟨part, others, taken, each, rfl⟩
    · rintro ⟨part, others, taken, each, rfl⟩
      exact ⟨part, taken, others, each, rfl⟩

/-- What holds at the start and is kept by every step holds where a fold ends well. -/
theorem foldlM_invariant {P : β → Prop} {step : β → α → Except ε β} {parts : List α}
    (keeps : ∀ result part next, part ∈ parts → P result → step result part = .ok next → P next)
    {start result : β} (begins : P start) (ends : parts.foldlM step start = .ok result) :
    P result := by
  induction parts generalizing start with
  | nil =>
    cases ends
    exact begins
  | cons part rest ih =>
    rw [List.foldlM_cons] at ends
    cases taken : step start part with
    | error fault =>
      rw [taken] at ends
      contradiction
    | ok next =>
      rw [taken] at ends
      have kept := keeps start part next List.mem_cons_self begins taken
      exact ih (fun result part next later => keeps result part next (.tail _ later)) kept ends

theorem foldlM_append_eq_ok {step : β → α → Except ε β} {parts others : List α}
    {start middle result : β} (first : parts.foldlM step start = .ok middle)
    (second : others.foldlM step middle = .ok result) :
    (parts ++ others).foldlM step start = .ok result := by
  rw [List.foldlM_append, first]
  exact second

theorem foldlM_eq_ok {step : β → α → Except ε β} {next : β → α → β} {parts : List α}
    (each : ∀ result, ∀ part ∈ parts, step result part = .ok (next result part)) (start : β) :
    parts.foldlM step start = .ok (parts.foldl next start) := by
  induction parts generalizing start with
  | nil => rfl
  | cons part rest ih =>
    rw [List.foldlM_cons, each start part List.mem_cons_self]
    exact ih (fun result part member => each result part (List.mem_cons_of_mem _ member)) _

/-- A fold whose steps succeed whatever they start from succeeds. -/
theorem exists_foldlM {step : β → α → Except ε β} {parts : List α}
    (each : ∀ result, ∀ part ∈ parts, ∃ next, step result part = .ok next) (start : β) :
    ∃ result, parts.foldlM step start = .ok result := by
  induction parts generalizing start with
  | nil => exact ⟨start, rfl⟩
  | cons part rest ih =>
    obtain ⟨next, taken⟩ := each start part List.mem_cons_self
    rw [List.foldlM_cons, taken]
    exact ih (fun result part member => each result part (List.mem_cons_of_mem _ member)) next

/-- Where a step is refused for its part alone, a fold is refused for the first such part. -/
theorem foldlM_eq_error_iff {step : β → α → Except ε β} {fault? : α → Option ε}
    (refused : ∀ result part fault, step result part = .error fault ↔ fault? part = some fault)
    {parts : List α} {start : β} {fault : ε} :
    parts.foldlM step start = .error fault ↔ parts.findSome? fault? = some fault := by
  induction parts generalizing start with
  | nil => simp [pure, Except.pure]
  | cons part rest ih =>
    rw [List.foldlM_cons, List.findSome?_cons]
    cases taken : step start part with
    | error first =>
      rw [(refused start part first).mp taken]
      simp [bind, Except.bind]
    | ok next =>
      have none_here : fault? part = none := by
        rw [Option.eq_none_iff_forall_ne_some]
        intro other held
        rw [(refused start part other).mpr held] at taken
        contradiction
      rw [none_here]
      exact ih

end Outcomes

namespace Record

variable {δ ε : Type} {record : Record} {trouble : Mismatch → ε} {skip : δ → Except ε Unit}

theorem steps_eq {seen : List String} {fields : List (String × δ)}
    (known : ∀ field ∈ fields, record.has field.1 = true)
    (distinct : (fields.map Prod.fst).Nodup) (fresh : ∀ field ∈ fields, field.1 ∉ seen)
    (complete : record.missing? ((fields.map Prod.fst).reverse ++ seen) = none) :
    record.steps trouble skip seen (fields.map .ok) = fields.map .ok := by
  induction fields generalizing seen with
  | nil =>
    have none_missing : record.missing? seen = none := complete
    simp [steps, none_missing]
  | cons field rest ih =>
    obtain ⟨name, value⟩ := field
    obtain ⟨absent, distinct⟩ := List.nodup_cons.mp distinct
    have known_here : record.has name = true := known _ List.mem_cons_self
    have fresh_here : name ∉ seen := fresh _ List.mem_cons_self
    -- the names that were seen grow with the induction; those to come are not among them
    have fresh_later : ∀ field ∈ rest, field.1 ∉ name :: seen := by
      intro field member
      have different : field.1 ≠ name := by
        rintro rfl
        exact absent (List.mem_map.mpr ⟨field, member, rfl⟩)
      have old := fresh field (List.mem_cons_of_mem _ member)
      simp [different, old]
    have later := ih (fun field member => known field (List.mem_cons_of_mem _ member)) distinct
      fresh_later (by simpa using complete)
    simp [steps, known_here, fresh_here, later]

end Record

namespace Legible

variable {α : Type}

theorem listOf_array {read : Json → Except Mismatch α} {write : α → Json} {items : List α}
    (each : ∀ item ∈ items, read (write item) = .ok item) :
    listOf read (Json.array (items.map write)) = .ok items := by
  change ((items.map write).map Except.ok).mapM (fun step => step.bind read) = .ok items
  induction items with
  | nil => rfl
  | cons item rest ih =>
    have first : (Except.ok (write item)).bind read = .ok item := each item List.mem_cons_self
    have later := ih fun item member => each item (List.mem_cons_of_mem _ member)
    rw [List.map_cons, List.map_cons, List.mapM_cons, first, later]
    rfl

theorem text_eq_ok_iff {value : Json} {text : String} :
    Legible.text value = .ok text ↔ value = .string text := by
  cases value with
  | string other => simp [Legible.text]
  | _ => exact iff_of_false nofun nofun

theorem texts_eq_ok_iff {value : Json} {names : List String} :
    texts value = .ok names ↔ value = .array (names.map .string) := by
  constructor
  · intro read
    cases value with
    | array items =>
      have each : Forall₂ (fun item name => item = .string name) items names := by
        have steps := List.forall₂_map_left_iff.mp (mapM_eq_ok_iff.mp read)
        exact steps.imp fun item name taken => text_eq_ok_iff.mp taken
      rw [← List.forall₂_map_right_iff, List.forall₂_eq_eq_eq] at each
      rw [each]
    | _ => contradiction
  · rintro rfl
    exact listOf_array fun _ _ => rfl

/-- Reading the value of an entry, under the name of the entry. -/
def readEntry (read : Json → Except Mismatch α) (step : Except Mismatch (String × Json)) :
    Except Mismatch (String × α) := do
  let (name, part) ← step
  pure (name, ← read part)

theorem readEntry_eq_ok_iff {read : Json → Except Mismatch α} {field : String × Json}
    {entry : String × α} :
    readEntry read (.ok field) = .ok entry ↔ entry.1 = field.1 ∧ read field.2 = .ok entry.2 := by
  have step : readEntry read (.ok field) = read field.2 >>= fun part => .ok (field.1, part) := rfl
  rw [step, bind_eq_ok_iff]
  constructor
  · rintro ⟨part, taken, same⟩
    cases same
    exact ⟨rfl, taken⟩
  · rintro ⟨same, taken⟩
    exact ⟨entry.2, taken, congrArg Except.ok (Prod.ext same.symm rfl)⟩

/-- An object is read as a map just where the value of each of its fields is read. -/
theorem mapOf_object_eq_ok_iff {read : Json → Except Mismatch α} {fields : List (String × Json)}
    {result : Keyed α} : mapOf read (.object fields) = .ok result ↔ ∃ entries,
      Forall₂ (fun field entry => entry.1 = field.1 ∧ read field.2 = .ok entry.2) fields entries ∧
      .ofList entries = result := by
  have steps : mapOf read (.object fields) =
      (fields.map .ok).mapM (readEntry read) >>= fun entries => .ok (.ofList entries) := rfl
  rw [steps, bind_eq_ok_iff]
  simp only [mapM_eq_ok_iff, List.forall₂_map_left_iff, readEntry_eq_ok_iff, Except.ok.injEq]

theorem optional_eq_ok {read : Json → Except Mismatch α} {value : Json} {part : α}
    (there : value ≠ .null) (taken : read value = .ok part) :
    optional read value = .ok (some part) := by
  have something : isNothing value = false := by simp [isNothing, there]
  rw [optional, something, taken]
  rfl

section Fields

variable {read : α → String → Json → Except Mismatch α} {start result : α}

/-- Reading the fields of a record one after the other. -/
abbrev readFields (read : α → String → Json → Except Mismatch α) (start : α)
    (fields : List (String × Json)) : Except Mismatch α :=
  fields.foldlM (fun result field => read result field.1 field.2) start

-- a part that is left out when there is nothing of it must be what it is at the start

theorem readFields_toList {β : Type} {name : String} {write : β → Json} {part : Option β}
    (missing : part = none → result = start)
    (there : ∀ value, part = some value → read start name (write value) = .ok result) :
    readFields read start (part.map fun value => (name, write value)).toList = .ok result := by
  cases part with
  | none =>
    rw [missing rfl]
    rfl
  | some value => simp [there value rfl]

theorem readFields_listField {β : Type} {name : String} {write : β → Json} {items : List β}
    (empty : items = [] → result = start)
    (filled : read start name (.array (items.map write)) = .ok result) :
    readFields read start (if items.isEmpty then [] else [(name, .array (items.map write))]) =
      .ok result := by
  cases items with
  | nil =>
    rw [empty rfl]
    rfl
  | cons first rest => simpa using filled

-- the names of the fields that are written, in order, are among those of the shape

theorem field_sublist (name : String) (value : Json) :
    ([(name, value)].map Prod.fst).Sublist [name] := .refl _

theorem toList_sublist {β : Type} (name : String) (write : β → Json) (part : Option β) :
    ((part.map fun value => (name, write value)).toList.map Prod.fst).Sublist [name] := by
  cases part <;> simp

theorem listField_sublist {β : Type} (name : String) (write : β → Json) (items : List β) :
    ((if items.isEmpty then [] else [(name, Json.array (items.map write))]).map
      Prod.fst).Sublist [name] := by
  cases items <;> simp

theorem append_sublist {parts others : List (String × Json)} {names more : List String}
    (first : (parts.map Prod.fst).Sublist names) (second : (others.map Prod.fst).Sublist more) :
    ((parts ++ others).map Prod.fst).Sublist (names ++ more) := by
  rw [List.map_append]
  exact first.append second

end Fields

/-- A record whose fields are written in their declared order, all required ones among them, is read
field by field. -/
theorem recordOf_object {shape : Record} {read : α → String → Json → Except Mismatch α} {start : α}
    {fields : List (String × Json)} (distinct : (shape.fields.map Record.Field.name).Nodup)
    (ordered : (fields.map Prod.fst).Sublist (shape.fields.map Record.Field.name))
    (complete : shape.missing? (fields.map Prod.fst).reverse = none) :
    recordOf shape read start (.object fields) = readFields read start fields := by
  -- the names are a part of the declared ones, so the record knows all of them
  have known : ∀ field ∈ fields, shape.has field.1 = true := by
    intro field member
    obtain ⟨declared, inside, same⟩ := List.mem_map.mp
      (ordered.subset (List.mem_map_of_mem member))
    exact List.any_eq_true.mpr ⟨declared, inside, by simp [same]⟩
  have steps : shape.steps id (fun _ => .ok ()) [] (fields.map .ok) =
      fields.map (Except.ok (ε := Mismatch)) :=
    Record.steps_eq known (distinct.sublist ordered) (fun _ _ => List.not_mem_nil)
      (by simpa using complete)
  have taken : Legible.record shape (Json.object fields) =
      .ok (fields.map (Except.ok (ε := Mismatch))) := congrArg Except.ok steps
  rw [recordOf, taken]
  change List.foldlM _ start (fields.map Except.ok) = _
  rw [List.foldlM_map]
  rfl

section Part

variable {β : Type} (part : α → β) {name : String} {read : α → String → Json → Except Mismatch α}
  {fields : List (String × Json)} {start result : α}

/-- A part of a record that only one field sets is as it was if that field is not written. -/
theorem part_of_readFields
    (keeps : ∀ result other value next, other ≠ name → read result other value = .ok next →
      part next = part result)
    (absent : name ∉ fields.map Prod.fst) (taken : readFields read start fields = .ok result) :
    part result = part start := by
  refine foldlM_invariant (P := fun result => part result = part start) ?_ rfl taken
  intro before field after member same step
  have different : field.1 ≠ name := fun equal => absent (List.mem_map.mpr ⟨field, member, equal⟩)
  exact (keeps before field.1 field.2 after different step).trans same

/-- A part of a record that only one field sets is what that field sets, if it is written once. -/
theorem exists_read_of_readFields
    (keeps : ∀ result other value next, other ≠ name → read result other value = .ok next →
      part next = part result)
    (distinct : (fields.map Prod.fst).Nodup) {value : Json} (member : (name, value) ∈ fields)
    (taken : readFields read start fields = .ok result) :
    ∃ before after, read before name value = .ok after ∧ part result = part after := by
  induction fields generalizing start with
  | nil => contradiction
  | cons field rest ih =>
    obtain ⟨fresh, distinct⟩ := List.nodup_cons.mp distinct
    rw [readFields, List.foldlM_cons] at taken
    obtain ⟨next, here, later⟩ := bind_eq_ok_iff.mp taken
    rcases List.mem_cons.mp member with rfl | inside
    · -- the fields behind it have other names, so they leave the part alone
      exact ⟨start, next, here, part_of_readFields part keeps fresh later⟩
    · exact ih distinct inside later

end Part

/-- Reading what stands at a step, or stopping there. -/
abbrev readSteps (read : α → String → Json → Except Mismatch α) (start : α)
    (steps : List (Except Mismatch (String × Json))) : Except Mismatch α :=
  steps.foldlM (fun result step => do
    let (name, part) ← step
    read result name part) start

/-- The fields of an object that a record knows. -/
def known (shape : Record) (fields : List (String × Json)) : List (String × Json) :=
  fields.filter fun field => shape.has field.1

theorem find?_known {shape : Record} {name : String} (declared : shape.has name = true)
    (fields : List (String × Json)) :
    Entries.find? name (known shape fields) = Entries.find? name fields := by
  induction fields with
  | nil => rfl
  | cons field rest ih =>
    obtain ⟨other, value⟩ := field
    by_cases same : other = name
    · simp [known, Entries.find?, same, declared]
    · cases has : shape.has other <;> simpa [known, Entries.find?, same, has] using ih

theorem mem_of_missing?_eq_none {shape : Record} {names : List String}
    (complete : shape.missing? names = none) (field : Record.Field)
    (declared : field ∈ shape.fields) (required : field.required = true) : field.name ∈ names := by
  rw [Record.missing?, Option.map_eq_none_iff, List.find?_eq_none] at complete
  simpa [required] using complete field declared

variable {shape : Record} {read : α → String → Json → Except Mismatch α} {start result : α}

theorem readSteps_steps_iff (seen : List String) {fields : List (String × Json)} :
    readSteps read start (shape.steps id (fun _ => .ok ()) seen (fields.map .ok)) = .ok result ↔
      ((known shape fields).map Prod.fst).Nodup ∧
      (∀ field ∈ known shape fields, field.1 ∉ seen) ∧
      shape.missing? (((known shape fields).map Prod.fst).reverse ++ seen) = none ∧
      readFields read start (known shape fields) = .ok result := by
  induction fields generalizing start seen with
  | nil =>
    rw [List.map_nil, Record.steps]
    cases complete : shape.missing? seen with
    | some name => simp [known, complete, bind, Except.bind]
    | none => simp [known, complete]
  | cons field rest ih =>
    obtain ⟨name, value⟩ := field
    rw [List.map_cons, Record.steps]
    cases declared : shape.has name with
    | false => simpa [known, declared] using ih seen
    | true =>
      have first : known shape ((name, value) :: rest) = (name, value) :: known shape rest :=
        List.filter_cons_of_pos declared
      simp only [Bool.not_true, Bool.false_eq_true, if_false, first, List.map_cons,
        List.forall_mem_cons, List.nodup_cons]
      split
      · next again =>
        have old : name ∈ seen := by simpa using again
        simp [old, bind, Except.bind]
      · next fresh =>
        have new : name ∉ seen := by simpa using fresh
        -- the names behind this one differ from it, as it is among those seen by then
        have behind : (∀ field ∈ known shape rest, field.1 ∉ name :: seen) ↔
            name ∉ (known shape rest).map Prod.fst ∧
            ∀ field ∈ known shape rest, field.1 ∉ seen := by
          simp only [List.mem_cons, not_or, List.mem_map, not_exists, not_and, forall_and]
        have taken {later : α → Except Mismatch α} : read start name value >>= later = .ok result ↔
            ∃ next, read start name value = .ok next ∧ later next = .ok result := bind_eq_ok_iff
        have names : (name :: (known shape rest).map Prod.fst).reverse ++ seen =
            ((known shape rest).map Prod.fst).reverse ++ name :: seen := by simp
        change (read start name value >>= fun next => readSteps read next _) = _ ↔ _
        rw [taken, names, readFields, List.foldlM_cons, taken]
        simp only [ih, behind]
        constructor
        · rintro ⟨next, here, distinct, ⟨absent, unseen⟩, complete, others⟩
          exact ⟨⟨absent, distinct⟩, ⟨new, unseen⟩, complete, next, here, others⟩
        · rintro ⟨⟨absent, distinct⟩, ⟨-, unseen⟩, complete, next, here, others⟩
          exact ⟨next, here, distinct, ⟨absent, unseen⟩, complete, others⟩

/-- An object is read as a record where it has every known field at most once and the required ones
at least once, and then by its known fields, in the order in which they are written. -/
theorem recordOf_object_eq_ok_iff {fields : List (String × Json)} :
    recordOf shape read start (Json.object fields) = .ok result ↔
      ((known shape fields).map Prod.fst).Nodup ∧
      shape.missing? ((known shape fields).map Prod.fst).reverse = none ∧
      readFields read start (known shape fields) = .ok result := by
  have steps : recordOf shape read start (Json.object fields) = .ok result ↔ _ :=
    readSteps_steps_iff []
  simp only [List.not_mem_nil, not_false_iff, implies_true, true_and, List.append_nil] at steps
  exact steps

/-- What holds of a part at the start when its field is left out, and of the part that the field
sets when it is written, holds of the part when the record is read; no other field may set it. -/
theorem part_of_recordOf {β : Type} {part : α → β} {name : String} {P : Option Json → β → Prop}
    (declared : shape.has name = true) (absent : P none (part start))
    (sets : ∀ before value after, read before name value = .ok after → P (some value) (part after))
    (keeps : ∀ result other value next, other ≠ name → read result other value = .ok next →
      part next = part result)
    {fields : List (String × Json)}
    (taken : recordOf shape read start (Json.object fields) = .ok result) :
    P (Entries.find? name fields) (part result) := by
  obtain ⟨distinct, -, taken⟩ := recordOf_object_eq_ok_iff.mp taken
  rw [← find?_known declared]
  cases found : Entries.find? name (known shape fields) with
  | none =>
    rw [part_of_readFields part keeps ((Entries.find?_eq_none_iff ..).mp found) taken]
    exact absent
  | some value =>
    have member := (Entries.find?_eq_some_iff distinct ..).mp found
    obtain ⟨before, after, step, same⟩ :=
      exists_read_of_readFields part keeps distinct member taken
    rw [same]
    exact sets before value after step

theorem readSteps_stepsOfList {surplus : List (Except Mismatch Json) → Option Mismatch}
    {count : Nat} {fields : List Record.Field} {items : List Json}
    (taken : readSteps read start (shape.stepsOfList id surplus count fields (items.map .ok)) =
      .ok result) :
    readFields read start ((fields.map Record.Field.name).zip items) = .ok result ∧
    ∀ field ∈ fields.drop items.length, field.required = false := by
  induction fields generalizing start count items with
  | nil =>
    rw [Record.stepsOfList] at taken
    split at taken
    · contradiction
    · exact ⟨taken, by simp⟩
  | cons field rest ih =>
    cases items with
    | nil =>
      simp only [List.map_nil, Record.stepsOfList] at taken
      split at taken
      · contradiction
      · next optional => exact ⟨taken, by simpa using optional⟩
    | cons item items =>
      rw [List.map_cons, Record.stepsOfList] at taken
      rw [readSteps, List.foldlM_cons] at taken
      obtain ⟨next, here, later⟩ := bind_eq_ok_iff.mp taken
      obtain ⟨others, optional⟩ := ih later
      refine ⟨?_, optional⟩
      rw [readFields, List.map_cons, List.zip_cons_cons, List.foldlM_cons]
      exact bind_eq_ok_iff.mpr ⟨next, here, others⟩

theorem zip_sublist (names : List String) (items : List Json) :
    ((names.zip items).map Prod.fst).Sublist names := by
  induction names generalizing items with
  | nil => exact .slnil
  | cons name rest ih =>
    cases items with
    | nil => exact List.nil_sublist _
    | cons item items => exact (ih items).cons_cons name

/-- A list that is read as a record is read item by item, as the declared fields in their order; the
fields that have no item are not required. -/
theorem recordOf_array_eq_ok {items : List Json}
    (taken : recordOf shape read start (Json.array items) = .ok result) :
    readFields read start ((shape.fields.map Record.Field.name).zip items) = .ok result ∧
    ∀ field ∈ shape.fields.drop items.length, field.required = false :=
  readSteps_stepsOfList taken

end Legible

end Flowgraph
