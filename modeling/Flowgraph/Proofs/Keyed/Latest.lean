import Mathlib.Data.List.Nodup
import Flowgraph.Keyed

/-!
# The latest entry of a name

Entries that are put into a collection one after the other leave the last value of each name, and
the names in the order in which they first came. If no name comes twice they stay as they are.

Main result: `get?_ofList`, `keys_ofList` and `entries_ofList`; `find?_reverse_filterMap_iff` says
the first of them of entries that are made from the items of a list.
-/
namespace Flowgraph

universe u v

/-- The last item of a list with a property. -/
def LastOf {α : Type u} (items : List α) (P : α → Prop) (item : α) : Prop :=
  ∃ before after, items = before ++ item :: after ∧ P item ∧ ∀ later ∈ after, ¬ P later

namespace LastOf

variable {α : Type u} {items : List α} {P Q : α → Prop} {item : α}

theorem mem (last : LastOf items P item) : item ∈ items := by
  obtain ⟨before, after, rfl, -, -⟩ := last
  exact List.mem_append_right _ List.mem_cons_self

theorem holds (last : LastOf items P item) : P item := by
  obtain ⟨_, _, -, holds, -⟩ := last
  exact holds

theorem congr (same : ∀ item ∈ items, P item ↔ Q item) :
    LastOf items P item ↔ LastOf items Q item := by
  constructor
  · rintro ⟨before, after, rfl, holds, none⟩
    refine ⟨before, after, rfl, (same item (by simp)).mp holds, ?_⟩
    intro later member
    exact fun is => none later member ((same later (by simp [member])).mpr is)
  · rintro ⟨before, after, rfl, holds, none⟩
    refine ⟨before, after, rfl, (same item (by simp)).mpr holds, ?_⟩
    intro later member
    exact fun is => none later member ((same later (by simp [member])).mp is)

theorem unique {other : α} (last : LastOf items P item) (again : LastOf items P other) :
    item = other := by
  obtain ⟨before, after, rfl, holds, none⟩ := last
  obtain ⟨front, back, split, held, never⟩ := again
  -- the one whose front is shorter has the other among the later items
  rcases List.append_eq_append_iff.mp split with ⟨between, -, rest⟩ | ⟨between, -, rest⟩
  · cases between with
    | nil => exact (List.cons.inj rest).1
    | cons _ _ =>
      obtain ⟨-, rfl⟩ := List.cons.inj rest
      exact absurd held (none other (by simp))
  · cases between with
    | nil => exact (List.cons.inj rest).1.symm
    | cons _ _ =>
      obtain ⟨-, rfl⟩ := List.cons.inj rest
      exact absurd holds (never item (by simp))

theorem exists_iff : (∃ item, LastOf items P item) ↔ ∃ item ∈ items, P item := by
  constructor
  · rintro ⟨item, last⟩
    exact ⟨item, last.mem, last.holds⟩
  · rintro ⟨item, member, holds⟩
    induction items generalizing item with
    | nil => contradiction
    | cons first rest ih =>
      by_cases later : ∃ item ∈ rest, P item
      -- the last item lies in the rest as soon as any item of the rest will do
      · obtain ⟨item, member, holds⟩ := later
        obtain ⟨last, before, after, rfl, rest⟩ := ih item member holds
        exact ⟨last, first :: before, after, rfl, rest⟩
      · have none : ∀ item ∈ rest, ¬ P item := fun item member holds => later ⟨item, member, holds⟩
        rcases List.mem_cons.mp member with rfl | behind
        · exact ⟨item, [], rest, rfl, holds, none⟩
        · exact absurd holds (none item behind)

end LastOf

namespace Entries

variable {α : Type u} {β : Type v}

theorem put_of_not_mem {name : String} {value : β} {entries : List (String × β)}
    (absent : name ∉ entries.map Prod.fst) :
    put name value entries = entries ++ [(name, value)] := by
  induction entries with
  | nil => rfl
  | cons entry rest ih =>
    obtain ⟨other, old⟩ := entry
    simp only [List.map_cons, List.mem_cons, not_or] at absent
    have different : other ≠ name := fun equal => absent.1 equal.symm
    simp [put, different, ih absent.2]

theorem find?_map {γ : Type v} (f : β → γ) (name : String) (entries : List (String × β)) :
    find? name (entries.map fun entry => (entry.1, f entry.2)) = (find? name entries).map f := by
  induction entries with
  | nil => rfl
  | cons entry rest ih =>
    obtain ⟨other, value⟩ := entry
    by_cases same : other = name <;> simp [find?, same, ih]

theorem mem_of_find? {name : String} {value : β} {entries : List (String × β)}
    (found : find? name entries = some value) : (name, value) ∈ entries := by
  induction entries with
  | nil => contradiction
  | cons entry rest ih =>
    obtain ⟨other, kept⟩ := entry
    rw [find?] at found
    split at found
    · next same =>
      obtain rfl := Option.some.inj found
      exact same ▸ List.mem_cons_self
    · exact List.mem_cons_of_mem _ (ih found)

theorem mem_of_mem_put {name : String} {value : β} {entries : List (String × β)}
    {entry : String × β} (member : entry ∈ put name value entries) :
    entry ∈ entries ∨ entry = (name, value) := by
  induction entries with
  | nil => exact .inr (List.mem_singleton.mp member)
  | cons first rest ih =>
    obtain ⟨other, old⟩ := first
    rw [put] at member
    split at member
    · rcases List.mem_cons.mp member with same | later
      · exact .inr same
      · exact .inl (List.mem_cons_of_mem _ later)
    · rcases List.mem_cons.mp member with rfl | later
      · exact .inl List.mem_cons_self
      · exact (ih later).imp_left (List.mem_cons_of_mem _)

theorem find?_filterMap (f : α → Option (String × β)) (name : String) (items : List α) :
    find? name (items.filterMap f) =
      items.findSome? fun item => (f item).bind fun entry => find? name [entry] := by
  induction items with
  | nil => rfl
  | cons item rest ih =>
    cases made : f item with
    | none => simp [made, ih]
    | some entry =>
      obtain ⟨other, value⟩ := entry
      by_cases same : other = name <;> simp [made, find?, same, ih]

theorem find?_reverse_filterMap_iff {f : α → Option (String × β)} {name : String} {items : List α}
    {value : β} : find? name (items.filterMap f).reverse = some value ↔
      ∃ item, LastOf items (fun item => ∃ value, f item = some (name, value)) item ∧
        f item = some (name, value) := by
  have entry_iff (item : α) (value : β) :
      ((f item).bind fun entry => find? name [entry]) = some value ↔
        f item = some (name, value) := by
    cases made : f item with
    | none => simp
    | some entry =>
      obtain ⟨other, kept⟩ := entry
      by_cases same : other = name <;> simp [find?, same]
  have none_iff (item : α) : ((f item).bind fun entry => find? name [entry]) = none ↔
      ¬ ∃ value, f item = some (name, value) := by
    simp only [Option.eq_none_iff_forall_ne_some, ne_eq, entry_iff, not_exists]
  rw [← List.filterMap_reverse, find?_filterMap, List.findSome?_eq_some_iff]
  simp only [entry_iff, none_iff]
  -- the items before the hit in the reversed list are those behind it in the list
  constructor
  · rintro ⟨after, item, before, split, made, none⟩
    refine ⟨item, ⟨before.reverse, after.reverse, ?_, ⟨value, made⟩, ?_⟩, made⟩
    · rw [← List.reverse_inj, split]
      simp
    · intro later member
      exact none later (List.mem_reverse.mp member)
  · rintro ⟨item, ⟨before, after, rfl, -, none⟩, made⟩
    refine ⟨after.reverse, item, before.reverse, by simp, made, ?_⟩
    intro later member
    exact none later (List.mem_reverse.mp member)

end Entries

namespace Keyed

variable {α : Type u}

theorem get?_ofList (entries : List (String × α)) (name : String) :
    (ofList entries).get? name = Entries.find? name entries.reverse := by
  rw [ofList, get?_foldl_insert]
  exact Option.or_none

theorem eraseDups_eq_self {names : List String} (distinct : names.Nodup) :
    names.eraseDups = names := by
  induction names with
  | nil => rfl
  | cons name rest ih =>
    obtain ⟨fresh, distinct⟩ := List.nodup_cons.mp distinct
    have others : rest.filter (fun other => !other == name) = rest := by
      refine List.filter_eq_self.mpr fun other member => ?_
      have different : other ≠ name := fun same => fresh (same ▸ member)
      simpa using different
    rw [List.eraseDups_cons, others, ih distinct]

theorem eraseDups_append_cons_of_mem {name : String} {known : List String} (member : name ∈ known)
    (rest : List String) : (known ++ name :: rest).eraseDups = (known ++ rest).eraseDups := by
  have passed : known.contains name = true := List.contains_iff_mem.mpr member
  rw [List.eraseDups_append, List.eraseDups_append, List.cons_removeAll, passed]
  rfl

/-- Steps that each set the value of a name leave the names in the order in which they came. -/
theorem keys_foldl {ι : Type v} {step : Keyed α → ι → Keyed α} {key : ι → String}
    (puts : ∀ m item, ∃ value, step m item = m.insert (key item) value) (items : List ι)
    (m : Keyed α) : (items.foldl step m).keys = (m.keys ++ items.map key).eraseDups := by
  induction items generalizing m with
  | nil => rw [List.map_nil, List.append_nil, List.foldl_nil, keys, eraseDups_eq_self m.distinct]
  | cons item rest ih =>
    obtain ⟨value, put⟩ := puts m item
    rw [List.foldl_cons, ih, put, keys_insert, List.map_cons]
    split
    · next member => exact (eraseDups_append_cons_of_mem member _).symm
    · rw [List.append_assoc, List.singleton_append]

theorem keys_ofList (entries : List (String × α)) :
    (ofList entries).keys = (entries.map Prod.fst).eraseDups := by
  have puts (m : Keyed α) (entry : String × α) :
      ∃ value, m.insert entry.1 entry.2 = m.insert entry.1 value := ⟨entry.2, rfl⟩
  exact keys_foldl puts entries empty

theorem entries_foldl_insert {entries : List (String × α)} {m : Keyed α}
    (distinct : ((m.entries ++ entries).map Prod.fst).Nodup) :
    (entries.foldl (fun m entry => m.insert entry.1 entry.2) m).entries = m.entries ++ entries := by
  induction entries generalizing m with
  | nil => simp
  | cons entry rest ih =>
    -- the name is new to `m`, so its entry is put behind all others
    have fresh : entry.1 ∉ m.entries.map Prod.fst := by
      rw [List.map_append, List.map_cons, List.nodup_middle, List.nodup_cons] at distinct
      exact fun member => distinct.1 (List.mem_append_left _ member)
    have put : (m.insert entry.1 entry.2).entries = m.entries ++ [entry] :=
      Entries.put_of_not_mem fresh
    rw [List.foldl_cons, ih, put, List.append_assoc, List.singleton_append]
    rwa [put, List.append_assoc]

theorem entries_ofList {entries : List (String × α)} (distinct : (entries.map Prod.fst).Nodup) :
    (ofList entries).entries = entries :=
  entries_foldl_insert distinct

theorem ofList_entries (m : Keyed α) : ofList m.entries = m :=
  ext (entries_ofList m.distinct)

theorem entries_map {β : Type v} (f : α → β) (m : Keyed α) :
    (m.map f).entries = m.entries.map fun entry => (entry.1, f entry.2) := by
  simp only [map, filterMap, Option.map_some]
  exact congrFun List.filterMap_eq_map m.entries

@[simp] theorem keys_map {β : Type v} (f : α → β) (m : Keyed α) : (m.map f).keys = m.keys := by
  rw [keys, entries_map, List.map_map]
  rfl

theorem ofList_map_entries {β : Type v} (f : α → β) (m : Keyed α) :
    ofList (m.entries.map fun entry => (entry.1, f entry.2)) = m.map f := by
  rw [← entries_map]
  exact ofList_entries _

end Keyed

end Flowgraph
