import Mathlib.Data.List.Nodup
import Flowgraph.Keyed

/-!
# Laws of keyed collections

Two collections are equal once they have the same names in the same order and the same value under
each name. Replacing and removing values at many places is one `filterMap`, whatever the order in
which the places are visited.

Main result: `foldl_modify` and `foldl_update` say what a run of single changes comes to.
-/
namespace Flowgraph

universe u v w

namespace Keyed

variable {α : Type u} {β : Type v} {γ : Type w}

theorem mem_keys_of_get? {m : Keyed α} {name : String} {value : α}
    (found : m.get? name = some value) : name ∈ m.keys :=
  List.mem_map.mpr ⟨_, get?_eq_some_iff.mp found, rfl⟩

theorem get?_isSome_iff {m : Keyed α} {name : String} : (m.get? name).isSome ↔ name ∈ m.keys := by
  rw [Option.isSome_iff_ne_none, ne_eq, get?_eq_none_iff, Classical.not_not]
  exact mem_iff

theorem exists_of_mem_keys {m : Keyed α} {name : String} (member : name ∈ m.keys) :
    ∃ value, m.get? name = some value :=
  Option.isSome_iff_exists.mp (get?_isSome_iff.mpr member)

theorem get?_eq_of_perm {m other : Keyed α} (perm : m.entries.Perm other.entries) (name : String) :
    m.get? name = other.get? name := by
  ext value
  rw [get?_eq_some_iff, get?_eq_some_iff, perm.mem_iff]

theorem nodup_entries (m : Keyed α) : m.entries.Nodup := List.Nodup.of_map Prod.fst m.distinct

theorem entries_perm {m other : Keyed α} (same : ∀ name, m.get? name = other.get? name) :
    m.entries.Perm other.entries := by
  rw [List.perm_ext_iff_of_nodup m.nodup_entries other.nodup_entries]
  rintro ⟨name, value⟩
  rw [← get?_eq_some_iff, ← get?_eq_some_iff, same]

theorem entries_eq_filterMap_keys (m : Keyed α) :
    m.entries = m.keys.filterMap fun name => (m.get? name).map (name, ·) := by
  rw [keys, List.filterMap_map]
  conv_lhs => rw [← List.filterMap_some (l := m.entries)]
  refine List.filterMap_congr fun entry member => ?_
  rw [Function.comp_apply, get?_eq_some_iff.mpr member]
  rfl

theorem values_eq_map_keys (m : Keyed α) (other : α) :
    m.values = m.keys.map fun name => (m.get? name).getD other := by
  rw [values, keys, List.map_map]
  refine List.map_congr_left fun entry member => ?_
  rw [Function.comp_apply, get?_eq_some_iff.mpr member, Option.getD_some]

theorem eq_of_keys_of_get? {m other : Keyed α} (names : m.keys = other.keys)
    (same : ∀ name, m.get? name = other.get? name) : m = other := by
  apply ext
  rw [entries_eq_filterMap_keys, entries_eq_filterMap_keys, names]
  simp only [same]

theorem get?_filterMap (f : String → α → Option β) (m : Keyed α) (name : String) :
    (m.filterMap f).get? name = (m.get? name).bind (f name) := by
  obtain ⟨entries, distinct⟩ := m
  simp only [get?, filterMap]
  induction entries with
  | nil => rfl
  | cons entry rest ih =>
    obtain ⟨key, value⟩ := entry
    simp only [List.map_cons, List.nodup_cons] at distinct
    have later := ih distinct.2
    by_cases same : key = name
    -- names are distinct, so the rest has nothing under this name, and neither has its image
    · subst same
      have absent : Entries.find? key rest = none :=
        (Entries.find?_eq_none_iff key rest).mpr distinct.1
      cases image : f key value with
      | none => simpa [Entries.find?, image, absent] using later
      | some result => simp [Entries.find?, image]
    · cases image : f key value with
      | none => simpa [Entries.find?, image, same] using later
      | some result => simpa [Entries.find?, image, same] using later

theorem keys_filterMap (f : String → α → Option β) (m : Keyed α) :
    (m.filterMap f).keys = m.keys.filter fun name => ((m.get? name).bind (f name)).isSome := by
  -- first by the entries themselves, then by what the collection holds under their names
  have onEntries : (m.filterMap f).keys =
      (m.entries.filter fun entry => (f entry.1 entry.2).isSome).map Prod.fst := by
    simp only [keys, filterMap]
    generalize m.entries = entries
    induction entries with
    | nil => rfl
    | cons entry rest ih => cases image : f entry.1 entry.2 <;> simp [image, ih]
  rw [onEntries, keys, List.filter_map]
  congr 1
  apply List.filter_congr
  intro entry member
  have found : m.get? entry.1 = some entry.2 := get?_eq_some_iff.mpr member
  simp [found]

theorem keys_filterMap_sublist (f : String → α → Option β) (m : Keyed α) :
    (m.filterMap f).keys.Sublist m.keys := by
  rw [keys_filterMap]
  exact List.filter_sublist

theorem filterMap_filterMap (f : String → α → Option β) (g : String → β → Option γ) (m : Keyed α) :
    (m.filterMap f).filterMap g = m.filterMap fun name value => (f name value).bind (g name) := by
  apply ext
  simp only [filterMap, List.filterMap_filterMap]
  congr 1
  funext entry
  cases f entry.1 entry.2 <;> rfl

theorem filterMap_congr {f g : String → α → Option β} {m : Keyed α}
    (same : ∀ name value, m.get? name = some value → f name value = g name value) :
    m.filterMap f = m.filterMap g := by
  apply ext
  apply List.filterMap_congr
  intro entry member
  rw [same entry.1 entry.2 (get?_eq_some_iff.mpr member)]

theorem filterMap_some (m : Keyed α) : (m.filterMap fun _ value => some value) = m := by
  apply ext
  simp [filterMap]

@[simp] theorem get?_map (f : α → β) (m : Keyed α) (name : String) :
    (m.map f).get? name = (m.get? name).map f := by
  rw [map, get?_filterMap]
  cases m.get? name <;> rfl

theorem map_eq_self_iff {f : α → α} {m : Keyed α} :
    m.map f = m ↔ ∀ name value, m.get? name = some value → f value = value := by
  constructor
  · intro same name value found
    have image := get?_map f m name
    rw [same, found] at image
    exact (Option.some.inj image).symm
  · intro same
    conv_rhs => rw [← filterMap_some m]
    apply filterMap_congr
    intro name value found
    rw [same name value found]

theorem erase_eq_filterMap (m : Keyed α) (name : String) :
    m.erase name = m.filterMap fun key value => if key = name then none else some value := by
  refine eq_of_keys_of_get? ?_ fun other => ?_
  · rw [keys_erase, keys_filterMap]
    refine List.filter_congr fun key member => ?_
    obtain ⟨value, found⟩ := exists_of_mem_keys member
    by_cases same : key = name <;> simp [found, same]
  · rw [get?_erase, get?_filterMap]
    by_cases same : name = other
    · simp [same]
    · have different : other ≠ name := fun equal => same equal.symm
      simp [same, different]

theorem insert_eq_filterMap {m : Keyed α} {name : String} (value : α) (member : name ∈ m.keys) :
    m.insert name value =
      m.filterMap fun key old => some (if key = name then value else old) := by
  obtain ⟨entries, distinct⟩ := m
  apply ext
  simp only [keys] at member
  simp only [insert, filterMap, Option.map_some]
  induction entries with
  | nil => simp at member
  | cons entry rest ih =>
    obtain ⟨key, old⟩ := entry
    simp only [List.map_cons, List.nodup_cons] at distinct
    by_cases same : key = name
    · subst same
      -- no later entry has this name, so the pass leaves the rest as it is
      have others : rest.filterMap (fun entry =>
          some (entry.1, if entry.1 = key then value else entry.2)) = rest := by
        rw [List.filterMap_congr (g := some), List.filterMap_some]
        intro entry later
        have different : entry.1 ≠ key := fun equal =>
          distinct.1 (equal ▸ List.mem_map.mpr ⟨entry, later, rfl⟩)
        simp [different]
      simp [Entries.put, others]
    · have later : name ∈ rest.map Prod.fst := by
        rcases List.mem_cons.mp member with equal | later
        · exact absurd equal.symm same
        · exact later
      simpa [Entries.put, same] using ih distinct.2 later

/-- A collection made from a function holds its values at the names that were put in. -/
theorem get?_ofList_map (f : String → α) (names : List String) (name : String) :
    (ofList (names.map fun name => (name, f name))).get? name =
      if name ∈ names then some (f name) else none := by
  -- said of any collection to begin with, so that each name can be put in
  have general (m : Keyed α) :
      ((names.map fun name => (name, f name)).foldl
        (fun m entry => m.insert entry.1 entry.2) m).get? name =
      if name ∈ names then some (f name) else m.get? name := by
    induction names generalizing m with
    | nil => simp
    | cons first rest ih =>
      rw [List.map_cons, List.foldl_cons, ih, get?_insert]
      by_cases later : name ∈ rest
      · simp [later]
      · by_cases same : first = name
        · simp [same]
        · have different : name ≠ first := fun equal => same equal.symm
          simp [later, same, different]
  exact general empty

/-- Changes the value of a name, if the collection has it. -/
def modify (m : Keyed α) (name : String) (f : α → α) : Keyed α :=
  match m.get? name with
  | some value => m.insert name (f value)
  | none => m

/-- Sets the value of a name, or removes the name. -/
def update (m : Keyed α) (name : String) : Option α → Keyed α
  | some value => m.insert name value
  | none => m.erase name

theorem modify_eq_filterMap (m : Keyed α) (name : String) (f : α → α) :
    m.modify name f =
      m.filterMap fun key value => some (if key = name then f value else value) := by
  unfold modify
  split
  · next value found =>
    rw [insert_eq_filterMap _ (mem_keys_of_get? found)]
    apply filterMap_congr
    intro key old member
    by_cases same : key = name
    · subst same
      have equal : value = old := Option.some.inj (found.symm.trans member)
      simp [equal]
    · simp [same]
  · next absent =>
    conv_lhs => rw [← filterMap_some m]
    apply filterMap_congr
    intro key old member
    have different : key ≠ name := by
      rintro rfl
      rw [absent] at member
      contradiction
    simp [different]

theorem update_eq_filterMap {m : Keyed α} {name : String} (value : Option α)
    (member : name ∈ m.keys) :
    m.update name value = m.filterMap fun key old => if key = name then value else some old := by
  cases value with
  | none => exact erase_eq_filterMap m name
  | some value =>
    rw [update, insert_eq_filterMap value member]
    apply filterMap_congr
    intro key old _
    split <;> rfl

/-- Changes at several names, one after the other, come to one pass in which each value takes the
changes of its own name. -/
theorem foldl_modify (changes : List (String × (α → α))) (m : Keyed α) :
    changes.foldl (fun m change => m.modify change.1 change.2) m =
      m.filterMap fun key value =>
        some ((changes.filter fun change => change.1 = key).foldl
          (fun value change => change.2 value) value) := by
  induction changes generalizing m with
  | nil => simp [filterMap_some]
  | cons change rest ih =>
    rw [List.foldl_cons, ih, modify_eq_filterMap, filterMap_filterMap]
    apply filterMap_congr
    intro key value _
    by_cases same : change.1 = key
    -- `rest` has yet to change this value: its own changes come after this one
    · simp [same]
    · have different : key ≠ change.1 := fun equal => same equal.symm
      simp [same, different]

/-- Setting or removing several names of a collection comes to one pass. -/
theorem foldl_update (names : List String) (value : Option α) (distinct : names.Nodup) {m : Keyed α}
    (members : ∀ name ∈ names, name ∈ m.keys) :
    names.foldl (fun m name => m.update name value) m =
      m.filterMap fun key old => if key ∈ names then value else some old := by
  induction names generalizing m with
  | nil => simp [filterMap_some]
  | cons name rest ih =>
    obtain ⟨fresh, distinct⟩ := List.nodup_cons.mp distinct
    have step := update_eq_filterMap value (members name List.mem_cons_self)
    -- the names still to come are not the one that was set, so the collection keeps them
    have later : ∀ other ∈ rest, other ∈ (m.update name value).keys := by
      intro other member
      have different : other ≠ name := fun equal => fresh (equal ▸ member)
      obtain ⟨old, found⟩ := exists_of_mem_keys (members other (List.mem_cons_of_mem _ member))
      have kept : (m.update name value).get? other = some old := by
        rw [step, get?_filterMap, found]
        simp [different]
      exact mem_keys_of_get? kept
    rw [List.foldl_cons, ih distinct later, step, filterMap_filterMap]
    apply filterMap_congr
    intro key old _
    by_cases same : key = name
    -- nothing in the rest sets this name again
    · subst same
      cases value <;> simp [fresh]
    · simp [same]

end Keyed

end Flowgraph
