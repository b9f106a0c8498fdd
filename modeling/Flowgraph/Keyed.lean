/-!
# Keyed collections

A keyed collection is a finite map from names to values that remembers the order in which the names
first arrived: a name put a second time keeps its place and takes the new value, and removing a name
leaves the order of the others alone. The operations come twice, on plain lists of entries and on
`Keyed`, whose names are distinct by construction.

Main result: `get?_insert` and `get?_erase` describe both operations through look-up, and
`keys_insert` and `keys_erase` describe what happens to the order.
-/
namespace Flowgraph

universe u v

namespace Entries

variable {α : Type u}

/-- Sets the value of a name, at its place if the entries have it and at the end otherwise. -/
def put (name : String) (value : α) : List (String × α) → List (String × α)
  | [] => [(name, value)]
  | (other, old) :: rest =>
    if other = name then (name, value) :: rest else (other, old) :: put name value rest

/-- Removes every entry of a name. -/
def remove (name : String) (entries : List (String × α)) : List (String × α) :=
  entries.filter fun entry => entry.1 ≠ name

/-- The value of the first entry of a name. -/
def find? (name : String) : List (String × α) → Option α
  | [] => none
  | (other, value) :: rest => if other = name then some value else find? name rest

theorem keys_put (name : String) (value : α) (entries : List (String × α)) :
    (put name value entries).map Prod.fst =
      if name ∈ entries.map Prod.fst then entries.map Prod.fst
      else entries.map Prod.fst ++ [name] := by
  induction entries with
  | nil => simp [put]
  | cons entry rest ih =>
    obtain ⟨other, old⟩ := entry
    by_cases same : other = name
    · simp [put, same]
    · have different : name ≠ other := fun equal => same equal.symm
      by_cases later : name ∈ rest.map Prod.fst
      · simp only [put, same, if_false, List.map_cons, ih, later, if_true, List.mem_cons, or_true]
      · simp only [put, same, if_false, List.map_cons, ih, later, List.mem_cons, different,
          or_self, List.cons_append]

theorem nodup_put (name : String) (value : α) {entries : List (String × α)}
    (distinct : (entries.map Prod.fst).Nodup) : ((put name value entries).map Prod.fst).Nodup := by
  rw [keys_put]
  split
  · exact distinct
  · next absent =>
    rw [List.nodup_append]
    refine ⟨distinct, by simp, ?_⟩
    intro left memberLeft right memberRight equal
    simp only [List.mem_singleton] at memberRight
    exact absent (memberRight ▸ equal ▸ memberLeft)

theorem nodup_remove (name : String) {entries : List (String × α)}
    (distinct : (entries.map Prod.fst).Nodup) : ((remove name entries).map Prod.fst).Nodup :=
  distinct.sublist (List.filter_sublist.map _)

theorem find?_put (name other : String) (value : α) (entries : List (String × α)) :
    find? other (put name value entries) =
      if name = other then some value else find? other entries := by
  induction entries with
  | nil => simp [put, find?]
  | cons entry rest ih =>
    obtain ⟨key, old⟩ := entry
    by_cases same : key = name
    · subst same
      by_cases target : key = other <;> simp [put, find?, target]
    · by_cases target : key = other
      · subst target
        have different : name ≠ key := fun equal => same equal.symm
        simp [put, find?, same, different]
      · simp [put, find?, same, target, ih]

theorem find?_remove (name other : String) (entries : List (String × α)) :
    find? other (remove name entries) = if name = other then none else find? other entries := by
  induction entries with
  | nil => simp [remove, find?]
  | cons entry rest ih =>
    obtain ⟨key, old⟩ := entry
    unfold remove at ih ⊢
    by_cases same : key = name
    · subst same
      simp only [List.filter_cons, ne_eq, not_true_eq_false, decide_false, Bool.false_eq_true,
        if_false, ih, find?]
      split <;> rfl
    · by_cases target : key = other
      · subst target
        have different : name ≠ key := fun equal => same equal.symm
        simp [find?, same, different]
      · simpa [find?, same, target] using ih

theorem find?_eq_none_iff (name : String) (entries : List (String × α)) :
    find? name entries = none ↔ name ∉ entries.map Prod.fst := by
  induction entries with
  | nil => simp [find?]
  | cons entry rest ih =>
    obtain ⟨key, value⟩ := entry
    by_cases same : key = name
    · simp [find?, same]
    · have different : name ≠ key := fun equal => same equal.symm
      simp [find?, same, different, ih]

theorem find?_eq_some_iff {entries : List (String × α)} (distinct : (entries.map Prod.fst).Nodup)
    (name : String) (value : α) : find? name entries = some value ↔ (name, value) ∈ entries := by
  induction entries with
  | nil => simp [find?]
  | cons entry rest ih =>
    obtain ⟨key, first⟩ := entry
    simp only [List.map_cons, List.nodup_cons] at distinct
    by_cases same : key = name
    · subst same
      have absent : ∀ later, (key, later) ∉ rest := fun later member =>
        distinct.1 (List.mem_map.2 ⟨_, member, rfl⟩)
      simp [find?, absent, eq_comm]
    · have different : name ≠ key := fun equal => same equal.symm
      simp [find?, same, different, ih distinct.2]

theorem find?_append (name : String) (entries others : List (String × α)) :
    find? name (entries ++ others) = (find? name entries).or (find? name others) := by
  induction entries with
  | nil => rfl
  | cons entry rest ih =>
    obtain ⟨other, value⟩ := entry
    by_cases same : other = name <;> simp [find?, same, ih]

/-- Where no name comes again, it does not matter from which end a name is looked for. -/
theorem find?_reverse {entries : List (String × α)} (distinct : (entries.map Prod.fst).Nodup)
    (name : String) : find? name entries.reverse = find? name entries := by
  have backwards : (entries.reverse.map Prod.fst).Nodup :=
    ((List.reverse_perm entries).map Prod.fst).nodup_iff.mpr distinct
  apply Option.ext
  intro value
  rw [find?_eq_some_iff backwards, find?_eq_some_iff distinct, List.mem_reverse]

end Entries

/-- A finite map from names to values that keeps the order in which the names first arrived. -/
structure Keyed (α : Type u) where
  /-- The entries, first arrival first. -/
  entries : List (String × α)
  /-- No name has two entries. -/
  distinct : (entries.map Prod.fst).Nodup
deriving DecidableEq

namespace Keyed

variable {α : Type u} {β : Type v}

@[ext] theorem ext {left right : Keyed α} (same : left.entries = right.entries) : left = right := by
  cases left; cases right; cases same; rfl

def empty : Keyed α := ⟨[], List.nodup_nil⟩

instance : EmptyCollection (Keyed α) := ⟨empty⟩

instance : Inhabited (Keyed α) := ⟨empty⟩

/-- The names, first arrival first. -/
def keys (m : Keyed α) : List String := m.entries.map Prod.fst

/-- The values, in the order of their names. -/
def values (m : Keyed α) : List α := m.entries.map Prod.snd

def size (m : Keyed α) : Nat := m.entries.length

def isEmpty (m : Keyed α) : Bool := m.entries.isEmpty

def get? (m : Keyed α) (name : String) : Option α := Entries.find? name m.entries

instance : Membership String (Keyed α) where
  mem m name := name ∈ m.keys

instance (name : String) (m : Keyed α) : Decidable (name ∈ m) :=
  inferInstanceAs (Decidable (name ∈ m.keys))

/-- Sets the value of a name; a name already present keeps its place. -/
def insert (m : Keyed α) (name : String) (value : α) : Keyed α :=
  ⟨Entries.put name value m.entries, Entries.nodup_put name value m.distinct⟩

/-- Removes a name; the others keep their order. -/
def erase (m : Keyed α) (name : String) : Keyed α :=
  ⟨Entries.remove name m.entries, Entries.nodup_remove name m.distinct⟩

/-- The collection that arises by inserting the entries from left to right. -/
def ofList (entries : List (String × α)) : Keyed α :=
  entries.foldl (fun m entry => m.insert entry.1 entry.2) empty

/-- Keeps the entries that a function maps to a value, and replaces their values. -/
def filterMap (f : String → α → Option β) (m : Keyed α) : Keyed β where
  entries := m.entries.filterMap fun entry => (f entry.1 entry.2).map (entry.1, ·)
  distinct := by
    have sub : (m.entries.filterMap fun entry => (f entry.1 entry.2).map (entry.1, ·)).map Prod.fst
        |>.Sublist (m.entries.map Prod.fst) := by
      generalize m.entries = entries
      induction entries with
      | nil => simp
      | cons entry rest ih =>
        cases image : f entry.1 entry.2 with
        | none => simpa [image] using ih.trans (List.sublist_cons_self _ _)
        | some value => simpa [image] using ih
    exact m.distinct.sublist sub

def map (f : α → β) (m : Keyed α) : Keyed β :=
  m.filterMap fun _ value => some (f value)

@[simp] theorem keys_empty : (empty : Keyed α).keys = [] := rfl

@[simp] theorem get?_empty (name : String) : (empty : Keyed α).get? name = none := rfl

theorem mem_iff {name : String} {m : Keyed α} : name ∈ m ↔ name ∈ m.keys := Iff.rfl

theorem keys_insert (m : Keyed α) (name : String) (value : α) :
    (m.insert name value).keys = if name ∈ m then m.keys else m.keys ++ [name] :=
  Entries.keys_put name value m.entries

theorem get?_insert (m : Keyed α) (name other : String) (value : α) :
    (m.insert name value).get? other = if name = other then some value else m.get? other :=
  Entries.find?_put name other value m.entries

theorem keys_erase (m : Keyed α) (name : String) :
    (m.erase name).keys = m.keys.filter (fun key => key ≠ name) := by
  simp only [keys, erase, Entries.remove, List.filter_map]
  rfl

/-- Of the entries that are put in one after the other, the last one of a name counts. -/
theorem get?_foldl_insert (entries : List (String × α)) (m : Keyed α) (name : String) :
    (entries.foldl (fun m entry => m.insert entry.1 entry.2) m).get? name =
      (Entries.find? name entries.reverse).or (m.get? name) := by
  induction entries generalizing m with
  | nil => rfl
  | cons entry rest ih =>
    rw [List.foldl_cons, ih, get?_insert, List.reverse_cons, Entries.find?_append, Option.or_assoc]
    by_cases same : entry.1 = name <;> simp [Entries.find?, same]

theorem get?_erase (m : Keyed α) (name other : String) :
    (m.erase name).get? other = if name = other then none else m.get? other :=
  Entries.find?_remove name other m.entries

theorem get?_eq_none_iff {m : Keyed α} {name : String} : m.get? name = none ↔ name ∉ m :=
  Entries.find?_eq_none_iff name m.entries

theorem get?_eq_some_iff {m : Keyed α} {name : String} {value : α} :
    m.get? name = some value ↔ (name, value) ∈ m.entries :=
  Entries.find?_eq_some_iff m.distinct name value

end Keyed

end Flowgraph
