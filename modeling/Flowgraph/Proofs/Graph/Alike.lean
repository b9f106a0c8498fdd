import Flowgraph.Proofs.Content.Alike
import Flowgraph.Proofs.Dependencies

/-!
# What alike graphs have in common

Alike graphs have the same ids in some order, and what the nodes of one make, each for itself, the
nodes of the other make in some order too. So they have the same links and the same edges, and the
inputs of alike nodes have the same sources and the same texts.

Main result: `Graph.Alike.flatMap_perm`, and `links_perm` and `edges_perm` as cases of it.
-/
namespace Flowgraph

open List (Forall₂)

theorem Entries.rel_find? {α β : Type} {R : α → β → Prop} {entries : List (String × α)}
    {others : List (String × β)} (each : Forall₂ (Content.SameName R) entries others)
    (name : String) : Option.Rel R (find? name entries) (find? name others) := by
  induction each with
  | nil => exact .none
  | cons first rest ih =>
    obtain ⟨same, related⟩ := first
    simp only [find?, same]
    split
    · exact .some related
    · exact ih

/-- Collections are related name by name if their entries are, after reordering. -/
theorem Keyed.rel_of_perm {α β : Type} {R : α → β → Prop} {m : Keyed α} {other : Keyed β}
    {entries : List (String × α)} (perm : m.entries.Perm entries)
    (each : Forall₂ (Content.SameName R) entries other.entries) (name : String) :
    Option.Rel R (m.get? name) (other.get? name) := by
  have distinct : (entries.map Prod.fst).Nodup := (perm.map Prod.fst).nodup_iff.mp m.distinct
  have reordered : m.get? name = (⟨entries, distinct⟩ : Keyed α).get? name :=
    get?_eq_of_perm perm name
  rw [reordered]
  exact Entries.rel_find? each name

theorem Json.Alike.refl (value : Json) : value.Alike value := by
  induction value using Json.induct_parts with
  | scalar value scalar => exact .scalar scalar
  | array items each => exact .array (List.forall₂_same.mpr each)
  | object fields each =>
    refine .object fun name => List.forall₂_same.mpr fun value member => ?_
    obtain ⟨field, inside, rfl⟩ := List.mem_map.mp member
    exact each field (List.mem_of_mem_filter inside)

theorem Json.Alike.string?_eq {value other : Json} (alike : value.Alike other) :
    value.string? = other.string? := by
  cases alike <;> rfl

namespace Input.Alike

theorem refl (input : Input) : input.Alike input := by
  cases input with
  | wired source => exact .wired source
  | constant value => exact .constant (.refl value)

variable {input other : Input}

theorem source?_eq (alike : input.Alike other) : input.source? = other.source? := by
  cases alike <;> rfl

theorem text?_eq (alike : input.Alike other) :
    input.constant?.bind Json.string? = other.constant?.bind Json.string? := by
  cases alike with
  | wired source => rfl
  | constant alike => exact alike.string?_eq

end Input.Alike

namespace Node.Alike

variable {node other : Node}

theorem of_get? (classType : node.classType = other.classType)
    (inputs : ∀ name, node.inputs.get? name = other.inputs.get? name) : node.Alike other := by
  refine ⟨classType, fun name => ?_⟩
  rw [inputs]
  cases other.inputs.get? name with
  | none => exact .none
  | some input => exact .some (.refl input)

/-- What is read off the inputs one by one is the same under each name. -/
theorem bind_get?_eq {β : Type} (alike : node.Alike other) {f : Input → Option β}
    (each : ∀ input input', input.Alike input' → f input = f input') (name : String) :
    (node.inputs.get? name).bind f = (other.inputs.get? name).bind f := by
  generalize node.inputs.get? name = held, other.inputs.get? name = held', alike.inputs name = rel
  cases rel with
  | none => rfl
  | some alike => exact each _ _ alike

theorem links_perm (alike : node.Alike other) : node.links.Perm other.links := by
  have perm : (node.inputs.filterMap fun _ => Input.source?).entries.Perm
      (other.inputs.filterMap fun _ => Input.source?).entries := by
    refine Keyed.entries_perm fun name => ?_
    rw [Keyed.get?_filterMap, Keyed.get?_filterMap]
    exact alike.bind_get?_eq (fun _ _ => Input.Alike.source?_eq) name
  exact perm

end Node.Alike

namespace Graph.Alike

variable {graph other : Graph}

theorem get?_cases (alike : graph.Alike other) (id : String) :
    graph.get? id = none ∧ other.get? id = none ∨
      ∃ node node', graph.get? id = some node ∧ other.get? id = some node' ∧ node.Alike node' := by
  have related := alike id
  unfold Graph.get?
  generalize graph.nodes.get? id = found, other.nodes.get? id = found' at related
  cases related with
  | none => exact .inl ⟨rfl, rfl⟩
  | some nodes => exact .inr ⟨_, _, rfl, rfl, nodes⟩

theorem mem_ids_iff (alike : graph.Alike other) (id : String) :
    id ∈ graph.ids ↔ id ∈ other.ids := by
  rw [ids, ids, ← Keyed.get?_isSome_iff, ← Keyed.get?_isSome_iff]
  rcases alike.get?_cases id with ⟨absent, absent'⟩ | ⟨node, node', found, found', -⟩
  · rw [← get?, ← get?, absent, absent']
  · rw [← get?, ← get?, found, found', Option.isSome_some, Option.isSome_some]

theorem ids_perm (alike : graph.Alike other) : graph.ids.Perm other.ids :=
  (List.perm_ext_iff_of_nodup graph.nodes.distinct other.nodes.distinct).mpr alike.mem_ids_iff

theorem size_eq (alike : graph.Alike other) : graph.size = other.size := by
  simpa [Graph.ids, size, Keyed.keys, Keyed.size] using alike.ids_perm.length_eq

theorem has_eq (alike : graph.Alike other) : graph.has = other.has := by
  funext id
  rw [Bool.eq_iff_iff, has_iff, has_iff, alike.mem_ids_iff]

/-- What nodes make, each for itself, alike graphs make in some order. -/
theorem flatMap_perm {β : Type} (alike : graph.Alike other) (f f' : String → Node → List β)
    (each : ∀ id node node', node.Alike node' → (f id node).Perm (f' id node')) :
    (graph.entries.flatMap fun entry => f entry.1 entry.2).Perm
      (other.entries.flatMap fun entry => f' entry.1 entry.2) := by
  have by_ids (graph : Graph) (f : String → Node → List β) :
      (graph.entries.flatMap fun entry => f entry.1 entry.2) =
        graph.ids.flatMap fun id => ((graph.get? id).map (f id)).getD [] := by
    rw [ids, Keyed.keys, List.flatMap_map]
    refine List.flatMap_congr fun entry member => ?_
    rw [get?, Keyed.get?_eq_some_iff.mpr member]
    rfl
  rw [by_ids, by_ids]
  refine alike.ids_perm.flatMap fun id _ => ?_
  rcases alike.get?_cases id with ⟨absent, absent'⟩ | ⟨node, node', found, found', nodes⟩
  · rw [absent, absent']
    exact .nil
  · rw [found, found']
    exact each id node node' nodes

theorem filterMap_perm {β : Type} (alike : graph.Alike other) (f f' : String → Node → Option β)
    (each : ∀ id node node', node.Alike node' → f id node = f' id node') :
    (graph.entries.filterMap fun entry => f entry.1 entry.2).Perm
      (other.entries.filterMap fun entry => f' entry.1 entry.2) := by
  rw [List.filterMap_eq_flatMap_toList, List.filterMap_eq_flatMap_toList]
  have listed (id : String) (node node' : Node) (nodes : node.Alike node') :
      (f id node).toList.Perm (f' id node').toList := by rw [each id node node' nodes]
  exact alike.flatMap_perm _ _ listed

theorem filter_map_perm {β : Type} (alike : graph.Alike other) (p p' : String → Node → Bool)
    (g : String → Node → β) (kept : ∀ id node node', node.Alike node' → p id node = p' id node')
    (same : ∀ id node node', node.Alike node' → g id node = g id node') :
    ((graph.entries.filter fun entry => p entry.1 entry.2).map fun entry => g entry.1 entry.2).Perm
      ((other.entries.filter fun entry => p' entry.1 entry.2).map
        fun entry => g entry.1 entry.2) := by
  have chosen (graph : Graph) (p : String → Node → Bool) :
      ((graph.entries.filter fun entry => p entry.1 entry.2).map fun entry =>
        g entry.1 entry.2) = graph.entries.filterMap fun entry =>
          if p entry.1 entry.2 then some (g entry.1 entry.2) else none := by
    rw [← List.filterMap_eq_filter, List.map_filterMap]
    congr 1
    funext entry
    cases passes : p entry.1 entry.2 <;> simp [Option.guard, passes]
  rw [chosen, chosen]
  have taken (id : String) (node node' : Node) (nodes : node.Alike node') :
      (if p id node then some (g id node) else none) =
        if p' id node' then some (g id node') else none := by
    rw [kept id node node' nodes, same id node node' nodes]
  exact alike.filterMap_perm _ _ taken

theorem links_perm (alike : graph.Alike other) : graph.links.Perm other.links := by
  have wired (id : String) (node node' : Node) (nodes : node.Alike node') :
      (node.links.map fun link => Link.mk id link.1 link.2).Perm
        (node'.links.map fun link => Link.mk id link.1 link.2) := nodes.links_perm.map _
  exact alike.flatMap_perm _ _ wired

theorem edges_perm (alike : graph.Alike other) : graph.edges.Perm other.edges := by
  rw [edges, edges, alike.has_eq]
  exact (alike.links_perm.filter _).map _

end Graph.Alike

end Flowgraph
