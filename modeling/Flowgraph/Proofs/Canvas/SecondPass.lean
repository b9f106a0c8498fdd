import Mathlib.Data.List.Perm.Subperm
import Flowgraph.Proofs.Canvas.OfGraph

/-!
# A second pass through the canvas form

The graph of a canvas is written as a canvas again, and that one is read. Constants keep their
place only as widget values by position, so those come back that a stored widget of the class has,
and a stored widget without an input comes back as null. Wired inputs come back where they were; an
empty name, which an inlet cannot declare, is looked up in the catalogue again.

Main result: `secondPass_toGraph` says what the inputs are, and when they are the same;
`secondPass_secondPass` that a third pass changes nothing more.
-/
namespace Flowgraph

namespace Canvas

/-- A graph after one more pass through the canvas form. -/
def secondPass (catalogue : Catalogue) (graph : Graph) : Graph :=
  ((ofGraph catalogue graph).toGraph catalogue).1

/-- The constants of a node are the values of its class's stored widgets, all of which have an
input, and its wired inputs have names or the slot of a nameless one is nameless. -/
structure Steady (catalogue : Catalogue) (node : Flowgraph.Node) : Prop where
  stored : ∀ name value, node.inputs.get? name = some (.constant value) →
    ∃ widgets, catalogue.widgets? node.classType = some widgets ∧ ⟨name, .stored⟩ ∈ widgets
  filled : ∀ widgets, catalogue.widgets? node.classType = some widgets →
    ∀ name, ⟨name, .stored⟩ ∈ widgets → name ∈ node.inputs.keys
  placed : ∀ slot source, node.links[slot]? = some ("", source) →
    catalogue.slotName? node.classType slot = some ""

section

variable {catalogue : Catalogue} {node made : Flowgraph.Node}

theorem Steady.returnsAt (steady : Steady catalogue node) {item : (String × Source) × Nat}
    (member : item ∈ node.links.zipIdx) : ReturnsAt catalogue node item.1.1 item := by
  obtain ⟨⟨input, source⟩, slot⟩ := item
  by_cases empty : input = ""
  · subst empty
    exact steady.placed slot source (List.mk_mem_zipIdx_iff_getElem?.mp member)
  · exact returnsAt_of_ne empty

theorem Steady.same (steady : Steady catalogue node) (relaid : Relaid catalogue node made)
    (name : String) : made.inputs.get? name = node.inputs.get? name := by
  have returned := relaid.returned fun item => steady.returnsAt
  refine Option.ext fun input => ?_
  cases input with
  | wired source => exact returned.wired name source
  | constant value =>
    rw [returned.constant]
    constructor
    · rintro ⟨⟨widgets, described, member⟩, held | ⟨absent, -⟩⟩
      · exact held
      · exact absurd (steady.filled widgets described name member)
          (Keyed.get?_eq_none_iff.mp absent)
    · intro held
      exact ⟨steady.stored name value held, .inl held⟩

theorem Relaid.steady (relaid : Relaid catalogue node made)
    (same : ∀ name, made.inputs.get? name = node.inputs.get? name) : Steady catalogue node := by
  refine ⟨?_, ?_, ?_⟩
  · intro name value held
    exact ((relaid.constant name value).mp ((same name).trans held)).2.1
  · intro widgets described name member
    by_contra absent
    have none : made.inputs.get? name = none :=
      (same name).trans (Keyed.get?_eq_none_iff.mpr absent)
    -- something comes back under the name of a stored widget, a wired input or else a constant
    by_cases wired : ∃ item ∈ node.links.zipIdx, ReturnsAt catalogue node name item
    · obtain ⟨item, last⟩ := LastOf.exists_iff.mpr wired
      have held := (relaid.wired name _).mpr ⟨item, last, rfl⟩
      rw [none] at held
      contradiction
    · have unwired : ∀ item ∈ node.links.zipIdx, ¬ ReturnsAt catalogue node name item :=
        fun item inside returns => wired ⟨item, inside, returns⟩
      have held := (relaid.constant name _).mpr ⟨unwired, ⟨widgets, described, member⟩, rfl⟩
      rw [none] at held
      contradiction
  · intro slot source position
    have held : node.inputs.get? "" = some (.wired source) :=
      Node.mem_links_iff.mp (List.mem_of_getElem? position)
    obtain ⟨⟨⟨input, origin⟩, other⟩, last, -⟩ := (relaid.wired "" source).mp ((same "").trans held)
    have there := List.mk_mem_zipIdx_iff_getElem?.mp last.mem
    have returns : returnsAt? catalogue node ((input, origin), other) = some "" := last.holds
    unfold returnsAt? at returns
    split at returns
    · next empty =>
      -- no two wired inputs have one name, so this is the same slot
      obtain ⟨inside, -⟩ := List.getElem?_eq_some_iff.mp position
      have names : (node.links.map Prod.fst)[slot]? = (node.links.map Prod.fst)[other]? := by
        simp only [List.getElem?_map, position, there, Option.map_some]
        exact congrArg some empty.symm
      have slots := (List.getElem?_inj ((List.length_map Prod.fst).symm ▸ inside)
        node.links_names_nodup).mp names
      exact slots ▸ returns
    · next filled => exact absurd (Option.some.inj returns) filled

/-- What has come back comes back again: its constants are those of the stored widgets. -/
theorem Returned.steady (returned : Returned catalogue node made)
    (classType : made.classType = node.classType)
    (named : ∀ source, node.inputs.get? "" ≠ some (.wired source)) : Steady catalogue made := by
  refine ⟨?_, ?_, ?_⟩
  · intro name value held
    rw [classType]
    exact ((returned.constant name value).mp held).1
  · intro widgets described name member
    rw [classType] at described
    have stored : ∃ widgets, catalogue.widgets? node.classType = some widgets ∧
        ⟨name, .stored⟩ ∈ widgets := ⟨widgets, described, member⟩
    cases held : node.inputs.get? name with
    | none => exact Keyed.mem_keys_of_get? ((returned.constant name .null).mpr
        ⟨stored, .inr ⟨held, rfl⟩⟩)
    | some input =>
      cases input with
      | wired source => exact Keyed.mem_keys_of_get? ((returned.wired name source).mpr held)
      | constant value =>
        exact Keyed.mem_keys_of_get? ((returned.constant name value).mpr ⟨stored, .inl held⟩)
  · intro slot source position
    have held := Node.mem_links_iff.mp (List.mem_of_getElem? position)
    exact absurd ((returned.wired "" source).mp held) (named source)

theorem length_links_toGraph {canvas : Canvas} (distinct : (canvas.nodes.map Node.id).Nodup)
    {id : String} (found : (canvas.toGraph catalogue).1.get? id = some node) :
    node.links.length ≤ UInt32.size := by
  obtain ⟨drawn, member, rfl, rfl⟩ := (get?_toGraph distinct).mp found
  generalize made : drawn.compile catalogue (landings catalogue canvas) = node at found
  -- every wired input has the name of a slot, and slots are words of 32 bits
  have names : node.links.map Prod.fst ⊆
      (List.range UInt32.size).filterMap (drawn.inputName? catalogue) := by
    intro name listed
    obtain ⟨⟨_, source⟩, link, rfl⟩ := List.mem_map.mp listed
    obtain ⟨wire, last, -⟩ := (wired_toGraph_iff distinct).mp
      ⟨node, found, Node.mem_links_iff.mp link⟩
    obtain ⟨other, inside, same, named⟩ := last.holds.slot
    obtain rfl := List.inj_on_of_nodup_map distinct inside member same
    exact List.mem_filterMap.mpr ⟨wire.slot.toNat, List.mem_range.mpr wire.slot.toNat_lt_size,
      inputName?_eq_some_iff.mpr named⟩
  calc node.links.length
      = (node.links.map Prod.fst).length := (List.length_map _).symm
    _ ≤ ((List.range UInt32.size).filterMap (drawn.inputName? catalogue)).length :=
        (List.subperm_of_subset node.links_names_nodup names).length_le
    _ ≤ (List.range UInt32.size).length := List.length_filterMap_le _ _
    _ = UInt32.size := List.length_range

theorem ids_secondPass (catalogue : Catalogue) (graph : Graph) :
    (secondPass catalogue graph).ids = graph.ids :=
  (ids_toGraph (nodup_ofGraph catalogue graph)).trans (ids_ofGraph catalogue graph)

theorem exists_secondPass (catalogue : Catalogue) {graph : Graph} {id : String}
    (found : graph.get? id = some node) (fits : node.links.length ≤ UInt32.size) :
    ∃ made, (secondPass catalogue graph).get? id = some made ∧
      made.classType = node.classType ∧ Relaid catalogue node made :=
  ⟨_, (get?_toGraph (nodup_ofGraph catalogue graph)).mpr ⟨_, nodeOf_mem catalogue found, rfl, rfl⟩,
    rfl, relaid_compile catalogue found fits⟩

end

/-- What the inputs of the graph of a canvas are after a second pass, and when they are the same. -/
theorem secondPass_toGraph {document : Json} {canvas : Canvas}
    (read : Canvas.ofJson document = .ok canvas) (catalogue : Catalogue) :
    (secondPass catalogue (canvas.toGraph catalogue).1).ids = (canvas.toGraph catalogue).1.ids ∧
    ∀ id node, (canvas.toGraph catalogue).1.get? id = some node →
      ∃ made, (secondPass catalogue (canvas.toGraph catalogue).1).get? id = some made ∧
        Relaid catalogue node made ∧
        ((∀ source, node.inputs.get? "" ≠ some (.wired source)) → Returned catalogue node made) ∧
        ((∀ name, made.inputs.get? name = node.inputs.get? name) ↔ Steady catalogue node) := by
  refine ⟨ids_secondPass catalogue _, fun id node found => ?_⟩
  obtain ⟨made, there, -, relaid⟩ := exists_secondPass catalogue found
    (length_links_toGraph (nodup_of_ofJson read) found)
  exact ⟨made, there, relaid, relaid.returned_of_named, relaid.steady,
    fun steady => steady.same relaid⟩

/-- A third pass changes no input of a graph without nameless wired inputs. -/
theorem secondPass_secondPass {document : Json} {canvas : Canvas}
    (read : Canvas.ofJson document = .ok canvas) (catalogue : Catalogue)
    (named : ∀ id node, (canvas.toGraph catalogue).1.get? id = some node →
      ∀ source, node.inputs.get? "" ≠ some (.wired source)) :
    ∀ id made, (secondPass catalogue (canvas.toGraph catalogue).1).get? id = some made →
      ∃ again, (secondPass catalogue (secondPass catalogue
        (canvas.toGraph catalogue).1)).get? id = some again ∧
        ∀ name, again.inputs.get? name = made.inputs.get? name := by
  intro id made there
  have inside := Keyed.mem_keys_of_get? there
  rw [← Graph.ids, ids_secondPass] at inside
  obtain ⟨node, found⟩ := Keyed.exists_of_mem_keys inside
  obtain ⟨_, same, classType, relaid⟩ := exists_secondPass catalogue found
    (length_links_toGraph (nodup_of_ofJson read) found)
  obtain rfl := Option.some.inj (there.symm.trans same)
  obtain ⟨again, last, -, relaid_again⟩ := exists_secondPass catalogue there
    (length_links_toGraph (nodup_ofGraph catalogue _) there)
  have back := relaid.returned_of_named (named id node found)
  exact ⟨again, last, (back.steady classType (named id node found)).same relaid_again⟩

/-- A class with a stored widget and a slot without a name. -/
def mixing : Catalogue :=
  ⟨[], .ofList [("Mixer", ⟨[⟨"gain", .stored⟩], ["left", ""], none⟩)], [], []⟩

/-- A mixer whose widget is not set and whose nameless slot is wired, a node of a class that is not
described, and a mixer that lacks nothing. -/
def unsteady : Json := .object [
  ("nodes", .array [
    .object [("id", .ofWord 1), ("type", .string "Mixer")],
    .object [("id", .ofWord 2), ("type", .string "Dice"),
      ("widgets_values", .object [("sides", .ofWord 6)])],
    .object [("id", .ofWord 3), ("type", .string "Mixer"),
      ("widgets_values", .array [.ofWord 5])]]),
  ("links", .array [.array [.ofWord 1, .ofWord 2, .ofWord 0, .ofWord 1, .ofWord 1]])]

theorem unsteady_not_kept : ∃ canvas mixer dice mixed thrown,
    Canvas.ofJson unsteady = .ok canvas ∧
    (canvas.toGraph mixing).1.get? "1" = some mixer ∧
    (canvas.toGraph mixing).1.get? "2" = some dice ∧
    (secondPass mixing (canvas.toGraph mixing).1).get? "1" = some mixed ∧
    (secondPass mixing (canvas.toGraph mixing).1).get? "2" = some thrown ∧
    mixer.inputs.get? "gain" = none ∧ mixed.inputs.get? "gain" = some (.constant .null) ∧
    mixer.inputs.get? "" = some (.wired ⟨"2", 0⟩) ∧ mixed.inputs.get? "" = none ∧
    dice.inputs.get? "sides" = some (.constant (.ofWord 6)) ∧
    thrown.inputs.get? "sides" = none := by
  refine ⟨_, _, _, _, _, rfl, rfl, rfl, rfl, rfl, ?_⟩
  decide

theorem secondPass_toGraph_unsteady : ∃ canvas dice thrown mixer mixed,
    Canvas.ofJson unsteady = .ok canvas ∧
    (canvas.toGraph mixing).1.get? "2" = some dice ∧
    (secondPass mixing (canvas.toGraph mixing).1).get? "2" = some thrown ∧
    ¬ (∀ name, thrown.inputs.get? name = dice.inputs.get? name) ∧
    (canvas.toGraph mixing).1.get? "3" = some mixer ∧
    (secondPass mixing (canvas.toGraph mixing).1).get? "3" = some mixed ∧
    mixer.inputs.get? "gain" = some (.constant (.ofWord 5)) ∧
    ∀ name, mixed.inputs.get? name = mixer.inputs.get? name := by
  have read : Canvas.ofJson unsteady = .ok _ := rfl
  obtain ⟨-, nodes⟩ := secondPass_toGraph read mixing
  obtain ⟨thrown, there, -, -, lost⟩ := nodes "2" _ rfl
  obtain ⟨mixed, here, -, -, kept⟩ := nodes "3"
    ((Node.ofClass "Mixer").withInput "gain" (.constant (.ofWord 5))) rfl
  refine ⟨_, _, thrown, _, mixed, read, rfl, there, fun same => ?_, rfl, here, rfl, kept.mpr ?_⟩
  · obtain ⟨widgets, described, -⟩ := (lost.mp same).stored "sides" (.ofWord 6) rfl
    cases described
  · have described : mixing.widgets? "Mixer" = some [⟨"gain", .stored⟩] := rfl
    refine ⟨?_, ?_, ?_⟩
    · intro name value held
      have only : name ∈ ["gain"] := Keyed.mem_keys_of_get? held
      obtain rfl := List.mem_singleton.mp only
      exact ⟨_, described, List.mem_cons_self⟩
    · intro widgets listed name member
      cases described.symm.trans listed
      obtain rfl : name = "gain" := by simpa using member
      decide
    · intro slot source position
      cases position

end Canvas

end Flowgraph
