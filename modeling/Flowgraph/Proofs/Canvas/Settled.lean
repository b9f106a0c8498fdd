import Flowgraph.Proofs.Canvas.Consistent
import Flowgraph.Proofs.Canvas.SecondPass

/-!
# One pass through the canvas form is enough

What a graph loses and gains when it is written as a canvas and read again, it loses and gains at
once. After one pass the constants of a node are those of its stored widgets and stand before the
inputs that are only wired, no input is nameless, and the output slots that are read have a place
in the list of outputs; a graph of that shape comes back entry by entry.

Main result: `secondPass_idempotent`, for catalogues without nameless input slots.
-/
namespace Flowgraph

theorem Node.map_fst_links (node : Node) : node.links.map Prod.fst =
    node.inputs.keys.filter fun name => ((node.inputs.get? name).bind Input.source?).isSome :=
  Keyed.keys_filterMap (fun _ => Input.source?) node.inputs

theorem Node.eq_of_parts {node other : Node} (classType : node.classType = other.classType)
    (inputs : node.inputs = other.inputs) (outputs : node.outputs = other.outputs)
    (info : node.info = other.info) : node = other := by
  cases node
  cases other
  cases classType
  cases inputs
  cases outputs
  cases info
  rfl

/-- Names that were put in behind others keep their order when they are put in again, if none of
them is left out; those that stand in front do not matter. -/
theorem Keyed.keys_again {α : Type} {m : Keyed α} {front behind : List String}
    (names : m.keys = (front ++ behind).eraseDups) {keep : String → Bool}
    (kept : ∀ name ∈ m.keys, name ∉ front → keep name = true) :
    (front ++ m.keys.filter keep).eraseDups = m.keys := by
  rw [List.eraseDups_append] at names
  generalize added : (behind.removeAll front).eraseDups = fresh at names
  have fresh_not_front : ∀ name ∈ fresh, name ∉ front := by
    intro name member
    rw [← added, List.mem_eraseDups, List.removeAll, List.mem_filter] at member
    simpa using member.2
  have fresh_nodup : fresh.Nodup := by
    have distinct : m.keys.Nodup := m.distinct
    rw [names] at distinct
    exact distinct.sublist (List.sublist_append_right _ _)
  have fresh_kept : ∀ name ∈ fresh, keep name = true := fun name member =>
    kept name (names ▸ List.mem_append_right _ member) (fresh_not_front name member)
  -- without the names in front, what is kept is just the fresh names
  have rest : (m.keys.filter keep).removeAll front = fresh := by
    rw [List.removeAll, List.filter_filter, names, List.filter_append,
      List.filter_eq_nil_iff.mpr, List.filter_eq_self.mpr, List.nil_append]
    · intro name member
      simpa [fresh_kept name member] using fresh_not_front name member
    · intro name member
      simp [List.mem_eraseDups.mp member]
  rw [List.eraseDups_append, rest, eraseDups_eq_self fresh_nodup, names]

namespace Canvas

section

variable {catalogue : Catalogue} {graph : Graph} {id : String} {node made : Flowgraph.Node}

/-- What a node becomes when its graph goes through the canvas form. -/
def nodeBack (catalogue : Catalogue) (graph : Graph) (id : String) (node : Flowgraph.Node) :
    Flowgraph.Node :=
  (nodeOf catalogue graph.numbered id node).compile catalogue
    (landings catalogue (ofGraph catalogue graph))

theorem entries_secondPass (catalogue : Catalogue) (graph : Graph) :
    (secondPass catalogue graph).entries =
      graph.entries.map fun entry => (entry.1, nodeBack catalogue graph entry.1 entry.2) := by
  rw [secondPass, entries_toGraph catalogue (nodup_ofGraph catalogue graph), ofGraph, List.map_map]
  rfl

/-- The names of the stored widgets of a class, by position. -/
def storedNames (catalogue : Catalogue) (classType : String) : List String :=
  (((catalogue.widgets? classType).getD []).filter fun widget => !widget.isControl).map Widget.name

theorem mem_storedNames_iff {classType name : String} :
    name ∈ storedNames catalogue classType ↔
      ∃ widgets, catalogue.widgets? classType = some widgets ∧ ⟨name, .stored⟩ ∈ widgets := by
  have stored_iff (widget : Widget) :
      (!widget.isControl) = true ∧ widget.name = name ↔ widget = ⟨name, .stored⟩ := by
    obtain ⟨other, role⟩ := widget
    cases role <;> simp [Widget.isControl]
  simp only [storedNames, List.mem_map, List.mem_filter, and_assoc, stored_iff, exists_eq_right]
  cases catalogue.widgets? classType <;> simp

theorem map_fst_constants_nodeOf (catalogue : Catalogue) (numbered : List NumberedLink) :
    ((nodeOf catalogue numbered id node).constants catalogue).map Prod.fst =
      storedNames catalogue node.classType := by
  simp only [Node.constants, nodeOf, storedNames]
  cases described : catalogue.widgets? node.classType with
  | none => rfl
  | some widgets =>
    rw [Option.getD_some, positional, zip_widgetValues described, List.filterMap_map,
      List.map_filterMap, ← List.filterMap_eq_filter, List.map_filterMap]
    congr 1
    funext widget
    cases stored : widget.isControl <;> simp [stored, Option.guard]

theorem keys_nodeBack (catalogue : Catalogue) (graph : Graph) (id : String)
    (node : Flowgraph.Node) : (nodeBack catalogue graph id node).inputs.keys =
      (storedNames catalogue node.classType ++ ((landings catalogue
        (ofGraph catalogue graph)).filterMap (entryAt id)).map Prod.fst).eraseDups := by
  rw [nodeBack, inputs_compile, Keyed.keys_ofList, List.map_append, List.map_map,
    ← map_fst_constants_nodeOf catalogue graph.numbered]
  rfl

/-- After a pass the inputs of a node are such that a further pass keeps them. -/
theorem steady_nodeBack (catalogue : Catalogue)
    (named : ∀ classType spec, catalogue.specOf? classType = some spec → "" ∉ spec.slots)
    (graph : Graph) (id : String) (node : Flowgraph.Node) :
    Steady catalogue (nodeBack catalogue graph id node) := by
  have distinct := nodup_ofGraph catalogue graph
  refine ⟨?_, ?_, ?_⟩
  · intro name value held
    generalize holding : Input.constant value = input at held
    cases (get?_compile_eq_some_iff distinct).mp held with
    | wired => contradiction
    | constant unwired stored => exact ((stores_nodeOf_iff catalogue _).mp stored).1
  · intro widgets described name member
    rw [keys_nodeBack, List.mem_eraseDups]
    exact List.mem_append_left _ (mem_storedNames_iff.mpr ⟨widgets, described, member⟩)
  · intro slot source position
    have held := Node.mem_links_iff.mp (List.mem_of_getElem? position)
    -- a wire that lands at the empty name lands at a slot that the catalogue gives this name
    obtain ⟨wire, last, -⟩ := holds_wired_iff.mp ((get?_compile_eq_some_iff distinct).mp held)
    obtain ⟨drawn, -, -, names⟩ := last.holds.slot
    generalize empty : "" = name at names
    cases names with
    | declared found filled => exact absurd empty.symm filled
    | catalogued blank listed =>
      obtain ⟨spec, described, listed⟩ := Option.bind_eq_some_iff.mp listed
      exact absurd (List.mem_of_getElem? listed) (empty ▸ named _ spec described)

theorem map_fst_landings_ofGraph (steady : Steady catalogue node)
    (found : graph.get? id = some node) (fits : node.links.length ≤ UInt32.size) :
    ((landings catalogue (ofGraph catalogue graph)).filterMap (entryAt id)).map Prod.fst =
      node.links.map Prod.fst := by
  -- each wired input comes back under its own name, so no name changes place
  have back (item : (String × Source) × Nat) (member : item ∈ node.links.zipIdx) :
      entryBack catalogue node item = some (item.1.1, .wired item.1.2) :=
    entryBack_eq_some_iff.mpr ⟨steady.returnsAt member, rfl⟩
  rw [filterMap_landings_ofGraph catalogue found fits, List.filterMap_congr back,
    List.map_filterMap]
  conv_rhs => rw [← List.zipIdx_map_fst 0 node.links, List.map_map]
  exact congrFun List.filterMap_eq_map _

theorem inputs_of_steady (steady : Steady catalogue node) (found : graph.get? id = some node)
    (fits : node.links.length ≤ UInt32.size) {behind : List String}
    (names : node.inputs.keys = (storedNames catalogue node.classType ++ behind).eraseDups) :
    (nodeBack catalogue graph id node).inputs = node.inputs := by
  -- only stored names may have a constant, so what comes behind them is wired and is put in again
  have wired (name : String) (member : name ∈ node.inputs.keys)
      (other : name ∉ storedNames catalogue node.classType) :
      ((node.inputs.get? name).bind Input.source?).isSome = true := by
    obtain ⟨input, held⟩ := Keyed.exists_of_mem_keys member
    cases input with
    | wired source => rw [held]; rfl
    | constant value =>
      exact absurd (mem_storedNames_iff.mpr (steady.stored name value held)) other
  apply Keyed.eq_of_keys_of_get?
  · rw [keys_nodeBack, map_fst_landings_ofGraph steady found fits, Node.map_fst_links]
    exact Keyed.keys_again names wired
  · exact steady.same (relaid_compile catalogue found fits)

theorem label_of_untyped {outlet : Outlet} (untyped : outlet.slotType = "") :
    outlet.label = outlet.name := by
  unfold Outlet.label
  split
  · next unnamed => rw [untyped, unnamed]
  · rfl

theorem outputs_nodeBack (catalogue : Catalogue) (graph : Graph) (id : String)
    (node : Flowgraph.Node) : (nodeBack catalogue graph id node).outputs =
      (List.range (outletCount graph.numbered id node)).map
        fun slot => (node.outputs[slot]?).getD "" := by
  simp only [nodeBack, Node.compile, nodeOf, List.map_map]
  exact List.map_congr_left fun slot _ => label_of_untyped rfl

theorem outputs_of_read (read : ∀ item ∈ graph.numbered, item.link.source.node = id →
      item.link.source.slot.toNat < node.outputs.length) :
    (nodeBack catalogue graph id node).outputs = node.outputs := by
  -- no slot is read beyond the outputs, so there are as many outlets as outputs
  have count : outletCount graph.numbered id node = node.outputs.length :=
    Nat.le_antisymm (outletCount_le_iff.mpr ⟨Nat.le_refl _, read⟩)
      (outletCount_le_iff.mp (Nat.le_refl _)).1
  rw [outputs_nodeBack, count]
  refine List.ext_getElem (by simp) fun slot _ bound => ?_
  simp [bound]

theorem read_secondPass (node : Flowgraph.Node) {item : NumberedLink}
    (member : item ∈ (secondPass catalogue graph).numbered) :
    item.link.source.slot.toNat < outletCount graph.numbered item.link.source.node node := by
  obtain ⟨owner, found, position⟩ := Graph.getElem?_links_of_mem_numbered member
  have held := Node.mem_links_iff.mp (List.mem_of_getElem? position)
  -- the input was wired by a wire of the canvas, and that by a wired input of the graph
  obtain ⟨wire, last, origin⟩ :=
    (wired_toGraph_iff (nodup_ofGraph catalogue graph)).mp ⟨owner, found, held⟩
  obtain ⟨first, numbered, rfl⟩ := List.mem_map.mp last.mem
  rw [origin]
  exact slot_lt_outletCount numbered rfl

theorem info_nodeBack (catalogue : Catalogue) (graph : Graph) (id : String)
    (node : Flowgraph.Node) : (nodeBack catalogue graph id node).info =
      node.title?.map fun title => { NodeInfo.blank with title := some title } := rfl

theorem title?_nodeBack (catalogue : Catalogue) (graph : Graph) (id : String)
    (node : Flowgraph.Node) : (nodeBack catalogue graph id node).title? = node.title? := by
  rw [Node.title?, info_nodeBack]
  cases node.title? <;> rfl

theorem nodeBack_secondPass (catalogue : Catalogue)
    (named : ∀ classType spec, catalogue.specOf? classType = some spec → "" ∉ spec.slots)
    (found : (secondPass catalogue graph).get? id = some made) :
    nodeBack catalogue (secondPass catalogue graph) id made = made := by
  have fits := length_links_toGraph (nodup_ofGraph catalogue graph) found
  have member := Keyed.get?_eq_some_iff.mp found
  rw [← Graph.entries, entries_secondPass] at member
  obtain ⟨⟨id, node⟩, -, same⟩ := List.mem_map.mp member
  cases same
  apply Flowgraph.Node.eq_of_parts
  case classType => rfl
  case inputs =>
    exact inputs_of_steady (steady_nodeBack catalogue named graph id node) found fits
      (keys_nodeBack catalogue graph id node)
  case outputs =>
    refine outputs_of_read fun item read own => ?_
    have bound := read_secondPass node read
    rw [outputs_nodeBack, List.length_map, List.length_range]
    rwa [own] at bound
  case info => rw [info_nodeBack, title?_nodeBack, info_nodeBack]

/-- A graph that went through the canvas form once comes back from it unchanged. -/
theorem secondPass_idempotent (catalogue : Catalogue)
    (named : ∀ classType spec, catalogue.specOf? classType = some spec → "" ∉ spec.slots)
    (graph : Graph) :
    secondPass catalogue (secondPass catalogue graph) = secondPass catalogue graph := by
  have kept (entry : String × Flowgraph.Node)
      (member : entry ∈ (secondPass catalogue graph).entries) :
      (entry.1, nodeBack catalogue (secondPass catalogue graph) entry.1 entry.2) = entry := by
    rw [nodeBack_secondPass catalogue named (Keyed.get?_eq_some_iff.mpr member)]
  have entries : (secondPass catalogue (secondPass catalogue graph)).entries =
      (secondPass catalogue graph).entries := by
    rw [entries_secondPass, List.map_congr_left kept, List.map_id']
  exact congrArg Graph.mk (Keyed.ext entries)

end

/-- A sampler with a nameless wired input whose slot has the name of another input, a constant
without a widget and a slot read beyond the outputs it names. -/
def tangled : Graph := ⟨.ofList [
  ("7", ⟨"KSampler", .ofList [("model", .wired ⟨"x", 0⟩), ("note", .constant (.string "draft")),
    ("", .wired ⟨"x", 1⟩), ("positive", .wired ⟨"7", 2⟩), ("steps", .constant (.ofWord 20))],
    ["LATENT"], none⟩)]⟩

theorem core_slots_named (classType : String) (spec : ClassSpec)
    (described : Catalogue.core.specOf? classType = some spec) : "" ∉ spec.slots := by
  have all : ∀ entry ∈ Catalogue.core.specs.entries, "" ∉ entry.2.slots := by decide
  exact all (classType, spec) (Keyed.get?_eq_some_iff.mp described)

theorem secondPass_idempotent_tangled :
    secondPass .core tangled ≠ tangled ∧
    (∃ made, (secondPass .core tangled).get? "7" = some made ∧ made.outputs = ["LATENT", "", ""] ∧
      made.inputs.keys = ["seed", "steps", "cfg", "sampler_name", "scheduler", "denoise", "model",
        "positive"]) ∧
    secondPass .core (secondPass .core tangled) = secondPass .core tangled :=
  ⟨by decide, ⟨_, rfl, by decide, by decide⟩, secondPass_idempotent .core core_slots_named tangled⟩

end Canvas

end Flowgraph
