import Flowgraph.Canvas.ToGraph
import Flowgraph.Proofs.Keyed.Latest

/-!
# The inputs of a canvas node

What an input of a node holds, said of the canvas alone: the origin of the last wire that lands
there, or else the value that the widgets of the node store under its name. The ids of the canvas
are taken to be different throughout.

Main result: `get?_compile_eq_some_iff`.
-/
namespace Flowgraph.Canvas

/-- The names of an input slot: the declared name, or else the one that the catalogue has. -/
inductive Names (catalogue : Catalogue) (node : Node) (slot : Nat) : String → Prop
  | declared {inlet : Inlet} (found : node.inlets[slot]? = some inlet) (filled : inlet.name ≠ "") :
      Names catalogue node slot inlet.name
  | catalogued {name : String} (open_ : ∀ inlet, node.inlets[slot]? = some inlet → inlet.name = "")
      (listed : catalogue.slotName? node.classType slot = some name) :
      Names catalogue node slot name

/-- A wire lands at an input of a node. -/
structure Lands (catalogue : Catalogue) (canvas : Canvas) (id name : String) (wire : Wire) :
    Prop where
  target : wire.target = id
  slot : ∃ node ∈ canvas.nodes, node.id = id ∧ Names catalogue node wire.slot.toNat name

/-- The widget values of a node give a name a value. By position, the last stored widget of the name
counts; by name, no control widget may have it. -/
inductive Stores (catalogue : Catalogue) (node : Node) (name : String) : Json → Prop
  | positional {values : List Json} {widgets : List Widget} {widget : Widget} {value : Json}
      (held : node.widgets = some (.array values))
      (described : catalogue.widgets? node.classType = some widgets)
      (last : LastOf (widgets.zip values)
        (fun pair => pair.1.role = .stored ∧ pair.1.name = name) (widget, value)) :
      Stores catalogue node name value
  | named {fields : List (String × Json)} {value : Json}
      (held : node.widgets = some (.object fields))
      (last : LastOf fields (fun field => field.1 = name) (name, value))
      (free : ∀ widgets, catalogue.widgets? node.classType = some widgets →
        ⟨name, .control⟩ ∉ widgets) :
      Stores catalogue node name value

/-- What an input of a node has to hold in the graph. -/
inductive Holds (catalogue : Catalogue) (canvas : Canvas) (node : Node) (name : String) :
    Input → Prop
  | wired {wire : Wire} (last : LastOf canvas.wires (Lands catalogue canvas node.id name) wire) :
      Holds catalogue canvas node name (.wired wire.origin)
  | constant {value : Json}
      (unwired : ∀ wire ∈ canvas.wires, ¬ Lands catalogue canvas node.id name wire)
      (stored : Stores catalogue node name value) :
      Holds catalogue canvas node name (.constant value)

theorem holds_wired_iff {catalogue : Catalogue} {canvas : Canvas} {node : Node} {name : String}
    {source : Source} : Holds catalogue canvas node name (.wired source) ↔
      ∃ wire, LastOf canvas.wires (Lands catalogue canvas node.id name) wire ∧
        source = wire.origin := by
  constructor
  · intro holds
    generalize same : Input.wired source = input at holds
    cases holds with
    | wired last => exact ⟨_, last, Input.wired.inj same⟩
    | constant => contradiction
  · rintro ⟨wire, last, rfl⟩
    exact .wired last

theorem inputName?_eq_some_iff {catalogue : Catalogue} {node : Node} {slot : Nat} {name : String} :
    node.inputName? catalogue slot = some name ↔ Names catalogue node slot name := by
  unfold Node.inputName?
  constructor
  · intro found
    split at found
    · next inlet declared =>
      split at found
      · next blank =>
        refine .catalogued (fun other same => ?_) found
        rw [declared] at same
        exact Option.some.inj same ▸ blank
      · next filled =>
        obtain rfl := Option.some.inj found
        exact .declared declared filled
    · next undeclared =>
      refine .catalogued (fun other same => ?_) found
      rw [undeclared] at same
      contradiction
  · intro names
    cases names with
    | declared found filled => simp [found, filled]
    | catalogued blank listed =>
      cases declared : node.inlets[slot]? with
      | none => exact listed
      | some inlet => simp [blank inlet declared, listed]

section

variable {catalogue : Catalogue} {canvas : Canvas}

theorem node?_eq_some_iff (distinct : (canvas.nodes.map Node.id).Nodup) {id : String}
    {node : Node} : canvas.node? id = some node ↔ node ∈ canvas.nodes ∧ node.id = id := by
  constructor
  · intro found
    exact ⟨List.mem_of_find?_eq_some found, by simpa using List.find?_some found⟩
  · rintro ⟨member, rfl⟩
    unfold node?
    rw [List.find?_eq_some_iff_append]
    obtain ⟨before, after, split⟩ := List.append_of_mem member
    refine ⟨by simp, before, after, split, ?_⟩
    intro other earlier
    -- an earlier node of this id would be a second one
    rw [split, List.map_append, List.map_cons, List.nodup_middle, List.nodup_cons] at distinct
    have different : other.id ≠ node.id := fun equal =>
      distinct.1 (List.mem_append_left _ (equal ▸ List.mem_map_of_mem earlier))
    simpa using different

theorem landing_eq_ok_iff (distinct : (canvas.nodes.map Node.id).Nodup) {wire : Wire}
    {link : Link} : landing catalogue canvas wire = .ok link ↔
      Lands catalogue canvas link.consumer link.input wire ∧ link.source = wire.origin := by
  unfold landing
  constructor
  · intro lands
    split at lands
    · contradiction
    · next node found =>
      split at lands
      · contradiction
      · next name named =>
        obtain rfl := Except.ok.inj lands
        obtain ⟨member, same⟩ := (node?_eq_some_iff distinct).mp found
        exact ⟨⟨rfl, node, member, same, inputName?_eq_some_iff.mp named⟩, rfl⟩
  · rintro ⟨⟨target, node, member, same, names⟩, source⟩
    have found : canvas.node? wire.target = some node :=
      (node?_eq_some_iff distinct).mpr ⟨member, same.trans target.symm⟩
    have named := inputName?_eq_some_iff.mpr names
    rw [found]
    simp only [named]
    rw [target, ← source]

/-- The entry that a link makes among the inputs of a node. -/
def entryAt (id : String) (link : Link) : Option (String × Input) :=
  if link.consumer = id then some (link.input, .wired link.source) else none

/-- The inputs of a node are its constants and then its links, put in one after the other. -/
theorem inputs_compile (links : List Link) (node : Node) :
    (node.compile catalogue links).inputs = Keyed.ofList
      ((node.constants catalogue).map (fun (name, value) => (name, Input.constant value)) ++
        links.filterMap (entryAt node.id)) := by
  -- the links of other nodes make no entry, so passing over them is not putting anything in
  have overlaid (inputs : Keyed Input) : overlayLinks node.id links inputs =
      (links.filterMap (entryAt node.id)).foldl
        (fun inputs entry => inputs.insert entry.1 entry.2) inputs := by
    rw [List.foldl_filterMap, overlayLinks]
    congr 1
    funext inputs link
    unfold entryAt
    split <;> rfl
  simp only [Node.compile]
  rw [overlaid, constantInputs, Keyed.ofList, Keyed.ofList, List.foldl_append]

theorem get?_compile (links : List Link) (node : Node) (name : String) :
    (node.compile catalogue links).inputs.get? name =
      (Entries.find? name (links.filterMap (entryAt node.id)).reverse).or
        ((Entries.find? name (node.constants catalogue).reverse).map Input.constant) := by
  rw [inputs_compile, Keyed.get?_ofList, List.reverse_append, Entries.find?_append,
    ← List.map_reverse, Entries.find?_map]

theorem toOption_landing_eq_some_iff (distinct : (canvas.nodes.map Node.id).Nodup) {wire : Wire}
    {link : Link} : (landing catalogue canvas wire).toOption = some link ↔
      Lands catalogue canvas link.consumer link.input wire ∧ link.source = wire.origin := by
  rw [← landing_eq_ok_iff distinct]
  cases landing catalogue canvas wire <;> simp [Except.toOption]

theorem find?_landings_eq_some_iff (distinct : (canvas.nodes.map Node.id).Nodup)
    {id name : String} {input : Input} :
    Entries.find? name ((landings catalogue canvas).filterMap (entryAt id)).reverse = some input ↔
      ∃ wire, LastOf canvas.wires (Lands catalogue canvas id name) wire ∧
        input = .wired wire.origin := by
  have entry_iff (wire : Wire) (input : Input) :
      (landing catalogue canvas wire).toOption.bind (entryAt id) = some (name, input) ↔
        Lands catalogue canvas id name wire ∧ input = .wired wire.origin := by
    simp only [Option.bind_eq_some_iff, toOption_landing_eq_some_iff distinct]
    constructor
    · rintro ⟨link, ⟨lands, source⟩, entry⟩
      unfold entryAt at entry
      split at entry
      · next consumer =>
        obtain ⟨rfl, rfl⟩ := Prod.mk.inj (Option.some.inj entry)
        exact ⟨consumer ▸ lands, congrArg Input.wired source⟩
      · contradiction
    · rintro ⟨lands, rfl⟩
      exact ⟨⟨id, name, wire.origin⟩, ⟨lands, rfl⟩, by simp [entryAt]⟩
  rw [landings, List.filterMap_filterMap, Entries.find?_reverse_filterMap_iff]
  simp only [entry_iff, exists_and_left, exists_eq, and_true]
  constructor
  · rintro ⟨wire, last, -, rfl⟩
    exact ⟨wire, last, rfl⟩
  · rintro ⟨wire, last, rfl⟩
    exact ⟨wire, last, last.holds, rfl⟩

theorem isControl_eq_false_iff {widget : Widget} :
    widget.isControl = false ↔ widget.role = .stored := by
  obtain ⟨name, role⟩ := widget
  cases role <;> simp [Widget.isControl]

theorem find?_positional_eq_some_iff {widgets : List Widget} {values : List Json} {name : String}
    {value : Json} : Entries.find? name (positional widgets values).reverse = some value ↔
      ∃ widget, LastOf (widgets.zip values)
        (fun pair => pair.1.role = .stored ∧ pair.1.name = name) (widget, value) := by
  have entry_iff (pair : Widget × Json) (value : Json) :
      (if pair.1.isControl then none else some (pair.1.name, pair.2)) = some (name, value) ↔
        (pair.1.role = .stored ∧ pair.1.name = name) ∧ pair.2 = value := by
    rw [← isControl_eq_false_iff]
    cases pair.1.isControl <;> simp
  rw [positional, Entries.find?_reverse_filterMap_iff]
  simp only [entry_iff, exists_and_left, exists_eq', and_true]
  constructor
  · rintro ⟨⟨widget, kept⟩, last, -, rfl⟩
    exact ⟨widget, last⟩
  · rintro ⟨widget, last⟩
    exact ⟨(widget, value), last, last.holds, rfl⟩

theorem find?_filter_eq_some_iff {p : String → Bool} {fields : List (String × Json)} {name : String}
    {value : Json} :
    Entries.find? name (fields.filter fun field => p field.1).reverse = some value ↔
      p name = true ∧ LastOf fields (fun field => field.1 = name) (name, value) := by
  have entry_iff (field : String × Json) (value : Json) :
      Option.guard (fun field => p field.1) field = some (name, value) ↔
        (field.1 = name ∧ p name = true) ∧ field.2 = value := by
    obtain ⟨other, kept⟩ := field
    simp only [Option.guard_eq_some_iff, Prod.mk.injEq]
    constructor
    · rintro ⟨⟨rfl, rfl⟩, passes⟩
      exact ⟨⟨rfl, passes⟩, rfl⟩
    · rintro ⟨⟨rfl, passes⟩, rfl⟩
      exact ⟨⟨rfl, rfl⟩, passes⟩
  rw [← List.filterMap_eq_filter, Entries.find?_reverse_filterMap_iff]
  simp only [entry_iff, exists_and_left, exists_eq', and_true]
  -- the filter asks for the name alone, so of one name it keeps all fields or none
  constructor
  · rintro ⟨⟨other, kept⟩, last, ⟨rfl, passes⟩, rfl⟩
    refine ⟨passes, (LastOf.congr fun field _ => ?_).mp last⟩
    exact and_iff_left passes
  · rintro ⟨passes, last⟩
    refine ⟨(name, value), (LastOf.congr fun field _ => ?_).mpr last, ⟨rfl, passes⟩, rfl⟩
    exact and_iff_left passes

theorem find?_constants_eq_some_iff {node : Node} {name : String} {value : Json} :
    Entries.find? name (node.constants catalogue).reverse = some value ↔
      Stores catalogue node name value := by
  unfold Node.constants
  dsimp only
  split
  · next values held =>
    rw [find?_positional_eq_some_iff]
    constructor
    · rintro ⟨widget, last⟩
      cases described : catalogue.widgets? node.classType with
      | none =>
        have member := last.mem
        simp [described] at member
      | some widgets =>
        rw [described] at last
        exact .positional held described last
    · intro stores
      cases stores with
      | positional held' described last =>
        cases held.symm.trans held'
        rw [described]
        exact ⟨_, last⟩
      | named held' => cases held.symm.trans held'
  · next fields held =>
    have free_iff (name : String) :
        (!((catalogue.widgets? node.classType).getD []).any fun widget =>
          widget.name == name && widget.isControl) = true ↔
        ∀ widgets, catalogue.widgets? node.classType = some widgets →
          ⟨name, .control⟩ ∉ widgets := by
      have control_iff (widget : Widget) :
          (widget.name == name && widget.isControl) = true ↔ widget = ⟨name, .control⟩ := by
        obtain ⟨other, role⟩ := widget
        cases role <;> simp [Widget.isControl]
      cases catalogue.widgets? node.classType <;> simp [control_iff, List.forall_mem_ne']
    rw [find?_filter_eq_some_iff
      (p := fun name => !((catalogue.widgets? node.classType).getD []).any fun widget =>
        widget.name == name && widget.isControl), free_iff]
    constructor
    · rintro ⟨free, last⟩
      exact .named held last free
    · intro stores
      cases stores with
      | positional held' => cases held.symm.trans held'
      | named held' last free =>
        cases held.symm.trans held'
        exact ⟨free, last⟩
  · next no_array no_object =>
    constructor
    · intro found
      contradiction
    · intro stores
      cases stores with
      | positional held => exact absurd held (no_array _)
      | named held => exact absurd held (no_object _)

theorem get?_compile_eq_some_iff (distinct : (canvas.nodes.map Node.id).Nodup) {node : Node}
    {name : String} {input : Input} :
    (node.compile catalogue (landings catalogue canvas)).inputs.get? name = some input ↔
      Holds catalogue canvas node name input := by
  rw [get?_compile, Option.or_eq_some_iff, find?_landings_eq_some_iff distinct,
    Option.map_eq_some_iff]
  simp only [find?_constants_eq_some_iff]
  have unwired_iff : Entries.find? name
      ((landings catalogue canvas).filterMap (entryAt node.id)).reverse = none ↔
        ∀ wire ∈ canvas.wires, ¬ Lands catalogue canvas node.id name wire := by
    simp only [Option.eq_none_iff_forall_ne_some, ne_eq, find?_landings_eq_some_iff distinct]
    constructor
    · intro none wire member lands
      obtain ⟨last, is⟩ := LastOf.exists_iff.mpr ⟨wire, member, lands⟩
      exact none _ ⟨last, is, rfl⟩
    · rintro unwired input ⟨wire, last, -⟩
      exact unwired wire last.mem last.holds
  rw [unwired_iff]
  constructor
  · rintro (⟨wire, last, rfl⟩ | ⟨unwired, value, stored, rfl⟩)
    · exact .wired last
    · exact .constant unwired stored
  · intro holds
    cases holds with
    | wired last => exact .inl ⟨_, last, rfl⟩
    | constant unwired stored => exact .inr ⟨unwired, _, stored, rfl⟩

end

end Flowgraph.Canvas
