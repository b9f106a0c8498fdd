import Flowgraph.Canvas.OfGraph
import Flowgraph.Catalogue.Core
import Flowgraph.Proofs.Canvas.Inputs
import Flowgraph.Proofs.Canvas.ReadBack
import Flowgraph.Proofs.Canvas.ToGraph
import Flowgraph.Proofs.Links
import Flowgraph.Workflow

/-!
# From graph to canvas and back

Every wired input of a graph gets a wire of its own, and the inlet at the wire's slot has the name
of the input. So the wires all land, each where it came from. Of the constants those come back that
the catalogue has a stored widget for; where such a widget has no input it comes back as null.

Main result: `convert_ofGraph`.
-/
namespace Flowgraph

namespace Graph

variable {graph : Graph}

theorem map_slot_numbered (graph : Graph) :
    graph.numbered.map (fun item => (item.link, item.slot)) =
      graph.entries.flatMap fun entry => slotted entry.1 entry.2 := by
  -- numbers are put on by position, so dropping them gives the list back
  rw [numbered, List.map_map]
  exact List.zipIdx_map_fst 1 _

theorem map_link_numbered (graph : Graph) : graph.numbered.map NumberedLink.link = graph.links := by
  have node_links (id : String) (node : Node) :
      (slotted id node).map Prod.fst = node.links.map fun link => ⟨id, link.1, link.2⟩ := by
    rw [slotted, List.map_map]
    conv_rhs => rw [← List.zipIdx_map_fst 0 node.links, List.map_map]
    rfl
  have all := congrArg (List.map Prod.fst) (map_slot_numbered graph)
  rw [List.map_map, List.map_flatMap] at all
  simp only [node_links] at all
  exact all

theorem numbered_filter_consumer {id : String} {node : Node} (found : graph.get? id = some node) :
    (graph.numbered.filter fun item => item.link.consumer = id).map
      (fun item => (item.link, item.slot)) = slotted id node := by
  have own := filter_flatMap_entries slotted (fun item => item.1.consumer) (fun id node => ?_) found
  · rw [← map_slot_numbered, List.filter_map] at own
    exact own
  · intro item inside
    obtain ⟨⟨link, slot⟩, -, rfl⟩ := List.mem_map.mp inside
    rfl

theorem getElem?_links_of_mem_numbered {item : NumberedLink} (member : item ∈ graph.numbered) :
    ∃ node, graph.get? item.link.consumer = some node ∧
      node.links[item.slot]? = some (item.link.input, item.link.source) := by
  obtain ⟨⟨⟨link, slot⟩, number⟩, listed, rfl⟩ := List.mem_map.mp member
  have slotted := List.mem_map_of_mem (f := Prod.fst) listed
  rw [List.zipIdx_map_fst] at slotted
  obtain ⟨⟨id, node⟩, entry, inside⟩ := List.mem_flatMap.mp slotted
  obtain ⟨⟨⟨input, source⟩, position⟩, numbered, same⟩ := List.mem_map.mp inside
  cases same
  exact ⟨node, Keyed.get?_eq_some_iff.mpr entry, List.mk_mem_zipIdx_iff_getElem?.mp numbered⟩

end Graph

namespace Canvas

/-- What comes back of a node's inputs: all that are wired, and under the name of every stored
widget the node's constant, or null where the node has no input of that name. -/
structure Returned (catalogue : Catalogue) (node made : Flowgraph.Node) : Prop where
  wired : ∀ name source, made.inputs.get? name = some (.wired source) ↔
    node.inputs.get? name = some (.wired source)
  constant : ∀ name value, made.inputs.get? name = some (.constant value) ↔
    (∃ widgets, catalogue.widgets? node.classType = some widgets ∧ ⟨name, .stored⟩ ∈ widgets) ∧
    (node.inputs.get? name = some (.constant value) ∨
      node.inputs.get? name = none ∧ value = .null)

section

variable {catalogue : Catalogue} {graph : Graph} {id : String} {node : Flowgraph.Node}

theorem ids_ofGraph (catalogue : Catalogue) (graph : Graph) :
    (ofGraph catalogue graph).nodes.map Node.id = graph.ids := by
  simp only [ofGraph, List.map_map]
  rfl

theorem nodup_ofGraph (catalogue : Catalogue) (graph : Graph) :
    ((ofGraph catalogue graph).nodes.map Node.id).Nodup := by
  rw [ids_ofGraph]
  exact graph.nodes.distinct

theorem nodeOf_mem (catalogue : Catalogue) (found : graph.get? id = some node) :
    nodeOf catalogue graph.numbered id node ∈ (ofGraph catalogue graph).nodes :=
  List.mem_map.mpr ⟨(id, node), Keyed.get?_eq_some_iff.mp found, rfl⟩

theorem map_name_inlets (catalogue : Catalogue) (found : graph.get? id = some node) :
    (nodeOf catalogue graph.numbered id node).inlets.map Inlet.name = node.links.map Prod.fst := by
  have own := Graph.links_filter_consumer found
  rw [← Graph.map_link_numbered, List.filter_map] at own
  have names := congrArg (List.map Link.input) own
  rw [List.map_map, List.map_map] at names
  simp only [nodeOf, List.map_map]
  exact names

theorem exists_inlet (catalogue : Catalogue) (found : graph.get? id = some node) {slot : Nat}
    {link : String × Source} (position : node.links[slot]? = some link) : ∃ inlet,
      (nodeOf catalogue graph.numbered id node).inlets[slot]? = some inlet ∧
      inlet.name = link.1 := by
  have names := congrArg (fun names => names[slot]?) (map_name_inlets catalogue found)
  simp only [List.getElem?_map, position, Option.map_some, Option.map_eq_some_iff] at names
  exact names

/-- The input at which a wired input of a node comes back: its own, or for an empty name the one
that the catalogue has at its slot among the wired inputs. -/
def returnsAt? (catalogue : Catalogue) (node : Flowgraph.Node) (item : (String × Source) × Nat) :
    Option String :=
  if item.1.1 = "" then catalogue.slotName? node.classType item.2 else some item.1.1

/-- A wired input of a node comes back at an input. -/
def ReturnsAt (catalogue : Catalogue) (node : Flowgraph.Node) (name : String)
    (item : (String × Source) × Nat) : Prop :=
  returnsAt? catalogue node item = some name

/-- The entry that a wired input of a node makes when it comes back. -/
def entryBack (catalogue : Catalogue) (node : Flowgraph.Node) (item : (String × Source) × Nat) :
    Option (String × Input) :=
  (returnsAt? catalogue node item).map fun name => (name, .wired item.1.2)

/-- What comes back of a node's inputs, also of one with an empty name. Where the catalogue has
another name for that one, of two wired inputs the later stays, and a constant gives way. -/
structure Relaid (catalogue : Catalogue) (node made : Flowgraph.Node) : Prop where
  wired : ∀ name source, made.inputs.get? name = some (.wired source) ↔
    ∃ item, LastOf node.links.zipIdx (ReturnsAt catalogue node name) item ∧ source = item.1.2
  constant : ∀ name value, made.inputs.get? name = some (.constant value) ↔
    (∀ item ∈ node.links.zipIdx, ¬ ReturnsAt catalogue node name item) ∧
    (∃ widgets, catalogue.widgets? node.classType = some widgets ∧ ⟨name, .stored⟩ ∈ widgets) ∧
    value = (node.constant? name).getD .null

theorem inputName?_nodeOf (catalogue : Catalogue) (found : graph.get? id = some node) {slot : Nat}
    {link : String × Source} (position : node.links[slot]? = some link) :
    (nodeOf catalogue graph.numbered id node).inputName? catalogue slot =
      returnsAt? catalogue node (link, slot) := by
  obtain ⟨inlet, listed, name⟩ := exists_inlet catalogue found position
  simp only [Node.inputName?, listed, name, returnsAt?]
  rfl

theorem landing_wireOf (catalogue : Catalogue) (found : graph.get? id = some node)
    (fits : node.links.length ≤ UInt32.size) {item : NumberedLink} (member : item ∈ graph.numbered)
    (own : item.link.consumer = id) :
    (landing catalogue (ofGraph catalogue graph) (wireOf item)).toOption =
      (returnsAt? catalogue node ((item.link.input, item.link.source), item.slot)).map
        fun name => ⟨id, name, item.link.source⟩ := by
  obtain ⟨owner, owned, position⟩ := Graph.getElem?_links_of_mem_numbered member
  obtain rfl := Option.some.inj ((own ▸ owned).symm.trans found)
  have at_node : (ofGraph catalogue graph).node? id =
      some (nodeOf catalogue graph.numbered id owner) :=
    (node?_eq_some_iff (nodup_ofGraph catalogue graph)).mpr ⟨nodeOf_mem catalogue found, rfl⟩
  have target : (wireOf item).target = id := own
  obtain ⟨inside, -⟩ := List.getElem?_eq_some_iff.mp position
  have counted : (wireOf item).slot.toNat = item.slot :=
    (UInt32.toNat_ofNat').trans (Nat.mod_eq_of_lt (Nat.lt_of_lt_of_le inside fits))
  have named := inputName?_nodeOf catalogue found position
  simp only [landing, target, at_node, counted, named]
  cases returnsAt? catalogue owner ((item.link.input, item.link.source), item.slot) <;> rfl

theorem filterMap_landings_ofGraph (catalogue : Catalogue) (found : graph.get? id = some node)
    (fits : node.links.length ≤ UInt32.size) :
    (landings catalogue (ofGraph catalogue graph)).filterMap (entryAt id) =
      node.links.zipIdx.filterMap (entryBack catalogue node) := by
  have landed (item : NumberedLink) (member : item ∈ graph.numbered) :
      (landing catalogue (ofGraph catalogue graph) (wireOf item)).toOption.bind (entryAt id) =
        if item.link.consumer = id then
          entryBack catalogue node ((item.link.input, item.link.source), item.slot)
        else none := by
    split
    · next own =>
      rw [landing_wireOf catalogue found fits member own, Option.bind_map]
      simp only [entryBack, Function.comp_def, entryAt, ↓reduceIte, Option.map_eq_bind]
    · next foreign =>
      -- a wire that lands, lands at its own target
      refine Option.bind_eq_none_iff.mpr fun link taken => if_neg ?_
      have lands := ((toOption_landing_eq_some_iff (nodup_ofGraph catalogue graph)).mp taken).1
      exact fun same => foreign (lands.target.trans same)
  calc (landings catalogue (ofGraph catalogue graph)).filterMap (entryAt id)
      = graph.numbered.filterMap fun item =>
          (landing catalogue (ofGraph catalogue graph) (wireOf item)).toOption.bind
            (entryAt id) := by
        rw [landings, List.filterMap_filterMap]
        exact List.filterMap_map
    _ = (graph.numbered.filter fun item => item.link.consumer = id).filterMap
          fun item => entryBack catalogue node
            ((item.link.input, item.link.source), item.slot) := by
        rw [List.filterMap_congr landed, List.filterMap_filter]
        simp only [decide_eq_true_eq]
    _ = (Graph.slotted id node).filterMap
          fun item => entryBack catalogue node ((item.1.input, item.1.source), item.2) := by
        rw [← Graph.numbered_filter_consumer found, List.filterMap_map]
        rfl
    _ = _ := by
        rw [Graph.slotted, List.filterMap_map]
        rfl

/-- Every wire of the canvas lands. Slots are words of 32 bits, so a node with more wired inputs
than that counts its slots from zero again. -/
theorem dropped_ofGraph (catalogue : Catalogue)
    (named : ∀ id node, graph.get? id = some node → "" ∉ node.inputs.keys) :
    dropped catalogue (ofGraph catalogue graph) = [] := by
  refine (dropped_eq_nil_iff (nodup_ofGraph catalogue graph)).mpr fun wire member => ?_
  obtain ⟨item, listed, rfl⟩ := List.mem_map.mp member
  obtain ⟨node, found, position⟩ := Graph.getElem?_links_of_mem_numbered listed
  have counted : (wireOf item).slot.toNat = item.slot % UInt32.size := UInt32.toNat_ofNat'
  obtain ⟨inside, -⟩ := List.getElem?_eq_some_iff.mp position
  have earlier : item.slot % UInt32.size < node.links.length :=
    Nat.lt_of_le_of_lt (Nat.mod_le _ _) inside
  obtain ⟨link, there⟩ : ∃ link, node.links[item.slot % UInt32.size]? = some link :=
    ⟨_, List.getElem?_eq_getElem earlier⟩
  obtain ⟨inlet, listed, name⟩ := exists_inlet catalogue found there
  -- the inlet at the slot has the name of a wired input, which is not empty
  have filled : inlet.name ≠ "" := by
    intro empty
    have input := node.links_names_sublist.subset
      (List.mem_map_of_mem (List.mem_of_getElem? there))
    rw [← name, empty] at input
    exact named _ node found input
  refine ⟨item.link.consumer, inlet.name, rfl, _, nodeOf_mem catalogue found, rfl, ?_⟩
  rw [counted]
  exact .declared listed filled

theorem zip_widgetValues {widgets : List Widget}
    (described : catalogue.widgets? node.classType = some widgets) :
    widgets.zip (widgetValues catalogue node) = widgets.map fun widget =>
      (widget, if widget.isControl then .null else (node.constant? widget.name).getD .null) := by
  rw [List.map_prod_left_eq_zip, widgetValues, described]
  dsimp only
  -- the values behind those of the widgets have no widget of their own
  generalize (node.constants.filter _).map Prod.snd = behind
  generalize values : widgets.map _ = front
  have split : (widgets ++ []).zip (front ++ behind) = widgets.zip front ++ [].zip behind :=
    List.zip_append (values ▸ (List.length_map _).symm)
  rwa [List.append_nil, List.zip_nil_left, List.append_nil] at split

theorem mem_zip_widgetValues_iff {widgets : List Widget}
    (described : catalogue.widgets? node.classType = some widgets) {widget : Widget}
    {value : Json} : (widget, value) ∈ widgets.zip (widgetValues catalogue node) ↔
      widget ∈ widgets ∧
        value = if widget.isControl then .null else (node.constant? widget.name).getD .null := by
  rw [zip_widgetValues described, List.mem_map]
  constructor
  · rintro ⟨widget, member, same⟩
    cases same
    exact ⟨member, rfl⟩
  · rintro ⟨member, rfl⟩
    exact ⟨widget, member, rfl⟩

theorem stores_nodeOf_iff (catalogue : Catalogue) (links : List NumberedLink) {name : String}
    {value : Json} : Stores catalogue (nodeOf catalogue links id node) name value ↔
      (∃ widgets, catalogue.widgets? node.classType = some widgets ∧ ⟨name, .stored⟩ ∈ widgets) ∧
      value = (node.constant? name).getD .null := by
  have named_iff (widget : Widget) :
      widget.role = .stored ∧ widget.name = name ↔ widget = ⟨name, .stored⟩ := by
    obtain ⟨other, role⟩ := widget
    rw [Widget.mk.injEq, and_comm]
  constructor
  · intro stores
    cases stores with
    | positional values described last =>
      cases values
      obtain ⟨member, same⟩ := (mem_zip_widgetValues_iff described).mp last.mem
      obtain rfl := (named_iff _).mp last.holds
      exact ⟨⟨_, described, member⟩, same⟩
    | named fields => cases fields
  · rintro ⟨⟨widgets, described, member⟩, rfl⟩
    have paired := (mem_zip_widgetValues_iff described).mpr ⟨member, rfl⟩
    have there : ∃ pair ∈ widgets.zip (widgetValues catalogue node),
        pair.1.role = .stored ∧ pair.1.name = name := ⟨_, paired, rfl, rfl⟩
    -- widgets of one name have one value, so the last of them has it too
    obtain ⟨⟨widget, value⟩, last⟩ := LastOf.exists_iff.mpr there
    obtain ⟨-, rfl⟩ := (mem_zip_widgetValues_iff described).mp last.mem
    obtain rfl := (named_iff widget).mp last.holds
    exact .positional rfl described last

theorem entryBack_eq_some_iff {item : (String × Source) × Nat} {name : String} {input : Input} :
    entryBack catalogue node item = some (name, input) ↔
      ReturnsAt catalogue node name item ∧ input = .wired item.1.2 := by
  simp only [ReturnsAt, entryBack, Option.map_eq_some_iff, Prod.mk.injEq]
  constructor
  · rintro ⟨_, returns, rfl, rfl⟩
    exact ⟨returns, rfl⟩
  · rintro ⟨returns, rfl⟩
    exact ⟨name, returns, rfl, rfl⟩

theorem find?_entryBack_eq_some_iff {name : String} {input : Input} :
    Entries.find? name (node.links.zipIdx.filterMap (entryBack catalogue node)).reverse =
      some input ↔ ∃ item, LastOf node.links.zipIdx (ReturnsAt catalogue node name) item ∧
        input = .wired item.1.2 := by
  rw [Entries.find?_reverse_filterMap_iff]
  simp only [entryBack_eq_some_iff, exists_and_left, exists_eq, and_true]
  constructor
  · rintro ⟨item, last, -, rfl⟩
    exact ⟨item, last, rfl⟩
  · rintro ⟨item, last, rfl⟩
    exact ⟨item, last, last.holds, rfl⟩

theorem find?_entryBack_eq_none_iff {name : String} :
    Entries.find? name (node.links.zipIdx.filterMap (entryBack catalogue node)).reverse = none ↔
      ∀ item ∈ node.links.zipIdx, ¬ ReturnsAt catalogue node name item := by
  simp only [Option.eq_none_iff_forall_ne_some, ne_eq, find?_entryBack_eq_some_iff]
  constructor
  · intro none item member returns
    obtain ⟨last, is⟩ := LastOf.exists_iff.mpr ⟨item, member, returns⟩
    exact none _ ⟨last, is, rfl⟩
  · rintro none input ⟨item, last, -⟩
    exact none item last.mem last.holds

theorem relaid_compile (catalogue : Catalogue) (found : graph.get? id = some node)
    (fits : node.links.length ≤ UInt32.size) :
    Relaid catalogue node ((nodeOf catalogue graph.numbered id node).compile catalogue
      (landings catalogue (ofGraph catalogue graph))) := by
  have input (name : String) : ((nodeOf catalogue graph.numbered id node).compile catalogue
      (landings catalogue (ofGraph catalogue graph))).inputs.get? name =
        (Entries.find? name (node.links.zipIdx.filterMap (entryBack catalogue node)).reverse).or
          ((Entries.find? name ((nodeOf catalogue graph.numbered id node).constants
            catalogue).reverse).map Input.constant) := by
    rw [get?_compile, ← filterMap_landings_ofGraph catalogue found fits]
    rfl
  constructor
  · intro name source
    rw [input, Option.or_eq_some_iff, find?_entryBack_eq_some_iff]
    constructor
    · rintro (⟨item, last, same⟩ | ⟨-, other⟩)
      · exact ⟨item, last, Input.wired.inj same⟩
      · obtain ⟨value, -, same⟩ := Option.map_eq_some_iff.mp other
        contradiction
    · rintro ⟨item, last, rfl⟩
      exact .inl ⟨item, last, rfl⟩
  · intro name value
    rw [input, Option.or_eq_some_iff, find?_entryBack_eq_some_iff, find?_entryBack_eq_none_iff,
      Option.map_eq_some_iff, ← stores_nodeOf_iff]
    simp only [find?_constants_eq_some_iff]
    constructor
    · rintro (⟨item, -, same⟩ | ⟨unwired, kept, stored, same⟩)
      · contradiction
      · obtain rfl := Input.constant.inj same
        exact ⟨unwired, stored⟩
    · rintro ⟨unwired, stored⟩
      exact .inr ⟨unwired, value, stored, rfl⟩

theorem Relaid.returned {made : Flowgraph.Node} (relaid : Relaid catalogue node made)
    (own : ∀ item ∈ node.links.zipIdx, ReturnsAt catalogue node item.1.1 item) :
    Returned catalogue node made := by
  have wired_iff (name : String) (source : Source) :
      (∃ item ∈ node.links.zipIdx, ReturnsAt catalogue node name item ∧ item.1.2 = source) ↔
        node.inputs.get? name = some (.wired source) := by
    rw [← Node.mem_links_iff]
    constructor
    · rintro ⟨⟨⟨input, source⟩, slot⟩, member, returns, rfl⟩
      obtain rfl := Option.some.inj ((own _ member).symm.trans returns)
      exact List.fst_mem_of_mem_zipIdx member
    · intro link
      obtain ⟨slot, position⟩ := List.getElem?_of_mem link
      have member := List.mk_mem_zipIdx_iff_getElem?.mpr position
      exact ⟨_, member, own _ member, rfl⟩
  constructor
  · intro name source
    rw [relaid.wired]
    constructor
    · rintro ⟨item, last, rfl⟩
      exact (wired_iff _ _).mp ⟨item, last.mem, last.holds, rfl⟩
    · intro wired
      obtain ⟨item, member, returns, -⟩ := (wired_iff _ _).mpr wired
      -- every wired input that comes back here is the one of this name
      obtain ⟨last, is⟩ := LastOf.exists_iff.mpr ⟨item, member, returns⟩
      have again := (wired_iff _ _).mp ⟨last, is.mem, is.holds, rfl⟩
      rw [wired] at again
      exact ⟨last, is, Input.wired.inj (Option.some.inj again)⟩
  · intro name value
    have unwired_iff : (∀ item ∈ node.links.zipIdx, ¬ ReturnsAt catalogue node name item) ↔
        ∀ source, node.inputs.get? name ≠ some (.wired source) := by
      simp only [ne_eq, ← wired_iff, not_exists, not_and]
      exact ⟨fun unwired source item member returns => absurd returns (unwired item member),
        fun unwired item member returns => unwired item.1.2 item member returns rfl⟩
    rw [relaid.constant, unwired_iff]
    cases held : node.inputs.get? name with
    | none => simp [Node.constant?, held]
    | some input => cases input <;> simp [Node.constant?, held, Input.constant?, eq_comm]

theorem returnsAt_of_ne {item : (String × Source) × Nat} (filled : item.1.1 ≠ "") :
    ReturnsAt catalogue node item.1.1 item := if_neg filled

theorem Relaid.returned_of_named {made : Flowgraph.Node} (relaid : Relaid catalogue node made)
    (named : ∀ source, node.inputs.get? "" ≠ some (.wired source)) :
    Returned catalogue node made := by
  refine relaid.returned fun item member => returnsAt_of_ne fun empty => ?_
  have link : ("", item.1.2) ∈ node.links := empty ▸ List.fst_mem_of_mem_zipIdx member
  exact named item.1.2 (Node.mem_links_iff.mp link)

theorem returned_compile (catalogue : Catalogue)
    (named : ∀ id node, graph.get? id = some node → "" ∉ node.inputs.keys)
    (found : graph.get? id = some node) (fits : node.links.length ≤ UInt32.size) :
    Returned catalogue node ((nodeOf catalogue graph.numbered id node).compile catalogue
      (landings catalogue (ofGraph catalogue graph))) :=
  (relaid_compile catalogue found fits).returned_of_named fun _ held =>
    named id node found (Keyed.mem_keys_of_get? held)

/-- A graph that is written as a canvas document converts back without loss of a wire. What comes
back of the inputs is said of nodes whose wired inputs can be counted by slots of 32 bits. -/
theorem convert_ofGraph (catalogue : Catalogue) {graph : Graph}
    (named : ∀ id node, graph.get? id = some node → "" ∉ node.inputs.keys) :
    ∃ after, Document.convert catalogue (ofGraph catalogue graph).toJson = .ok (after, []) ∧
      after.ids = graph.ids ∧
      ∀ id node, graph.get? id = some node → ∃ made, after.get? id = some made ∧
        made.classType = node.classType ∧
        (node.links.length ≤ UInt32.size → Returned catalogue node made) := by
  have distinct := nodup_ofGraph catalogue graph
  have set : ∀ node ∈ (ofGraph catalogue graph).nodes, node.widgets ≠ some .null := by
    intro node member
    obtain ⟨entry, -, rfl⟩ := List.mem_map.mp member
    exact nofun
  refine ⟨((ofGraph catalogue graph).toGraph catalogue).1, ?_, ?_, ?_⟩
  · rw [Document.convert, form_toJson, ofJson_toJson distinct set]
    change Except.ok (_, dropped catalogue (ofGraph catalogue graph)) = _
    rw [dropped_ofGraph catalogue named]
    rfl
  · rw [ids_toGraph distinct, ids_ofGraph]
  · intro id node found
    refine ⟨_, (get?_toGraph distinct).mpr ⟨_, nodeOf_mem catalogue found, rfl, rfl⟩, rfl, ?_⟩
    exact returned_compile catalogue named found

end

/-- A sampler with a wired widget, a widget without an input and an input without a widget. -/
def sampled : Graph := ⟨.ofList [
  ("7", ⟨"KSampler", .ofList [("seed", .wired ⟨"x", 3⟩), ("model", .wired ⟨"gone", 0⟩),
    ("steps", .constant (.ofWord 20)), ("note", .constant (.string "draft"))], [], none⟩),
  ("x", ⟨"Dice", .ofList [("sides", .constant (.ofWord 6))], [], none⟩)]⟩

theorem convert_ofGraph_sampled : ∃ after,
    Document.convert .core (ofGraph .core sampled).toJson = .ok (after, []) ∧
    after.ids = ["7", "x"] ∧
    ∃ sampler dice, after.get? "7" = some sampler ∧ after.get? "x" = some dice ∧
      sampler.inputs.get? "seed" = some (.wired ⟨"x", 3⟩) ∧
      sampler.inputs.get? "model" = some (.wired ⟨"gone", 0⟩) ∧
      sampler.inputs.get? "steps" = some (.constant (.ofWord 20)) ∧
      sampler.inputs.get? "cfg" = some (.constant .null) ∧
      (∀ value, sampler.inputs.get? "note" ≠ some (.constant value)) ∧
      (∀ value, dice.inputs.get? "sides" ≠ some (.constant value)) := by
  have named : ∀ id node, sampled.get? id = some node → "" ∉ node.inputs.keys := by
    intro id node found
    have all : ∀ entry ∈ sampled.entries, "" ∉ entry.2.inputs.keys := by decide
    exact all (id, node) (Keyed.get?_eq_some_iff.mp found)
  obtain ⟨after, converted, ids, nodes⟩ := convert_ofGraph .core named
  obtain ⟨sampler, found, -, back⟩ := nodes "7" _ rfl
  obtain ⟨dice, there, -, unknown⟩ := nodes "x" _ rfl
  have sampler_back := back (by decide)
  have dice_back := unknown (by decide)
  have described : Catalogue.core.widgets? "KSampler" = some
      (["seed", "*control_after_generate", "steps", "cfg", "sampler_name", "scheduler",
        "denoise"].map Catalogue.widgetOf) := by rfl
  have seed := (sampler_back.wired "seed" ⟨"x", 3⟩).mpr rfl
  have model := (sampler_back.wired "model" ⟨"gone", 0⟩).mpr rfl
  have steps := (sampler_back.constant "steps" (.ofWord 20)).mpr
    ⟨⟨_, described, by decide⟩, .inl rfl⟩
  have cfg := (sampler_back.constant "cfg" .null).mpr
    ⟨⟨_, described, by decide⟩, .inr ⟨rfl, rfl⟩⟩
  refine ⟨after, converted, ids, sampler, dice, found, there, seed, model, steps, cfg, ?_, ?_⟩
  · intro value held
    obtain ⟨⟨widgets, listed, member⟩, -⟩ := (sampler_back.constant _ _).mp held
    cases described.symm.trans listed
    exact absurd member (by decide)
  · intro value held
    obtain ⟨⟨widgets, listed, -⟩, -⟩ := (dice_back.constant _ _).mp held
    cases listed

end Canvas

end Flowgraph
