import Mathlib.Data.List.Forall2
import Flowgraph.Proofs.Canvas.WireTable

/-!
# Which canvas documents are workflows

The list of nodes of a canvas document is read entry by entry. An entry that does not have the shape
of a node, or that gives the id of an earlier one, stops the reading; only then are the class types
looked at, and last whether there is a node at all. Wires and widgets never make a document refused.

Main result: `Workflow.ofJson_of_canvas`.
-/
namespace Flowgraph

open List (Forall₂)

namespace Canvas

/-- The id that an entry of the list of nodes gives, as a text: by its field, or as its first item
where the entry is the list of its fields. -/
def Node.givenId? : Json → Option String
  | .object fields => (Entries.find? "id" fields).bind Id.ofJson?
  | .array (id :: _) => Id.ofJson? id
  | _ => none

/-- What an entry that does not have the shape of a node goes by: the id in its field, if that can
be read, or else its position. -/
inductive GoesBy (position : Nat) (entry : Json) : String → Prop
  | id {id : String} (readable : (entry.field? "id").bind Id.ofJson? = some id) :
      GoesBy position entry id
  | position (unreadable : (entry.field? "id").bind Id.ofJson? = none) :
      GoesBy position entry ("#" ++ toString position)

/-- A list of entries stands for nodes, one for each entry, that all have different ids. -/
structure Lists (entries : List Json) (nodes : List Node) : Prop where
  reads : Forall₂ (fun entry node => Node.read entry = .ok node) entries nodes
  distinct : (nodes.map Node.id).Nodup

/-- Why an entry cannot be taken at its position, behind entries with the given ids. -/
inductive Unfit (position : Nat) (ids : List String) (entry : Json) : Refusal → Prop
  | misshaped {name : String} {mismatch : Mismatch} (misread : Node.read entry = .error mismatch)
      (named : GoesBy position entry name) :
      Unfit position ids entry (.invalidNode name (.shape mismatch))
  | repeated {node : Node} (reads : Node.read entry = .ok node) (again : node.id ∈ ids) :
      Unfit position ids entry (.invalidNode node.id .duplicateId)

/-- What a canvas document is refused for, by its list of nodes. -/
inductive Refused (entries : List Json) : Refusal → Prop
  /-- The entries before the first unfit one stand for nodes. -/
  | unfit {before after : List Json} {entry : Json} {nodes : List Node} {refusal : Refusal}
      (split : entries = before ++ entry :: after) (earlier : Lists before nodes)
      (unfit : Unfit before.length (nodes.map Node.id) entry refusal) : Refused entries refusal
  /-- All entries stand for nodes, and the nodes before the first one without a class type have
  one. -/
  | unclassed {before after : List Node} {node : Node}
      (all : Lists entries (before ++ node :: after))
      (classed : ∀ other ∈ before, other.classType ≠ "") (none : node.classType = "") :
      Refused entries (.invalidNode node.id .classEmpty)
  | empty (none : entries = []) : Refused entries .emptyGraph

theorem goesBy_iff {position : Nat} {entry : Json} {name : String} :
    GoesBy position entry name ↔ name = Node.nameAt position entry := by
  rw [Node.nameAt]
  constructor
  · rintro (readable | unreadable)
    · rw [readable]
      rfl
    · rw [unreadable]
      rfl
  · rintro rfl
    cases found : (entry.field? "id").bind Id.ofJson? with
    | some id => exact .id found
    | none => exact .position found

section Ids

theorem Node.readField_id {node next : Node} {name : String} {value : Json} (other : name ≠ "id")
    (read : node.readField name value = .ok next) : next.id = node.id := by
  unfold Node.readField at read
  split at read
  case h_1 => contradiction
  case h_7 =>
    cases read
    rfl
  all_goals
    obtain ⟨part, -, rfl⟩ := map_eq_ok_iff.mp read
    rfl

theorem Node.id_of_readFields {fields : List (String × Json)} {node : Node} {value : Json}
    (distinct : (fields.map Prod.fst).Nodup) (member : ("id", value) ∈ fields)
    (read : Legible.readFields Node.readField Node.blank fields = .ok node) :
    Id.ofJson? value = some node.id := by
  obtain ⟨before, after, taken, same⟩ := Legible.exists_read_of_readFields Node.id
    (fun _ _ _ _ other step => Node.readField_id other step) distinct member read
  obtain ⟨id, given, rfl⟩ := map_eq_ok_iff.mp taken
  rw [Id.read] at given
  split at given
  · next readable =>
    cases given
    rw [same, readable]
  · contradiction

/-- An entry with the shape of a node gives the id of that node. -/
theorem Node.givenId?_of_read {entry : Json} {node : Node} (read : Node.read entry = .ok node) :
    givenId? entry = some node.id := by
  cases entry with
  | object fields =>
    obtain ⟨distinct, complete, taken⟩ := Legible.recordOf_object_eq_ok_iff.mp read
    -- the record cannot do without the id, so it is there, and only once
    have there := Legible.mem_of_missing?_eq_none complete ⟨"id", true⟩
      List.mem_cons_self rfl
    obtain ⟨⟨_, value⟩, member, rfl⟩ := List.mem_map.mp (List.mem_reverse.mp there)
    have found : Entries.find? "id" fields = some value := by
      rw [← Legible.find?_known (show shape.has "id" = true from rfl),
        Entries.find?_eq_some_iff distinct]
      exact member
    rw [givenId?, found]
    exact id_of_readFields distinct member taken
  | array items =>
    obtain ⟨taken, optional⟩ := Legible.recordOf_array_eq_ok read
    cases items with
    | nil => exact absurd (optional ⟨"id", true⟩ List.mem_cons_self) nofun
    | cons value rest =>
      have distinct := (Legible.zip_sublist (shape.fields.map Record.Field.name)
        (value :: rest)).nodup (by decide)
      exact id_of_readFields distinct List.mem_cons_self taken
  | _ => contradiction

end Ids

theorem Unfit.congr {position : Nat} {ids others : List String} {entry : Json} {refusal : Refusal}
    (unfit : Unfit position ids entry refusal) (same : ∀ id, id ∈ ids → id ∈ others) :
    Unfit position others entry refusal := by
  cases unfit with
  | misshaped misread named => exact .misshaped misread named
  | repeated reads again => exact .repeated reads (same _ again)

section Reading

variable {position : Nat} {seen : List String} {value : Json} {rest values : List Json}
  {node : Node} {nodes : List Node} {refusal : Refusal}

theorem fit_or_unfit (position : Nat) (seen : List String) (value : Json) :
    (∃ node, Node.read value = .ok node ∧ node.id ∉ seen) ∨
      ∃ refusal, Unfit position seen value refusal := by
  cases read : Node.read value with
  | error mismatch => exact .inr ⟨_, .misshaped read (goesBy_iff.mpr rfl)⟩
  | ok node =>
    by_cases again : node.id ∈ seen
    · exact .inr ⟨_, .repeated read again⟩
    · exact .inl ⟨node, rfl, again⟩

theorem readNodes_cons_of_fit (read : Node.read value = .ok node) (fresh : node.id ∉ seen) :
    readNodes position seen (value :: rest) =
      (readNodes (position + 1) (node.id :: seen) rest).map (node :: ·) := by
  rw [readNodes, read]
  exact if_neg fresh

theorem readNodes_cons_of_unfit (unfit : Unfit position seen value refusal) :
    readNodes position seen (value :: rest) = .error refusal := by
  cases unfit with
  | misshaped misread named => rw [readNodes, misread, goesBy_iff.mp named]
  | repeated reads again =>
    rw [readNodes, reads]
    exact if_pos again

theorem readNodes_eq_ok_iff : readNodes position seen values = .ok nodes ↔
    Lists values nodes ∧ ∀ node ∈ nodes, node.id ∉ seen := by
  induction values generalizing position seen nodes with
  | nil =>
    constructor
    · rintro ⟨⟩
      exact ⟨⟨.nil, List.nodup_nil⟩, nofun⟩
    · rintro ⟨⟨⟨⟩, -⟩, -⟩
      rfl
  | cons value rest ih =>
    constructor
    · intro read
      rcases fit_or_unfit position seen value with ⟨node, taken, fresh⟩ | ⟨refusal, unfit⟩
      · rw [readNodes_cons_of_fit taken fresh] at read
        obtain ⟨others, later, rfl⟩ := map_eq_ok_iff.mp read
        -- the later nodes were read with this node's id among those seen
        obtain ⟨⟨reads, distinct⟩, unseen⟩ := ih.mp later
        simp only [List.mem_cons, not_or] at unseen
        refine ⟨⟨.cons taken reads, List.nodup_cons.mpr ⟨?_, distinct⟩⟩,
          List.forall_mem_cons.mpr ⟨fresh, fun other member => (unseen other member).2⟩⟩
        intro member
        obtain ⟨other, inside, same⟩ := List.mem_map.mp member
        exact (unseen other inside).1 same
      · rw [readNodes_cons_of_unfit unfit] at read
        contradiction
    · rintro ⟨⟨reads, distinct⟩, unseen⟩
      obtain ⟨node, others, taken, later, rfl⟩ := List.forall₂_cons_left_iff.mp reads
      obtain ⟨absent, distinct⟩ := List.nodup_cons.mp distinct
      obtain ⟨fresh, unseen⟩ := List.forall_mem_cons.mp unseen
      rw [readNodes_cons_of_fit taken fresh, map_eq_ok_iff]
      refine ⟨others, ih.mpr ⟨⟨later, distinct⟩, fun other member => ?_⟩, rfl⟩
      rw [List.mem_cons, not_or]
      exact ⟨fun same => absent (same ▸ List.mem_map_of_mem member), unseen other member⟩

theorem Lists.readNodes_eq_ok (all : Lists values nodes) :
    readNodes position [] values = .ok nodes :=
  readNodes_eq_ok_iff.mpr ⟨all, fun _ _ => List.not_mem_nil⟩

theorem ofJson_eq_ok_of_lists {document : Json} (all : Lists (itemsOf document "nodes") nodes) :
    Canvas.ofJson document =
      .ok ⟨nodes, (itemsOf document "links").filterMap Wire.ofJson?⟩ :=
  ofJson_eq_ok_iff.mpr ⟨all.readNodes_eq_ok, rfl⟩

theorem readNodes_of_unfit {before after : List Json}
    (earlier : readNodes position seen before = .ok nodes)
    (unfit : Unfit (position + before.length) (nodes.map Node.id ++ seen) value refusal) :
    readNodes position seen (before ++ value :: after) = .error refusal := by
  induction before generalizing position seen nodes with
  | nil =>
    cases earlier
    exact readNodes_cons_of_unfit unfit
  | cons first rest ih =>
    rcases fit_or_unfit position seen first with ⟨node, taken, fresh⟩ | ⟨_, stopped⟩
    · rw [readNodes_cons_of_fit taken fresh] at earlier
      obtain ⟨others, later, rfl⟩ := map_eq_ok_iff.mp earlier
      -- behind the first entry the position is one further and its id is among those seen
      have place : position + (first :: rest).length = position + 1 + rest.length := by
        rw [List.length_cons]
        omega
      rw [place] at unfit
      have behind := ih later (unfit.congr fun id => by simp [or_left_comm])
      rw [List.cons_append, readNodes_cons_of_fit taken fresh, behind]
      rfl
    · rw [readNodes_cons_of_unfit stopped] at earlier
      contradiction

theorem exists_unfit (refused : readNodes position seen values = .error refusal) :
    ∃ before entry after nodes, values = before ++ entry :: after ∧
      readNodes position seen before = .ok nodes ∧
      Unfit (position + before.length) (nodes.map Node.id ++ seen) entry refusal := by
  induction values generalizing position seen with
  | nil => contradiction
  | cons value rest ih =>
    rcases fit_or_unfit position seen value with ⟨node, taken, fresh⟩ | ⟨other, unfit⟩
    · rw [readNodes_cons_of_fit taken fresh] at refused
      have later : readNodes (position + 1) (node.id :: seen) rest = .error refusal := by
        cases read : readNodes (position + 1) (node.id :: seen) rest with
        | ok nodes =>
          rw [read] at refused
          contradiction
        | error first =>
          rw [read] at refused
          exact congrArg _ (Except.error.inj refused)
      obtain ⟨before, entry, after, nodes, rfl, earlier, unfit⟩ := ih later
      refine ⟨value :: before, entry, after, node :: nodes, rfl, ?_, ?_⟩
      · rw [readNodes_cons_of_fit taken fresh, earlier]
        rfl
      · have place : position + (value :: before).length = position + 1 + before.length := by
          rw [List.length_cons]
          omega
        rw [place]
        exact unfit.congr fun id => by simp [or_left_comm]
    · rw [readNodes_cons_of_unfit unfit] at refused
      cases refused
      exact ⟨[], value, rest, [], rfl, rfl, unfit⟩

end Reading

theorem itemsOf_of_form {document : Json} (form : Form.ofJson document = .canvas) :
    (∃ fields, document = .object fields) ∧
      document.field? "nodes" = some (.array (itemsOf document "nodes")) := by
  have listed : Form.hasList document "nodes" = true := by
    unfold Form.ofJson at form
    split at form
    · next both => exact (Bool.and_eq_true_iff.mp both).1
    · contradiction
  unfold Form.hasList at listed
  split at listed
  · next value found =>
    cases value with
    | array items =>
      refine ⟨?_, by rw [itemsOf, found]; rfl⟩
      cases document with
      | object fields => exact ⟨fields, rfl⟩
      | _ => contradiction
    | _ => contradiction
  · contradiction

theorem map_givenId? {entries : List Json} {nodes : List Node}
    (reads : Forall₂ (fun entry node => Node.read entry = .ok node) entries nodes) :
    entries.map Node.givenId? = (nodes.map Node.id).map some := by
  rw [List.map_map, ← List.forall₂_eq_eq_eq, List.forall₂_map_left_iff,
    List.forall₂_map_right_iff]
  exact reads.imp fun entry node read => Node.givenId?_of_read read

theorem mem_iff_of_reads {entries : List Json} {nodes : List Node}
    (reads : Forall₂ (fun entry node => Node.read entry = .ok node) entries nodes) {node : Node} :
    node ∈ nodes ↔ ∃ entry ∈ entries, Node.read entry = .ok node := by
  induction reads with
  | nil => simp
  | cons here later ih =>
    rw [List.mem_cons, ih, List.exists_mem_cons_iff, here, Except.ok.injEq, eq_comm]

theorem exists_forall₂_iff {α β : Type} {R : α → β → Prop} {items : List α} :
    (∃ others, Forall₂ R items others) ↔ ∀ item ∈ items, ∃ other, R item other := by
  induction items with
  | nil => simp
  | cons item rest ih =>
    simp only [List.forall₂_cons_left_iff, List.forall_mem_cons, ← ih]
    constructor
    · rintro ⟨_, other, others, here, later, rfl⟩
      exact ⟨⟨other, here⟩, others, later⟩
    · rintro ⟨⟨other, here⟩, others, later⟩
      exact ⟨_, other, others, here, later, rfl⟩

/-- A list stands for nodes exactly if each of its entries does and no id is given twice. -/
theorem exists_lists_iff {entries : List Json} : (∃ nodes, Lists entries nodes) ↔
    (∀ entry ∈ entries, ∃ node, Node.read entry = .ok node) ∧
      (entries.map Node.givenId?).Nodup := by
  have distinct_iff {nodes : List Node}
      (reads : Forall₂ (fun entry node => Node.read entry = .ok node) entries nodes) :
      (entries.map Node.givenId?).Nodup ↔ (nodes.map Node.id).Nodup := by
    rw [map_givenId? reads, List.nodup_map_iff fun _ _ => Option.some.inj]
  rw [← exists_forall₂_iff]
  constructor
  · rintro ⟨nodes, reads, distinct⟩
    exact ⟨⟨nodes, reads⟩, (distinct_iff reads).mpr distinct⟩
  · rintro ⟨⟨nodes, reads⟩, distinct⟩
    exact ⟨nodes, reads, (distinct_iff reads).mp distinct⟩

theorem find?_unclassed_iff {nodes : List Node} {node : Node} :
    (nodes.find? fun node => node.classType == "") = some node ↔ ∃ before after,
      nodes = before ++ node :: after ∧ (∀ other ∈ before, other.classType ≠ "") ∧
      node.classType = "" := by
  rw [List.find?_eq_some_iff_append, beq_iff_eq]
  simp only [Bool.not_eq_true', beq_eq_false_iff_ne]
  constructor
  · rintro ⟨none, before, after, parts, classed⟩
    exact ⟨before, after, parts, classed, none⟩
  · rintro ⟨before, after, parts, classed, none⟩
    exact ⟨none, before, after, parts, classed⟩

section

variable {catalogue : Catalogue} {nodes : List Node} {wires : List Wire}

theorem unclassed?_toGraph (distinct : (nodes.map Node.id).Nodup) :
    Workflow.unclassed? (toGraph catalogue ⟨nodes, wires⟩).1 =
      (nodes.find? fun node => node.classType == "").map Node.id := by
  rw [Workflow.unclassed?, entries_toGraph catalogue distinct, List.find?_map, Option.map_map]
  rfl

theorem isEmpty_toGraph (distinct : (nodes.map Node.id).Nodup) :
    (toGraph catalogue ⟨nodes, wires⟩).1.isEmpty = nodes.isEmpty := by
  rw [Graph.isEmpty, Keyed.isEmpty, ← Graph.entries, entries_toGraph catalogue distinct,
    List.isEmpty_map]

end

end Canvas

open Canvas

namespace Workflow

variable {catalogue : Catalogue} {document : Json} {canvas : Canvas}

theorem ofJson_of_canvas_error {refusal : Refusal} (form : Form.ofJson document = .canvas)
    (refused : readNodes 0 [] (itemsOf document "nodes") = .error refusal) :
    ofJson catalogue document = .error refusal := by
  obtain ⟨⟨fields, rfl⟩, -⟩ := itemsOf_of_form form
  rw [ofJson, ofObject, form, ofForm, Canvas.ofJson, refused]
  rfl

theorem ofJson_of_lists {nodes : List Canvas.Node} (form : Form.ofJson document = .canvas)
    (all : Lists (itemsOf document "nodes") nodes) : ofJson catalogue document =
      match nodes.find? fun node => node.classType == "" with
      | some node => .error (.invalidNode node.id .classEmpty)
      | none =>
        if nodes.isEmpty then .error .emptyGraph
        else
          let canvas : Canvas := ⟨nodes, (itemsOf document "links").filterMap Wire.ofJson?⟩
          .ok ⟨(canvas.toGraph catalogue).1, .canvas, (canvas.toGraph catalogue).2⟩ := by
  obtain ⟨⟨fields, rfl⟩, -⟩ := itemsOf_of_form form
  rw [ofJson, ofObject, form, ofForm, ofJson_eq_ok_of_lists all]
  simp only [bind, Except.bind, pure, Except.pure, checkClasses, unclassed?_toGraph all.distinct]
  cases nodes.find? fun node => node.classType == "" with
  | some node => rfl
  | none => simp only [Option.map_none, isEmpty_toGraph all.distinct]

theorem ofJson_of_canvas_eq_ok_iff {workflow : Workflow} (form : Form.ofJson document = .canvas) :
    ofJson catalogue document = .ok workflow ↔ ∃ canvas, Canvas.ofJson document = .ok canvas ∧
      canvas.nodes ≠ [] ∧ (∀ node ∈ canvas.nodes, node.classType ≠ "") ∧
      workflow = ⟨(canvas.toGraph catalogue).1, .canvas, (canvas.toGraph catalogue).2⟩ := by
  cases read : readNodes 0 [] (itemsOf document "nodes") with
  | error refusal =>
    rw [ofJson_of_canvas_error form read]
    refine ⟨nofun, ?_⟩
    rintro ⟨canvas, taken, -⟩
    rw [Canvas.ofJson_eq_ok_iff, read] at taken
    cases taken.1
  | ok nodes =>
    have all := (readNodes_eq_ok_iff.mp read).1
    rw [ofJson_of_lists form all, ofJson_eq_ok_of_lists all]
    simp only [Except.ok.injEq, exists_eq_left']
    split
    · next node found =>
      refine ⟨nofun, fun ⟨_, classed, _⟩ => ?_⟩
      have unclassed := List.find?_some found
      exact absurd (beq_iff_eq.mp unclassed) (classed node (List.mem_of_find?_eq_some found))
    · next missing =>
      have classed : ∀ node ∈ nodes, node.classType ≠ "" := by
        simpa using missing
      split
      · next none => exact ⟨nofun, fun made => absurd (List.isEmpty_iff.mp none) made.1⟩
      · next some =>
        rw [Except.ok.injEq, eq_comm]
        exact ⟨fun same => ⟨fun none => some (List.isEmpty_iff.mpr none), classed, same⟩,
          fun made => made.2.2⟩

theorem ofJson_of_canvas_eq_error_iff {refusal : Refusal} (form : Form.ofJson document = .canvas) :
    ofJson catalogue document = .error refusal ↔ Refused (itemsOf document "nodes") refusal := by
  constructor
  · intro refused
    cases read : readNodes 0 [] (itemsOf document "nodes") with
    | error first =>
      rw [ofJson_of_canvas_error form read] at refused
      cases refused
      obtain ⟨before, entry, after, nodes, split, earlier, unfit⟩ := exists_unfit read
      rw [Nat.zero_add, List.append_nil] at unfit
      exact .unfit split (readNodes_eq_ok_iff.mp earlier).1 unfit
    | ok nodes =>
      have all := (readNodes_eq_ok_iff.mp read).1
      rw [ofJson_of_lists form all] at refused
      split at refused
      · next node found =>
        cases refused
        obtain ⟨before, after, rfl, classed, none⟩ := find?_unclassed_iff.mp found
        exact .unclassed all classed none
      · split at refused
        · next none =>
          cases refused
          have reads := all.reads
          rw [List.isEmpty_iff.mp none, List.forall₂_nil_right_iff] at reads
          exact .empty reads
        · contradiction
  · intro refused
    cases refused with
    | unfit split earlier unfit =>
      apply ofJson_of_canvas_error form
      rw [split]
      exact readNodes_of_unfit earlier.readNodes_eq_ok
        (by rwa [Nat.zero_add, List.append_nil])
    | unclassed all classed none =>
      rw [ofJson_of_lists form all, find?_unclassed_iff.mpr ⟨_, _, rfl, classed, none⟩]
    | empty none =>
      have all : Lists (itemsOf document "nodes") [] := none ▸ ⟨.nil, List.nodup_nil⟩
      rw [ofJson_of_lists form all]
      rfl

/-- A canvas document is a workflow exactly if its list of nodes has an entry, all entries have the
shape of a node, no id is given twice and every node has a class type. The graph has one node for
each entry, in their order, under the id that the entry gives. Any other canvas document is refused
for the first unfit entry, or else for the first node without a class type, or else as empty. -/
theorem ofJson_of_canvas (catalogue : Catalogue) {document : Json}
    (form : Form.ofJson document = .canvas) :
    ∃ entries, document.field? "nodes" = some (.array entries) ∧
      ((∃ workflow, ofJson catalogue document = .ok workflow) ↔ entries ≠ [] ∧
        (∀ entry ∈ entries, ∃ node, Canvas.Node.read entry = .ok node) ∧
        (entries.map Canvas.Node.givenId?).Nodup ∧
        ∀ entry ∈ entries, ∀ node, Canvas.Node.read entry = .ok node → node.classType ≠ "") ∧
      (∀ workflow, ofJson catalogue document = .ok workflow →
        Forall₂ (fun entry made => Canvas.Node.givenId? entry = some made.1 ∧
          ∃ node, Canvas.Node.read entry = .ok node ∧ made.2.classType = node.classType)
          entries workflow.graph.entries) ∧
      (∀ refusal, ofJson catalogue document = .error refusal ↔ Refused entries refusal) := by
  obtain ⟨-, listed⟩ := itemsOf_of_form form
  refine ⟨itemsOf document "nodes", listed, ?_, ?_, fun _ => ofJson_of_canvas_eq_error_iff form⟩
  · simp only [ofJson_of_canvas_eq_ok_iff form]
    constructor
    · rintro ⟨_, canvas, taken, some, classed, -⟩
      have all := (readNodes_eq_ok_iff.mp (Canvas.ofJson_eq_ok_iff.mp taken).1).1
      obtain ⟨read, distinct⟩ := exists_lists_iff.mp ⟨_, all⟩
      refine ⟨?_, read, distinct, fun entry inside node here =>
        classed node ((mem_iff_of_reads all.reads).mpr ⟨entry, inside, here⟩)⟩
      intro none
      have reads := all.reads
      rw [none, List.forall₂_nil_left_iff] at reads
      exact some reads
    · rintro ⟨some, read, distinct, classed⟩
      obtain ⟨nodes, all⟩ := exists_lists_iff.mpr ⟨read, distinct⟩
      refine ⟨_, ⟨nodes, _⟩, Canvas.ofJson_eq_ok_iff.mpr ⟨all.readNodes_eq_ok, rfl⟩, ?_, ?_, rfl⟩
      · rintro rfl
        exact some (List.forall₂_nil_right_iff.mp all.reads)
      · intro node inside
        obtain ⟨entry, member, here⟩ := (mem_iff_of_reads all.reads).mp inside
        exact classed entry member node here
  · intro workflow read
    obtain ⟨canvas, taken, -, -, rfl⟩ := (ofJson_of_canvas_eq_ok_iff form).mp read
    have all := (readNodes_eq_ok_iff.mp (Canvas.ofJson_eq_ok_iff.mp taken).1).1
    rw [entries_toGraph catalogue all.distinct, List.forall₂_map_right_iff]
    exact all.reads.imp fun entry node here => ⟨Node.givenId?_of_read here, node, here, rfl⟩

/-- A canvas document with one id given as a number and one as a text. -/
def spelled : Json := .object [("links", .array []), ("nodes", .array [
  .object [("id", .ofWord 1), ("type", .string "LoadImage")],
  .array [.string "2", .string "SaveImage"]])]

/-- A canvas document that gives the same id as a number and as a text, behind a node without a
class type. -/
def spelledTwice : Json := .object [("links", .array []), ("nodes", .array [
  .object [("id", .ofWord 1), ("type", .string "")],
  .object [("id", .string "1"), ("type", .string "SaveImage")]])]

theorem ofJson_of_canvas_spelled : Form.ofJson spelled = .canvas ∧
    (∃ workflow, ofJson .empty spelled = .ok workflow ∧ workflow.graph.ids = ["1", "2"] ∧
      ∃ entries, spelled.field? "nodes" = some (.array entries) ∧
        entries.map Canvas.Node.givenId? = [some "1", some "2"] ∧
        Forall₂ (fun entry made => Canvas.Node.givenId? entry = some made.1 ∧
          ∃ node, Canvas.Node.read entry = .ok node ∧ made.2.classType = node.classType)
          entries workflow.graph.entries) ∧
    ofJson .empty spelledTwice = .error (.invalidNode "1" .duplicateId) := by
  have read : ofJson .empty spelled = .ok _ := rfl
  obtain ⟨entries, listed, -, drawn, -⟩ := ofJson_of_canvas .empty
    (show Form.ofJson spelled = .canvas from rfl)
  obtain ⟨others, there, -, -, refused⟩ := ofJson_of_canvas .empty
    (show Form.ofJson spelledTwice = .canvas from rfl)
  cases listed
  cases there
  have first : Lists [.object [("id", .ofWord 1), ("type", .string "")]]
      [⟨"1", "", none, [], [], none⟩] := ⟨.cons rfl .nil, List.nodup_singleton _⟩
  have second : Canvas.Node.read (.object [("id", .string "1"), ("type", .string "SaveImage")]) =
      .ok ⟨"1", "SaveImage", none, [], [], none⟩ := rfl
  refine ⟨rfl, ⟨_, read, rfl, _, rfl, rfl, drawn _ read⟩, (refused _).mpr ?_⟩
  exact .unfit rfl first (.repeated second List.mem_cons_self)

end Workflow

end Flowgraph
