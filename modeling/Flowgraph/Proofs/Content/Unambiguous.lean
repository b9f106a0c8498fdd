import Flowgraph.Proofs.Content.Alike
import Flowgraph.Proofs.Content.Bytes

/-!
# The content of a graph is canonical and unambiguous

Sorting makes the contents of alike graphs the same. The other way round, each part of a content is
read back from before whatever may follow it: its bytes determine where it ends and, up to likeness,
what it is the content of.

Main result: `Graph.content_eq_iff`.
-/
namespace Flowgraph

open List (Forall₂)

namespace Content

/-- The texts have lengths that fit eight bytes. -/
def Fits (texts : List String) : Prop := ∀ text ∈ texts, text.utf8ByteSize < 2 ^ 64

theorem Fits.mono {texts more : List String} (fits : Fits more) (sub : texts ⊆ more) : Fits texts :=
  fun text member => fits text (sub member)

theorem Fits.tail {text : String} {texts : List String} (fits : Fits (text :: texts)) :
    Fits texts :=
  fits.mono (List.subset_cons_self _ _)

/-- The content of an entry: its name behind a tag, and what is under the name. -/
def named {α : Type} (tag : String) (code : α → List UInt8) (entry : String × α) : List UInt8 :=
  field tag entry.1 ++ code entry.2

theorem ofItems_eq (items : List Json) : ofItems items = items.flatMap ofJson := by
  induction items with
  | nil => rfl
  | cons item rest ih => rw [ofItems, ih, List.flatMap_cons]

theorem ofFields_eq (fields : List (String × Json)) :
    ofFields fields = fields.map fun field => (field.1, ofJson field.2) := by
  induction fields with
  | nil => rfl
  | cons field rest ih => rw [ofFields, ih, List.map_cons]

theorem ofJson_scalar {value : Json} (scalar : value.isScalar = true) :
    ofJson value = field "scalar" value.compact := by
  cases value <;> first | rfl | contradiction

theorem ofJson_array (items : List Json) :
    ofJson (.array items) = ofText "[" ++ (items.flatMap ofJson ++ ofText "]") := by
  rw [ofJson, ofItems_eq, List.append_assoc]

theorem ofJson_object (fields : List (String × Json)) :
    ofJson (.object fields) =
      ofText "\x7b" ++ ((sorted fields).flatMap (named "key" ofJson) ++ ofText "\x7d") := by
  rw [ofJson, ofFields_eq, sorted_map, List.flatMap_map, List.append_assoc]
  rfl

theorem ofNode_eq (node : Node) :
    ofNode node = field "class" node.classType ++
      (sorted node.inputs.entries).flatMap (named "input" ofInput) := rfl

theorem content_eq (graph : Graph) :
    graph.content = (sorted graph.entries).flatMap (named "node" ofNode) := rfl

section

variable {α : Type} {tag : String} {code : α → List UInt8} {Same : α → α → Prop}
variable {entry other : String × α} {rest rest' : List UInt8}

theorem named_congr (names : entry.1 = other.1) (same : code entry.2 = code other.2) :
    named tag code entry = named tag code other := by
  rw [named, named, names, same]

theorem begins_named {byte : UInt8} (first : tag.toByteArray.data.toList.head? = some byte) :
    Begins (· = byte) (named tag code entry) :=
  (begins_field first).append _

/-- An entry can be read back if what is under its name can be. -/
theorem named_append_inj {texts texts' : List String} (fits : Fits (entry.1 :: texts))
    (fits' : Fits (other.1 :: texts'))
    (value : code entry.2 ++ rest = code other.2 ++ rest' → Same entry.2 other.2 ∧ rest = rest')
    (same : named tag code entry ++ rest = named tag code other ++ rest') :
    SameName Same entry other ∧ rest = rest' := by
  simp only [named, List.append_assoc] at same
  obtain ⟨names, same⟩ := field_append_inj (fits _ List.mem_cons_self) (fits' _ List.mem_cons_self)
    same
  obtain ⟨values, rests⟩ := value same
  exact ⟨⟨names, values⟩, rests⟩

end

/-- Alike values have the same content. -/
theorem ofJson_congr {value other : Json} (alike : value.Alike other) :
    ofJson value = ofJson other := by
  induction value using Json.induct_parts generalizing other with
  | scalar value scalar => rw [alike.eq_of_isScalar scalar]
  | array items ih =>
    cases alike with
    | scalar => contradiction
    | array each =>
      have same := (List.forall₂_and_left _ _).mpr ⟨ih, each⟩
      rw [ofJson_array, ofJson_array, flatMap_congr (same.imp fun _ _ both => both.1 both.2)]
  | object fields ih =>
    cases alike with
    | scalar => contradiction
    | object each =>
      -- the hypothesis is about the fields as given, and the content lists them sorted
      have members : ∀ field ∈ sorted fields, ∀ {other : Json}, field.2.Alike other →
          ofJson field.2 = ofJson other :=
        fun field member => ih field ((perm_sorted fields).mem_iff.mp member)
      have same := (List.forall₂_and_left _ _).mpr ⟨members, forall₂_sorted_iff.mpr each⟩
      rw [ofJson_object, ofJson_object, flatMap_congr (same.imp ?_)]
      rintro field field' ⟨congr, names, alike⟩
      exact named_congr names (congr alike)

theorem ofInput_congr {input other : Input} (alike : input.Alike other) :
    ofInput input = ofInput other := by
  cases alike with
  | wired source => rfl
  | constant alike => rw [ofInput, ofInput, ofJson_congr alike]

theorem ofNode_congr {node other : Node} (alike : node.Alike other) :
    ofNode node = ofNode other := by
  have inputs := Keyed.forall₂_sorted_iff.mpr alike.inputs
  rw [ofNode_eq, ofNode_eq, alike.classType, flatMap_congr (inputs.imp ?_)]
  rintro entry entry' ⟨names, alike⟩
  exact named_congr names (ofInput_congr alike)

/-- Alike graphs have the same content. -/
theorem content_congr {graph other : Graph} (alike : graph.Alike other) :
    graph.content = other.content := by
  have nodes : Forall₂ (SameName Node.Alike) (sorted graph.entries) (sorted other.entries) :=
    Keyed.forall₂_sorted_iff.mpr alike
  rw [content_eq, content_eq, flatMap_congr (nodes.imp ?_)]
  rintro entry entry' ⟨ids, alike⟩
  exact named_congr ids (ofNode_congr alike)

/-- The byte that the content of a value begins with. -/
def opening : Json → UInt8
  | .object _ => 0x7b
  | .array _ => 0x5b
  | _ => 0x73

theorem begins_ofJson (value : Json) : Begins (· = opening value) (ofJson value) := by
  cases value with
  | object fields =>
    rw [ofJson_object]
    exact (begins_ofText rfl).append _
  | array items =>
    rw [ofJson_array]
    exact (begins_ofText rfl).append _
  | _ =>
    rw [ofJson_scalar rfl]
    exact begins_field rfl

/-- No item begins like the end of an array. -/
theorem item_ne_bracket (value : Json) : Begins (· ≠ 0x5d) (ofJson value) := by
  refine (begins_ofJson value).imp ?_
  rintro byte rfl
  cases value <;> simp [opening]

/-- No field begins like the end of an object. -/
theorem field_ne_brace (entry : String × Json) : Begins (· ≠ 0x7d) (named "key" ofJson entry) :=
  (begins_named rfl).imp (by simp)

section

variable {rest rest' : List UInt8}

theorem opening_scalar {value : Json} (scalar : value.isScalar = true) : opening value = 0x73 := by
  cases value <;> first | rfl | contradiction

/-- Contents that begin alike are of values of one kind. -/
theorem opening_eq {value other : Json} (same : ofJson value ++ rest = ofJson other ++ rest') :
    opening value = opening other := by
  -- both contents have a first byte, and that is the same
  obtain ⟨first, later, split, opens⟩ := begins_ofJson value
  obtain ⟨first', later', split', opens'⟩ := begins_ofJson other
  rw [split, split', List.cons_append, List.cons_append, List.cons.injEq] at same
  rw [← opens, ← opens', same.1]

/-- A value can be read back, up to likeness, from before anything. -/
theorem ofJson_append_inj {value other : Json} (fits : Fits value.texts) (fits' : Fits other.texts)
    (same : ofJson value ++ rest = ofJson other ++ rest') : value.Alike other ∧ rest = rest' := by
  have kinds := opening_eq same
  -- the rest is generalized: an item is read back from before all later items
  induction value using Json.induct_parts generalizing other rest rest' with
  | scalar value scalar =>
    -- the first byte tells scalars, arrays and objects apart
    have scalar' : other.isScalar = true := by
      rw [opening_scalar scalar] at kinds
      cases other <;> first | rfl | simp [opening] at kinds
    rw [Json.texts_scalar scalar] at fits
    rw [Json.texts_scalar scalar'] at fits'
    rw [ofJson_scalar scalar, ofJson_scalar scalar'] at same
    obtain ⟨texts, rests⟩ := field_append_inj (fits _ List.mem_cons_self)
      (fits' _ List.mem_cons_self) same
    exact ⟨Json.compact_injective scalar scalar' texts ▸ .scalar scalar, rests⟩
  | array items ih =>
    cases other with
    | array others =>
      rw [ofJson_array, ofJson_array] at same
      simp only [List.append_assoc, List.append_cancel_left_eq] at same
      have each : ∀ item ∈ items, ∀ item' ∈ others, ∀ rest rest',
          ofJson item ++ rest = ofJson item' ++ rest' → item.Alike item' ∧ rest = rest' := by
        intro item member item' member' rest rest' equal
        exact ih item member (fits.mono (Json.texts_subset_of_mem_items member))
          (fits'.mono (Json.texts_subset_of_mem_items member')) equal (opening_eq equal)
      obtain ⟨alike, rests⟩ := flatMap_closed_inj rfl item_ne_bracket each same
      exact ⟨.array alike, rests⟩
    | _ => simp [opening] at kinds
  | object fields ih =>
    cases other with
    | object others =>
      rw [ofJson_object, ofJson_object] at same
      simp only [List.append_assoc, List.append_cancel_left_eq] at same
      have each : ∀ field ∈ sorted fields, ∀ field' ∈ sorted others, ∀ rest rest',
          named "key" ofJson field ++ rest = named "key" ofJson field' ++ rest' →
          SameName Json.Alike field field' ∧ rest = rest' := by
        intro field member field' member' rest rest' equal
        have inside := (perm_sorted fields).mem_iff.mp member
        have inside' := (perm_sorted others).mem_iff.mp member'
        have named := fits.mono (Json.texts_subset_of_mem_fields inside)
        have named' := fits'.mono (Json.texts_subset_of_mem_fields inside')
        exact named_append_inj named named'
          (fun values => ih field inside named.tail named'.tail values (opening_eq values)) equal
      obtain ⟨alike, rests⟩ := flatMap_closed_inj rfl field_ne_brace each same
      exact ⟨.object (forall₂_sorted_iff.mp alike), rests⟩
    | _ => simp [opening] at kinds

/-- A wired input is told from a constant by its tag. -/
theorem link_ne_literal (text : String) (rest' : List UInt8) :
    field "link" text ++ rest ≠ ofText "literal" ++ rest' := by
  intro equal
  have link : ofText "link" = [0x6c, 0x69, 0x6e, 0x6b] := by rw [ofText_eq]; rfl
  have literal : ofText "literal" = [0x6c, 0x69, 0x74, 0x65, 0x72, 0x61, 0x6c] := by
    rw [ofText_eq]; rfl
  simp [field, link, literal] at equal

/-- An input can be read back from before anything. -/
theorem ofInput_append_inj {input other : Input} (fits : Fits input.texts)
    (fits' : Fits other.texts) (same : ofInput input ++ rest = ofInput other ++ rest') :
    input.Alike other ∧ rest = rest' := by
  cases input with
  | wired source =>
    cases other with
    | wired source' =>
      simp only [ofInput, List.append_assoc] at same
      obtain ⟨nodes, same⟩ := field_append_inj (fits _ List.mem_cons_self)
        (fits' _ List.mem_cons_self) same
      -- a slot has four bytes, whatever it is
      obtain ⟨slots, rests⟩ := List.append_inj same rfl
      have sources : source = source' := by
        obtain ⟨node, slot⟩ := source
        obtain ⟨node', slot'⟩ := source'
        simp only at nodes slots
        rw [nodes, ofSlot_injective slots]
      exact ⟨sources ▸ .wired source, rests⟩
    | constant value' =>
      simp only [ofInput, List.append_assoc] at same
      exact absurd same (link_ne_literal _ _)
  | constant value =>
    cases other with
    | wired source' =>
      simp only [ofInput, List.append_assoc] at same
      exact absurd same.symm (link_ne_literal _ _)
    | constant value' =>
      simp only [ofInput, List.append_assoc] at same
      obtain ⟨alike, rests⟩ := ofJson_append_inj fits fits' (List.append_cancel_left same)
      exact ⟨.constant alike, rests⟩

/-- A node can be read back from before what does not begin like an input. -/
theorem ofNode_append_inj {node other : Node} (fits : Fits node.texts) (fits' : Fits other.texts)
    (ends : ¬ Begins (· = 0x69) rest) (ends' : ¬ Begins (· = 0x69) rest')
    (same : ofNode node ++ rest = ofNode other ++ rest') : node.Alike other ∧ rest = rest' := by
  rw [ofNode_eq, ofNode_eq, List.append_assoc, List.append_assoc] at same
  obtain ⟨classes, same⟩ := field_append_inj (fits _ List.mem_cons_self)
    (fits' _ List.mem_cons_self) same
  -- an input ends by itself, so no condition is put on what follows one
  have each : ∀ entry ∈ sorted node.inputs.entries, ∀ entry' ∈ sorted other.inputs.entries,
      ∀ rest rest', ¬ Begins (fun _ => False) rest → ¬ Begins (fun _ => False) rest' →
      named "input" ofInput entry ++ rest = named "input" ofInput entry' ++ rest' →
      SameName Input.Alike entry entry' ∧ rest = rest' := by
    intro entry member entry' member' rest rest' _ _ equal
    have named := fits.mono (Node.texts_subset_of_mem member)
    have named' := fits'.mono (Node.texts_subset_of_mem member')
    exact named_append_inj named named' (ofInput_append_inj named.tail named'.tail) equal
  obtain ⟨inputs, rests⟩ := flatMap_append_inj (fun _ _ => begins_named rfl)
    (fun _ _ => begins_named rfl) (by simp) each ⟨ends, not_begins_false⟩
    ⟨ends', not_begins_false⟩ same
  exact ⟨⟨classes, Keyed.forall₂_sorted_iff.mp inputs⟩, rests⟩

end

end Content

open Content

/-- Two graphs have the same content exactly if they are alike, as long as all their texts have
lengths that fit eight bytes. -/
theorem Graph.content_eq_iff {graph other : Graph} (fits : Fits graph.texts)
    (fits' : Fits other.texts) : graph.content = other.content ↔ graph.Alike other := by
  refine ⟨fun same => ?_, content_congr⟩
  have each : ∀ entry ∈ sorted graph.entries, ∀ entry' ∈ sorted other.entries,
      ∀ rest rest', ¬ Begins (· = 0x69) rest → ¬ Begins (· = 0x69) rest' →
      named "node" ofNode entry ++ rest = named "node" ofNode entry' ++ rest' →
      SameName Node.Alike entry entry' ∧ rest = rest' := by
    intro entry member entry' member' rest rest' ends ends' equal
    have named := fits.mono (texts_subset_of_mem member)
    have named' := fits'.mono (texts_subset_of_mem member')
    exact named_append_inj named named' (ofNode_append_inj named.tail named'.tail ends ends') equal
  rw [content_eq, content_eq, ← List.append_nil (List.flatMap _ _),
    ← List.append_nil (List.flatMap _ (sorted other.entries))] at same
  -- a node begins unlike an input, so none of its inputs is taken for the next node's
  have begins : ∀ entry, Begins (· = 0x6e) (named "node" ofNode entry) := fun _ => begins_named rfl
  obtain ⟨nodes, -⟩ := flatMap_append_inj (fun entry _ => begins entry)
    (fun entry _ => begins entry) (by simp) each ⟨not_begins_nil, not_begins_nil⟩
    ⟨not_begins_nil, not_begins_nil⟩ same
  exact Keyed.forall₂_sorted_iff.mp nodes

/-- A graph of one sampler whose settings are a constant. -/
def sampler (settings : List (String × Json)) : Graph :=
  let node := (Node.ofClass "KSampler").withInput "settings" (.constant (.object settings))
  ⟨Keyed.empty.insert "3" node⟩

/-- The order of fields makes no difference to a content, and a seed does. -/
theorem content_eq_iff_sampler :
    (sampler [("seed", .number (.natural 1)), ("cfg", .null)]).content =
      (sampler [("cfg", .null), ("seed", .number (.natural 1))]).content ∧
    (sampler [("seed", .number (.natural 1)), ("cfg", .null)]).content ≠
      (sampler [("cfg", .null), ("seed", .number (.natural 2))]).content := by
  have fits : Fits (sampler [("seed", .number (.natural 1)), ("cfg", .null)]).texts := by
    unfold Fits
    decide
  constructor
  · have settings : Json.Alike (.object [("seed", .number (.natural 1)), ("cfg", .null)])
        (.object [("cfg", .null), ("seed", .number (.natural 1))]) := by
      refine .object fun name => ?_
      by_cases seed : "seed" = name
      · subst seed
        exact .cons (.scalar rfl) .nil
      · by_cases cfg : "cfg" = name
        · subst cfg
          exact .cons (.scalar rfl) .nil
        · simp [Entries.under, seed, cfg]
    apply (Graph.content_eq_iff fits (by unfold Fits; decide)).mpr
    intro id
    simp only [sampler, Keyed.get?_insert]
    split
    · refine .some ⟨rfl, fun name => ?_⟩
      simp only [Node.withInput, Keyed.get?_insert]
      split
      · exact .some (.constant settings)
      · exact .none
    · exact .none
  · intro same
    have alike := (Graph.content_eq_iff fits (by unfold Fits; decide)).mp same "3"
    cases alike with
    | some node =>
      have input := node.inputs "settings"
      cases input with
      | some input =>
        cases input with
        | constant settings =>
          have seed := List.forall₂_cons.mp (settings.under "seed")
          exact absurd (seed.1.eq_of_isScalar rfl) (by decide)

end Flowgraph
