import Flowgraph.Drawing
import Flowgraph.Proofs.Dependencies

/-!
# Reading a drawing in dot notation

In dot notation a text stands in quotes, and a quote inside of it is written with a backslash in
front. Nothing else is escaped, so a text that ends with a backslash is not closed by the quote
behind it; every other text is read back as it was, whatever its characters are.

Main result: `Graph.dot_readBack`.
-/
namespace Flowgraph

namespace Drawing

/-- The text behind an opening quote, and what follows its closing quote. A backslash and a quote
stand for a quote, and any other character but a quote for itself. -/
def quoted? : List Char → Option (List Char × List Char)
  | [] => none
  | '\\' :: '"' :: rest => (quoted? rest).map fun (text, behind) => ('"' :: text, behind)
  | '"' :: rest => some ([], rest)
  | c :: rest => (quoted? rest).map fun (text, behind) => (c :: text, behind)

/-- The next text in quotes, and what follows it. -/
def next? (text : List Char) : Option (String × List Char) :=
  (quoted? (text.dropWhile (· != '"')).tail).map fun (first, behind) =>
    (String.ofList first, behind)

/-- So many texts in quotes, one behind the other. -/
def texts? : Nat → List Char → Option (List String)
  | 0, _ => some []
  | count + 1, text => do
    let (first, behind) ← next? text
    let others ← texts? count behind
    pure (first :: others)

/-- All the texts in quotes. -/
inductive HasTexts : List Char → List String → Prop
  | none {text : List Char} (plain : '"' ∉ text) : HasTexts text []
  | next {text behind : List Char} {first : String} {others : List String}
      (found : next? text = some (first, behind)) (later : HasTexts behind others) :
      HasTexts text (first :: others)

/-- The last character of a text is no backslash. -/
def EndsPlain (text : String) : Prop := text.toList.getLast? ≠ some '\\'

section Quotes

variable {c : Char} {text rest behind : List Char}

/-- A text with a backslash in front of each quote. -/
def escaped (text : List Char) : List Char :=
  text.flatMap fun c => if c = '"' then ['\\', '"'] else [c]

theorem escaped_append (text rest : List Char) :
    escaped (text ++ rest) = escaped text ++ escaped rest := List.flatMap_append

theorem quoted?_cons (plain : c ≠ '"') (unpaired : c = '\\' → rest.head? ≠ some '"') :
    quoted? (c :: rest) = (quoted? rest).map fun (text, behind) => (c :: text, behind) := by
  refine quoted?.eq_4 c rest ?_ plain
  rintro later backslash rfl
  exact unpaired backslash rfl

theorem head?_escaped_append (before : (escaped text ++ rest).head? = some '"') :
    text = [] ∧ rest.head? = some '"' := by
  cases text with
  | nil => exact ⟨rfl, before⟩
  | cons c text =>
    rw [escaped, List.flatMap_cons] at before
    split at before
    · cases before
    · next other => exact absurd (Option.some.inj before) other

/-- What is escaped is read as it was, unless it leaves a backslash in front of a quote. -/
theorem quoted?_escaped_append (free : rest.head? = some '"' → text.getLast? ≠ some '\\') :
    quoted? (escaped text ++ rest) =
      (quoted? rest).map fun (later, behind) => (text ++ later, behind) := by
  induction text with
  | nil => exact Option.map_id'.symm
  | cons c text ih =>
    have later : rest.head? = some '"' → text.getLast? ≠ some '\\' := by
      intro quote last
      refine free quote ?_
      rw [List.getLast?_cons, last]
      rfl
    rw [escaped, List.flatMap_cons, List.append_assoc]
    change quoted? (_ ++ (escaped text ++ rest)) = _
    split
    · next quote =>
      subst quote
      rw [List.cons_append, List.singleton_append, quoted?, ih later, Option.map_map]
      rfl
    · next plain =>
      have unpaired : c = '\\' → (escaped text ++ rest).head? ≠ some '"' := by
        rintro rfl quote
        obtain ⟨rfl, quote⟩ := head?_escaped_append quote
        exact free quote rfl
      rw [List.singleton_append, quoted?_cons plain unpaired, ih later, Option.map_map]
      rfl

/-- A text is read back up to its closing quote just where it does not end with a backslash. -/
theorem quoted?_escaped_iff : quoted? (escaped text ++ '"' :: rest) = some (text, behind) ↔
    text.getLast? ≠ some '\\' ∧ behind = rest := by
  by_cases last : text.getLast? = some '\\'
  · -- the quote is taken for a part of the text, in place of the backslash
    obtain ⟨front, rfl⟩ := List.getLast?_eq_some_iff.mp last
    have split : escaped (front ++ ['\\']) ++ '"' :: rest =
        escaped front ++ '\\' :: '"' :: rest := by
      simp [escaped]
    rw [split, quoted?_escaped_append (by simp), quoted?]
    simp
  · rw [quoted?_escaped_append fun _ => last, quoted?]
    simp [last, eq_comm]

theorem toList_dotLabel (text : String) : (dotLabel text).toList = escaped text.toList :=
  String.toList_ofList

theorem dropWhile_append_of_plain (plain : '"' ∉ text) :
    (text ++ rest).dropWhile (· != '"') = rest.dropWhile (· != '"') := by
  refine List.dropWhile_append_of_pos fun c member => ?_
  rw [bne_iff_ne]
  rintro rfl
  exact plain member

theorem next?_label_iff {front : List Char} {label : String} (plain : '"' ∉ front) :
    next? (front ++ '"' :: (escaped label.toList ++ '"' :: rest)) = some (label, behind) ↔
      EndsPlain label ∧ behind = rest := by
  have start : next? (front ++ '"' :: (escaped label.toList ++ '"' :: rest)) =
      (quoted? (escaped label.toList ++ '"' :: rest)).map fun (first, behind) =>
        (String.ofList first, behind) := by
    rw [next?, dropWhile_append_of_plain plain]
    rfl
  rw [start, EndsPlain, ← quoted?_escaped_iff]
  simp [Prod.ext_iff, ← String.toList_inj]

end Quotes

section Texts

variable {front rest : List Char} {label : String} {others : List String}

theorem texts?_label_iff {count : Nat} (plain : '"' ∉ front) :
    texts? (count + 1) (front ++ '"' :: (escaped label.toList ++ '"' :: rest)) =
        some (label :: others) ↔
      EndsPlain label ∧ texts? count rest = some others := by
  have step (text : List Char) : texts? (count + 1) text = some (label :: others) ↔
      ∃ behind, next? text = some (label, behind) ∧ texts? count behind = some others := by
    simp only [texts?, bind, Option.bind_eq_some_iff, pure, Option.some.injEq, List.cons.injEq,
      Prod.exists]
    constructor
    · rintro ⟨_, behind, found, _, later, rfl, rfl⟩
      exact ⟨behind, found, later⟩
    · rintro ⟨behind, found, later⟩
      exact ⟨label, behind, found, others, later, rfl, rfl⟩
  simp only [step, next?_label_iff plain, and_assoc, exists_and_left, exists_eq_left]

theorem hasTexts_append {texts : List String} (plain : '"' ∉ front) (later : HasTexts rest texts) :
    HasTexts (front ++ rest) texts := by
  cases later with
  | none none_later => exact .none (by simp [plain, none_later])
  | next found later =>
    rw [next?, ← dropWhile_append_of_plain plain] at found
    exact .next found later

theorem hasTexts_label (plain : '"' ∉ front) (ends : EndsPlain label)
    (later : HasTexts rest others) :
    HasTexts (front ++ '"' :: (escaped label.toList ++ '"' :: rest)) (label :: others) :=
  .next ((next?_label_iff plain).mpr ⟨ends, rfl⟩) later

/-- A text in which these texts stand in quotes, and in front of another text still do. -/
def Adds (text : List Char) (texts : List String) : Prop :=
  ∀ ⦃rest others⦄, HasTexts rest others → HasTexts (text ++ rest) (texts ++ others)

theorem adds_flatMap {α : Type} {line : α → List Char} {held : α → List String} {items : List α}
    (each : ∀ item ∈ items, Adds (line item) (held item)) :
    Adds (items.flatMap line) (items.flatMap held) := by
  intro rest others later
  induction items with
  | nil => exact later
  | cons item items ih =>
    obtain ⟨here, each⟩ := List.forall_mem_cons.mp each
    rw [List.flatMap_cons, List.flatMap_cons, List.append_assoc, List.append_assoc]
    exact here (ih each)

end Texts

end Drawing

namespace Graph

open Drawing

/-- What stands in quotes on the line of a node. -/
def nodeTexts (entry : String × Node) : List String :=
  [entry.1, entry.1 ++ "\\n" ++ entry.2.classType]

/-- What stands in quotes on the line of an edge. -/
def edgeTexts (edge : Edge) : List String := [edge.producer, edge.consumer, edge.input]

-- the quotes of a line, taken apart from what stands between them

theorem toList_opening : "    \"".toList = "    ".toList ++ ['"'] := rfl

theorem toList_labelling : "\" [label=\"".toList = '"' :: (" [label=".toList ++ ['"']) := rfl

theorem toList_arrow : "\" -> \"".toList = '"' :: (" -> ".toList ++ ['"']) := rfl

theorem toList_closing : "\"];\n".toList = '"' :: "];\n".toList := rfl

theorem toList_dotNode (entry : String × Node) : (dotNode entry.1 entry.2.classType).toList =
    "    ".toList ++ '"' :: (escaped entry.1.toList ++ '"' :: (" [label=".toList ++ '"' ::
      (escaped (entry.1 ++ "\\n" ++ entry.2.classType).toList ++ '"' :: "];\n".toList))) := by
  have unescaped : escaped "\\n".toList = "\\n".toList := rfl
  simp only [dotNode, String.toList_append, toList_dotLabel, escaped_append, unescaped,
    toList_opening, toList_labelling, toList_closing, List.append_assoc, List.cons_append,
    List.nil_append]

theorem toList_dotEdge (edge : Edge) : (dotEdge edge).toList =
    "    ".toList ++ '"' :: (escaped edge.producer.toList ++ '"' :: (" -> ".toList ++ '"' ::
      (escaped edge.consumer.toList ++ '"' :: (" [label=".toList ++ '"' ::
        (escaped edge.input.toList ++ '"' :: "];\n".toList))))) := by
  simp only [dotEdge, String.toList_append, toList_dotLabel, toList_opening, toList_arrow,
    toList_labelling, toList_closing, List.append_assoc, List.cons_append, List.nil_append]

theorem texts?_dotNode_iff (entry : String × Node) :
    texts? 1 (dotNode entry.1 entry.2.classType).toList = some [entry.1] ↔ EndsPlain entry.1 := by
  rw [toList_dotNode, texts?_label_iff (by decide)]
  exact and_iff_left rfl

theorem texts?_dotEdge_iff (edge : Edge) :
    texts? 3 (dotEdge edge).toList = some [edge.producer, edge.consumer, edge.input] ↔
      EndsPlain edge.producer ∧ EndsPlain edge.consumer ∧ EndsPlain edge.input := by
  rw [toList_dotEdge, texts?_label_iff (by decide), texts?_label_iff (by decide),
    texts?_label_iff (by decide), and_iff_left (show texts? 0 _ = some [] from rfl)]

theorem endsPlain_nodeLabel {id classType : String} (ends : EndsPlain classType) :
    EndsPlain (id ++ "\\n" ++ classType) := by
  rw [EndsPlain, String.toList_append, List.getLast?_append]
  -- where there is no class type, the label ends with the line break in front of it
  cases last : classType.toList.getLast? with
  | none =>
    rw [Option.none_or, String.toList_append, List.getLast?_append]
    exact fun same => absurd (Option.some.inj same) (by decide)
  | some c =>
    rw [Option.some_or, ← last]
    exact ends

theorem adds_dotNode {entry : String × Node} (ends : EndsPlain entry.1)
    (classEnds : EndsPlain entry.2.classType) :
    Adds (dotNode entry.1 entry.2.classType).toList (nodeTexts entry) := by
  intro rest others later
  rw [toList_dotNode]
  simp only [List.append_assoc, List.cons_append]
  exact hasTexts_label (by decide) ends (hasTexts_label (by decide) (endsPlain_nodeLabel classEnds)
    (hasTexts_append (by decide) later))

theorem adds_dotEdge {edge : Edge} (producer : EndsPlain edge.producer)
    (consumer : EndsPlain edge.consumer) (input : EndsPlain edge.input) :
    Adds (dotEdge edge).toList (edgeTexts edge) := by
  intro rest others later
  rw [toList_dotEdge]
  simp only [List.append_assoc, List.cons_append]
  exact hasTexts_label (by decide) producer (hasTexts_label (by decide) consumer
    (hasTexts_label (by decide) input (hasTexts_append (by decide) later)))

theorem toList_lines (header footer : String) (nodes edges : List String) :
    (header ++ String.join nodes ++ String.join edges ++ footer).toList =
      header.toList ++ (nodes.flatMap String.toList ++
        (edges.flatMap String.toList ++ footer.toList)) := by
  simp only [String.toList_append, String.toList_join, List.append_assoc]

/-- On the line of a node its id is read as the first text just where it does not end with a
backslash, and on the line of an edge its ends and its input just where none of these does. Where no
text ends so, the whole drawing holds the texts of its lines and nothing else in quotes. -/
theorem dot_readBack (graph : Graph) :
    (∀ entry ∈ graph.entries,
      texts? 1 (dotNode entry.1 entry.2.classType).toList = some [entry.1] ↔ EndsPlain entry.1) ∧
    (∀ edge ∈ graph.edges,
      texts? 3 (dotEdge edge).toList = some [edge.producer, edge.consumer, edge.input] ↔
        EndsPlain edge.producer ∧ EndsPlain edge.consumer ∧ EndsPlain edge.input) ∧
    ((∀ entry ∈ graph.entries, EndsPlain entry.1 ∧ EndsPlain entry.2.classType) →
      (∀ edge ∈ graph.edges, EndsPlain edge.input) →
      HasTexts graph.dot.toList
        (graph.entries.flatMap nodeTexts ++ graph.edges.flatMap edgeTexts)) := by
  refine ⟨fun entry _ => texts?_dotNode_iff entry, fun edge _ => texts?_dotEdge_iff edge, ?_⟩
  intro nodes inputs
  -- the ends of an edge are ids of nodes, so nothing need be asked of them
  have ids : ∀ id ∈ graph.ids, EndsPlain id := by
    intro id member
    obtain ⟨entry, inside, rfl⟩ := List.mem_map.mp member
    exact (nodes entry inside).1
  have nodeLines := adds_flatMap fun entry member =>
    adds_dotNode (nodes entry member).1 (nodes entry member).2
  have edgeLines := adds_flatMap fun edge member => adds_dotEdge
    (ids _ (producer_mem_ids member)) (ids _ (consumer_mem_ids member)) (inputs edge member)
  have lines : graph.dot.toList = _ := toList_lines _ _ _ _
  rw [lines, List.flatMap_map, List.flatMap_map,
    ← List.append_nil (graph.edges.flatMap edgeTexts)]
  refine hasTexts_append ?_ (nodeLines (edgeLines (.none ?_)))
  · decide
  · decide

/-- A graph whose texts hold quotes and backslashes. -/
def marked : Graph := ⟨.ofList [("say \"a\"", .ofClass "Load\\Image"),
  ("\\\"b", (Node.ofClass "\"").withInput "im\\\"age" (.wired ⟨"say \"a\"", 0⟩))]⟩

theorem dot_readBack_marked :
    (∀ entry ∈ marked.entries, EndsPlain entry.1 ∧ EndsPlain entry.2.classType) ∧
    (∀ edge ∈ marked.edges, EndsPlain edge.input) ∧
    HasTexts marked.dot.toList ["say \"a\"", "say \"a\"\\nLoad\\Image", "\\\"b", "\\\"b\\n\"",
      "say \"a\"", "\\\"b", "im\\\"age"] := by
  have nodes : ∀ entry ∈ marked.entries, EndsPlain entry.1 ∧ EndsPlain entry.2.classType := by
    unfold EndsPlain
    decide
  have inputs : ∀ edge ∈ marked.edges, EndsPlain edge.input := by
    unfold EndsPlain
    decide
  exact ⟨nodes, inputs, (dot_readBack marked).2.2 nodes inputs⟩

/-- A graph with a node whose id ends with a backslash. -/
def slashed : Graph := ⟨.ofList [("a\\", .ofClass "LoadImage"),
  ("b", (Node.ofClass "SaveImage").withInput "images" (.wired ⟨"a\\", 0⟩))]⟩

/-- The closing quote of the id is taken for a part of it. -/
theorem slashed_misread : ¬ ∀ graph : Graph,
    (∀ entry ∈ graph.entries,
      texts? 1 (dotNode entry.1 entry.2.classType).toList = some [entry.1]) ∧
    ∀ edge ∈ graph.edges,
      texts? 3 (dotEdge edge).toList = some [edge.producer, edge.consumer, edge.input] := by
  intro all
  have read := (all slashed).1 ("a\\", .ofClass "LoadImage") (.head _)
  have misread : texts? 1 (dotNode "a\\" "LoadImage").toList = some ["a\" [label="] := by decide
  exact absurd (misread.symm.trans read) (by decide)

end Graph

end Flowgraph
