import Flowgraph.Proofs.ImportScan.Clauses
import Flowgraph.Proofs.Text.Preferred

/-!
# Reading import statements

What is read from a line that holds one import statement: from an import statement the modules of
its list, from a from statement its module, and nothing from one that imports from the package it is
in.

Main result: `ImportScan.packages_of_statement`.
-/
namespace Flowgraph.ImportScan

/-- A comment, or none. -/
structure Comment where
  text : List Char
  marked : text.head?.all (· == '#') = true
  single : '\n' ∉ text

/-- A line with an import statement. -/
structure ImportLine where
  indent : Blanks
  gap : Gap
  list : ModuleList
  comment : Comment

def ImportLine.text (line : ImportLine) : List Char :=
  line.indent.text ++ ("import".toList ++ (line.gap.text ++ (line.list.text ++ line.comment.text)))

/-- A line with a from statement; it goes on as it likes behind the second keyword. -/
structure FromLine where
  indent : Blanks
  before : Gap
  module : DottedName
  after : Gap
  rest : List Char
  wordEnds : rest.head?.any Unicode.isWord = false
  single : '\n' ∉ rest

def FromLine.text (line : FromLine) : List Char :=
  line.indent.text ++ ("from".toList ++ (line.before.text ++ (line.module.text ++
    (line.after.text ++ ("import".toList ++ line.rest)))))

/-- A line with a from statement whose module begins with a dot. -/
structure RelativeLine where
  indent : Blanks
  gap : Blanks
  rest : List Char
  single : '\n' ∉ rest

def RelativeLine.text (line : RelativeLine) : List Char :=
  line.indent.text ++ ("from".toList ++ (line.gap.text ++ '.' :: line.rest))

open Pattern

section Characters

theorem inList_of_isWord {c : Char} (letter : Unicode.isWord c = true) : inList c = true := by
  simp only [inList, Bool.and_eq_true, bne_iff_ne]
  refine ⟨⟨?_, ?_⟩, ?_⟩ <;> rintro rfl <;> exact absurd letter (by decide)

theorem inList_of_isGap {c : Char} (gap : isGap c = true) : inList c = true :=
  passes_of_isGap inList rfl rfl gap

theorem not_inDottedName_of_isGap {c : Char} (gap : isGap c = true) : inDottedName c = false := by
  simpa using passes_of_isGap (fun c => !inDottedName c) (by decide) (by decide) gap

theorem not_beginsName_of_isGap {c : Char} (gap : isGap c = true) : beginsName c = false := by
  simpa using passes_of_isGap (fun c => !beginsName c) (by decide) (by decide) gap

theorem not_isGap_of_inModule {c : Char} (inside : inModule c = true) : isGap c = false := by
  simpa using passes_of_inModule (fun c => !isGap c) (by decide) inside

theorem Clause.inList_of_mem {clause : Clause} {c : Char} (member : c ∈ clause.text) :
    inList c = true := by
  rcases List.mem_append.mp member with module | other
  · exact passes_of_inModule inList (by decide) (DottedName.inModule_of_mem module)
  · rw [Clause.aliasText] at other
    cases given : clause.alias? with
    | none =>
      rw [given] at other
      contradiction
    | some name =>
      rw [given] at other
      exact Alias.passes inList (fun _ => inList_of_isGap) (fun _ => inList_of_isWord) other

theorem ModuleList.inList_of_mem {list : ModuleList} {c : Char} (member : c ∈ list.text) :
    inList c = true := by
  simp only [ModuleList.text, List.mem_append, List.mem_flatMap] at member
  rcases member with (⟨item, -, inside⟩ | last) | trailing
  · simp only [Item.text, List.mem_append, List.mem_cons] at inside
    rcases inside with (clause | before) | rfl | after
    · exact Clause.inList_of_mem clause
    · exact inList_of_isGap (item.before.blank c before)
    · rfl
    · exact inList_of_isGap (item.after.blank c after)
  · exact Clause.inList_of_mem last
  · exact inList_of_isGap (list.trailing.blank c trailing)

end Characters

variable {place stop : Place} {rest : List Char}

theorem ModuleList.exists_cons (list : ModuleList) :
    ∃ c rest, list.text = c :: rest ∧ inModule c = true := by
  obtain ⟨⟨c, first, inside⟩, -⟩ := exists_ends list.items list.last.module
  obtain ⟨rest, parts⟩ := List.head?_eq_some_iff.mp first
  refine ⟨c, rest ++ (list.last.aliasText ++ list.trailing.text), ?_, inside⟩
  rw [← List.cons_append, ← parts]
  simp [text, Clause.text]

theorem Comment.refuses (comment : Comment) : comment.text.head?.any inList = false := by
  obtain ⟨text, marked, -⟩ := comment
  cases text with
  | nil => rfl
  | cons c text =>
    cases beq_iff_eq.mp marked
    rfl

theorem leadsTo_importPattern (gap : Gap) (list : ModuleList)
    (refused : rest.head?.any inList = false)
    (follows : place.after = "import".toList ++ (gap.text ++ (list.text ++ rest))) :
    ∃ stop, importPattern.LeadsTo place stop ∧ stop.groups = (2, list.text) :: place.groups := by
  obtain ⟨c, more, begins, inside⟩ := list.exists_cons
  have filled : list.text ≠ [] := begins ▸ List.cons_ne_nil _ _
  have stops : (list.text ++ rest).head?.any isGap = false := by
    rw [begins]
    exact not_isGap_of_inModule inside
  -- every part takes as much as it can, and what follows goes on from there
  have word := leadsTo_word follows
  have blanks {place : Place} (follows : place.after = gap.text ++ (list.text ++ rest)) :=
    leadsTo_atLeastOne gap.some gap.blank stops follows
  have held {place : Place} (follows : place.after = list.text ++ rest) :=
    leadsTo_group 2 follows (leadsTo_atLeastOne filled (fun _ => ModuleList.inList_of_mem)
      refused follows)
  exact ⟨_, leadsTo_andThen word (leadsTo_andThen (blanks rfl) (leadsTo_andThen (held rfl)
    leadsTo_nothing)), rfl⟩

theorem leadsTo_moduleName {name : DottedName} (follows : place.after = name.text ++ rest)
    (stops : rest.head?.any inDottedName = false) :
    (inOrder [.one beginsName, .many inDottedName]).LeadsTo place (place.past name.text rest) := by
  obtain ⟨more, parts⟩ : ∃ more, name.text = name.top.first :: more := ⟨_, rfl⟩
  have letters : ∀ c ∈ more, inDottedName c = true := by
    intro c member
    have inside : c ∈ name.text := parts ▸ List.mem_cons_of_mem _ member
    exact inDottedName_of_inModule (DottedName.inModule_of_mem inside)
  rw [parts] at follows ⊢
  have here := leadsTo_one name.top.begins follows
  have later : (many inDottedName).LeadsTo (place.past [name.top.first] (more ++ rest)) _ :=
    leadsTo_many letters stops rfl
  rw [Place.past_past] at later
  exact leadsTo_andThen here (leadsTo_andThen later leadsTo_nothing)

theorem leadsTo_fromPattern (before after : Gap) (module : DottedName)
    (wordEnds : rest.head?.any Unicode.isWord = false)
    (follows : place.after = "from".toList ++ (before.text ++ (module.text ++
      (after.text ++ ("import".toList ++ rest))))) :
    ∃ stop, fromPattern.LeadsTo place stop ∧ stop.groups = (1, module.text) :: place.groups := by
  have first : inModule module.top.first = true :=
    inModule_of_inName (Name.inName_of_mem List.mem_cons_self)
  have stops : (module.text ++ (after.text ++ ("import".toList ++ rest))).head?.any isGap = false :=
    not_isGap_of_inModule first
  have word := leadsTo_word follows
  have blanks {place : Place} (follows : place.after = before.text ++ (module.text ++
      (after.text ++ ("import".toList ++ rest)))) :=
    leadsTo_atLeastOne before.some before.blank stops follows
  have behind : (after.text ++ ("import".toList ++ rest)).head?.any inDottedName = false := by
    obtain ⟨c, more, parts, blank⟩ := after.exists_cons
    rw [parts]
    exact not_inDottedName_of_isGap blank
  have held {place : Place} (follows : place.after = module.text ++
      (after.text ++ ("import".toList ++ rest))) :=
    leadsTo_group 1 follows (leadsTo_moduleName follows behind)
  have more {place : Place} (follows : place.after = after.text ++ ("import".toList ++ rest)) :=
    leadsTo_atLeastOne after.some after.blank rfl follows
  have edge {place : Place} :
      wordEdge.LeadsTo (place.past "import".toList rest) (place.past "import".toList rest) := by
    apply leadsTo_wordEdge
    rw [Place.atWordEdge, bne_iff_ne]
    change Unicode.isWord 't' ≠ rest.head?.any Unicode.isWord
    rw [wordEnds]
    decide
  exact ⟨_, leadsTo_andThen word (leadsTo_andThen (blanks rfl) (leadsTo_andThen (held rfl)
    (leadsTo_andThen (more rfl) (leadsTo_andThen (leadsTo_word rfl) (leadsTo_andThen edge
    leadsTo_nothing))))), rfl⟩

theorem found_statement {text : List Char} (single : '\n' ∉ text) :
    statement.found text = ((statement.match? none text).map Place.groups).toList :=
  found_of_lineStart single

theorem leadsTo_statement (indent : Blanks) (stops : rest.head?.any isGap = false)
    (here : (either fromPattern importPattern).LeadsTo
      ((Place.start none (indent.text ++ rest)).past indent.text rest) stop) :
    statement.LeadsTo (.start none (indent.text ++ rest)) stop :=
  leadsTo_andThen (leadsTo_lineStart rfl) (leadsTo_andThen (leadsTo_many indent.blank stops rfl)
    (leadsTo_andThen here leadsTo_nothing))

theorem fromPattern_ends_of_ne {c : Char} (other : c ≠ 'f') (follows : place.after = c :: rest) :
    fromPattern.ends place = [] :=
  ends_andThen_of_first (ends_word_of_ne rfl other follows)

theorem importPattern_ends_of_ne {c : Char} (other : c ≠ 'i') (follows : place.after = c :: rest) :
    importPattern.ends place = [] :=
  ends_andThen_of_first (ends_word_of_ne rfl other follows)

/-- What stands behind the list of an import statement, on the same line, is not looked at. -/
theorem found_import (indent : Blanks) (gap : Gap) (list : ModuleList)
    (refused : rest.head?.any inList = false) (single : '\n' ∉ rest) :
    statement.found (indent.text ++ ("import".toList ++ (gap.text ++ (list.text ++ rest)))) =
      [[(2, list.text)]] := by
  have line : '\n' ∉ indent.text ++ ("import".toList ++ (gap.text ++ (list.text ++ rest))) := by
    simp only [List.mem_append, not_or]
    exact ⟨Blanks.not_mem rfl, by decide, Blanks.not_mem rfl,
      fun member => absurd (ModuleList.inList_of_mem member) (by decide), single⟩
  have follows : ((Place.start none (indent.text ++ ("import".toList ++ (gap.text ++
      (list.text ++ rest))))).past indent.text
        ("import".toList ++ (gap.text ++ (list.text ++ rest)))).after = _ := rfl
  obtain ⟨stop, here, groups⟩ := leadsTo_importPattern gap list refused follows
  have whole : statement.match? none _ = some stop :=
    leadsTo_statement indent rfl
      (leadsTo_either_right (fromPattern_ends_of_ne (by decide) follows) here)
  rw [found_statement line, whole, Option.map_some, groups]
  rfl

theorem found_importLine (line : ImportLine) :
    statement.found line.text = [[(2, line.list.text)]] :=
  found_import line.indent line.gap line.list line.comment.refuses line.comment.single

theorem found_fromLine (line : FromLine) :
    statement.found line.text = [[(1, line.module.text)]] := by
  have single : '\n' ∉ line.text := by
    simp only [FromLine.text, List.mem_append, not_or]
    exact ⟨Blanks.not_mem rfl, by decide, Blanks.not_mem rfl,
      fun member => absurd (DottedName.inModule_of_mem member) (by decide), Blanks.not_mem rfl,
      by decide, line.single⟩
  have follows : ((Place.start none line.text).past line.indent.text
      ("from".toList ++ (line.before.text ++ (line.module.text ++
        (line.after.text ++ ("import".toList ++ line.rest)))))).after = _ := rfl
  obtain ⟨stop, here, groups⟩ :=
    leadsTo_fromPattern line.before line.after line.module line.wordEnds follows
  have whole : statement.match? none line.text = some stop :=
    leadsTo_statement line.indent rfl (leadsTo_either_left here)
  rw [found_statement single, whole, Option.map_some, groups]
  rfl

/-- Neither blanks nor a dot begin the name that a from statement asks for. -/
theorem fromPattern_ends_of_dot {gap : Blanks}
    (follows : place.after = "from".toList ++ (gap.text ++ '.' :: rest)) :
    fromPattern.ends place = [] := by
  refine ends_andThen_of_second fun keyword member => ?_
  cases List.mem_singleton.mp (ends_word follows ▸ member)
  refine ends_andThen_of_second fun before member => ?_
  obtain ⟨run, later, split, all, rfl⟩ := behindRun_of_mem_atLeastOne rfl member
  have refused : later.head?.any beginsName = false := by
    rcases rest_of_run (by decide) split all with ⟨c, more, rfl, blank⟩ | rfl
    · exact not_beginsName_of_isGap (gap.blank c blank)
    · rfl
  exact ends_andThen_of_first (ends_group (ends_andThen_of_first (ends_one_of_refused refused)))

theorem found_relativeLine (line : RelativeLine) : statement.found line.text = [] := by
  have single : '\n' ∉ line.text := by
    simp only [RelativeLine.text, List.mem_append, List.mem_cons, not_or]
    exact ⟨Blanks.not_mem rfl, by decide, Blanks.not_mem rfl, by decide, line.single⟩
  have none : statement.ends (.start none line.text) = [] := by
    refine ends_andThen_of_second fun start member => ?_
    cases List.mem_singleton.mp member
    refine ends_andThen_of_second fun place member => ?_
    obtain ⟨run, later, split, all, rfl⟩ := behindRun_of_mem_many rfl member
    refine ends_andThen_of_first ?_
    -- the statement can begin at a blank or at the keyword only
    rcases rest_of_run (by decide) split all with ⟨c, more, rfl, blank⟩ | rfl
    · have noKeyword : c ≠ 'f' ∧ c ≠ 'i' := by
        constructor <;> rintro rfl <;> exact absurd (line.indent.blank _ blank) (by decide)
      rw [ends, fromPattern_ends_of_ne noKeyword.1 rfl, importPattern_ends_of_ne noKeyword.2 rfl]
      rfl
    · rw [ends, fromPattern_ends_of_dot rfl, importPattern_ends_of_ne (by decide) rfl]
      rfl
  rw [found_statement single, match?, none]
  rfl

/-- An import statement names exactly what is installed for the modules of its list, a from
statement exactly what is installed for its module, and one whose module begins with a dot names
nothing. -/
theorem packages_of_statement :
    (∀ line : ImportLine, packages (String.ofList line.text) =
      nameSet (line.list.modules.map DottedName.package)) ∧
    (∀ line : FromLine, packages (String.ofList line.text) = [line.module.package]) ∧
    ∀ line : RelativeLine, packages (String.ofList line.text) = [] := by
  refine ⟨fun line => ?_, fun line => ?_, fun line => ?_⟩
  · rw [packages, String.toList_ofList, found_importLine, List.flatMap_singleton]
    have read : modules [(2, line.list.text)] = line.list.modules.map DottedName.text :=
      ModuleList.listedModules_text line.list
    rw [read, List.filterMap_map]
    have named : package? ∘ DottedName.text = some ∘ DottedName.package :=
      funext DottedName.package?_text
    rw [named, ← List.filterMap_eq_map]
  · rw [packages, String.toList_ofList, found_fromLine, List.flatMap_singleton]
    have read : modules [(1, line.module.text)] = [line.module.text] := rfl
    rw [read, List.filterMap_cons, DottedName.package?_text]
    rfl
  · rw [packages, String.toList_ofList, found_relativeLine]
    rfl

example : ∃ line : ImportLine, line.text = "\timport os.path , cv2 as cv  # both".toList :=
  let space : Blanks := ⟨[' '], List.all_eq_true.mp rfl⟩
  let gap : Gap := ⟨space, List.cons_ne_nil _ _⟩
  let os : DottedName := ⟨⟨'o', "s".toList, rfl, List.all_eq_true.mp rfl⟩,
    [⟨'p', "ath".toList, rfl, List.all_eq_true.mp rfl⟩]⟩
  let cv : DottedName := ⟨⟨'c', "v2".toList, rfl, List.all_eq_true.mp rfl⟩, []⟩
  ⟨⟨⟨['\t'], List.all_eq_true.mp rfl⟩, gap, ⟨[⟨⟨os, none⟩, space, space⟩],
    ⟨cv, some ⟨gap, gap, "cv".toList, List.all_eq_true.mp rfl⟩⟩,
    ⟨[' ', ' '], List.all_eq_true.mp rfl⟩⟩, ⟨"# both".toList, rfl, by decide⟩⟩, rfl⟩

end Flowgraph.ImportScan
