import Flowgraph.Proofs.ImportScan.LineByLine
import Flowgraph.Proofs.ImportScan.Statements

/-!
# Statements joined on one line

A statement is looked for at the start of a line, and the list of an import statement ends at a
semicolon. So of the statements that stand on one line only the first is read, and the others are
named by what is read just where they need the package that the first one needs.

Main result: `ImportScan.packages_joined`.
-/
namespace Flowgraph.ImportScan

/-- An import statement for one module, or a from statement for one name of a module. -/
inductive PlainStatement
  | importing (module : DottedName)
  | importingFrom (module name : DottedName)

namespace PlainStatement

def module : PlainStatement → DottedName
  | importing module => module
  | importingFrom module _ => module

def text : PlainStatement → List Char
  | importing module => "import".toList ++ ' ' :: module.text
  | importingFrom module name =>
    "from".toList ++ ' ' :: (module.text ++ ' ' :: ("import".toList ++ ' ' :: name.text))

-- both cases are stated here, since Lean evaluates the words when it looks for equations of `text`

theorem text_importing (module : DottedName) :
    (importing module).text = "import".toList ++ ' ' :: module.text := rfl

theorem text_importingFrom (module name : DottedName) :
    (importingFrom module name).text =
      "from".toList ++ ' ' :: (module.text ++ ' ' :: ("import".toList ++ ' ' :: name.text)) := rfl

/-- What is installed for the module of a statement. -/
def package (plain : PlainStatement) : String := plain.module.package

end PlainStatement

/-- Statements on one line, with semicolons between them. -/
def joined (statements : List PlainStatement) : List Char :=
  [';', ' '].intercalate (statements.map PlainStatement.text)

/-- What can stand behind a statement on its line: nothing, or a semicolon and more. -/
structure IsRemainder (rest : List Char) : Prop where
  begins : rest.head?.all (· == ';') = true
  single : '\n' ∉ rest

theorem DottedName.lineBreak_not_mem (name : DottedName) : '\n' ∉ name.text :=
  fun member => absurd (inModule_of_mem member) (by decide)

theorem PlainStatement.lineBreak_not_mem (plain : PlainStatement) : '\n' ∉ plain.text := by
  cases plain with
  | importing module =>
    simp only [text_importing, List.mem_append, List.mem_cons, not_or]
    exact ⟨by decide, by decide, module.lineBreak_not_mem⟩
  | importingFrom module name =>
    simp only [text_importingFrom, List.mem_append, List.mem_cons, not_or]
    exact ⟨by decide, by decide, module.lineBreak_not_mem, by decide, by decide, by decide,
      name.lineBreak_not_mem⟩

theorem joined_singleton (plain : PlainStatement) : joined [plain] = plain.text :=
  List.intercalate_singleton

theorem joined_cons_cons (first second : PlainStatement) (others : List PlainStatement) :
    joined (first :: second :: others) =
      first.text ++ ([';', ' '] ++ joined (second :: others)) := by
  rw [← List.append_assoc]
  exact List.intercalate_cons_cons

theorem lineBreak_not_mem_joined (statements : List PlainStatement) :
    '\n' ∉ joined statements := by
  induction statements with
  | nil => exact List.not_mem_nil
  | cons first others ih =>
    cases others with
    | nil => exact joined_singleton first ▸ first.lineBreak_not_mem
    | cons second others =>
      simp only [joined_cons_cons, List.mem_append, not_or]
      exact ⟨first.lineBreak_not_mem, by decide, ih⟩

theorem exists_joined_cons (first : PlainStatement) (others : List PlainStatement) :
    ∃ rest, joined (first :: others) = first.text ++ rest ∧ IsRemainder rest := by
  cases others with
  | nil => exact ⟨[], (List.append_nil _).symm ▸ joined_singleton first, rfl, List.not_mem_nil⟩
  | cons second others =>
    refine ⟨_, joined_cons_cons first second others, rfl, ?_⟩
    rw [List.mem_append, not_or]
    exact ⟨by decide, lineBreak_not_mem_joined _⟩

theorem IsRemainder.refused {rest : List Char} (remainder : IsRemainder rest) :
    rest.head?.any inList = false := by
  cases rest with
  | nil => rfl
  | cons c rest =>
    cases beq_iff_eq.mp remainder.begins
    rfl

/-- No blanks. -/
def Blanks.none : Blanks := ⟨[], nofun⟩

def Gap.space : Gap := ⟨⟨[' '], List.all_eq_true.mp rfl⟩, List.cons_ne_nil _ _⟩

/-- The list that names one module. -/
def ModuleList.single (module : DottedName) : ModuleList := ⟨[], ⟨module, .none⟩, .none⟩

theorem ModuleList.text_single (module : DottedName) : (single module).text = module.text := by
  simp [single, text, Clause.text, Clause.aliasText, Blanks.none]

/-- A line has one match, the one of its first statement. -/
theorem found_plain (plain : PlainStatement) {rest : List Char} (remainder : IsRemainder rest) :
    ∃ groups, statement.found (plain.text ++ rest) = [groups] ∧
      modules groups = [plain.module.text] := by
  cases plain with
  | importing module =>
    have read := (ModuleList.single module).listedModules_text
    have found := found_import .none .space (.single module) remainder.refused remainder.single
    rw [ModuleList.text_single] at read found
    exact ⟨_, found, read⟩
  | importingFrom module name =>
    -- behind its import a from statement may have anything, the other statements among it
    have single : '\n' ∉ ' ' :: (name.text ++ rest) := by
      simp only [List.mem_cons, List.mem_append, not_or]
      exact ⟨by decide, name.lineBreak_not_mem, remainder.single⟩
    have found := found_fromLine ⟨.none, .space, module, .space, _, rfl, single⟩
    have whole : (PlainStatement.importingFrom module name).text ++ rest =
        FromLine.text ⟨.none, .space, module, .space, _, rfl, single⟩ := by
      simp [PlainStatement.text_importingFrom, FromLine.text, Blanks.none, Gap.space]
    exact ⟨_, whole ▸ found, rfl⟩

theorem packages_plain (plain : PlainStatement) {rest : List Char} (remainder : IsRemainder rest) :
    packages (String.ofList (plain.text ++ rest)) = [plain.package] := by
  obtain ⟨groups, found, named⟩ := found_plain plain remainder
  rw [packages, String.toList_ofList, found, List.flatMap_singleton, named,
    List.filterMap_cons, DottedName.package?_text]
  rfl

/-- Of the statements on a line only the first is read: what the line names is the package of the
first statement, and so another statement's package is named just where it is the same. -/
theorem packages_joined (statements : List PlainStatement) :
    packages (String.ofList (joined statements)) =
      (statements.head?.map PlainStatement.package).toList ∧
    ∀ plain ∈ statements, plain.package ∈ packages (String.ofList (joined statements)) ↔
      statements.head?.map PlainStatement.package = some plain.package := by
  have first : packages (String.ofList (joined statements)) =
      (statements.head?.map PlainStatement.package).toList := by
    cases statements with
    | nil => exact packages_empty
    | cons plain others =>
      obtain ⟨rest, whole, remainder⟩ := exists_joined_cons plain others
      rw [whole, packages_plain plain remainder]
      rfl
  refine ⟨first, fun plain _ => ?_⟩
  rw [first, Option.mem_toList]

/-- A statement behind another one is not read. -/
theorem second_statement_unread :
    ¬ ∀ statements : List PlainStatement, ∀ plain ∈ statements,
      plain.package ∈ packages (String.ofList (joined statements)) := by
  intro all
  let os : DottedName := ⟨⟨'o', ['s'], rfl, List.all_eq_true.mp rfl⟩, []⟩
  let sys : DottedName := ⟨⟨'s', ['y', 's'], rfl, List.all_eq_true.mp rfl⟩, []⟩
  have named := all [.importing os, .importing sys] (.importing sys) (by simp)
  obtain ⟨rest, whole, remainder⟩ := exists_joined_cons (.importing os) [.importing sys]
  rw [whole, packages_plain _ remainder] at named
  exact absurd named (by decide)

end Flowgraph.ImportScan
