import Flowgraph.ImportScan
import Mathlib.Data.List.Basic

/-!
# The list of an import statement

A clause names a module, by names joined with dots, and can give it another name. In the list of
an import statement clauses follow each other, with commas between them and blanks around those.

Main result: `ImportScan.ModuleList.listedModules_text` reads the modules of the clauses from
such a list.
-/
namespace Flowgraph.ImportScan

/-- Whether a character can be part of a name. -/
def inName (c : Char) : Bool := beginsName c || c.isDigit

structure Name where
  first : Char
  rest : List Char
  begins : beginsName first = true
  continues : ∀ c ∈ rest, inName c = true

def Name.text (name : Name) : List Char := name.first :: name.rest

/-- A module, or one inside of it. -/
structure DottedName where
  top : Name
  inner : List Name

def DottedName.text (name : DottedName) : List Char :=
  name.top.text ++ name.inner.flatMap fun part => '.' :: part.text

/-- What is installed for a module. -/
def DottedName.package (name : DottedName) : String := distribution (String.ofList name.top.text)

/-- Any number of spaces and tabs. -/
structure Blanks where
  text : List Char
  blank : ∀ c ∈ text, isGap c = true

/-- At least one space or tab. -/
structure Gap extends Blanks where
  some : text ≠ []

/-- Another name for a module; it can be any word. -/
structure Alias where
  before : Gap
  after : Gap
  word : List Char
  letters : ∀ c ∈ word, Unicode.isWord c = true

def Alias.text (other : Alias) : List Char :=
  other.before.text ++ "as".toList ++ other.after.text ++ other.word

structure Clause where
  module : DottedName
  alias? : Option Alias

/-- What stands behind the module of a clause. -/
def Clause.aliasText (clause : Clause) : List Char := (clause.alias?.map Alias.text).getD []

def Clause.text (clause : Clause) : List Char := clause.module.text ++ clause.aliasText

/-- A clause that a comma follows. -/
structure Item where
  clause : Clause
  before : Blanks
  after : Blanks

def Item.text (item : Item) : List Char :=
  item.clause.text ++ item.before.text ++ ',' :: item.after.text

section Characters

/-- Whether a character can be part of a dotted name. -/
def inModule (c : Char) : Bool := inName c || c = '.'

theorem lt_of_inModule {c : Char} (inside : inModule c = true) : c.toNat < 128 := by
  simp only [inModule, inName, beginsName, Char.isDigit, Bool.or_eq_true, Bool.and_eq_true,
    decide_eq_true_eq, ge_iff_le, Char.le_def, UInt32.le_iff_toNat_le] at inside
  change c.val.toNat < 128
  rcases inside with (((⟨-, below⟩ | ⟨-, below⟩) | rfl) | ⟨-, below⟩) | rfl
  · exact Nat.lt_of_le_of_lt below (by decide)
  · exact Nat.lt_of_le_of_lt below (by decide)
  · decide
  · exact Nat.lt_of_le_of_lt below (by decide)
  · decide

/-- What holds for the characters of dotted names can be checked one by one. -/
theorem passes_of_inModule (test : Char → Bool)
    (all : ∀ n < 128, inModule (Char.ofNat n) = true → test (Char.ofNat n) = true) {c : Char}
    (inside : inModule c = true) : test c = true := by
  have passes := all c.toNat (lt_of_inModule inside)
  rw [Char.ofNat_toNat] at passes
  exact passes inside

theorem inDottedName_of_inModule {c : Char} (inside : inModule c = true) :
    inDottedName c = true :=
  passes_of_inModule inDottedName (by decide) inside

theorem not_isBlank_of_inModule {c : Char} (inside : inModule c = true) :
    Unicode.isBlank c = false := by
  simpa using passes_of_inModule (fun c => !Unicode.isBlank c) (by decide) inside

theorem passes_of_isGap (test : Char → Bool) (space : test ' ' = true) (tab : test '\t' = true)
    {c : Char} (gap : isGap c = true) : test c = true := by
  rcases (by simpa [isGap] using gap : c = ' ' ∨ c = '\t') with rfl | rfl
  · exact space
  · exact tab

theorem isBlank_of_isGap {c : Char} (gap : isGap c = true) : Unicode.isBlank c = true :=
  passes_of_isGap Unicode.isBlank rfl rfl gap

end Characters

section Texts

theorem Name.inName_of_mem {name : Name} {c : Char} (member : c ∈ name.text) : inName c = true := by
  rcases List.mem_cons.mp member with rfl | later
  · rw [inName, name.begins, Bool.true_or]
  · exact name.continues c later

theorem inModule_of_inName {c : Char} (inside : inName c = true) : inModule c = true := by
  rw [inModule, inside, Bool.true_or]

theorem DottedName.inModule_of_mem {name : DottedName} {c : Char} (member : c ∈ name.text) :
    inModule c = true := by
  rcases List.mem_append.mp member with top | later
  · exact inModule_of_inName (Name.inName_of_mem top)
  · obtain ⟨part, -, inside⟩ := List.mem_flatMap.mp later
    rcases List.mem_cons.mp inside with rfl | inside
    · rfl
    · exact inModule_of_inName (Name.inName_of_mem inside)

/-- The first part of a dotted name is its module. -/
theorem DottedName.package?_text (name : DottedName) :
    package? name.text = some name.package := by
  have undotted : ∀ c ∈ name.top.text, (c != '.') = true := by
    intro c member
    rw [bne_iff_ne]
    rintro rfl
    exact absurd (Name.inName_of_mem member) (by decide)
  have dotted : (name.inner.flatMap fun part => '.' :: part.text).takeWhile (· != '.') = [] := by
    cases name.inner <;> rfl
  have top : name.text.takeWhile (· != '.') = name.top.text := by
    rw [text, List.takeWhile_append_of_pos undotted, dotted, List.append_nil]
  rw [package?, top]
  rfl

/-- What can stand behind a module in the list of an import statement, up to the next comma. -/
structure IsTail (text : List Char) : Prop where
  begins : text.head?.all Unicode.isBlank = true
  single : ',' ∉ text

theorem IsTail.front {text front : List Char} (tail : IsTail text) (part : front <+: text) :
    IsTail front := by
  refine ⟨?_, fun inside => tail.single (part.subset inside)⟩
  obtain ⟨rest, rfl⟩ := part
  cases front with
  | nil => rfl
  | cons c front => exact tail.begins

theorem Blanks.not_mem {blanks : Blanks} {c : Char} (solid : isGap c = false) :
    c ∉ blanks.text := by
  intro member
  rw [blanks.blank c member] at solid
  contradiction

theorem Gap.exists_cons (gap : Gap) : ∃ c rest, gap.text = c :: rest ∧ isGap c = true := by
  obtain ⟨c, rest, parts⟩ := List.exists_cons_of_ne_nil gap.some
  exact ⟨c, rest, parts, gap.blank c (parts ▸ List.mem_cons_self)⟩

/-- An alias is made of blanks and word characters. -/
theorem Alias.passes (test : Char → Bool) (gaps : ∀ c, isGap c = true → test c = true)
    (letters : ∀ c, Unicode.isWord c = true → test c = true) {other : Alias} {c : Char}
    (member : c ∈ other.text) : test c = true := by
  simp only [text, List.mem_append] at member
  rcases member with ((before | word) | after) | letter
  · exact gaps c (other.before.blank c before)
  · have lettered : ∀ c ∈ "as".toList, Unicode.isWord c = true := List.all_eq_true.mp rfl
    exact letters c (lettered c word)
  · exact gaps c (other.after.blank c after)
  · exact letters c (other.letters c letter)

theorem Alias.comma_not_mem (other : Alias) : ',' ∉ other.text := by
  intro member
  have letters (c : Char) (letter : Unicode.isWord c = true) : (c != ',') = true := by
    rw [bne_iff_ne]
    rintro rfl
    exact absurd letter (by decide)
  have passes := passes (· != ',') (fun _ => passes_of_isGap (· != ',') rfl rfl) letters member
  exact absurd passes (by decide)

theorem Alias.exists_cons (other : Alias) :
    ∃ c rest, other.text = c :: rest ∧ isGap c = true := by
  obtain ⟨c, rest, parts, blank⟩ := other.before.exists_cons
  rw [text, parts]
  exact ⟨c, _, rfl, blank⟩

theorem isTail_aliasText (clause : Clause) (blanks : Blanks) :
    IsTail (clause.aliasText ++ blanks.text) := by
  rw [Clause.aliasText]
  cases clause.alias? with
  | none =>
    refine ⟨?_, Blanks.not_mem rfl⟩
    cases next : blanks.text with
    | nil => rfl
    | cons c rest => exact isBlank_of_isGap (blanks.blank c (next ▸ List.mem_cons_self))
  | some other =>
    rw [Option.map_some, Option.getD_some]
    obtain ⟨c, rest, parts, blank⟩ := other.exists_cons
    refine ⟨?_, ?_⟩
    · rw [parts]
      exact isBlank_of_isGap blank
    · rw [List.mem_append, not_or]
      exact ⟨other.comma_not_mem, Blanks.not_mem rfl⟩

end Texts

section Lists

theorem commaParts_of_not_mem {text : List Char} (single : ',' ∉ text) :
    commaParts text = [text] := by
  induction text with
  | nil => rfl
  | cons c text ih =>
    obtain ⟨other, single⟩ := List.ne_and_not_mem_of_not_mem_cons single
    rw [commaParts, if_neg other.symm, ih single]

theorem commaParts_append {text : List Char} (single : ',' ∉ text) (rest : List Char) :
    commaParts (text ++ ',' :: rest) = text :: commaParts rest := by
  induction text with
  | nil => rfl
  | cons c text ih =>
    obtain ⟨other, single⟩ := List.ne_and_not_mem_of_not_mem_cons single
    rw [List.cons_append, commaParts, if_neg other.symm, ih single]

theorem words_append_of_blank {blanks text : List Char}
    (blank : ∀ c ∈ blanks, Unicode.isBlank c = true) :
    Unicode.words (blanks ++ text) = Unicode.words text := by
  induction blanks with
  | nil => rfl
  | cons c blanks ih =>
    obtain ⟨here, blank⟩ := List.forall_mem_cons.mp blank
    rw [← ih blank, List.cons_append]
    conv_lhs => unfold Unicode.words
    exact if_pos here

theorem head?_words {word tail : List Char} (some : word ≠ [])
    (solid : ∀ c ∈ word, Unicode.isBlank c = false)
    (ends : tail.head?.all Unicode.isBlank = true) :
    (Unicode.words (word ++ tail)).head? = .some word := by
  induction word with
  | nil => contradiction
  | cons c word ih =>
    obtain ⟨here, solid⟩ := List.forall_mem_cons.mp solid
    rw [List.cons_append]
    unfold Unicode.words
    rw [if_neg (Bool.eq_false_iff.mp here)]
    cases word with
    | nil =>
      -- the word ends here: what follows is a blank or nothing
      cases tail with
      | nil => rfl
      | cons d tail =>
        have blank : Unicode.isBlank d = true := ends
        rw [List.nil_append]
        split
        · next next _ _ _ same _ =>
          cases same
          rw [if_pos blank]
          rfl
        · rfl
    | cons d word =>
      obtain ⟨next, -⟩ := List.forall_mem_cons.mp solid
      obtain ⟨others, split⟩ := List.head?_eq_some_iff.mp (ih (List.cons_ne_nil _ _) solid)
      rw [split]
      simp [next]

/-- Taking characters off the end of a text leaves what is in front of a character of another
kind. -/
theorem exists_prefix_of_dropEnd {p : Char → Bool} {core : List Char} {c : Char}
    (last : core.getLast? = some c) (kept : p c = false) (tail : List Char) :
    ∃ left, left <+: tail ∧ ((core ++ tail).reverse.dropWhile p).reverse = core ++ left := by
  obtain ⟨front, rfl⟩ := List.getLast?_eq_some_iff.mp last
  refine ⟨(tail.reverse.dropWhile p).reverse, ?_, ?_⟩
  · rw [← List.reverse_suffix, List.reverse_reverse]
    exact List.dropWhile_suffix p
  · have whole : (front ++ [c]).reverse.dropWhile p = (front ++ [c]).reverse := by
      rw [List.reverse_append, List.reverse_singleton, List.singleton_append,
        List.dropWhile_cons_of_neg (Bool.eq_false_iff.mp kept)]
    rw [List.reverse_append, List.dropWhile_append]
    split
    · next none => rw [List.isEmpty_iff.mp none, whole, List.reverse_reverse, List.reverse_nil,
        List.append_nil]
    · rw [List.reverse_append, List.reverse_reverse]

/-- Taking characters off both ends of a text leaves what lies between characters of another
kind. -/
theorem exists_prefix_of_trim {p : Char → Bool} {core : List Char} {c d : Char}
    (first : core.head? = some d) (begins : p d = false) (last : core.getLast? = some c)
    (kept : p c = false) (tail : List Char) :
    ∃ left, left <+: tail ∧ Unicode.trim p (core ++ tail) = core ++ left := by
  have whole : (core ++ tail).dropWhile p = core ++ tail := by
    obtain ⟨rest, rfl⟩ := List.head?_eq_some_iff.mp first
    rw [List.cons_append, List.dropWhile_cons_of_neg (Bool.eq_false_iff.mp begins)]
  rw [Unicode.trim, whole]
  exact exists_prefix_of_dropEnd last kept tail

end Lists

/-- The list of an import statement: clauses with commas between them. -/
structure ModuleList where
  items : List Item
  last : Clause
  trailing : Blanks

namespace ModuleList

def text (list : ModuleList) : List Char :=
  list.items.flatMap Item.text ++ list.last.text ++ list.trailing.text

def modules (list : ModuleList) : List DottedName :=
  list.items.map (·.clause.module) ++ [list.last.module]

theorem head?_words_of_isTail (lead : Blanks) (name : DottedName) {tail : List Char}
    (behind : IsTail tail) : (Unicode.words (lead.text ++ (name.text ++ tail))).head? =
      some name.text := by
  rw [words_append_of_blank fun c member => isBlank_of_isGap (lead.blank c member)]
  exact head?_words (List.cons_ne_nil _ _)
    (fun c member => not_isBlank_of_inModule (DottedName.inModule_of_mem member)) behind.begins

theorem not_mem_of_isTail (lead : Blanks) (name : DottedName) {tail : List Char}
    (behind : IsTail tail) : ',' ∉ lead.text ++ (name.text ++ tail) := by
  simp only [List.mem_append, not_or]
  refine ⟨Blanks.not_mem rfl, fun member => ?_, behind.single⟩
  exact absurd (DottedName.inModule_of_mem member) (by decide)

/-- Each part between commas has the module of its clause as its first word. -/
theorem firstWords_of_items (lead : Blanks) (items : List Item) (last : DottedName)
    {tail : List Char} (behind : IsTail tail) :
    (commaParts (lead.text ++ (items.flatMap Item.text ++ (last.text ++ tail)))).filterMap
        (fun part => (Unicode.words part).head?) =
      items.map (·.clause.module.text) ++ [last.text] := by
  induction items generalizing lead with
  | nil =>
    rw [List.flatMap_nil, List.nil_append,
      commaParts_of_not_mem (not_mem_of_isTail lead last behind)]
    simp only [List.filterMap_cons, head?_words_of_isTail lead last behind]
    rfl
  | cons item rest ih =>
    -- the first comma is the one of the item: the alias and the blanks have none
    have inside := isTail_aliasText item.clause item.before
    have parts : lead.text ++ ((item :: rest).flatMap Item.text ++ (last.text ++ tail)) =
        lead.text ++ (item.clause.module.text ++ (item.clause.aliasText ++ item.before.text)) ++
          ',' :: (item.after.text ++ (rest.flatMap Item.text ++ (last.text ++ tail))) := by
      simp [Item.text, Clause.text]
    rw [parts, commaParts_append (not_mem_of_isTail lead _ inside)]
    simp only [List.filterMap_cons, head?_words_of_isTail lead _ inside, ih item.after]
    rfl

/-- The characters at both ends of a list up to its last module belong to names. -/
theorem exists_ends (items : List Item) (last : DottedName) :
    (∃ c, (items.flatMap Item.text ++ last.text).head? = some c ∧ inModule c = true) ∧
      ∃ c, (items.flatMap Item.text ++ last.text).getLast? = some c ∧ inModule c = true := by
  constructor
  · cases items with
    | nil => exact ⟨_, rfl, inModule_of_inName (Name.inName_of_mem List.mem_cons_self)⟩
    | cons item rest => exact ⟨_, rfl, inModule_of_inName (Name.inName_of_mem List.mem_cons_self)⟩
  · have some : last.text ≠ [] := List.cons_ne_nil _ _
    refine ⟨last.text.getLast some, ?_, DottedName.inModule_of_mem (List.getLast_mem some)⟩
    rw [List.getLast?_append, List.getLast?_eq_some_getLast some]
    rfl

/-- A list of clauses is read as the list of their modules. -/
theorem listedModules_text (list : ModuleList) :
    listedModules list.text = list.modules.map DottedName.text := by
  obtain ⟨items, last, trailing⟩ := list
  have parts : text ⟨items, last, trailing⟩ =
      (items.flatMap Item.text ++ last.module.text) ++ (last.aliasText ++ trailing.text) := by
    simp [text, Clause.text]
  obtain ⟨⟨d, first, begins⟩, c, final, ends⟩ := exists_ends items last.module
  -- what is trimmed is no more than what stands behind the last module
  have noSlash : decide (c = '\\') = false := by
    simpa using passes_of_inModule (· != '\\') (by decide) ends
  have solid {c : Char} (inside : inModule c = true) :
      (Unicode.isBlank c || c = '(' || c = ')') = false := by
    simpa using passes_of_inModule
      (fun c => !(Unicode.isBlank c || c = '(' || c = ')')) (by decide) inside
  obtain ⟨left, within, bare⟩ :=
    exists_prefix_of_dropEnd (p := (· = '\\')) final noSlash (last.aliasText ++ trailing.text)
  obtain ⟨kept, rest, trimmed⟩ := exists_prefix_of_trim
    (p := fun c => Unicode.isBlank c || c = '(' || c = ')') first (solid begins) final (solid ends)
    left
  have behind := (isTail_aliasText last trailing).front (rest.trans within)
  have read := firstWords_of_items ⟨[], nofun⟩ items last.module behind
  rw [listedModules, parts, dropBackslashes, bare, trimmed, List.append_assoc,
    modules, List.map_append, List.map_map]
  exact read

end ModuleList

end Flowgraph.ImportScan
