import Mathlib.Data.List.Perm.Basic
import Flowgraph.Proofs.Ascending
import Flowgraph.Proofs.Text.Lines
import Flowgraph.Requirements

/-!
# Scanning line by line

No import statement goes over the end of a line, so a source names what its lines name, however the
lines are brought together.

Main result: `Requirements.packages_of_lines`.
-/
namespace Flowgraph

namespace ImportScan

/-- The packages that a text names, in the order in which it does. -/
def named (text : List Char) : List String :=
  ((statement.found text).flatMap modules).filterMap package?

theorem staysOnLine_statement : statement.staysOnLine = true := by
  decide

theorem named_append (first second : List Char) :
    named (first ++ '\n' :: second) = named first ++ named second := by
  rw [named, Pattern.found_append staysOnLine_statement, List.flatMap_append,
    List.filterMap_append, named, named]

theorem named_intercalate {lines : List (List Char)} (some : lines ≠ []) :
    named (['\n'].intercalate lines) = lines.flatMap named := by
  rw [named, Pattern.found_intercalate staysOnLine_statement some, List.flatMap_assoc,
    List.filterMap_flatMap]
  rfl

theorem named_eq_flatMap_lines (text : List Char) :
    named text = (text.splitOn '\n').flatMap named := by
  rw [named, Pattern.found_eq_flatMap_lines staysOnLine_statement, List.flatMap_assoc,
    List.filterMap_flatMap]
  rfl

theorem mem_packages_iff {source : String} {package : String} :
    package ∈ packages source ↔ package ∈ named source.toList := mem_nameSet ..

theorem packages_empty : packages "" = [] := by
  decide

theorem packages_append (first second : String) :
    packages (first ++ "\n" ++ second) = nameSet (packages first ++ packages second) := by
  have text : (first ++ "\n" ++ second).toList = first.toList ++ '\n' :: second.toList := by
    simp
  have whole : packages (first ++ "\n" ++ second) =
      nameSet (named first.toList ++ named second.toList) := by
    rw [← named_append, ← text]
    rfl
  rw [whole]
  apply nameSet_eq_of_mem_iff
  intro package
  rw [List.mem_append, List.mem_append, mem_packages_iff, mem_packages_iff]

theorem packages_eq_flatMap_lines (source : String) : packages source =
    nameSet (((source.toList.splitOn '\n').map String.ofList).flatMap packages) := by
  have whole : packages source = nameSet ((source.toList.splitOn '\n').flatMap named) := by
    rw [← named_eq_flatMap_lines]
    rfl
  rw [whole]
  apply nameSet_eq_of_mem_iff
  intro package
  rw [List.flatMap_map, List.mem_flatMap, List.mem_flatMap]
  simp only [mem_packages_iff, String.toList_ofList]

theorem mem_packages_intercalate {sources : List String} (some : sources ≠ []) {package : String} :
    package ∈ packages ("\n".intercalate sources) ↔
      ∃ source ∈ sources, package ∈ packages source := by
  have lines : sources.map String.toList ≠ [] := mt List.map_eq_nil_iff.mp some
  have text : ("\n".intercalate sources).toList =
      ['\n'].intercalate (sources.map String.toList) := String.toList_intercalate
  rw [mem_packages_iff, text, named_intercalate lines, List.flatMap_map, List.mem_flatMap]
  simp only [mem_packages_iff]

end ImportScan

namespace Requirements

open ImportScan

theorem mem_packages_addSource {requirements : Requirements} {source package : String} :
    package ∈ (requirements.addSource source).packages ↔
      package ∈ requirements.packages ∨ package ∈ ImportScan.packages source := by
  rw [addSource, mem_nameSet, List.mem_append]

theorem mem_packages_foldl_addSource {requirements : Requirements} {sources : List String}
    {package : String} :
    package ∈ (sources.foldl addSource requirements).packages ↔ package ∈ requirements.packages ∨
      ∃ source ∈ sources, package ∈ ImportScan.packages source := by
  induction sources generalizing requirements with
  | nil => simp
  | cons source rest ih =>
    rw [List.foldl_cons, ih, mem_packages_addSource, List.exists_mem_cons_iff, or_assoc]

instance : RightCommutative addSource where
  right_comm requirements first second := by
    rw [addSource, addSource, addSource, addSource]
    congr 1
    apply nameSet_eq_of_mem_iff
    intro package
    simp only [List.mem_append, mem_nameSet]
    exact or_right_comm

/-- A source names what its lines name, on two lines what either names; so it makes no difference in
which order sources are added, or whether they are joined to one text before. -/
theorem packages_of_lines (requirements : Requirements) {sources others : List String}
    (perm : sources.Perm others) :
    (∀ first second, ImportScan.packages (first ++ "\n" ++ second) =
      nameSet (ImportScan.packages first ++ ImportScan.packages second)) ∧
    (∀ source, ImportScan.packages source =
      nameSet (((source.toList.splitOn '\n').map String.ofList).flatMap ImportScan.packages)) ∧
    others.foldl addSource requirements = sources.foldl addSource requirements ∧
    (∀ package, package ∈ (sources.foldl addSource requirements).packages ↔
      package ∈ requirements.packages ∨ ∃ source ∈ sources, package ∈ ImportScan.packages source) ∧
    ∀ package, package ∈ (requirements.addSource ("\n".intercalate sources)).packages ↔
      package ∈ (sources.foldl addSource requirements).packages := by
  refine ⟨packages_append, packages_eq_flatMap_lines, (perm.foldl_eq requirements).symm,
    fun _ => mem_packages_foldl_addSource, fun package => ?_⟩
  rw [mem_packages_addSource, mem_packages_foldl_addSource]
  cases sources with
  | nil => simp [packages_empty]
  | cons source rest => rw [mem_packages_intercalate (List.cons_ne_nil _ _)]

theorem packages_of_lines_swapped :
    ["import cv2, os", "from PIL import Image"].Perm ["from PIL import Image", "import cv2, os"] ∧
    (["from PIL import Image", "import cv2, os"].foldl addSource none).packages =
      (["import cv2, os", "from PIL import Image"].foldl addSource none).packages ∧
    (["import cv2, os", "from PIL import Image"].foldl addSource none).packages =
      ["opencv-python", "os", "pillow"] ∧
    ∀ package, package ∈ (none.addSource "import cv2, os\nfrom PIL import Image").packages ↔
      package ∈ (["import cv2, os", "from PIL import Image"].foldl addSource none).packages := by
  have perm : ["import cv2, os", "from PIL import Image"].Perm
      ["from PIL import Image", "import cv2, os"] := .swap ..
  obtain ⟨-, -, same, -, joined⟩ := packages_of_lines none perm
  exact ⟨perm, congrArg packages same, by decide, joined⟩

end Requirements

end Flowgraph
