import Flowgraph.Catalogue.Core
import Flowgraph.Proofs.Ascending
import Flowgraph.Proofs.Keyed
import Flowgraph.Proofs.Keyed.Gathered
import Flowgraph.Proofs.ModelPath
import Flowgraph.Requirements

/-!
# The model files of a graph

The files that the described loaders of a graph name are divided: a file whose path is safe goes
into the category of the loader, any other among those that are refused. However many loaders name
it, it stands there once, where it was first seen.

Main results: `modelsOf_divided`, and `models_confined` for the paths of the files that are listed.
-/
namespace Flowgraph

namespace Requirements

theorem foldl_addNew {known : List String} (distinct : known.Nodup) (names : List String) :
    names.foldl addNew known = (known ++ names).eraseDups := by
  induction names generalizing known with
  | nil => rw [List.append_nil, List.foldl_nil, Keyed.eraseDups_eq_self distinct]
  | cons name rest ih =>
    rw [List.foldl_cons, addNew]
    split
    · next member => rw [ih distinct, Keyed.eraseDups_append_cons_of_mem member]
    · next fresh =>
      -- with the new name at its end the list still has every name once
      have longer : (known ++ [name]).Nodup :=
        List.concat_eq_append ▸ distinct.concat fresh
      rw [ih longer, List.append_assoc, List.singleton_append]

/-- The loaders of a graph whose classes the catalogue describes. -/
def loadersOf (catalogue : Catalogue) (graph : Graph) : List ModelLoader :=
  (graph.modelLoaders catalogue).filter fun loader => !loader.inferred

/-- The files that loaders of a category name, without those whose paths are not safe. -/
def safeFiles (loaders : List ModelLoader) (category : String) : List String :=
  ((loaders.filter fun loader => ModelPath.isSafe loader.file).filter fun loader =>
    loader.category = category).map ModelLoader.file

/-- The files that loaders name and whose paths are not safe. -/
def refusedFiles (loaders : List ModelLoader) : List String :=
  (loaders.filter fun loader => !ModelPath.isSafe loader.file).map ModelLoader.file

/-- Files are divided by category, and from those that are refused, as the loaders name them. -/
structure Divided (loaders : List ModelLoader) (models : List (String × List String))
    (rejected : List String) : Prop where
  accepted : ∀ loader ∈ loaders, ModelPath.isSafe loader.file = true →
    (∃ files, (loader.category, files) ∈ models ∧ files.count loader.file = 1) ∧
      loader.file ∉ rejected
  refused : ∀ loader ∈ loaders, ModelPath.isSafe loader.file = false →
    rejected.count loader.file = 1 ∧
      ∀ category files, (category, files) ∈ models → loader.file ∉ files
  /-- The categories ascend, so none stands twice. -/
  categories : (models.map Prod.fst).Pairwise fun a b => compareNames a b = .lt
  /-- Nothing else is listed, and everything in the order in which it was first seen. -/
  listed : ∀ category files, (category, files) ∈ models →
    files ≠ [] ∧ FirstSeen (safeFiles loaders category) files
  rejected : FirstSeen (refusedFiles loaders) rejected

variable {catalogue : Catalogue} {graph : Graph} {loaders : List ModelLoader}

theorem mem_safeFiles_iff {category file : String} : file ∈ safeFiles loaders category ↔
    ModelPath.isSafe file = true ∧
      ∃ loader ∈ loaders, loader.category = category ∧ loader.file = file := by
  simp only [safeFiles, List.mem_map, List.mem_filter, decide_eq_true_eq]
  constructor
  · rintro ⟨loader, ⟨⟨member, safe⟩, own⟩, rfl⟩
    exact ⟨safe, loader, member, own, rfl⟩
  · rintro ⟨safe, loader, member, own, rfl⟩
    exact ⟨loader, ⟨⟨member, safe⟩, own⟩, rfl⟩

theorem mem_refusedFiles_iff {file : String} : file ∈ refusedFiles loaders ↔
    ModelPath.isSafe file = false ∧ ∃ loader ∈ loaders, loader.file = file := by
  simp only [refusedFiles, List.mem_map, List.mem_filter, Bool.not_eq_true']
  constructor
  · rintro ⟨loader, ⟨member, refused⟩, rfl⟩
    exact ⟨refused, loader, member, rfl⟩
  · rintro ⟨refused, loader, member, rfl⟩
    exact ⟨loader, ⟨member, refused⟩, rfl⟩

def addFile : Keyed (List String) → ModelLoader → Keyed (List String) :=
  Keyed.gather ModelLoader.category (fun _ => []) fun files loader => addNew files loader.file

theorem foldl_addModel (loaders : List ModelLoader) (models : Keyed (List String))
    (rejected : List String) : loaders.foldl addModel (models, rejected) =
      ((loaders.filter fun loader => ModelPath.isSafe loader.file).foldl addFile models,
        (refusedFiles loaders).foldl addNew rejected) := by
  induction loaders generalizing models rejected with
  | nil => rfl
  | cons loader rest ih =>
    rw [List.foldl_cons, addModel]
    cases safe : ModelPath.isSafe loader.file with
    | true =>
      rw [if_pos rfl, ih]
      simp [refusedFiles, safe, addFile, Keyed.gather]
    | false =>
      rw [if_neg Bool.false_ne_true, ih]
      simp [refusedFiles, safe]

theorem get?_foldl_addFile (loaders : List ModelLoader) (category : String) :
    ((loaders.filter fun loader => ModelPath.isSafe loader.file).foldl addFile .empty).get?
        category =
      if safeFiles loaders category = [] then .none
      else some (safeFiles loaders category).eraseDups := by
  have files (own : List ModelLoader) :
      own.foldl (fun files loader => addNew files loader.file) [] =
        (own.map ModelLoader.file).eraseDups := by
    rw [← List.nil_append (own.map ModelLoader.file), ← foldl_addNew List.nodup_nil,
      List.foldl_map]
  unfold addFile
  rw [Keyed.get?_foldl_gather_empty, files]
  simp only [safeFiles, List.map_eq_nil_iff]

theorem modelsOf_snd : (modelsOf catalogue graph).2 =
    (refusedFiles (loadersOf catalogue graph)).eraseDups := by
  rw [← List.nil_append (refusedFiles _), ← foldl_addNew List.nodup_nil, modelsOf, ← loadersOf,
    foldl_addModel]

theorem mem_modelsOf_iff {category : String} {files : List String} :
    (category, files) ∈ (modelsOf catalogue graph).1 ↔
      safeFiles (loadersOf catalogue graph) category ≠ [] ∧
        files = (safeFiles (loadersOf catalogue graph) category).eraseDups := by
  rw [modelsOf, ← loadersOf, foldl_addModel]
  simp only [List.mem_map, Prod.mk.injEq, mem_nameSet, ← Keyed.get?_isSome_iff,
    get?_foldl_addFile]
  by_cases named : safeFiles (loadersOf catalogue graph) category = []
  · simp [named]
  · simp [named, eq_comm]

theorem pairwise_modelsOf :
    ((modelsOf catalogue graph).1.map Prod.fst).Pairwise fun a b => compareNames a b = .lt := by
  -- each category comes first in its pair, so what is left is the set of categories
  rw [modelsOf, List.map_map]
  change ((nameSet _).map id).Pairwise _
  rw [List.map_id]
  exact Ascending.sorted_ofList _

theorem isSafe_of_mem_modelsOf {category : String} {files : List String}
    (listed : (category, files) ∈ (modelsOf catalogue graph).1) :
    ∀ file ∈ files, ModelPath.isSafe file = true := by
  obtain ⟨-, rfl⟩ := mem_modelsOf_iff.mp listed
  intro file member
  exact (mem_safeFiles_iff.mp (List.mem_eraseDups.mp member)).1

/-- Each file that a loader of a described class names is listed once: in the category of the
loader if its path is safe, and otherwise among the refused files. Nothing else is listed, no
category is empty, and everything stands in the order in which it was first seen. -/
theorem modelsOf_divided (catalogue : Catalogue) (graph : Graph) :
    Divided (loadersOf catalogue graph) (modelsOf catalogue graph).1
      (modelsOf catalogue graph).2 where
  accepted loader member safe := by
    have named := mem_safeFiles_iff.mpr ⟨safe, loader, member, rfl, rfl⟩
    refine ⟨⟨_, mem_modelsOf_iff.mpr ⟨List.ne_nil_of_mem named, rfl⟩, ?_⟩, ?_⟩
    · exact (firstSeen_eraseDups _).count_eq_one named
    · rw [modelsOf_snd, List.mem_eraseDups, mem_refusedFiles_iff, safe]
      exact fun refused => Bool.true_eq_false.mp refused.1
  refused loader member refused := by
    constructor
    · rw [modelsOf_snd]
      exact (firstSeen_eraseDups _).count_eq_one
        (mem_refusedFiles_iff.mpr ⟨refused, loader, member, rfl⟩)
    · intro category files listed inside
      have safe := isSafe_of_mem_modelsOf listed _ inside
      exact Bool.false_ne_true (refused.symm.trans safe)
  categories := pairwise_modelsOf
  listed category files member := by
    obtain ⟨named, rfl⟩ := mem_modelsOf_iff.mp member
    have first := firstSeen_eraseDups (safeFiles (loadersOf catalogue graph) category)
    obtain ⟨file, inside⟩ := List.exists_mem_of_ne_nil _ named
    exact ⟨List.ne_nil_of_mem ((first.mem file).mpr inside), first⟩
  rejected := by
    rw [modelsOf_snd]
    exact firstSeen_eraseDups _

/-- No file that is listed under a category is reached by leaving the directory of the category. -/
theorem models_confined (catalogue : Catalogue) (graph : Graph) :
    ∀ category files, (category, files) ∈ (ofGraph catalogue graph).models →
      ∀ file ∈ files, ModelPath.Confined file := by
  intro category files listed file member
  exact ModelPath.confined_of_isSafe (isSafe_of_mem_modelsOf listed file member)

/-- Two loaders of one category that name a file in common, a loader of another category that names
it too, and paths that go up, with either separator. -/
def scattered : Graph :=
  let loading (classType : String) (fields : List (String × String)) : Node :=
    { Node.ofClass classType with
      inputs := .ofList (fields.map fun field => (field.1, .constant (.string field.2))) }
  ⟨.ofList [
    ("1", loading "DualCLIPLoader" [("clip_name1", "t5\\..v1.gguf"), ("clip_name2", "l.ckpt")]),
    ("2", loading "CLIPLoader" [("clip_name", "l.ckpt")]),
    ("3", loading "VAELoader" [("vae_name", "..\\x/vae.pt")]),
    ("4", loading "UNETLoader" [("unet_name", "l.ckpt")]),
    ("5", loading "CLIPLoader" [("clip_name", "a/./b//../../../c")]),
    ("6", loading "VAELoader" [("vae_name", "..\\x/vae.pt")])]⟩

example : modelsOf .core scattered =
    ([("clip", ["t5\\..v1.gguf", "l.ckpt"]), ("unet", ["l.ckpt"])],
      ["..\\x/vae.pt", "a/./b//../../../c"]) := by
  decide

theorem models_confined_scattered :
    ("clip", ["t5\\..v1.gguf", "l.ckpt"]) ∈ (ofGraph .core scattered).models ∧
      ModelPath.Confined "t5\\..v1.gguf" := by
  have listed : ("clip", ["t5\\..v1.gguf", "l.ckpt"]) ∈ (ofGraph .core scattered).models := by
    decide
  exact ⟨listed, models_confined .core scattered _ _ listed _ List.mem_cons_self⟩

end Requirements

end Flowgraph
