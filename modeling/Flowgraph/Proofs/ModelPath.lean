import Flowgraph.ModelPath

/-!
# Paths that stay below a directory

A path is followed part by part: an empty part and a point stay, two points go up, and any other
part goes down. A safe path starts at no root and has no part that goes up, so whichever directory
it is followed from, it leads out of it at no point of the way.

Main result: `confined_of_isSafe`.
-/
namespace Flowgraph.ModelPath

/-- The parts of a path between separators of either kind. -/
def parts (path : String) : List String := (path.toList.splitOnP isSeparator).map String.ofList

/-- The directory that a part of a path leads to. A directory is the list of the names that lead to
it from the root. -/
def follow (directory : List String) (part : String) : List String :=
  if part = "" ∨ part = "." then directory
  else if part = ".." then directory.dropLast
  else directory ++ [part]

/-- A path starts neither at a root nor at a drive, and no part of it leads out of the directory
that it is followed from. -/
structure Confined (path : String) : Prop where
  unrooted : ∀ c rest, path.toList = c :: rest → c ≠ '/' ∧ c ≠ '\\'
  driveless : ∀ c rest, path.toList = c :: ':' :: rest → c.isAlpha = false
  /-- After any number of parts, the base is or lies above the directory that is reached. -/
  below : ∀ base before : List String, before <+: parts path → base <+: before.foldl follow base

variable {path : String} {chars : List Char}

theorem segments_eq_splitOnP (chars : List Char) : segments chars = chars.splitOnP isSeparator := by
  induction chars with
  | nil => rfl
  | cons c rest ih =>
    rw [List.splitOnP_cons_eq_if_modifyHead, segments, ih]
    cases isSeparator c with
    | true => rfl
    | false =>
      -- what is split has at least one part, which takes the character in
      cases split : rest.splitOnP isSeparator with
      | nil => exact absurd split (List.splitOnP_ne_nil _ _)
      | cons segment more => rfl

theorem mem_parts_iff {part : String} : part ∈ parts path ↔ part.toList ∈ segments path.toList := by
  rw [parts, segments_eq_splitOnP, List.mem_map]
  constructor
  · rintro ⟨segment, member, rfl⟩
    rwa [String.toList_ofList]
  · intro member
    exact ⟨part.toList, member, String.ofList_toList⟩

theorem isLetter_eq_isAlpha (c : Char) : isLetter c = c.isAlpha := by
  have lower : (decide ('a' ≤ c) && decide (c ≤ 'z')) = c.isLower := rfl
  have upper : (decide ('A' ≤ c) && decide (c ≤ 'Z')) = c.isUpper := (Bool.decide_and ..).symm
  rw [isLetter, lower, upper, Bool.or_comm]
  rfl

theorem isSeparator_eq_false_iff {c : Char} : isSeparator c = false ↔ c ≠ '/' ∧ c ≠ '\\' := by
  simp [isSeparator]

theorem isRooted_eq_false_iff : isRooted chars = false ↔
    (∀ c rest, chars = c :: rest → isSeparator c = false) ∧
    ∀ c rest, chars = c :: ':' :: rest → isLetter c = false := by
  fun_cases isRooted chars with
  | case1 c rest => simp
  | case2 c rest other =>
    -- no colon comes second, so nothing is asked of a letter
    have colon (start : Char) (after : List Char) : c :: rest ≠ start :: ':' :: after := by
      intro same
      exact other after (List.cons.inj same).2
    simp [colon]
  | case3 => simp

/-- A path is safe if it is more than blanks, starts at no root or drive, and has no part that
leads upward. -/
theorem isSafe_iff : isSafe path = true ↔ (∃ c ∈ path.toList, Unicode.isBlank c = false) ∧
    ((∀ c rest, path.toList = c :: rest → c ≠ '/' ∧ c ≠ '\\') ∧
      ∀ c rest, path.toList = c :: ':' :: rest → c.isAlpha = false) ∧
    ".." ∉ parts path := by
  have blank : (!path.toList.all Unicode.isBlank) = true ↔
      ∃ c ∈ path.toList, Unicode.isBlank c = false := by
    simp
  have upward : (!(segments path.toList).contains ['.', '.']) = true ↔ ".." ∉ parts path := by
    rw [mem_parts_iff]
    simp
  simp only [isSafe, Bool.and_eq_true, blank, upward, and_assoc, Bool.not_eq_true',
    isRooted_eq_false_iff, isSeparator_eq_false_iff, isLetter_eq_isAlpha]

theorem prefix_follow {base directory : List String} {part : String} (below : base <+: directory)
    (level : part ≠ "..") : base <+: follow directory part := by
  unfold follow
  split
  · exact below
  · exact below.trans (List.prefix_append _ _)

theorem prefix_foldl_follow {base directory before : List String} (below : base <+: directory)
    (level : ".." ∉ before) : base <+: before.foldl follow directory := by
  induction before generalizing directory with
  | nil => exact below
  | cons part rest ih =>
    obtain ⟨first, rest⟩ := not_or.mp (fun up => level (List.mem_cons.mpr up))
    exact ih (prefix_follow below (Ne.symm first)) rest

theorem confined_of_isSafe (safe : isSafe path = true) : Confined path := by
  obtain ⟨-, ⟨unrooted, driveless⟩, level⟩ := isSafe_iff.mp safe
  refine ⟨unrooted, driveless, fun base before first => ?_⟩
  exact prefix_foldl_follow List.prefix_rfl fun up => level (first.subset up)

end Flowgraph.ModelPath
