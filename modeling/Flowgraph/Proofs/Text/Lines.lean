import Mathlib.Data.List.Forall2
import Flowgraph.Text.Pattern

/-!
# Patterns that stay on a line

A pattern whose tests refuse line breaks sees no further than its line: it cannot tell a line break
from the end of the text, nor the start of a line from the start of the text. So a search finds in a
text what it finds in each of its lines.

Main result: `Pattern.found_eq_flatMap_lines`.
-/
namespace Flowgraph

open List (Forall₂)

/-- Whether a pattern takes no line breaks. -/
def Pattern.staysOnLine : Pattern → Bool
  | nothing | lineStart | wordEdge => true
  | one test | many test => !test '\n'
  | andThen first second | either first second => first.staysOnLine && second.staysOnLine
  | group _ inner => inner.staysOnLine

/-- What can follow the end of a line: the end of the text, or a line break. -/
inductive EndsLine : List Char → Prop
  | endOfText : EndsLine []
  | lineBreak (rest : List Char) : EndsLine ('\n' :: rest)

namespace Place

theorem runs_of_refused {test : Char → Bool} {rest : List Char} {place : Place}
    {others : List Place} (refused : rest.head?.any test = false) :
    place.runs test rest others = place :: others := by
  cases rest with
  | nil => rfl
  | cons c rest => exact if_neg (Bool.eq_false_iff.mp refused)

/-- Two places that are the same on their line, in attempts that began with so many characters of
the line before them; only at the first one the text goes on beyond the line. -/
structure SameLine (beyond : List Char) (size : Nat) (place alone : Place) : Prop where
  last : place.last.filter (· != '\n') = alone.last.filter (· != '\n')
  after : place.after = alone.after ++ beyond
  taken : place.taken = alone.taken
  groups : place.groups = alone.groups
  whole : alone.taken + alone.after.length = size

namespace SameLine

variable {beyond : List Char} {size : Nat} {place alone : Place}

theorem atLineStart_eq (same : SameLine beyond size place alone) :
    place.atLineStart = alone.atLineStart := by
  -- a line break before the place counts as much as nothing before it
  have seen (place : Place) : place.atLineStart = (place.last.filter (· != '\n')).isNone := by
    rw [atLineStart]
    cases place.last with
    | none => rfl
    | some c =>
      by_cases lineBreak : c = '\n'
      · rw [lineBreak]
        rfl
      · simp [Option.filter, lineBreak]
  rw [seen, seen, same.last]

theorem atWordEdge_eq (same : SameLine beyond size place alone)
    (ends : EndsLine beyond) : place.atWordEdge = alone.atWordEdge := by
  -- a line break is no word character, neither before the place nor behind it
  have before (place : Place) : place.last.any Unicode.isWord =
      (place.last.filter (· != '\n')).any Unicode.isWord := by
    cases place.last with
    | none => rfl
    | some c =>
      by_cases lineBreak : c = '\n'
      · rw [lineBreak]
        rfl
      · simp [Option.filter, lineBreak]
  have behind : place.after.head?.any Unicode.isWord = alone.after.head?.any Unicode.isWord := by
    rw [same.after]
    cases alone.after with
    | cons c rest => rfl
    | nil => cases ends <;> rfl
  rw [atWordEdge, atWordEdge, before place, before alone, same.last, behind]

theorem step {c : Char} {rest : List Char} (same : SameLine beyond size place alone)
    (next : alone.after = c :: rest) :
    SameLine beyond size (place.step c (rest ++ beyond)) (alone.step c rest) where
  last := rfl
  after := rfl
  taken := congrArg (· + 1) same.taken
  groups := same.groups
  whole := by
    have whole := same.whole
    rw [next, List.length_cons] at whole
    change alone.taken + 1 + rest.length = size
    omega

theorem runs {test : Char → Bool} (refused : beyond.head?.any test = false)
    {others others' : List Place} (before : Forall₂ (SameLine beyond size) others others')
    (same : SameLine beyond size place alone) :
    Forall₂ (SameLine beyond size) (place.runs test (alone.after ++ beyond) others)
      (alone.runs test alone.after others') := by
  induction next : alone.after generalizing place alone others others' with
  | nil =>
    rw [List.nil_append, runs_of_refused refused]
    exact .cons same before
  | cons c rest ih =>
    rw [List.cons_append, Place.runs, Place.runs]
    split
    · exact ih (.cons same before) (same.step next) rfl
    · exact .cons same before

end SameLine

end Place

namespace Pattern

variable {pattern : Pattern} {beyond : List Char} {size : Nat} {place alone : Place}

/-- What lies beyond a line begins with no character of a kind that refuses line breaks. -/
theorem refused_beyond {test : Char → Bool} (stays : (!test '\n') = true)
    (ends : EndsLine beyond) : beyond.head?.any test = false := by
  cases ends with
  | endOfText => rfl
  | lineBreak rest => simpa using stays

/-- The step: from two places that are the same on their line, a pattern that stays on the line
reaches places that are, in the same order. -/
theorem ends_sameLine (stays : pattern.staysOnLine = true)
    (ends : EndsLine beyond) (same : place.SameLine beyond size alone) :
    Forall₂ (Place.SameLine beyond size) (pattern.ends place) (pattern.ends alone) := by
  induction pattern generalizing place alone with
  | nothing => exact .cons same .nil
  | one test =>
    have refused := refused_beyond stays ends
    rw [Pattern.ends, Pattern.ends, same.after]
    cases next : alone.after with
    | nil =>
      cases ends with
      | endOfText => exact .nil
      | lineBreak rest =>
        have none : test '\n' = false := refused
        simp [none]
    | cons c rest =>
      rw [List.cons_append]
      dsimp only
      split
      · exact .cons (same.step next) .nil
      · exact .nil
  | many test =>
    have runs := same.runs (refused_beyond stays ends) .nil
    rwa [← same.after] at runs
  | lineStart =>
    rw [Pattern.ends, Pattern.ends, same.atLineStart_eq]
    split
    · exact .cons same .nil
    · exact .nil
  | wordEdge =>
    rw [Pattern.ends, Pattern.ends, same.atWordEdge_eq ends]
    split
    · exact .cons same .nil
    · exact .nil
  | andThen first second ih later =>
    obtain ⟨here, there⟩ := Bool.and_eq_true_iff.mp stays
    exact List.rel_flatMap (ih here same) fun _ _ reached => later there reached
  | either first second ih other =>
    obtain ⟨here, there⟩ := Bool.and_eq_true_iff.mp stays
    exact List.rel_append (ih here same) (other there same)
  | group number inner ih =>
    refine List.rel_map (fun stop stop' reached => ?_) (ih stays same)
    -- what the group holds lies on the line
    have within : stop'.taken - alone.taken ≤ alone.after.length := by
      have := same.whole
      have := reached.whole
      omega
    have held : place.after.take (stop.taken - place.taken) =
        alone.after.take (stop'.taken - alone.taken) := by
      rw [same.after, same.taken, reached.taken, List.take_append_of_le_length within]
    exact ⟨reached.last, reached.after, reached.taken, by rw [held, reached.groups],
      reached.whole⟩

theorem rel_head? {α β : Type} {R : α → β → Prop} {left : List α} {right : List β} :
    Forall₂ R left right → Option.Rel R left.head? right.head?
  | .nil => .none
  | .cons here _ => .some here

variable {last last' : Option Char} {after : List Char}

/-- At two places that are the same on their line, there is a match at both or at none, and what it
takes and holds is the same. -/
theorem match?_sameLine (stays : pattern.staysOnLine = true) (after : List Char)
    (ends : EndsLine beyond)
    (same : last.filter (· != '\n') = last'.filter (· != '\n')) :
    Option.Rel (Place.SameLine beyond after.length) (pattern.match? last (after ++ beyond))
      (pattern.match? last' after) := by
  have begun : (Place.start last (after ++ beyond)).SameLine beyond after.length
      (.start last' after) := ⟨same, rfl, rfl, rfl, Nat.zero_add _⟩
  exact rel_head? (ends_sameLine stays ends begun)

theorem search_of_sameLine (stays : pattern.staysOnLine = true) (skip : Nat)
    (same : last.filter (· != '\n') = last'.filter (· != '\n')) :
    pattern.search skip last after = pattern.search skip last' after := by
  have found := match?_sameLine stays after .endOfText same
  rw [List.append_nil] at found
  cases skip with
  | succ skip => cases after <;> rfl
  | zero =>
    cases after with
    | nil =>
      rw [search, search]
      generalize pattern.match? last [] = stop, pattern.match? last' [] = stop' at found
      cases found with
      | none => rfl
      | some reached => simp [reached.groups]
    | cons c rest =>
      rw [search, search]
      generalize pattern.match? last (c :: rest) = stop,
        pattern.match? last' (c :: rest) = stop' at found
      cases found with
      | none => rfl
      | some reached => simp [reached.groups, reached.taken]

/-- The run: a search through the rest of a line and what lies beyond it finds what there is on the
line and goes on behind it as from a start. -/
theorem search_append (stays : pattern.staysOnLine = true) {skip : Nat}
    (inside : skip ≤ after.length) (same : last.filter (· != '\n') = last'.filter (· != '\n')) :
    pattern.search skip last (after ++ '\n' :: beyond) =
      pattern.search skip last' after ++ pattern.found beyond := by
  have begun : pattern.search 0 (some '\n') beyond = pattern.found beyond :=
    search_of_sameLine stays 0 rfl
  induction after generalizing skip last last' with
  | nil =>
    cases Nat.le_zero.mp inside
    have found := match?_sameLine stays [] (.lineBreak beyond) same
    rw [List.nil_append] at *
    rw [search, search]
    generalize pattern.match? last ('\n' :: beyond) = stop, pattern.match? last' [] = stop' at found
    cases found with
    | none => exact begun
    | @some stop stop' reached =>
      -- at the end of the line there is nothing left to take
      have none : stop.taken = 0 := by
        have whole := reached.whole
        rw [reached.taken]
        rw [List.length_nil] at whole
        omega
      simp only [none, begun, reached.groups, Option.map_some, Option.toList_some, Nat.zero_sub,
        List.singleton_append]
  | cons c rest ih =>
    rw [List.cons_append]
    cases skip with
    | succ skip => exact ih (Nat.le_of_succ_le_succ inside) rfl
    | zero =>
      have found := match?_sameLine stays (c :: rest) (.lineBreak beyond) same
      rw [List.cons_append] at found
      rw [search, search]
      generalize pattern.match? last (c :: (rest ++ '\n' :: beyond)) = stop,
        pattern.match? last' (c :: rest) = stop' at found
      cases found with
      | none => exact ih (Nat.zero_le _) rfl
      | @some stop stop' reached =>
        have inside : stop'.taken - 1 ≤ rest.length := by
          have whole := reached.whole
          rw [List.length_cons] at whole
          omega
        simp only [reached.groups, reached.taken, ih inside rfl, List.cons_append]

/-- On two lines a pattern is found where it is found on either. -/
theorem found_append (stays : pattern.staysOnLine = true) (first second : List Char) :
    pattern.found (first ++ '\n' :: second) = pattern.found first ++ pattern.found second :=
  search_append stays (Nat.zero_le _) rfl

theorem found_intercalate (stays : pattern.staysOnLine = true) {lines : List (List Char)}
    (some : lines ≠ []) :
    pattern.found (['\n'].intercalate lines) = lines.flatMap pattern.found := by
  induction lines with
  | nil => contradiction
  | cons line rest ih =>
    cases rest with
    | nil => simp
    | cons next rest =>
      rw [List.intercalate_cons_cons, List.flatMap_cons, ← ih (List.cons_ne_nil _ _),
        List.append_assoc, List.singleton_append, found_append stays]

/-- A pattern that stays on a line is found in a text where it is found in the lines of the text. -/
theorem found_eq_flatMap_lines (stays : pattern.staysOnLine = true) (text : List Char) :
    pattern.found text = (text.splitOn '\n').flatMap pattern.found := by
  rw [← found_intercalate stays (List.splitOn_ne_nil _ _), List.intercalate_splitOn]

end Pattern

end Flowgraph
