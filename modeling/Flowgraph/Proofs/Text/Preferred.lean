import Flowgraph.Proofs.Text.Lines

/-!
# Preferred matches

Where a pattern prefers to end is put together from where its parts do, as long as no part has to
give up what it prefers; a run of characters prefers to end where it cannot go on. A pattern that
asks for the start of a line is found there or not at all.

Main results: `Pattern.leadsTo_andThen`, `Pattern.leadsTo_many` and `Pattern.found_of_lineStart`.
-/
namespace Flowgraph

namespace Place

/-- The place behind a text, with what follows there. -/
def past (place : Place) (text rest : List Char) : Place :=
  { place with
    last := text.getLast?.or place.last, after := rest, taken := place.taken + text.length }

variable {place : Place} {text rest : List Char}

theorem past_nil (follows : place.after = rest) : place.past [] rest = place := by
  rw [← follows]
  rfl

theorem past_singleton {c : Char} : place.past [c] rest = place.step c rest := rfl

theorem past_step {c : Char} {between : List Char} :
    (place.step c between).past text rest = place.past (c :: text) rest := by
  simp only [past, step, List.getLast?_cons, List.length_cons, mk.injEq, and_true, true_and]
  exact ⟨by cases text.getLast? <;> rfl, by omega⟩

theorem past_past {front between : List Char} :
    (place.past front between).past text rest = place.past (front ++ text) rest := by
  simp only [past, List.getLast?_append, List.length_append, mk.injEq, and_true, true_and]
  exact ⟨Option.or_assoc.symm, by omega⟩

variable {test : Char → Bool} {others : List Place}

theorem head?_runs (all : ∀ c ∈ text, test c = true) (stops : rest.head?.any test = false)
    (follows : place.after = text ++ rest) :
    (place.runs test (text ++ rest) others).head? = some (place.past text rest) := by
  induction text generalizing place others with
  | nil =>
    rw [List.nil_append] at *
    rw [runs_of_refused stops, past_nil follows, List.head?_cons]
  | cons c text ih =>
    obtain ⟨here, all⟩ := List.forall_mem_cons.mp all
    rw [List.cons_append, runs, if_pos here, ih all rfl, past_step]

/-- A place lies behind characters of a kind that another is followed by. -/
def BehindRun (test : Char → Bool) (place : Place) (text : List Char) (stop : Place) : Prop :=
  ∃ run rest, text = run ++ rest ∧ (∀ c ∈ run, test c = true) ∧ stop = place.past run rest

theorem behindRun_self (follows : place.after = text) : place.BehindRun test text place :=
  ⟨[], text, rfl, nofun, (past_nil follows).symm⟩

theorem BehindRun.cons {stop : Place} {c : Char} (passes : test c = true)
    (behind : (place.step c text).BehindRun test text stop) :
    place.BehindRun test (c :: text) stop := by
  obtain ⟨run, rest, rfl, all, rfl⟩ := behind
  exact ⟨c :: run, rest, rfl, List.forall_mem_cons.mpr ⟨passes, all⟩, past_step⟩

theorem behindRun_of_mem_cons {stop : Place} (follows : place.after = text)
    (member : stop ∈ place :: others) : stop ∈ others ∨ place.BehindRun test text stop := by
  rcases List.mem_cons.mp member with rfl | before
  · exact .inr (behindRun_self follows)
  · exact .inl before

/-- Every end of a run is behind characters of its kind. -/
theorem behindRun_of_mem_runs {stop : Place} (follows : place.after = text)
    (member : stop ∈ place.runs test text others) :
    stop ∈ others ∨ place.BehindRun test text stop := by
  induction text generalizing place others with
  | nil => exact behindRun_of_mem_cons follows member
  | cons c text ih =>
    rw [runs] at member
    split at member
    · next passes =>
      rcases ih rfl member with before | behind
      · exact behindRun_of_mem_cons follows before
      · exact .inr (.cons passes behind)
    · exact behindRun_of_mem_cons follows member

end Place

namespace Pattern

open Place (past past_nil past_singleton past_step past_past)

/-- A pattern, tried at a place, prefers to end at another. -/
def LeadsTo (pattern : Pattern) (place stop : Place) : Prop :=
  (pattern.ends place).head? = some stop

variable {first second : Pattern} {test : Char → Bool} {place middle stop : Place}
  {text rest : List Char}

theorem leadsTo_nothing : nothing.LeadsTo place place := rfl

theorem leadsTo_one {c : Char} (passes : test c = true) (follows : place.after = c :: rest) :
    (one test).LeadsTo place (place.past [c] rest) := by
  rw [LeadsTo, ends, follows]
  simp only [passes, if_true, List.head?_cons, past_singleton]

theorem leadsTo_many (all : ∀ c ∈ text, test c = true) (stops : rest.head?.any test = false)
    (follows : place.after = text ++ rest) : (many test).LeadsTo place (place.past text rest) := by
  rw [LeadsTo, ends, follows]
  exact Place.head?_runs all stops follows

theorem leadsTo_andThen (here : first.LeadsTo place middle) (there : second.LeadsTo middle stop) :
    (andThen first second).LeadsTo place stop := by
  obtain ⟨others, firsts⟩ := List.head?_eq_some_iff.mp here
  rw [LeadsTo, ends, firsts, List.flatMap_cons, List.head?_append, there]
  rfl

theorem leadsTo_atLeastOne (some : text ≠ []) (all : ∀ c ∈ text, test c = true)
    (stops : rest.head?.any test = false) (follows : place.after = text ++ rest) :
    (atLeastOne test).LeadsTo place (place.past text rest) := by
  obtain ⟨c, text, rfl⟩ := List.exists_cons_of_ne_nil some
  obtain ⟨passes, all⟩ := List.forall_mem_cons.mp all
  have more : (many test).LeadsTo (place.past [c] (text ++ rest)) _ := leadsTo_many all stops rfl
  rw [past_past] at more
  exact leadsTo_andThen (leadsTo_one passes follows) more

/-- A word can end in one place only. -/
theorem ends_word {word : String} (follows : place.after = word.toList ++ rest) :
    (Pattern.word word).ends place = [place.past word.toList rest] := by
  rw [Pattern.word]
  generalize word.toList = chars at *
  induction chars generalizing place with
  | nil =>
    have follows : place.after = rest := follows
    rw [past_nil follows]
    rfl
  | cons c chars ih =>
    have here : (one (· == c)).ends place = [place.step c (chars ++ rest)] := by
      rw [ends, follows]
      exact if_pos (beq_self_eq_true c)
    rw [List.map_cons, inOrder, ends, here, List.flatMap_singleton, ih rfl, past_step]

theorem leadsTo_word {word : String} (follows : place.after = word.toList ++ rest) :
    (Pattern.word word).LeadsTo place (place.past word.toList rest) := by
  rw [LeadsTo, ends_word follows]
  rfl

theorem leadsTo_wordEdge (edge : place.atWordEdge = true) : wordEdge.LeadsTo place place := by
  rw [LeadsTo, ends, if_pos edge]
  rfl

theorem leadsTo_lineStart (start : place.atLineStart = true) : lineStart.LeadsTo place place := by
  rw [LeadsTo, ends, if_pos start]
  rfl

theorem leadsTo_either_left (here : first.LeadsTo place stop) :
    (either first second).LeadsTo place stop := by
  rw [LeadsTo, ends, List.head?_append, here]
  rfl

theorem leadsTo_either_right (none : first.ends place = []) (here : second.LeadsTo place stop) :
    (either first second).LeadsTo place stop := by
  rw [LeadsTo, ends, none]
  exact here

theorem leadsTo_group {inner : Pattern} (number : Nat) (follows : place.after = text ++ rest)
    (here : inner.LeadsTo place (place.past text rest)) : (group number inner).LeadsTo place
      { place.past text rest with groups := (number, text) :: place.groups } := by
  have held : place.after.take (place.taken + text.length - place.taken) = text := by
    rw [follows, Nat.add_sub_cancel_left, List.take_left']
    rfl
  rw [LeadsTo] at *
  rw [ends, List.head?_map, here, Option.map_some]
  simp only [past, held]

theorem ends_one_of_refused (refused : place.after.head?.any test = false) :
    (one test).ends place = [] := by
  rw [ends]
  cases next : place.after with
  | nil => rfl
  | cons c rest =>
    rw [next] at refused
    exact if_neg (Bool.eq_false_iff.mp refused)

theorem ends_word_of_ne {word : String} {c d : Char} {chars : List Char}
    (begins : word.toList = d :: chars) (other : c ≠ d) (follows : place.after = c :: rest) :
    (Pattern.word word).ends place = [] := by
  have refused : (one (· == d)).ends place = [] :=
    ends_one_of_refused (follows ▸ beq_eq_false_iff_ne.mpr other)
  rw [Pattern.word, begins, List.map_cons, inOrder, ends, refused, List.flatMap_nil]

theorem ends_andThen_of_first (none : first.ends place = []) :
    (andThen first second).ends place = [] := by
  rw [ends, none, List.flatMap_nil]

theorem ends_andThen_of_second (none : ∀ middle ∈ first.ends place, second.ends middle = []) :
    (andThen first second).ends place = [] := by
  rw [ends]
  exact List.flatMap_eq_nil_iff.mpr none

theorem ends_group {inner : Pattern} {number : Nat} (none : inner.ends place = []) :
    (group number inner).ends place = [] := by
  rw [ends, none, List.map_nil]

theorem behindRun_of_mem_many (follows : place.after = text)
    (member : stop ∈ (many test).ends place) : place.BehindRun test text stop := by
  rw [ends, follows] at member
  exact (Place.behindRun_of_mem_runs follows member).resolve_left List.not_mem_nil

theorem behindRun_of_mem_atLeastOne (follows : place.after = text)
    (member : stop ∈ (atLeastOne test).ends place) : place.BehindRun test text stop := by
  rw [atLeastOne, ends] at member
  obtain ⟨middle, here, there⟩ := List.mem_flatMap.mp member
  rw [ends, follows] at here
  cases text with
  | nil => contradiction
  | cons c text =>
    dsimp only at here
    split at here
    · next passes =>
      cases List.mem_singleton.mp here
      exact .cons passes (behindRun_of_mem_many rfl there)
    · contradiction

/-- A run of characters ends among them or before the first of another kind. -/
theorem rest_of_run {front back run : List Char} {c : Char} (other : test c = false)
    (split : front ++ c :: back = run ++ rest) (all : ∀ c ∈ run, test c = true) :
    (∃ d later, rest = d :: later ∧ d ∈ front) ∨ rest = c :: back := by
  rcases List.append_eq_append_iff.mp split with ⟨more, rfl, behind⟩ | ⟨more, rfl, rfl⟩
  · cases more with
    | nil => exact .inr behind.symm
    | cons d more =>
      cases behind
      rw [all c (by simp)] at other
      contradiction
  · cases more with
    | nil => exact .inr rfl
    | cons d more => exact .inl ⟨d, more ++ c :: back, rfl, by simp⟩

theorem match?_of_lineStart {last : Char} (inside : last ≠ '\n') :
    (andThen lineStart second).match? (some last) text = none := by
  have midway : (Place.start (some last) text).atLineStart = false := by
    simpa [Place.start, Place.atLineStart] using inside
  rw [match?, ends, ends, if_neg (Bool.eq_false_iff.mp midway), List.flatMap_nil, List.head?_nil]

/-- A pattern that asks for the start of a line is not found further on in the line. -/
theorem search_of_lineStart {last : Char} (inside : last ≠ '\n') (single : '\n' ∉ text)
    (skip : Nat) : (andThen lineStart second).search skip (some last) text = [] := by
  induction text generalizing skip last with
  | nil =>
    cases skip with
    | zero =>
      rw [search, match?_of_lineStart inside]
      rfl
    | succ skip => rfl
  | cons c text ih =>
    obtain ⟨other, single⟩ := List.ne_and_not_mem_of_not_mem_cons single
    cases skip with
    | zero =>
      rw [search, match?_of_lineStart inside]
      exact ih other.symm single 0
    | succ skip => exact ih other.symm single skip

/-- A pattern that asks for the start of a line is found on a line if it matches at its start, and
only there. -/
theorem found_of_lineStart (single : '\n' ∉ text) : (andThen lineStart second).found text =
    (((andThen lineStart second).match? none text).map Place.groups).toList := by
  rw [found]
  cases text with
  | nil => rw [search]
  | cons c text =>
    obtain ⟨other, single⟩ := List.ne_and_not_mem_of_not_mem_cons single
    rw [search]
    cases (andThen lineStart second).match? none (c :: text) with
    | none => exact search_of_lineStart other.symm single 0
    | some stop =>
      simp only [search_of_lineStart other.symm single, Option.map_some, Option.toList_some]

end Pattern

end Flowgraph
