import Mathlib.Algebra.Ring.Nat
import Flowgraph.Proofs.CycleSearch.Path

/-!
# The end of a cycle search

Every step follows an edge that had not been followed or leaves a node that had not been left, so
the fuel is enough, and what `find?` gives is where the search gets in as many steps as it takes. A
search that ends without a cycle has left every node, targets first.

Main result: `find?_eq_none` and `find?_eq_some`.
-/
namespace Flowgraph

namespace CycleSearch

/-- Where a search gets, in as many steps as it takes: to an empty path, or to a cycle. -/
inductive Ends (targets : String → List String) :
    CycleSearch → Except (List String) CycleSearch → Prop
  | done {search} (closed : search.path = []) : Ends targets search (.ok search)
  | found {search cycle} (open_ : search.path ≠ [])
      (stepped : search.step targets = .error cycle) : Ends targets search (.error cycle)
  | step {search next result} (open_ : search.path ≠ [])
      (stepped : search.step targets = .ok next) (onward : Ends targets next result) :
      Ends targets search result

/-- Searching from several nodes one after the other, each time to the end. -/
inductive Runs (targets : String → List String) :
    List String → CycleSearch → Except (List String) CycleSearch → Prop
  | none {search} : Runs targets [] search (.ok search)
  | seen {root rest search result} (visited : search.markOf root ≠ .unvisited)
      (onward : Runs targets rest search result) : Runs targets (root :: rest) search result
  | found {root rest search cycle} (unvisited : search.markOf root = .unvisited)
      (ends : Ends targets (enter targets root search.marks search.path) (.error cycle)) :
      Runs targets (root :: rest) search (.error cycle)
  | next {root rest search middle result} (unvisited : search.markOf root = .unvisited)
      (ends : Ends targets (enter targets root search.marks search.path) (.ok middle))
      (onward : Runs targets rest middle result) : Runs targets (root :: rest) search result

/-- The steps that are left: one for each edge that is yet to be followed, and one to leave each
node that has not been left. -/
def work (ids : List String) (targets : String → List String) (search : CycleSearch) : Nat :=
  (search.path.map fun frame => frame.pending.length + 1).sum +
    ((ids.filter fun id => search.markOf id = .unvisited).map fun id =>
      (targets id).length + 1).sum

section

variable {ids : List String} {targets : String → List String} {left : List String}
variable {search next : CycleSearch}

theorem sum_filter_add_le {target : String} {names : List String} (member : target ∈ names)
    (f : String → Nat) {p q : String → Bool} (holds : p target = true)
    (fewer : ∀ id, q id = (p id && id ≠ target)) :
    ((names.filter q).map f).sum + f target ≤ ((names.filter p).map f).sum := by
  -- before the target is met, fewer elements pass the second test
  have mono (rest : List String) : ((rest.filter q).map f).sum ≤ ((rest.filter p).map f).sum := by
    induction rest with
    | nil => simp
    | cons id rest ih =>
      by_cases same : id = target
      · subst same
        simp only [List.filter_cons, fewer, holds, ne_eq, not_true_eq_false, decide_false,
          Bool.and_false, Bool.false_eq_true, if_true, if_false, List.map_cons, List.sum_cons]
        omega
      · cases inside : p id <;> simp [fewer, inside, same, ih]
  induction names with
  | nil => simp at member
  | cons id rest ih =>
    by_cases same : id = target
    · subst same
      have bound := mono rest
      simp only [List.filter_cons, fewer, holds, ne_eq, not_true_eq_false, decide_false,
        Bool.and_false, Bool.false_eq_true, if_true, if_false, List.map_cons, List.sum_cons]
      omega
    · have bound := ih ((List.mem_cons.mp member).resolve_left fun equal => same equal.symm)
      cases inside : p id <;> simp [fewer, inside, same] <;> omega

theorem work_leave (ids : List String) (targets : String → List String) {node : String}
    {outer : List Frame} (marked : search.markOf node = .onPath)
    (path : search.path = ⟨node, []⟩ :: outer) :
    work ids targets ⟨search.marks.insert node .done, outer⟩ + 1 = work ids targets search := by
  have unvisited (id : String) :
      ((⟨search.marks.insert node .done, outer⟩ : CycleSearch).markOf id = .unvisited) =
        (search.markOf id = .unvisited) := by
    rw [markOf_insert]
    by_cases same : node = id
    · subst same
      simp [marked]
    · simp [same]
  simp only [work, unvisited, path, List.map_cons, List.sum_cons, List.length_nil]
  omega

theorem work_pass (ids : List String) (targets : String → List String) {node target : String}
    {later : List String} {outer : List Frame}
    (path : search.path = ⟨node, target :: later⟩ :: outer) :
    work ids targets ⟨search.marks, ⟨node, later⟩ :: outer⟩ + 1 = work ids targets search := by
  have same (id : String) :
      (⟨search.marks, ⟨node, later⟩ :: outer⟩ : CycleSearch).markOf id = search.markOf id := rfl
  simp only [work, same, path, List.map_cons, List.sum_cons, List.length_cons]
  omega

theorem work_push {target : String} {path : List Frame} (member : target ∈ ids)
    (unvisited : search.markOf target = .unvisited) :
    work ids targets (enter targets target search.marks path) ≤
      work ids targets ⟨search.marks, path⟩ := by
  have fewer := sum_filter_add_le member (fun id => (targets id).length + 1)
    (p := fun id => search.markOf id = .unvisited)
    (q := fun id => (enter targets target search.marks path).markOf id = .unvisited)
    (by simpa using unvisited) (by
      intro id
      simp only [markOf_enter]
      by_cases same : target = id
      · simp [same]
      · have different : id ≠ target := fun equal => same equal.symm
        simp [same, different])
  have same (id : String) : (⟨search.marks, path⟩ : CycleSearch).markOf id = search.markOf id := rfl
  simp only [work, same]
  simp only [enter, List.map_cons, List.sum_cons] at fewer ⊢
  omega

/-- Entering a node visits it, and undoes no visit. -/
theorem markOf_enter_ne_unvisited {node id : String} {path : List Frame}
    (visited : id = node ∨ search.markOf id ≠ .unvisited) :
    (enter targets node search.marks path).markOf id ≠ .unvisited := by
  rw [markOf_enter]
  split
  · decide
  · next different => exact visited.resolve_left fun same => different same.symm

/-- What a step can do: it leaves the end of the path, enters the next target, or passes it over. -/
theorem step_cases (open_ : search.path ≠ []) (stepped : search.step targets = .ok next) :
    (∃ node outer, search.path = ⟨node, []⟩ :: outer ∧
      next = ⟨search.marks.insert node .done, outer⟩) ∨
    ∃ node target later outer, search.path = ⟨node, target :: later⟩ :: outer ∧
      (search.markOf target = .unvisited ∧
          next = enter targets target search.marks (⟨node, later⟩ :: outer) ∨
        search.markOf target = .done ∧ next = ⟨search.marks, ⟨node, later⟩ :: outer⟩) := by
  unfold CycleSearch.step at stepped
  split at stepped
  · next closed => exact absurd closed open_
  · next node outer path =>
    cases stepped
    exact .inl ⟨node, outer, path, rfl⟩
  · next node target later outer path =>
    refine .inr ⟨node, target, later, outer, path, ?_⟩
    simp only at stepped
    split at stepped
    · next unvisited =>
      cases stepped
      exact .inl ⟨unvisited, rfl⟩
    · contradiction
    · next finished =>
      cases stepped
      exact .inr ⟨finished, rfl⟩

/-- A step ends a search where the next target is on the path. -/
theorem step_eq_error {cycle : List String} (stepped : search.step targets = .error cycle) :
    ∃ node target later outer, search.path = ⟨node, target :: later⟩ :: outer ∧
      search.markOf target = .onPath ∧ cycle = cycleFrom target (⟨node, later⟩ :: outer) := by
  unfold CycleSearch.step at stepped
  split at stepped
  · contradiction
  · contradiction
  · next node target later outer path =>
    simp only at stepped
    split at stepped
    · contradiction
    · next marked =>
      cases stepped
      exact ⟨node, target, later, outer, path, marked, rfl⟩
    · contradiction

/-- One step of a search that is under way. -/
theorem Follows.step (follows : Follows ids targets left search) (open_ : search.path ≠ [])
    (stepped : search.step targets = .ok next) :
    (∃ left, Follows ids targets left next) ∧ work ids targets next < work ids targets search ∧
      ∀ id, search.markOf id ≠ .unvisited → next.markOf id ≠ .unvisited := by
  obtain ⟨node, outer, path, rfl⟩ | ⟨node, target, later, outer, path, followed⟩ :=
    step_cases open_ stepped
  · have marked := (follows.onPath node).mpr (by simp [path])
    -- the end of the path has no targets left
    have less := work_leave ids targets marked path
    refine ⟨⟨_, follows.leave path⟩, by omega, ?_⟩
    intro id visited
    rw [markOf_insert]
    split
    · decide
    · exact visited
  · -- the next target is followed: it is entered, or passed over
    have less := work_pass ids targets path
    obtain ⟨unvisited, rfl⟩ | ⟨finished, rfl⟩ := followed
    · have member := follows.mem_ids_of_unvisited unvisited
      -- the work of entering it was counted while it was unvisited
      have pushed :
          work ids targets
              (CycleSearch.enter targets target search.marks (⟨node, later⟩ :: outer)) ≤
            work ids targets ⟨search.marks, ⟨node, later⟩ :: outer⟩ :=
        work_push member unvisited
      exact ⟨⟨_, follows.enter path unvisited⟩, by omega,
        fun id visited => markOf_enter_ne_unvisited (Or.inr visited)⟩
    · exact ⟨⟨_, follows.pass path finished⟩, by omega, fun id visited => visited⟩

theorem Follows.step_error {cycle : List String} (follows : Follows ids targets left search)
    (stepped : search.step targets = .error cycle) :
    Closed targets cycle ∧ ∀ id ∈ cycle, id ∈ ids := by
  obtain ⟨node, target, later, outer, path, marked, rfl⟩ := step_eq_error stepped
  exact follows.closed path marked

/-- What is known where a search ends that has visited some nodes. -/
def Arrived (ids : List String) (targets : String → List String) (visited : String → Prop) :
    Except (List String) CycleSearch → Prop
  | .ok last => last.path = [] ∧ (∃ left, Follows ids targets left last) ∧
      ∀ id, visited id → last.markOf id ≠ .unvisited
  | .error cycle => Closed targets cycle ∧ ∀ id ∈ cycle, id ∈ ids

theorem Arrived.imp {visited before : String → Prop} {result : Except (List String) CycleSearch}
    (arrived : Arrived ids targets visited result) (kept : ∀ id, before id → visited id) :
    Arrived ids targets before result := by
  cases result with
  | error cycle => exact arrived
  | ok last =>
    obtain ⟨closed, all, known⟩ := arrived
    exact ⟨closed, all, fun id old => known id (kept id old)⟩

theorem Follows.arrived_of_ends {result : Except (List String) CycleSearch}
    (follows : Follows ids targets left search) (ends : Ends targets search result) :
    Arrived ids targets (fun id => search.markOf id ≠ .unvisited) result := by
  induction ends generalizing left with
  | done closed => exact ⟨closed, ⟨left, follows⟩, fun id visited => visited⟩
  | found _ stepped => exact follows.step_error stepped
  | step open_ stepped _ ih =>
    obtain ⟨⟨left, onward⟩, -, kept⟩ := follows.step open_ stepped
    exact (ih onward).imp kept

/-- As many steps as there is work left are enough. -/
theorem Follows.ends_exhaust {fuel : Nat} (follows : Follows ids targets left search)
    (enough : work ids targets search ≤ fuel) :
    Ends targets search (exhaust targets fuel search) := by
  induction fuel generalizing search left with
  | zero =>
    -- an open path has work left
    refine .done ?_
    cases path : search.path with
    | nil => rfl
    | cons frame outer =>
      simp only [work, path, List.map_cons, List.sum_cons] at enough
      omega
  | succ fuel ih =>
    unfold exhaust
    split
    · next closed => exact .done (List.isEmpty_iff.mp closed)
    · next filled =>
      have open_ : search.path ≠ [] := fun closed => filled (List.isEmpty_iff.mpr closed)
      cases stepped : search.step targets with
      | error cycle => exact .found open_ stepped
      | ok middle =>
        -- each step does some of the work, so the fuel still covers the rest
        obtain ⟨⟨left, onward⟩, less, -⟩ := follows.step open_ stepped
        exact .step open_ stepped (ih onward (by omega))

/-- The fuel of a search covers all nodes and all edges. -/
theorem work_le_fuel (closed : search.path = []) :
    work ids targets search ≤ 2 * ids.length + (ids.flatMap targets).length + 1 := by
  have all : ((ids.filter fun id => search.markOf id = .unvisited).map fun id =>
      (targets id).length + 1).sum ≤ ids.length + (ids.flatMap targets).length := by
    generalize (fun id => decide (search.markOf id = .unvisited)) = unvisited
    induction ids with
    | nil => simp
    | cons id rest ih =>
      cases visited : unvisited id <;>
        simp only [List.filter_cons, visited, Bool.false_eq_true, if_true, if_false, List.map_cons,
          List.sum_cons, List.length_cons, List.flatMap_cons, List.length_append] <;>
        omega
  simp only [work, closed, List.map_nil, List.sum_nil]
  omega

theorem get?_marks_start (ids : List String) (id : String) :
    (start ids).marks.get? id = if id ∈ ids then some .unvisited else none :=
  Keyed.get?_ofList_map (fun _ => Mark.unvisited) ids id

theorem markOf_start (ids : List String) (id : String) :
    (start ids).markOf id = if id ∈ ids then .unvisited else .done := by
  rw [markOf, get?_marks_start]
  split <;> rfl

theorem follows_start (ids : List String) (targets : String → List String) :
    Follows ids targets [] (start ids) := by
  constructor
  case listed =>
    intro id
    rw [← Keyed.get?_isSome_iff, get?_marks_start]
    split <;> simp_all
  case onPath =>
    intro id
    rw [markOf_start]
    split <;> simp [start]
  case done =>
    intro id inside
    simp [markOf_start, inside]
  case inside => simp
  case once => exact List.nodup_nil
  case leftOnce => exact List.nodup_nil
  case targetsFirst => simp
  case frames => trivial

/-- A node that has not been visited is the root of a path of its own. -/
theorem Follows.root {root : String} (follows : Follows ids targets left search)
    (closed : search.path = []) (unvisited : search.markOf root = .unvisited) :
    Follows ids targets left (CycleSearch.enter targets root search.marks search.path) := by
  apply follows.push unvisited rfl
  rw [closed]
  trivial

theorem work_root {root : String} (follows : Follows ids targets left search)
    (closed : search.path = []) (unvisited : search.markOf root = .unvisited) :
    work ids targets (enter targets root search.marks search.path) ≤
      2 * ids.length + (ids.flatMap targets).length + 1 := by
  exact Nat.le_trans (work_push (follows.mem_ids_of_unvisited unvisited) unvisited)
    (work_le_fuel closed)

/-- What is known once several nodes have been searched from: either nothing is open and they were
all visited, or there is a closed path. -/
theorem Follows.arrived_of_runs {roots : List String} {result : Except (List String) CycleSearch}
    (follows : Follows ids targets left search) (closed : search.path = [])
    (runs : Runs targets roots search result) :
    Arrived ids targets (fun id => id ∈ roots ∨ search.markOf id ≠ .unvisited) result := by
  -- a run is by its roots: each of them was visited, is searched to the end, or ends the run
  induction runs generalizing left with
  | none => exact ⟨closed, ⟨left, follows⟩, by simp⟩
  | seen visited _ ih =>
    refine (ih follows closed).imp ?_
    rintro id (member | known)
    · rcases List.mem_cons.mp member with rfl | later
      · exact Or.inr visited
      · exact Or.inl later
    · exact Or.inr known
  | found unvisited ends => exact (follows.root closed unvisited).arrived_of_ends ends
  | next unvisited ends _ ih =>
    obtain ⟨closed', ⟨left, onward⟩, kept⟩ :=
      (follows.root closed unvisited).arrived_of_ends ends
    -- what was visited before, or is the root, is visited once the root has been entered
    refine (ih onward closed').imp ?_
    rintro id (member | known)
    · rcases List.mem_cons.mp member with rfl | later
      · exact Or.inr (kept id (markOf_enter_ne_unvisited (Or.inl rfl)))
      · exact Or.inl later
    · exact Or.inr (kept id (markOf_enter_ne_unvisited (Or.inr known)))

/-- The fuel of a search takes it to the end from each of its roots. -/
theorem Follows.runs_foldlM {roots : List String} {fuel : Nat}
    (follows : Follows ids targets left search) (closed : search.path = [])
    (enough : 2 * ids.length + (ids.flatMap targets).length + 1 ≤ fuel) :
    Runs targets roots search (roots.foldlM (visit targets fuel) search) := by
  induction roots generalizing search left with
  | nil => exact .none
  | cons root rest ih =>
    rw [List.foldlM_cons]
    unfold visit
    split
    · next unvisited =>
      have entered := follows.root closed unvisited
      have ends := entered.ends_exhaust
        (Nat.le_trans (work_root follows closed unvisited) enough)
      cases ended : exhaust targets fuel
          (CycleSearch.enter targets root search.marks search.path) with
      | error cycle => exact .found unvisited (ended ▸ ends)
      | ok middle =>
        rw [ended] at ends
        obtain ⟨closed', ⟨left, onward⟩, -⟩ := entered.arrived_of_ends ends
        exact .next unvisited ends (ih onward closed')
    · next visited => exact .seen visited (ih follows closed)

/-- What `find?` gives is the outcome of a run. -/
theorem runs_start (ids : List String) (targets : String → List String) :
    ∃ result, Runs targets ids (start ids) result ∧
      find? ids targets = match result with
        | .ok _ => none
        | .error cycle => some cycle :=
  ⟨_, (follows_start ids targets).runs_foldlM rfl (Nat.le_refl _), rfl⟩

/-- If no cycle is found, the nodes can be listed with targets first. -/
theorem find?_eq_none (searched : find? ids targets = none) :
    ∃ left : List String, left.Nodup ∧ (∀ id, id ∈ left ↔ id ∈ ids) ∧
      ∀ id ∈ left, ∀ target ∈ targets id, target ∈ ids → left.idxOf target < left.idxOf id := by
  obtain ⟨result, runs, outcome⟩ := runs_start ids targets
  cases result with
  | error cycle => simp [searched] at outcome
  | ok last =>
    obtain ⟨closed, ⟨left, follows⟩, visited⟩ :=
      (follows_start ids targets).arrived_of_runs rfl runs
    refine ⟨left, follows.leftOnce, ?_, ?_⟩
    -- every node is visited and none is open, so every node is done
    · intro id
      refine ⟨follows.inside id, fun inside => (follows.done id inside).mp ?_⟩
      have known := visited id (Or.inl inside)
      have unopened : last.markOf id ≠ .onPath := by
        rw [ne_eq, follows.onPath, closed]
        simp
      cases marked : last.markOf id <;> simp_all
    · intro id inside target leads listed
      exact (follows.targetsFirst id inside target leads listed).2

/-- If a cycle is found, it is a closed path through nodes that were searched. -/
theorem find?_eq_some {cycle : List String} (searched : find? ids targets = some cycle) :
    Closed targets cycle ∧ ∀ id ∈ cycle, id ∈ ids := by
  obtain ⟨result, runs, outcome⟩ := runs_start ids targets
  have arrived := (follows_start ids targets).arrived_of_runs rfl runs
  cases result with
  | ok last => simp [searched] at outcome
  | error found =>
    rw [searched, Option.some.injEq] at outcome
    exact outcome ▸ arrived

end

end CycleSearch

end Flowgraph
