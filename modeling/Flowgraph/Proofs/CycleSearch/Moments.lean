import Mathlib.Data.List.Perm.Subperm
import Flowgraph.Proofs.CycleSearch.Verdict

/-!
# The moments of a cycle search

Between its steps a search has marked the nodes on its path as open and the nodes that it has left
as done, with all their targets. A node is entered once, and its edges are then pending until they
are followed; so no more nodes are entered than there are, and no edge is followed twice.

Main result: `inStep_of_moment` for every moment of a search, and `find?_inStep`.
-/
namespace Flowgraph

namespace CycleSearch

/-- The node that the next step enters. -/
def entering (search : CycleSearch) : List String :=
  match search.path with
  | ⟨_, target :: _⟩ :: _ => if search.markOf target = .unvisited then [target] else []
  | _ => []

/-- The edge that the next step follows. -/
def following (search : CycleSearch) : List (String × String) :=
  match search.path with
  | ⟨node, target :: _⟩ :: _ => [(node, target)]
  | _ => []

/-- The moments of a search from several nodes: the nodes from which it is yet to search, how far it
has come, and the nodes that were entered and the edges that were followed, listed again each
time. -/
inductive Moment (ids : List String) (targets : String → List String) :
    List String → CycleSearch → List String → List (String × String) → Prop
  | start : Moment ids targets ids (start ids) [] []
  | seen {root roots search entered followed}
      (moment : Moment ids targets (root :: roots) search entered followed)
      (closed : search.path = []) (visited : search.markOf root ≠ .unvisited) :
      Moment ids targets roots search entered followed
  | root {root roots search entered followed}
      (moment : Moment ids targets (root :: roots) search entered followed)
      (closed : search.path = []) (unvisited : search.markOf root = .unvisited) :
      Moment ids targets roots (enter targets root search.marks search.path) (entered ++ [root])
        followed
  | step {roots search next entered followed}
      (moment : Moment ids targets roots search entered followed) (open_ : search.path ≠ [])
      (stepped : search.step targets = .ok next) :
      Moment ids targets roots next (entered ++ search.entering) (followed ++ search.following)

/-- The edges from a node. -/
def edgesFrom (targets : String → List String) (id : String) : List (String × String) :=
  (targets id).map (id, ·)

/-- The edges that are yet to be followed from the nodes on a path. -/
def pendingEdges (path : List Frame) : List (String × String) :=
  path.flatMap fun frame => frame.pending.map (frame.node, ·)

/-- What was entered is what has been visited, once each, and every edge from there was followed or
is pending. -/
structure Accounted (ids : List String) (targets : String → List String) (search : CycleSearch)
    (entered : List String) (followed : List (String × String)) : Prop where
  visited : ∀ id, id ∈ entered ↔ id ∈ ids ∧ search.markOf id ≠ .unvisited
  once : entered.Nodup
  edges : (followed ++ pendingEdges search.path).Perm (entered.flatMap (edgesFrom targets))

section

variable {ids : List String} {targets : String → List String} {left roots entered : List String}
variable {followed : List (String × String)} {search next : CycleSearch}

theorem accounted_start (ids : List String) (targets : String → List String) :
    Accounted ids targets (start ids) [] [] where
  visited id := by simp +contextual [markOf_start]
  once := List.nodup_nil
  edges := by simp [start, pendingEdges]

/-- Entering a node that has not been visited makes its edges pending. -/
theorem Accounted.enter {node : String} {path : List Frame} {more : List (String × String)}
    (accounted : Accounted ids targets search entered followed) (inside : node ∈ ids)
    (unvisited : search.markOf node = .unvisited)
    (edges : (more ++ pendingEdges path).Perm (followed ++ pendingEdges search.path)) :
    Accounted ids targets (enter targets node search.marks path) (entered ++ [node]) more where
  visited id := by
    rw [List.mem_append, List.mem_singleton, accounted.visited, markOf_enter]
    by_cases same : node = id
    · subst same
      simp [inside]
    · have different : id ≠ node := fun equal => same equal.symm
      simp [same, different]
  once := by
    have fresh : node ∉ entered := fun old => ((accounted.visited node).mp old).2 unvisited
    exact List.concat_eq_append ▸ accounted.once.concat fresh
  edges := by
    have pending : pendingEdges (CycleSearch.enter targets node search.marks path).path =
        edgesFrom targets node ++ pendingEdges path := rfl
    rw [pending, List.flatMap_append, List.flatMap_singleton]
    calc
      (more ++ (edgesFrom targets node ++ pendingEdges path)).Perm
          ((more ++ pendingEdges path) ++ edgesFrom targets node) := by
        rw [List.append_assoc]
        exact List.perm_append_comm.append_left more
      List.Perm _ (entered.flatMap (edgesFrom targets) ++ edgesFrom targets node) :=
        (edges.trans accounted.edges).append_right _

/-- Leaving a node makes no edge pending. -/
theorem Accounted.leave {node : String} {outer : List Frame}
    (accounted : Accounted ids targets search entered followed)
    (path : search.path = ⟨node, []⟩ :: outer) (marked : search.markOf node = .onPath) :
    Accounted ids targets ⟨search.marks.insert node .done, outer⟩ entered followed where
  visited id := by
    rw [accounted.visited, markOf_insert]
    by_cases same : node = id
    · subst same
      simp [marked]
    · simp [same]
  once := accounted.once
  edges := by
    have same : pendingEdges search.path = pendingEdges outer := by rw [path]; rfl
    exact same ▸ accounted.edges

/-- An edge that is followed is no longer pending. -/
theorem append_pendingEdges {node target : String} {later : List String} {outer : List Frame}
    (path : search.path = ⟨node, target :: later⟩ :: outer) (followed : List (String × String)) :
    followed ++ [(node, target)] ++ pendingEdges (⟨node, later⟩ :: outer) =
      followed ++ pendingEdges search.path := by
  rw [path, List.append_assoc]
  rfl

theorem Accounted.step (accounted : Accounted ids targets search entered followed)
    (follows : Follows ids targets left search) (open_ : search.path ≠ [])
    (stepped : search.step targets = .ok next) :
    Accounted ids targets next (entered ++ search.entering) (followed ++ search.following) := by
  obtain ⟨node, outer, path, rfl⟩ | ⟨node, target, later, outer, path, cases⟩ :=
    step_cases open_ stepped
  · have marked := (follows.onPath node).mpr (by simp [path])
    have entering : search.entering = [] := by simp only [CycleSearch.entering, path]
    have following : search.following = [] := by simp only [CycleSearch.following, path]
    rw [entering, following, List.append_nil, List.append_nil]
    exact accounted.leave path marked
  -- the edge goes from the pending ones to those that were followed
  have following : search.following = [(node, target)] := by
    simp only [CycleSearch.following, path]
  have edges := append_pendingEdges path followed
  rw [following]
  obtain ⟨unvisited, rfl⟩ | ⟨finished, rfl⟩ := cases
  · have entering : search.entering = [target] := by
      simp only [CycleSearch.entering, path, unvisited, if_true]
    rw [entering]
    exact accounted.enter (follows.mem_ids_of_unvisited unvisited) unvisited (edges ▸ .refl _)
  · have entering : search.entering = [] := by
      simp only [CycleSearch.entering, path, finished, reduceCtorEq, if_false]
    rw [entering, List.append_nil]
    exact ⟨accounted.visited, accounted.once, edges ▸ accounted.edges⟩

/-- What is known at every moment of a search. -/
theorem Moment.known (moment : Moment ids targets roots search entered followed) :
    (∃ left, Follows ids targets left search) ∧
      Accounted ids targets search entered followed := by
  induction moment with
  | start => exact ⟨⟨_, follows_start ids targets⟩, accounted_start ids targets⟩
  | seen _ _ _ ih => exact ih
  | root _ closed unvisited ih =>
    obtain ⟨⟨left, follows⟩, accounted⟩ := ih
    exact ⟨⟨left, follows.root closed unvisited⟩,
      accounted.enter (follows.mem_ids_of_unvisited unvisited) unvisited (.refl _)⟩
  | step _ open_ stepped ih =>
    obtain ⟨⟨left, follows⟩, accounted⟩ := ih
    exact ⟨(follows.step open_ stepped).1, accounted.step follows open_ stepped⟩

/-- What holds at a moment of a search. -/
structure InStep (ids : List String) (targets : String → List String) (search : CycleSearch)
    (entered : List String) (followed : List (String × String)) : Prop where
  /-- The nodes that are marked as open are those on the path. -/
  onPath : ∀ id, search.marks.get? id = some .onPath ↔ id ∈ search.path.map Frame.node
  once : (search.path.map Frame.node).Nodup
  joined : (search.path.map Frame.node).IsChain fun inner outer => inner ∈ targets outer
  done : ∀ id, search.marks.get? id = some .done → ∀ target ∈ targets id,
    search.marks.get? target = some .done ∨ target ∉ ids
  /-- A cycle is the part of the path from a place where its first node was found. -/
  found : ∀ cycle, search.step targets = .error cycle →
    ∃ node target later outer inner beyond, search.path = ⟨node, target :: later⟩ :: outer ∧
      search.path.map Frame.node = inner ++ target :: beyond ∧ cycle = (inner ++ [target]).reverse
  /-- No node is entered twice. -/
  pushes : entered.Nodup ∧ ∀ id ∈ entered, id ∈ ids
  /-- No edge is followed twice, also if the next step is counted in. -/
  steps : (followed ++ search.following).Subperm (entered.flatMap (edgesFrom targets))

theorem Follows.get?_eq_some_iff (follows : Follows ids targets left search) {id : String}
    {mark : Mark} : search.marks.get? id = some mark ↔ id ∈ ids ∧ search.markOf id = mark := by
  rw [← follows.listed, ← Keyed.get?_isSome_iff, markOf]
  cases search.marks.get? id <;> simp

theorem following_sublist (search : CycleSearch) :
    search.following.Sublist (pendingEdges search.path) := by
  unfold following
  split
  · next node target later outer path =>
    rw [path]
    exact (List.nil_sublist _).cons_cons (node, target)
  · exact List.nil_sublist _

theorem inStep_of_moment (moment : Moment ids targets roots search entered followed) :
    InStep ids targets search entered followed := by
  obtain ⟨⟨left, follows⟩, accounted⟩ := moment.known
  constructor
  case onPath =>
    intro id
    rw [follows.get?_eq_some_iff, ← follows.onPath, and_iff_right_iff_imp]
    exact follows.mem_ids_of_onPath
  case once => exact follows.once
  case joined => simpa using follows.frames.isChain
  case done =>
    intro id marked target leads
    obtain ⟨inside, marked⟩ := follows.get?_eq_some_iff.mp marked
    by_cases listed : target ∈ ids
    · -- a node that was left had all its listed targets left before it
      have old := (follows.done id inside).mp marked
      have earlier := (follows.targetsFirst id old target leads listed).1
      exact .inl (follows.get?_eq_some_iff.mpr ⟨listed, (follows.done target listed).mpr earlier⟩)
    · exact .inr listed
  case found =>
    intro cycle stepped
    obtain ⟨node, target, later, outer, path, marked, rfl⟩ := step_eq_error stepped
    obtain ⟨inner, beyond, nodes⟩ := List.append_of_mem ((follows.onPath target).mp marked)
    refine ⟨node, target, later, outer, inner, beyond, path, nodes, ?_⟩
    have once := follows.once
    rw [path] at once nodes
    exact cycleFrom_eq once nodes
  case pushes => exact ⟨accounted.once, fun id old => ((accounted.visited id).mp old).1⟩
  case steps =>
    have counted := (List.Sublist.refl followed).append (following_sublist search)
    exact counted.subperm.trans accounted.edges.subperm

/-- Where a search halts: with an empty path, when it has yet to search from some nodes, or when a
step closes a cycle. -/
def Halts (ids : List String) (targets : String → List String) (roots : List String) :
    Except (List String) CycleSearch → Prop
  | .ok last => last.path = [] ∧ ∃ entered followed, Moment ids targets roots last entered followed
  | .error cycle => ∃ roots search entered followed,
      Moment ids targets roots search entered followed ∧ search.step targets = .error cycle

/-- What comes of a moment: a cycle, or what comes of the other nodes once its path is empty. -/
def Comes (targets : String → List String) (roots : List String) (search : CycleSearch)
    (result : Except (List String) CycleSearch) : Prop :=
  ∃ outcome, Ends targets search outcome ∧ match outcome with
    | .ok middle => Runs targets roots middle result
    | .error cycle => result = .error cycle

variable {result outcome : Except (List String) CycleSearch}

theorem Comes.runs (comes : Comes targets roots search result) (closed : search.path = []) :
    Runs targets roots search result := by
  obtain ⟨outcome, ends, onward⟩ := comes
  cases ends with
  | done => exact onward
  | found open_ => exact absurd closed open_
  | step open_ => exact absurd closed open_

theorem Runs.comes (runs : Runs targets roots search result) (closed : search.path = []) :
    Comes targets roots search result :=
  ⟨.ok search, .done closed, runs⟩

/-- Whatever comes of a moment comes of the whole search. -/
theorem Moment.runs (moment : Moment ids targets roots search entered followed)
    (comes : Comes targets roots search result) :
    Runs targets ids (CycleSearch.start ids) result := by
  -- back from the moment to the start, one more step in front each time
  induction moment with
  | start => exact comes.runs rfl
  | seen _ closed visited ih => exact ih ((Runs.seen visited (comes.runs closed)).comes closed)
  | root _ closed unvisited ih =>
    obtain ⟨outcome, ends, onward⟩ := comes
    refine ih (Runs.comes ?_ closed)
    cases outcome with
    | ok middle => exact .next unvisited ends onward
    | error cycle =>
      rw [onward]
      exact .found unvisited ends
  | step _ open_ stepped ih =>
    obtain ⟨outcome, ends, onward⟩ := comes
    exact ih ⟨outcome, .step open_ stepped ends, onward⟩

/-- A search from a node passes through moments until it halts. -/
theorem Moment.halts_of_ends (moment : Moment ids targets roots search entered followed)
    (ends : Ends targets search outcome) : Halts ids targets roots outcome := by
  induction ends generalizing entered followed with
  | done closed => exact ⟨closed, _, _, moment⟩
  | found _ stepped => exact ⟨_, _, _, _, moment, stepped⟩
  | step open_ stepped _ ih => exact ih (moment.step open_ stepped)

theorem Moment.halts (moment : Moment ids targets roots search entered followed)
    (closed : search.path = []) (runs : Runs targets roots search result) :
    Halts ids targets [] result := by
  induction runs generalizing entered followed with
  | none => exact ⟨closed, _, _, moment⟩
  | seen visited _ ih => exact ih (moment.seen closed visited) closed
  | found unvisited ends => exact (moment.root closed unvisited).halts_of_ends ends
  | next unvisited ends _ ih =>
    obtain ⟨closed', _, _, onward⟩ := (moment.root closed unvisited).halts_of_ends ends
    exact ih onward closed'

theorem halts_iff : Halts ids targets [] result ↔ Runs targets ids (start ids) result := by
  constructor
  · intro halts
    cases result with
    | ok last =>
      obtain ⟨closed, _, _, moment⟩ := halts
      exact moment.runs (Runs.none.comes closed)
    | error cycle =>
      obtain ⟨roots, search, _, _, moment, stepped⟩ := halts
      have open_ : search.path ≠ [] := by
        obtain ⟨node, target, later, outer, path, -⟩ := step_eq_error stepped
        rw [path]
        exact List.cons_ne_nil _ _
      exact moment.runs ⟨.error cycle, .found open_ stepped, rfl⟩
  · exact Moment.start.halts rfl

theorem find?_eq_none_iff_halts :
    find? ids targets = none ↔ ∃ last, Halts ids targets [] (.ok last) := by
  obtain ⟨result, runs, outcome⟩ := runs_start ids targets
  simp only [outcome, halts_iff]
  cases result with
  | ok last => simpa using ⟨last, runs⟩
  | error cycle =>
    refine iff_of_false (by simp) ?_
    rintro ⟨last, again⟩
    cases again.unique runs

theorem find?_eq_some_iff_halts {cycle : List String} :
    find? ids targets = some cycle ↔ Halts ids targets [] (.error cycle) := by
  obtain ⟨result, runs, outcome⟩ := runs_start ids targets
  simp only [outcome, halts_iff]
  cases result with
  | ok last =>
    refine iff_of_false (by simp) ?_
    intro again
    cases again.unique runs
  | error other =>
    rw [Option.some.injEq]
    exact ⟨fun same => same ▸ runs, fun again => (Except.error.inj (again.unique runs)).symm⟩

/-- At every moment of a search the nodes marked as open are those on its path, each once and each a
target of the one before it; a node marked as done has only targets that are done or are not
searched; a cycle is cut from the path where its first node was found; and no node was entered and
no edge followed twice. The search comes to an end: just if it finds no cycle, it comes to a moment
with an empty path and no node from which it is yet to search, and just if it finds one, to a moment
whose next step closes this cycle. -/
theorem find?_inStep (ids : List String) (targets : String → List String) :
    (∀ roots search entered followed, Moment ids targets roots search entered followed →
      InStep ids targets search entered followed) ∧
    (find? ids targets = none ↔ ∃ last : CycleSearch, last.path = [] ∧
      ∃ entered followed, Moment ids targets [] last entered followed) ∧
    ∀ cycle, find? ids targets = some cycle ↔ ∃ roots search entered followed,
      Moment ids targets roots search entered followed ∧ search.step targets = .error cycle := by
  refine ⟨?_, find?_eq_none_iff_halts, ?_⟩
  · intro roots search entered followed moment
    exact inStep_of_moment moment
  · intro cycle
    exact find?_eq_some_iff_halts

end

/-- Two nodes that lead to each other, the first of them also to one that is not searched. -/
def looped (id : String) : List String :=
  if id = "a" then ["gone", "b"] else if id = "b" then ["a"] else []

theorem find?_inStep_looped : ∃ search,
    InStep ["a", "b"] looped search ["a", "b"] [("a", "gone"), ("a", "b")] ∧
    search.path.map Frame.node = ["b", "a"] ∧ search.step looped = .error ["a", "b"] ∧
    find? ["a", "b"] looped = some ["a", "b"] := by
  obtain ⟨inStep, -, found⟩ := find?_inStep ["a", "b"] looped
  have first : Moment ["a", "b"] looped ["b"] _ ["a"] [] := Moment.start.root rfl (by decide)
  have passed := first.step (List.cons_ne_nil _ _) rfl
  have second := passed.step (List.cons_ne_nil _ _) rfl
  exact ⟨_, inStep _ _ _ _ second, rfl, rfl, (found _).mpr ⟨_, _, _, _, second, rfl⟩⟩

end CycleSearch

end Flowgraph
