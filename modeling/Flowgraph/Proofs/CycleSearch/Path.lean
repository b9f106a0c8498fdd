import Mathlib.Data.List.Chain
import Mathlib.Data.List.Nodup
import Flowgraph.CycleSearch
import Flowgraph.Proofs.Dependencies

/-!
# The path of a cycle search

The open nodes are those on the path, each once, and each is a target of the one before it. A node
is done only after all its targets among the searched nodes, so the done nodes, in the order in
which they were left, list targets before the nodes that lead to them.

Main result: `Follows.leave`, `Follows.enter` and `Follows.pass` keep these facts, one for each
kind of step, and `Follows.closed` finds a closed path where a step ends the search.
-/
namespace Flowgraph

namespace CycleSearch

/-- The frames of a path, its end first, given the node that was entered from the first of them. Of
the targets that a frame has followed, all are done but that node. -/
def Frames (ids : List String) (targets : String → List String) (left : List String) :
    Option String → List Frame → Prop
  | _, [] => True
  | entered, frame :: outer =>
    (∃ followed, targets frame.node = followed ++ frame.pending ∧
      ∀ target ∈ followed, target ∈ ids → target ∈ left ∨ entered = some target) ∧
    (∀ node, entered = some node → node ∈ targets frame.node) ∧
    Frames ids targets left (some frame.node) outer

/-- What a search knows, given the nodes that it has left in the order in which it left them. -/
structure Follows (ids : List String) (targets : String → List String) (left : List String)
    (search : CycleSearch) : Prop where
  listed : ∀ id, id ∈ search.marks.keys ↔ id ∈ ids
  onPath : ∀ id, search.markOf id = .onPath ↔ id ∈ search.path.map Frame.node
  done : ∀ id ∈ ids, search.markOf id = .done ↔ id ∈ left
  inside : ∀ id ∈ left, id ∈ ids
  once : (search.path.map Frame.node).Nodup
  leftOnce : left.Nodup
  targetsFirst : ∀ id ∈ left, ∀ target ∈ targets id, target ∈ ids →
    target ∈ left ∧ left.idxOf target < left.idxOf id
  frames : Frames ids targets left none search.path

/-- A path of targets that ends where it begins. -/
def Closed (targets : String → List String) : List String → Prop
  | [] => False
  | first :: rest => (first :: rest).Nodup ∧
      List.IsChain (fun a b => b ∈ targets a) (first :: rest ++ [first])

section

variable {ids : List String} {targets : String → List String} {left : List String}
variable {search : CycleSearch}

theorem markOf_insert (search : CycleSearch) (path : List Frame) (node id : String) (mark : Mark) :
    (CycleSearch.mk (search.marks.insert node mark) path).markOf id =
      if node = id then mark else search.markOf id := by
  simp only [markOf, Keyed.get?_insert]
  split <;> rfl

theorem markOf_enter (search : CycleSearch) (path : List Frame) (node id : String) :
    (enter targets node search.marks path).markOf id =
      if node = id then .onPath else search.markOf id :=
  markOf_insert search _ node id .onPath

theorem Frames.mono {more : List String} {entered entered' : Option String} {path : List Frame}
    (frames : Frames ids targets left entered path) (sub : ∀ id ∈ left, id ∈ more)
    (same : ∀ id, entered = some id → id ∈ more ∨ entered' = some id)
    (joined : ∀ node, entered' = some node → entered = some node) :
    Frames ids targets more entered' path := by
  induction path generalizing entered entered' with
  | nil => trivial
  | cons frame outer ih =>
    obtain ⟨⟨followed, split, done⟩, next, onward⟩ := frames
    refine ⟨⟨followed, split, ?_⟩, fun node equal => next node (joined node equal), ?_⟩
    · intro target member inside
      rcases done target member inside with old | equal
      · exact Or.inl (sub target old)
      · exact same target equal
    · exact ih onward (fun id equal => Or.inr equal) (fun node equal => equal)

/-- Each node of the path is a target of the next one out. -/
theorem Frames.isChain {entered : Option String} {path : List Frame}
    (frames : Frames ids targets left entered path) :
    List.IsChain (fun a b => a ∈ targets b) (entered.toList ++ path.map Frame.node) := by
  induction path generalizing entered with
  | nil => cases entered <;> simp
  | cons frame outer ih =>
    obtain ⟨_, next, onward⟩ := frames
    have chain := ih onward
    cases entered with
    | none => simpa using chain
    | some node => exact List.isChain_cons_cons.mpr ⟨next node rfl, chain⟩

theorem Follows.mem_ids (follows : Follows ids targets left search) {id : String}
    (marked : search.markOf id ≠ .done) : id ∈ ids := by
  rw [← follows.listed, ← Keyed.get?_isSome_iff]
  unfold markOf at marked
  cases found : search.marks.get? id with
  | none => simp [found] at marked
  | some mark => rfl

theorem Follows.mem_ids_of_unvisited (follows : Follows ids targets left search) {id : String}
    (unvisited : search.markOf id = .unvisited) : id ∈ ids :=
  follows.mem_ids (by rw [unvisited]; decide)

theorem Follows.mem_ids_of_onPath (follows : Follows ids targets left search) {id : String}
    (marked : search.markOf id = .onPath) : id ∈ ids :=
  follows.mem_ids (by rw [marked]; decide)

theorem mem_keys_insert {marks : Keyed Mark} {node : String} {mark : Mark}
    (listed : ∀ id, id ∈ marks.keys ↔ id ∈ ids) (member : node ∈ ids) (id : String) :
    id ∈ (marks.insert node mark).keys ↔ id ∈ ids := by
  rw [Keyed.keys_insert, if_pos (Keyed.mem_iff.mpr ((listed node).mpr member)), listed]

/-- The end of the path has no more targets to follow, and is left. -/
theorem Follows.leave {node : String} {outer : List Frame}
    (follows : Follows ids targets left search) (path : search.path = ⟨node, []⟩ :: outer) :
    Follows ids targets (left ++ [node]) ⟨search.marks.insert node .done, outer⟩ := by
  have marked := (follows.onPath node).mpr (by simp [path])
  have member := follows.mem_ids_of_onPath marked
  have frames := follows.frames
  rw [path] at frames
  obtain ⟨⟨followed, all, done⟩, -, onward⟩ := frames
  rw [List.append_nil] at all
  have once := follows.once
  rw [path, List.map_cons] at once
  obtain ⟨fresh, once⟩ := List.nodup_cons.mp once
  have unleft : node ∉ left := by
    intro old
    rw [(follows.done node member).mpr old] at marked
    contradiction
  -- the node turns from open to done: it leaves the path and goes to the end of `left`, after
  -- all its targets
  constructor
  case listed => exact mem_keys_insert follows.listed member
  case onPath =>
    intro id
    rw [markOf_insert]
    have before := follows.onPath id
    rw [path, List.map_cons, List.mem_cons] at before
    by_cases same : node = id
    · subst same
      simpa using fresh
    · have different : id ≠ node := fun equal => same equal.symm
      simpa [same, different] using before
  case done =>
    intro id inside
    rw [markOf_insert, List.mem_append, List.mem_singleton]
    have before := follows.done id inside
    by_cases same : node = id
    · simp [same]
    · have different : id ≠ node := fun equal => same equal.symm
      simpa [same, different] using before
  case inside =>
    intro id old
    rcases List.mem_append.mp old with old | same
    · exact follows.inside id old
    · exact List.mem_singleton.mp same ▸ member
  case once => exact once
  case leftOnce => exact List.concat_eq_append ▸ follows.leftOnce.concat unleft
  case targetsFirst =>
    intro id old target leads inside
    rcases List.mem_append.mp old with old | same
    · obtain ⟨earlier, place⟩ := follows.targetsFirst id old target leads inside
      rw [List.idxOf_append_of_mem earlier, List.idxOf_append_of_mem old]
      exact ⟨List.mem_append_left _ earlier, place⟩
    · have same := List.mem_singleton.mp same
      subst same
      rw [all] at leads
      have earlier : target ∈ left := by simpa using done target leads inside
      rw [List.idxOf_append_of_mem earlier, List.idxOf_append_of_notMem unleft,
        List.idxOf_cons_self]
      exact ⟨List.mem_append_left _ earlier, List.idxOf_lt_length_of_mem earlier⟩
  case frames =>
    exact onward.mono (fun id old => List.mem_append_left _ old)
      (fun id equal => Or.inl (by cases equal; simp)) (by simp)

/-- A node that has not been visited is put at the end of the path. -/
theorem Follows.push {target : String} {path : List Frame}
    (follows : Follows ids targets left search) (unvisited : search.markOf target = .unvisited)
    (nodes : search.path.map Frame.node = path.map Frame.node)
    (frames : Frames ids targets left (some target) path) :
    Follows ids targets left (enter targets target search.marks path) := by
  have member := follows.mem_ids_of_unvisited unvisited
  have fresh : target ∉ search.path.map Frame.node := by
    rw [← follows.onPath, unvisited]
    decide
  constructor
  case listed => exact mem_keys_insert follows.listed member
  case onPath =>
    intro id
    rw [markOf_enter, enter, List.map_cons, List.mem_cons, ← nodes]
    have before := follows.onPath id
    by_cases same : target = id
    · simp [same]
    · have different : id ≠ target := fun equal => same equal.symm
      simpa [same, different] using before
  case done =>
    intro id inside
    rw [markOf_enter]
    have before := follows.done id inside
    by_cases same : target = id
    · subst same
      simpa [unvisited] using before
    · simpa [same] using before
  case inside => exact follows.inside
  case once =>
    simp only [enter]
    rw [List.map_cons, ← nodes]
    exact List.nodup_cons.mpr ⟨fresh, follows.once⟩
  case leftOnce => exact follows.leftOnce
  case targetsFirst => exact follows.targetsFirst
  case frames => exact ⟨⟨[], rfl, by simp⟩, by simp, frames⟩

/-- A target that has not been visited is entered. -/
theorem Follows.enter {node target : String} {later : List String} {outer : List Frame}
    (follows : Follows ids targets left search)
    (path : search.path = ⟨node, target :: later⟩ :: outer)
    (unvisited : search.markOf target = .unvisited) :
    Follows ids targets left (enter targets target search.marks (⟨node, later⟩ :: outer)) := by
  have frames := follows.frames
  rw [path] at frames
  obtain ⟨⟨followed, all, done⟩, -, onward⟩ := frames
  apply follows.push unvisited (by rw [path]; rfl)
  refine ⟨⟨followed ++ [target], by simp [all], ?_⟩, ?_, onward⟩
  · intro other old inside
    rcases List.mem_append.mp old with old | same
    · exact Or.inl (by simpa using done other old inside)
    · exact Or.inr (by rw [List.mem_singleton.mp same])
  · rintro other same
    cases same
    simp [all]

/-- A target that is done, or is not searched at all, is passed over. -/
theorem Follows.pass {node target : String} {later : List String} {outer : List Frame}
    (follows : Follows ids targets left search)
    (path : search.path = ⟨node, target :: later⟩ :: outer)
    (finished : search.markOf target = .done) :
    Follows ids targets left ⟨search.marks, ⟨node, later⟩ :: outer⟩ := by
  have frames := follows.frames
  have onPath := follows.onPath
  have once := follows.once
  rw [path] at frames onPath once
  obtain ⟨⟨followed, all, done⟩, -, onward⟩ := frames
  refine ⟨follows.listed, onPath, follows.done, follows.inside, once, follows.leftOnce,
    follows.targetsFirst, ⟨followed ++ [target], by simp [all], ?_⟩, by simp, onward⟩
  intro other old inside
  rcases List.mem_append.mp old with old | same
  · exact done other old inside
  -- the target was followed now, and is among the left nodes already
  · have same := List.mem_singleton.mp same
    subst same
    exact Or.inl ((follows.done other inside).mp finished)

/-- A path that holds a node just once is cut at this node. -/
theorem cycleFrom_eq {target : String} {path : List Frame} {inner beyond : List String}
    (once : (path.map Frame.node).Nodup)
    (nodes : path.map Frame.node = inner ++ target :: beyond) :
    cycleFrom target path = (inner ++ [target]).reverse := by
  rw [nodes] at once
  have absent : target ∉ beyond := (List.nodup_cons.mp (List.nodup_append.mp once).2.1).1
  simp only [cycleFrom, nodes]
  rw [if_pos (by simp), List.reverse_append, List.reverse_cons, List.append_assoc,
    List.dropWhile_append_of_pos]
  · simp
  · intro other outside
    have different : other ≠ target := by
      rintro rfl
      exact absent (List.mem_reverse.mp outside)
    simpa using different

/-- A target on the path closes a path. -/
theorem Follows.closed {node target : String} {later : List String} {outer : List Frame}
    (follows : Follows ids targets left search)
    (path : search.path = ⟨node, target :: later⟩ :: outer)
    (open_ : search.markOf target = .onPath) :
    Closed targets (cycleFrom target (⟨node, later⟩ :: outer)) ∧
      ∀ id ∈ cycleFrom target (⟨node, later⟩ :: outer), id ∈ ids := by
  have frames := follows.frames
  rw [path] at frames
  obtain ⟨⟨followed, all, -⟩, -, onward⟩ := frames
  have chain := onward.isChain
  have once := follows.once
  have member := (follows.onPath target).mp open_
  have listed {id : String} (inside : id ∈ search.path.map Frame.node) : id ∈ ids :=
    follows.mem_ids_of_onPath ((follows.onPath id).mpr inside)
  rw [path, List.map_cons] at once member listed
  -- the path from its end out to the target, and what lies beyond
  obtain ⟨inner, beyond, nodes⟩ := List.append_of_mem member
  have cycle : cycleFrom target (⟨node, later⟩ :: outer) = (inner ++ [target]).reverse :=
    cycleFrom_eq once nodes
  rw [cycle]
  constructor
  -- read from the target inwards, each node is a target of the one before it
  · have back : List.IsChain (fun a b => a ∈ targets b) (target :: (inner ++ [target])) := by
      have whole : List.IsChain (fun a b => a ∈ targets b)
          (target :: (inner ++ [target]) ++ beyond) := by
        have around : target :: (inner ++ [target]) ++ beyond =
            target :: node :: outer.map Frame.node := by
          rw [nodes]
          simp
        rw [around]
        exact List.isChain_cons_cons.mpr ⟨by simp [all], chain⟩
      exact whole.left_of_append
    have unique : (inner ++ [target]).reverse.Nodup := by
      rw [List.nodup_reverse]
      rw [nodes] at once
      refine once.sublist ?_
      simp
    rw [List.reverse_append, List.reverse_singleton, List.singleton_append] at unique ⊢
    refine ⟨unique, ?_⟩
    rw [← List.isChain_reverse] at back
    simpa using back
  · intro id inside
    apply listed
    rw [nodes]
    rcases List.mem_append.mp (List.mem_reverse.mp inside) with inside | same
    · exact List.mem_append_left _ inside
    · simp [List.mem_singleton.mp same]

end

end CycleSearch

end Flowgraph
