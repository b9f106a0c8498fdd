import Flowgraph.Proofs.Dependencies
import Flowgraph.Proofs.NodeId
import Flowgraph.Schedule

/-!
# The counts of a schedule

While nodes run, the count of a node is the number of edges that lead to it from nodes that have
not run, and exceeds that number by the edges of the node running that are yet to be taken off. A
node is ready exactly if its count is zero and it has not run.

Main result: `Counts.release` and `Counts.run` keep these facts, so that every run takes the least
node that can run, until there is none.
-/
namespace Flowgraph

namespace Schedule

/-- How many edges lead to a node from nodes that have not run. -/
def outstanding (edges : List Edge) (order : List String) (id : String) : Nat :=
  ((Edges.producers edges id).filter fun producer => producer ∉ order).length

/-- A node that can run next. -/
def CanRun (ids : List String) (edges : List Edge) (order : List String) (id : String) : Prop :=
  id ∈ ids ∧ id ∉ order ∧ ∀ producer ∈ Edges.producers edges id, producer ∈ order

/-- What the counts and the ready nodes say about the nodes that have run, while the edges to the
pending consumers are yet to be taken off. -/
structure Counts (ids : List String) (edges : List Edge) (pending : List String)
    (schedule : Schedule) : Prop where
  waiting : ∀ id ∈ ids, schedule.waiting.get? id =
    some (outstanding edges schedule.order id + pending.count id)
  ready : ∀ id, id ∈ schedule.ready ↔ id ∈ ids ∧ id ∉ schedule.order ∧
    outstanding edges schedule.order id + pending.count id = 0
  sorted : Ascending.Sorted NodeId.compare schedule.ready
  fresh : ∀ id ∈ pending, id ∈ ids ∧ id ∉ schedule.order
  distinct : schedule.order.Nodup
  inside : ∀ id ∈ schedule.order, id ∈ ids
  closed : ∀ id ∈ schedule.order, ∀ producer ∈ Edges.producers edges id, producer ∈ schedule.order

section

variable {ids : List String} {edges : List Edge} {pending : List String} {schedule : Schedule}

theorem outstanding_eq_zero_iff {order : List String} {id : String} :
    outstanding edges order id = 0 ↔
      ∀ producer ∈ Edges.producers edges id, producer ∈ order := by
  simp [outstanding]

theorem canRun_iff {order : List String} {id : String} :
    CanRun ids edges order id ↔ id ∈ ids ∧ id ∉ order ∧ outstanding edges order id = 0 := by
  rw [outstanding_eq_zero_iff, CanRun]

/-- Once a node has run, the edges from it are no longer outstanding. -/
theorem outstanding_append {order : List String} {node : String} (fresh : node ∉ order)
    (id : String) :
    outstanding edges (order ++ [node]) id + (Edges.consumers edges node).count id =
      outstanding edges order id := by
  rw [Edges.count_consumers]
  simp only [outstanding, List.mem_append, List.mem_singleton]
  induction Edges.producers edges id with
  | nil => rfl
  | cons producer rest ih =>
    simp only [List.filter_cons, List.count_cons]
    -- each edge comes from this node, from one that had run, or from one that has still to run
    by_cases same : producer = node
    · simp only [same, fresh, or_true, not_true_eq_false, not_false_eq_true, decide_false,
        decide_true, Bool.false_eq_true, if_true, if_false, BEq.rfl, List.length_cons]
      omega
    · by_cases old : producer ∈ order
      · simpa [same, old] using ih
      · simp only [same, old, or_self, not_false_eq_true, decide_true, if_true, List.length_cons,
          beq_iff_eq, if_false]
        omega

theorem counts_start (ids : List String) (edges : List Edge) :
    Counts ids edges [] (start ids edges) where
  waiting id member := by
    rw [start, Keyed.get?_ofList_map fun id => (Edges.producers edges id).length]
    simp [outstanding, member]
  ready id := by
    simp [start, NodeId.mem_ascending, outstanding]
  sorted := Ascending.sorted_ofList _
  fresh := by simp
  distinct := List.nodup_nil
  inside := by simp [start]
  closed := by simp [start]

/-- One edge is taken off: its consumer had a count above zero and was not among the ready. -/
theorem Counts.release {consumer : String}
    (counts : Counts ids edges (consumer :: pending) schedule) :
    Counts ids edges pending (schedule.release consumer) := by
  obtain ⟨member, unrun⟩ := counts.fresh consumer List.mem_cons_self
  have count := counts.waiting consumer member
  rw [List.count_cons_self] at count
  -- the edge itself was pending, so the count was above zero and the subtraction is exact
  have left : (schedule.waiting.get? consumer).getD 0 - 1 =
      outstanding edges schedule.order consumer + pending.count consumer := by
    rw [count, Option.getD_some]
    omega
  have others {id : String} (different : id ≠ consumer) :
      (consumer :: pending).count id = pending.count id :=
    List.count_cons_of_ne fun equal => different equal.symm
  constructor
  case waiting =>
    intro id inside
    simp only [Schedule.release, left, Keyed.get?_insert]
    by_cases same : consumer = id
    · subst same
      simp
    · rw [if_neg same, counts.waiting id inside, others fun equal => same equal.symm]
  case ready =>
    intro id
    simp only [Schedule.release, left]
    have before := counts.ready id
    by_cases same : id = consumer
    · subst same
      rw [List.count_cons_self] at before
      split
      · next zero => simp [NodeId.insert, Ascending.mem_insert_iff, member, unrun, zero]
      · next positive =>
        constructor
        · intro present
          have zero := (before.mp present).2.2
          omega
        · rintro ⟨_, _, zero⟩
          exact absurd zero positive
    · rw [others same] at before
      split
      · rw [NodeId.insert, Ascending.mem_insert_iff, before]
        simp [same]
      · exact before
  case sorted =>
    simp only [Schedule.release]
    split
    · exact counts.sorted.insert consumer
    · exact counts.sorted
  case fresh => exact fun id later => counts.fresh id (List.mem_cons_of_mem _ later)
  case distinct => exact counts.distinct
  case inside => exact counts.inside
  case closed => exact counts.closed

theorem Counts.foldl_release (counts : Counts ids edges pending schedule) :
    Counts ids edges [] (pending.foldl Schedule.release schedule) := by
  induction pending generalizing schedule with
  | nil => exact counts
  | cons consumer rest ih => exact ih counts.release

theorem order_foldl_release (pending : List String) (schedule : Schedule) :
    (pending.foldl Schedule.release schedule).order = schedule.order := by
  induction pending generalizing schedule with
  | nil => rfl
  | cons consumer rest ih => exact ih _

theorem order_run (edges : List Edge) (schedule : Schedule) (node : String) (ready : List String) :
    (schedule.run edges node ready).order = schedule.order ++ [node] :=
  order_foldl_release _ _

theorem Counts.canRun_iff_mem_ready (counts : Counts ids edges [] schedule) {id : String} :
    CanRun ids edges schedule.order id ↔ id ∈ schedule.ready := by
  rw [canRun_iff, counts.ready, List.count_nil, Nat.add_zero]

/-- The first of the ready nodes is the least of those that can run. -/
theorem Counts.canRun_first (counts : Counts ids edges [] schedule) {node : String}
    {rest : List String} (first : schedule.ready = node :: rest) :
    CanRun ids edges schedule.order node ∧
      ∀ other, CanRun ids edges schedule.order other → (NodeId.compare node other).isLE := by
  refine ⟨counts.canRun_iff_mem_ready.mpr (first ▸ List.mem_cons_self), ?_⟩
  intro other can
  have present := counts.canRun_iff_mem_ready.mp can
  have sorted := counts.sorted
  rw [first] at present sorted
  exact sorted.le_of_mem present

/-- A ready node runs: its consumers are pending. -/
theorem Counts.begin (counts : Counts ids edges [] schedule)
    (endpoints : ∀ edge ∈ edges, edge.consumer ∈ ids) {node : String} {rest : List String}
    (first : schedule.ready = node :: rest) :
    Counts ids edges (Edges.consumers edges node)
      { schedule with order := schedule.order ++ [node], ready := rest } := by
  have sorted := counts.sorted
  rw [first] at sorted
  have absent : node ∉ rest := (List.nodup_cons.mp sorted.nodup).1
  obtain ⟨member, unrun, fed⟩ := counts.canRun_iff_mem_ready.mpr (first ▸ List.mem_cons_self)
  constructor
  -- the edges from the node are no longer outstanding but pending, and the sum stays
  case waiting =>
    intro id inside
    rw [outstanding_append unrun]
    exact counts.waiting id inside
  case ready =>
    intro id
    have before := counts.ready id
    rw [first, List.count_nil, Nat.add_zero, List.mem_cons] at before
    rw [outstanding_append unrun, List.mem_append, List.mem_singleton, not_or]
    constructor
    · intro later
      have different : id ≠ node := fun equal => absent (equal ▸ later)
      obtain ⟨inside, unrun, zero⟩ := before.mp (Or.inr later)
      exact ⟨inside, ⟨unrun, different⟩, zero⟩
    · rintro ⟨inside, ⟨unrun, different⟩, zero⟩
      exact (before.mpr ⟨inside, unrun, zero⟩).resolve_left different
  case sorted => exact (List.pairwise_cons.mp sorted).2
  case fresh =>
    intro id consumes
    obtain ⟨edge, inside, _, rfl⟩ := Edges.mem_consumers_iff.mp consumes
    have feeds := Edges.mem_consumers_iff.mp consumes
    refine ⟨endpoints edge inside, ?_⟩
    -- a consumer of a node that had not run cannot have run, and a node does not feed itself
    intro ran
    rcases List.mem_append.mp ran with old | same
    · exact unrun (counts.closed _ old node (Edges.mem_producers_iff.mpr feeds))
    · rw [List.mem_singleton.mp same] at feeds
      exact unrun (fed node (Edges.mem_producers_iff.mpr feeds))
  case distinct => exact List.concat_eq_append ▸ counts.distinct.concat unrun
  case inside =>
    intro id ran
    rcases List.mem_append.mp ran with old | same
    · exact counts.inside id old
    · exact List.mem_singleton.mp same ▸ member
  case closed =>
    intro id ran producer feeds
    rcases List.mem_append.mp ran with old | same
    · exact List.mem_append_left _ (counts.closed id old producer feeds)
    · rw [List.mem_singleton.mp same] at feeds
      exact List.mem_append_left _ (fed producer feeds)

/-- A ready node has run. -/
theorem Counts.run (counts : Counts ids edges [] schedule)
    (endpoints : ∀ edge ∈ edges, edge.consumer ∈ ids) {node : String} {rest : List String}
    (first : schedule.ready = node :: rest) :
    Counts ids edges [] (schedule.run edges node rest) :=
  (counts.begin endpoints first).foldl_release

end

end Schedule

end Flowgraph
