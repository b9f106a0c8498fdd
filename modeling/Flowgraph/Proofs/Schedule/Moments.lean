import Flowgraph.Proofs.Schedule.LeastOrder

/-!
# The moments of a run

A node that runs is taken from the ready nodes, and then its edges are taken off the counts one by
one; a consumer whose count comes to zero is put among the ready. At every such moment the counts
say how many edges are outstanding, so that none is taken off a count of zero and no node is put
among the ready twice. The order in which the edges of a node are taken off does not matter.

Main result: `Graph.counts_exact`.
-/
namespace Flowgraph

namespace Ascending

variable {α : Type} {compare : α → α → Ordering} [Std.LawfulEqCmp compare]

/-- An element that was not in the list is put in beside all others. -/
theorem perm_insert {x : α} {l : List α} (fresh : x ∉ l) : (insert compare x l).Perm (x :: l) := by
  induction l with
  | nil => rfl
  | cons y rest ih =>
    obtain ⟨different, fresh⟩ := List.ne_and_not_mem_of_not_mem_cons fresh
    simp only [insert]
    split
    · rfl
    · next equal => exact absurd (Std.LawfulEqCmp.eq_of_compare equal) different
    · exact ((ih fresh).cons y).trans (.swap x y rest)

end Ascending

namespace Schedule

/-- A node that is no longer among the ready begins to run: its edges are yet to be taken off. -/
def begun (schedule : Schedule) (node : String) (ready : List String) : Schedule :=
  { schedule with order := schedule.order ++ [node], ready }

/-- What is put among the ready when an edge is taken off the count of its consumer: the consumer,
if that leaves a count of zero. -/
def entrants (schedule : Schedule) (consumer : String) : List String :=
  if (schedule.release consumer).waiting.get? consumer = some 0 then [consumer] else []

/-- The moments of a run: the schedule, the consumers of the edges that are yet to be taken off, and
the nodes that were put among the ready, listed again each time. -/
inductive Moment (ids : List String) (edges : List Edge) :
    Schedule → List String → List String → Prop
  | start : Moment ids edges (start ids edges) [] (start ids edges).ready
  /-- The first of the ready nodes runs, and its edges are to be taken off, in any order. -/
  | take {schedule node rest pending entered} (moment : Moment ids edges schedule [] entered)
      (first : schedule.ready = node :: rest) (all : pending.Perm (Edges.consumers edges node)) :
      Moment ids edges (schedule.begun node rest) pending entered
  | release {schedule consumer pending entered}
      (moment : Moment ids edges schedule (consumer :: pending) entered) :
      Moment ids edges (schedule.release consumer) pending (entered ++ schedule.entrants consumer)

section

variable {ids : List String} {edges : List Edge} {schedule : Schedule}
variable {pending entered : List String}

theorem ready_release (schedule : Schedule) (consumer : String) :
    (schedule.release consumer).ready =
      (schedule.entrants consumer).foldr NodeId.insert schedule.ready := by
  simp only [entrants, release, Keyed.get?_insert, if_true, Option.some.injEq]
  split <;> rfl

theorem Counts.perm {others : List String} (counts : Counts ids edges pending schedule)
    (perm : pending.Perm others) : Counts ids edges others schedule where
  waiting id member := perm.count_eq id ▸ counts.waiting id member
  ready id := perm.count_eq id ▸ counts.ready id
  sorted := counts.sorted
  fresh id later := counts.fresh id (perm.mem_iff.mpr later)
  distinct := counts.distinct
  inside := counts.inside
  closed := counts.closed

theorem Moment.counts (moment : Moment ids edges schedule pending entered)
    (endpoints : ∀ edge ∈ edges, edge.consumer ∈ ids) : Counts ids edges pending schedule := by
  induction moment with
  | start => exact counts_start ids edges
  | take _ first all ih => exact (ih.begin endpoints first).perm all.symm
  | release _ ih => exact ih.release

/-- A consumer whose edge is yet to be taken off is not among the ready. -/
theorem Counts.not_mem_ready (counts : Counts ids edges pending schedule) {consumer : String}
    (later : consumer ∈ pending) : consumer ∉ schedule.ready := by
  intro present
  have zero := ((counts.ready consumer).mp present).2.2
  have some_left := List.count_pos_iff.mpr later
  omega

/-- Whatever was put among the ready has run or is still there, and was put there once. -/
theorem Moment.entered_perm (moment : Moment ids edges schedule pending entered)
    (endpoints : ∀ edge ∈ edges, edge.consumer ∈ ids) :
    entered.Perm (schedule.order ++ schedule.ready) := by
  induction moment with
  | start => rfl
  | take _ first _ ih =>
    rw [first] at ih
    rwa [begun, List.append_assoc, List.singleton_append]
  | @release schedule consumer pending entered moment ih =>
    -- an edge that is pending keeps its consumer from being ready
    have absent := (moment.counts endpoints).not_mem_ready List.mem_cons_self
    rw [ready_release]
    unfold entrants
    split
    · have put : (NodeId.insert consumer schedule.ready).Perm (consumer :: schedule.ready) :=
        Ascending.perm_insert absent
      calc
        (entered ++ [consumer]).Perm (consumer :: entered) := List.perm_append_singleton ..
        List.Perm _ (consumer :: (schedule.order ++ schedule.ready)) := ih.cons consumer
        List.Perm _ (schedule.order ++ consumer :: schedule.ready) := List.perm_middle.symm
        List.Perm _ (schedule.order ++ NodeId.insert consumer schedule.ready) :=
          put.symm.append_left _
    · rwa [List.append_nil]

theorem Moment.exists_foldl {passed : List String}
    (moment : Moment ids edges schedule (passed ++ pending) entered) :
    ∃ entered, Moment ids edges (passed.foldl Schedule.release schedule) pending entered := by
  induction passed generalizing schedule entered with
  | nil => exact ⟨_, moment⟩
  | cons consumer passed ih => exact ih moment.release

/-- A run is at a moment whenever a node is to be taken from the ready. -/
theorem Moment.exists_advance (moment : Moment ids edges schedule [] entered) (rounds : Nat) :
    ∃ entered, Moment ids edges (advance edges rounds schedule) [] entered := by
  induction rounds generalizing schedule entered with
  | zero => exact ⟨_, moment⟩
  | succ rounds ih =>
    unfold advance
    split
    · exact ⟨_, moment⟩
    · next node rest first =>
      have all : (Edges.consumers edges node ++ []).Perm (Edges.consumers edges node) := by simp
      obtain ⟨_, onward⟩ := (moment.take first all).exists_foldl
      exact ih onward

/-- What has run so far begins a greedy run, whichever way it goes on. -/
theorem Moment.greedy (moment : Moment ids edges schedule pending entered)
    (endpoints : ∀ edge ∈ edges, edge.consumer ∈ ids) {rest : List String}
    (onward : Greedy ids edges schedule.order rest) :
    Greedy ids edges [] (schedule.order ++ rest) := by
  induction moment generalizing rest with
  | start => exact onward
  | take moment first _ ih =>
    obtain ⟨can, least⟩ := (moment.counts endpoints).canRun_first first
    rw [begun, List.append_assoc, List.singleton_append]
    exact ih ⟨can, least, onward⟩
  | release _ ih => exact ih onward

/-- Where nothing is ready and nothing is to be taken off, all that can run has run. -/
theorem Moment.order_eq (moment : Moment ids edges schedule [] entered)
    (endpoints : ∀ edge ∈ edges, edge.consumer ∈ ids) (none_ready : schedule.ready = []) :
    schedule.order = runnable ids edges := by
  have ended : Greedy ids edges schedule.order [] := by
    intro id can
    have present := (moment.counts endpoints).canRun_iff_mem_ready.mp can
    rw [none_ready] at present
    contradiction
  have greedy := moment.greedy endpoints ended
  rw [List.append_nil] at greedy
  exact greedy.unique (greedy_runnable endpoints)

end

end Schedule

namespace Graph

open Schedule (Moment outstanding)

/-- What holds at a moment of a run. -/
structure Tallied (graph : Graph) (schedule : Schedule) (pending entered : List String) : Prop where
  /-- The count of a node is that of its edges from nodes that have not run, and of those from the
  running node that are yet to be taken off. -/
  waiting : ∀ id ∈ graph.ids, schedule.waiting.get? id =
    some (outstanding graph.edges schedule.order id + pending.count id)
  /-- No edge is taken off a count of zero. -/
  positive : ∀ consumer ∈ pending, ∃ left, schedule.waiting.get? consumer = some (left + 1)
  /-- No node is put among the ready twice. -/
  once : entered.Nodup
  fed : ∀ id ∈ entered, ∀ producer ∈ Edges.producers graph.edges id, producer ∈ schedule.order
  /-- What was put among the ready has run or is still there. -/
  kept : entered.Perm (schedule.order ++ schedule.ready)
  distinct : schedule.order.Nodup
  few : schedule.order.length ≤ graph.size

variable {graph : Graph}

theorem tallied_of_moment {schedule : Schedule} {pending entered : List String}
    (moment : Moment graph.ids graph.edges schedule pending entered) :
    graph.Tallied schedule pending entered := by
  have counts := moment.counts fun _ => consumer_mem_ids
  have kept := moment.entered_perm fun _ => consumer_mem_ids
  have apart : ∀ ran ∈ schedule.order, ∀ present ∈ schedule.ready, ran ≠ present := by
    rintro id ran _ present rfl
    exact ((counts.ready id).mp present).2.1 ran
  constructor
  case waiting => exact counts.waiting
  case positive =>
    intro consumer later
    have some_left := List.count_pos_iff.mpr later
    rw [counts.waiting consumer (counts.fresh consumer later).1]
    exact ⟨_, congrArg some (Nat.succ_pred_eq_of_pos (Nat.add_pos_right _ some_left)).symm⟩
  case once =>
    exact kept.nodup_iff.mpr (List.nodup_append.mpr ⟨counts.distinct, counts.sorted.nodup, apart⟩)
  case fed =>
    intro id put
    rcases List.mem_append.mp (kept.mem_iff.mp put) with ran | present
    · exact counts.closed id ran
    · have zero := ((counts.ready id).mp present).2.2
      exact Schedule.outstanding_eq_zero_iff.mp (Nat.eq_zero_of_add_eq_zero_right zero)
  case kept => exact kept
  case distinct => exact counts.distinct
  case few =>
    rw [size_eq_length_ids]
    exact Schedule.length_le_of_inside counts.distinct counts.inside

/-- The schedule of a graph when so many nodes have run, or nothing is ready. -/
def scheduleAfter (graph : Graph) (rounds : Nat) : Schedule :=
  Schedule.advance graph.edges rounds (Schedule.start graph.ids graph.edges)

/-- At every moment of a run the count of a node is that of its edges from nodes that have not run,
and of those that are just being taken off; so no edge is taken off a count of zero, and a node is
put among the ready once at most, when all its producers have run. The run is at such a moment
before and behind every edge, until nothing is ready; and in whichever order the edges of a node are
taken off, the same nodes have run then, in the same order, each of them once. -/
theorem counts_exact (graph : Graph) :
    (∀ schedule pending entered, Moment graph.ids graph.edges schedule pending entered →
      graph.Tallied schedule pending entered) ∧
    (∀ rounds, ∃ entered,
      Moment graph.ids graph.edges (graph.scheduleAfter rounds) [] entered) ∧
    (∀ rounds node rest passed pending, (graph.scheduleAfter rounds).ready = node :: rest →
      Edges.consumers graph.edges node = passed ++ pending → ∃ entered,
        Moment graph.ids graph.edges
          (passed.foldl Schedule.release ((graph.scheduleAfter rounds).begun node rest))
          pending entered) ∧
    (graph.scheduleAfter graph.size).ready = [] ∧
    (∀ schedule entered, Moment graph.ids graph.edges schedule [] entered → schedule.ready = [] →
      schedule.order = graph.runnable) ∧
    graph.runnable.Nodup := by
  have between (rounds : Nat) : ∃ entered,
      Moment graph.ids graph.edges (graph.scheduleAfter rounds) [] entered :=
    Moment.start.exists_advance rounds
  obtain ⟨_, last⟩ := between graph.ids.length
  refine ⟨fun _ _ _ => tallied_of_moment, between, ?_, ?_, ?_, (tallied_of_moment last).distinct⟩
  · intro rounds node rest passed pending first all
    obtain ⟨_, moment⟩ := between rounds
    exact (moment.take first (all ▸ .refl _)).exists_foldl
  · -- a node that is ready could run behind the greedy run, which has ended
    rw [size_eq_length_ids, List.eq_nil_iff_forall_not_mem]
    intro id present
    refine graph.greedy_runnable.ended id ?_
    exact (last.counts fun _ => consumer_mem_ids).canRun_iff_mem_ready.mpr present
  · intro schedule entered moment
    exact moment.order_eq fun _ => consumer_mem_ids

/-- A node that reads from another one twice, and one that reads from itself too. -/
def doubled : Graph :=
  let reading (inputs : List (String × String)) : Node :=
    { Node.ofClass "Add" with
      inputs := .ofList (inputs.map fun (name, producer) => (name, .wired ⟨producer, 0⟩)) }
  ⟨.ofList [("3", reading [("a", "3"), ("b", "1")]), ("2", reading [("a", "1"), ("b", "1")]),
    ("1", reading [])]⟩

/-- One of the two edges has been taken off, and the edge of a node to itself stays. -/
theorem counts_exact_doubled : ∃ schedule, doubled.Tallied schedule ["3", "2"] ["1"] ∧
    schedule.order = ["1"] ∧ schedule.waiting.get? "2" = some 1 ∧
    schedule.waiting.get? "3" = some 2 ∧ doubled.runnable = ["1", "2"] := by
  have first : (Schedule.start doubled.ids doubled.edges).ready = ["1"] := by decide
  have all : ["2", "3", "2"].Perm (Edges.consumers doubled.edges "1") := by decide
  exact ⟨_, (counts_exact doubled).1 _ _ _ (Moment.start.take first all).release, by decide,
    by decide, by decide, by decide⟩

end Graph

end Flowgraph
