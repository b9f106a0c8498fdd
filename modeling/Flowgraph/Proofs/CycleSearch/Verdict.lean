import Flowgraph.Proofs.CycleSearch.Agreement

/-!
# The verdict on a graph

A search needs no bound on its steps: it ends on every graph, in one way. It refuses the graphs in
which a chain of inputs leads from a node back to itself, and the cycle that it names is such a
chain, each node once.

Main result: `checkAcyclic_exact`.
-/
namespace Flowgraph

open Relation (TransGen)

namespace CycleSearch

section

variable {targets : String → List String} {search : CycleSearch}
variable {result other : Except (List String) CycleSearch}

theorem Ends.unique (ends : Ends targets search result) (again : Ends targets search other) :
    result = other := by
  induction ends generalizing other with
  | done closed =>
    cases again with
    | done => rfl
    | found open_ => exact absurd closed open_
    | step open_ => exact absurd closed open_
  | found open_ stepped =>
    cases again with
    | done closed => exact absurd closed open_
    | found _ found =>
      rw [stepped] at found
      exact found
    | step _ onward =>
      rw [stepped] at onward
      contradiction
  | step open_ stepped _ ih =>
    cases again with
    | done closed => exact absurd closed open_
    | found _ found =>
      rw [stepped] at found
      contradiction
    | step _ same onward =>
      rw [stepped] at same
      cases same
      exact ih onward

theorem Runs.unique {roots : List String} (runs : Runs targets roots search result)
    (again : Runs targets roots search other) : result = other := by
  induction runs generalizing other with
  | none =>
    cases again
    rfl
  | seen visited _ ih =>
    cases again with
    | seen _ onward => exact ih onward
    | found unvisited => contradiction
    | next unvisited => contradiction
  | found unvisited ends =>
    cases again with
    | seen visited => contradiction
    | found _ found => exact ends.unique found
    | next _ ended => cases ends.unique ended
  | next unvisited ends _ ih =>
    cases again with
    | seen visited => contradiction
    | found _ found => cases ends.unique found
    | next _ ended onward =>
      cases ends.unique ended
      exact ih onward

end

end CycleSearch

namespace Graph

/-- What the search says of a graph, in as many steps as it takes. -/
inductive Verdict (graph : Graph) : Except Refusal Unit → Prop
  | accepted {last : CycleSearch}
      (runs : CycleSearch.Runs (Edges.producers graph.edges) graph.ids
        (CycleSearch.start graph.ids) (.ok last)) : Verdict graph (.ok ())
  | refused {first : String} {rest : List String}
      (runs : CycleSearch.Runs (Edges.producers graph.edges) graph.ids
        (CycleSearch.start graph.ids) (.error (first :: rest))) :
      Verdict graph (.error (.circular first (first :: rest)))

variable {graph : Graph}

theorem verdict_iff {verdict : Except Refusal Unit} :
    graph.Verdict verdict ↔ verdict = graph.checkAcyclic := by
  obtain ⟨result, runs, outcome⟩ :=
    CycleSearch.runs_start graph.ids (Edges.producers graph.edges)
  have searched : graph.cycle? = _ := outcome
  constructor
  -- another run has the same result
  · intro reached
    cases reached with
    | accepted ends =>
      cases runs.unique ends
      simp only [checkAcyclic, searched]
    | refused ends =>
      cases runs.unique ends
      simp only [checkAcyclic, searched, List.head?_cons, Option.getD_some]
  · rintro rfl
    cases result with
    | ok last =>
      simp only [checkAcyclic, searched]
      exact .accepted runs
    | error cycle =>
      -- a closed path is not empty
      have arrived := (CycleSearch.follows_start graph.ids _).arrived_of_runs rfl runs
      cases cycle with
      | nil => exact absurd arrived.1 not_false
      | cons first rest =>
        simp only [checkAcyclic, searched, List.head?_cons, Option.getD_some]
        exact .refused runs

/-- The search ends on every graph, with the verdict that is given. A graph is accepted just if no
chain of inputs leads from a node of it back to itself. If it is refused, the cycle is a chain of
inputs that ends where it began: nodes of the graph, each of them once, each with an input that is
wired to the next one and the last with one that is wired to the first, which is the node named. -/
theorem checkAcyclic_exact (graph : Graph) :
    (∀ verdict, graph.Verdict verdict ↔ verdict = graph.checkAcyclic) ∧
    (graph.checkAcyclic = .ok () ↔ ∀ id, ¬ TransGen graph.Reads id id) ∧
    ∀ refusal, graph.checkAcyclic = .error refusal →
      ∃ first rest, refusal = .circular first (first :: rest) ∧
        (first :: rest).Nodup ∧ (∀ id ∈ first :: rest, id ∈ graph.ids) ∧
        List.IsChain graph.Reads (first :: rest ++ [first]) := by
  refine ⟨fun verdict => verdict_iff, checkAcyclic_eq_ok_iff.trans acyclic_iff_reads, ?_⟩
  intro refusal refused
  obtain ⟨first, rest, named, ⟨distinct, around⟩, inside⟩ :=
    closed_of_checkAcyclic_eq_error refused
  refine ⟨first, rest, named, distinct, inside, ?_⟩
  exact around.imp fun _ _ leads => mem_producers_iff_reads.mp leads

/-- Three nodes in a ring, one of them wired to the next twice; a fourth reads from the ring, and
from a node that does not exist. -/
def ring : Graph :=
  let wired (name producer : String) : String × Input := (name, .wired ⟨producer, 0⟩)
  let node (inputs : List (String × Input)) : Node :=
    { Node.ofClass "Add" with inputs := Keyed.ofList inputs }
  ⟨Keyed.ofList [
    ("out", node [wired "a" "gone", wired "b" "2"]), ("1", node [wired "a" "2"]),
    ("2", node [wired "a" "3", wired "b" "3"]), ("3", node [wired "a" "1"])]⟩

theorem checkAcyclic_exact_ring :
    ring.checkAcyclic = .error (.circular "2" ["2", "3", "1"]) ∧
      ["2", "3", "1"].Nodup ∧ List.IsChain ring.Reads ["2", "3", "1", "2"] := by
  have refused : ring.checkAcyclic = .error (.circular "2" ["2", "3", "1"]) := by decide
  obtain ⟨first, rest, same, distinct, -, around⟩ := (checkAcyclic_exact ring).2.2 _ refused
  cases same
  exact ⟨refused, distinct, around⟩

end Graph

end Flowgraph
