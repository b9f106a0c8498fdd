import Flowgraph.Catalogue.Core
import Flowgraph.Proofs.Cleaning.Loops
import Flowgraph.Proofs.Cleaning.Runs

/-!
# What a cleaning notes

First the relays that are to blame for having no single source, then the inputs that led to nodes
that do not exist, each once and in the order of the graph. Nothing else that was wired is lost but
what led to an ornament.

Main results: `run_accounted`, and `mem_anomalies_run_iff` for the class that a blamed relay is
noted with.
-/
namespace Flowgraph

open Relation (ReflTransGen)

/-- A relay that has no wired input or several, or that begins a chain which comes to a relay of the
chain again. -/
def Unfed (catalogue : Catalogue) (graph : Graph) (id : String) : Prop :=
  ∃ node, graph.get? id = some node ∧ catalogue.routing node.classType = .relay ∧
    (node.links.length ≠ 1 ∨ ∃ path last, Loop catalogue graph [] (id :: path) last)

/-- An input of a node that stays, and the node that it led to and that does not exist. -/
def Lost (catalogue : Catalogue) (graph : Graph) (link : Link) (missing : String) : Prop :=
  link ∈ graph.links ∧ graph.routing? catalogue link.consumer = some .ordinary ∧
    Leads catalogue graph [] link.source (.broken missing)

/-- An input led to an ornament, or is noted itself, or has a relay on its chain that is noted. -/
def Covered (catalogue : Catalogue) (graph : Graph) (cleaning : Cleaning) (link : Link) : Prop :=
  (∃ last, ReflTransGen (PassesOn catalogue graph) link.source.node last ∧
    graph.routing? catalogue last = some .ornament) ∨
  (∃ missing, .brokenLink link.consumer link.input missing ∈ cleaning.anomalies) ∨
  ∃ relay classType, ReflTransGen (PassesOn catalogue graph) link.source.node relay ∧
    .unfedRelay relay classType ∈ cleaning.anomalies

/-- What the anomalies of a cleaning must say: which relays are unfed, each with a class, and which
inputs are lost, each with what is missing. -/
structure Account (catalogue : Catalogue) (graph : Graph) (cleaning : Cleaning)
    (unfed : List (String × String)) (lost : List (Link × String)) : Prop where
  noted : cleaning.anomalies =
    unfed.map (fun entry => .unfedRelay entry.1 entry.2) ++
      lost.map fun entry => .brokenLink entry.1.consumer entry.1.input entry.2
  unfedOrder : (unfed.map Prod.fst).Sublist graph.ids
  unfed_iff : ∀ id, id ∈ unfed.map Prod.fst ↔ Unfed catalogue graph id
  lostOrder : (lost.map Prod.fst).Sublist graph.links
  lost_iff : ∀ link missing, (link, missing) ∈ lost ↔ Lost catalogue graph link missing
  absent : ∀ entry ∈ lost, entry.2 ∉ graph.ids
  /-- The wired inputs of the nodes that stay are left or covered. -/
  covered : ∀ link ∈ graph.links, graph.routing? catalogue link.consumer = some .ordinary →
    ((cleaning.graph.get? link.consumer).bind fun node => node.inputs.get? link.input) = none →
    Covered catalogue graph cleaning link

namespace Graph

def blame? (catalogue : Catalogue) (graph : Graph) (id : String) : Option String :=
  match graph.routing? catalogue id with
  | some .relay =>
    match graph.feed catalogue id with
    | .unfed classType => some classType
    | _ => none
  | _ => none

/-- The missing node that an input of a node that stays led to. -/
def missing? (catalogue : Catalogue) (graph : Graph) (link : Link) : Option String :=
  if graph.stays catalogue link.consumer then
    match graph.trace catalogue link.source with
    | .broken missing => some missing
    | _ => none
  else none

end Graph

section

variable {α β : Type} {f : α → Option β} {l : List α}

theorem mem_filterMap_pair {a : α} {b : β} :
    (a, b) ∈ (l.filterMap fun a => (f a).map (a, ·)) ↔ a ∈ l ∧ f a = some b := by
  simp only [List.mem_filterMap, Option.map_eq_some_iff, Prod.mk.injEq]
  constructor
  · rintro ⟨_, member, _, given, rfl, rfl⟩
    exact ⟨member, given⟩
  · rintro ⟨member, given⟩
    exact ⟨a, member, b, given, rfl, rfl⟩

theorem map_fst_filterMap_pair :
    (l.filterMap fun a => (f a).map (a, ·)).map Prod.fst = l.filter fun a => (f a).isSome := by
  rw [List.map_filterMap, ← List.filterMap_eq_filter]
  refine List.filterMap_congr fun a _ => ?_
  cases given : f a <;> simp [Option.guard, given]

end

section

variable {catalogue : Catalogue} {graph : Graph}

theorem blame?_eq_some_iff {id classType : String} :
    graph.blame? catalogue id = some classType ↔
      graph.routing? catalogue id = some .relay ∧
        graph.feed catalogue id = .unfed classType := by
  unfold Graph.blame?
  split
  · next relay => cases graph.feed catalogue id <;> simp [relay]
  · next other => exact iff_of_false (by simp) fun both => other both.1

theorem missing?_eq_some_iff {link : Link} {missing : String} :
    graph.missing? catalogue link = some missing ↔
      graph.routing? catalogue link.consumer = some .ordinary ∧
        Leads catalogue graph [] link.source (.broken missing) := by
  rw [leads_iff_trace]
  simp only [Graph.missing?, Graph.stays, beq_iff_eq]
  split
  · next stays => cases graph.trace catalogue link.source <;> simp [stays]
  · next goes => simp [goes]

theorem anomalies_clean (catalogue : Catalogue) (graph : Graph) :
    (graph.clean catalogue).anomalies =
      (graph.ids.filterMap fun id =>
        (graph.blame? catalogue id).map fun classType => .unfedRelay id classType) ++
      graph.links.filterMap fun link =>
        (graph.missing? catalogue link).map fun missing =>
          .brokenLink link.consumer link.input missing := by
  have unfed (id : String) : graph.unfedRelay? catalogue id =
      (graph.blame? catalogue id).map fun classType => .unfedRelay id classType := by
    unfold Graph.unfedRelay? Graph.blame?
    cases graph.routing? catalogue id with
    | none => rfl
    | some routing => cases routing <;> cases graph.feed catalogue id <;> rfl
  have broken (link : Link) : graph.brokenLink? catalogue link =
      (graph.missing? catalogue link).map fun missing =>
        .brokenLink link.consumer link.input missing := by
    unfold Graph.brokenLink? Graph.missing?
    cases graph.stays catalogue link.consumer <;>
      cases graph.trace catalogue link.source <;> rfl
  change graph.unfedRelays catalogue ++ graph.brokenLinks catalogue = _
  rw [unfedRelays_eq, brokenLinks_eq, funext unfed, funext broken]

theorem mem_ids_of_blame? {id classType : String}
    (blamed : graph.blame? catalogue id = some classType) : id ∈ graph.ids := by
  obtain ⟨_, found, -⟩ := routing?_eq_some_iff.mp (blame?_eq_some_iff.mp blamed).1
  exact Keyed.mem_keys_of_get? found

theorem unfedRelay_mem_clean_iff {id classType : String} :
    Anomaly.unfedRelay id classType ∈ (graph.clean catalogue).anomalies ↔
      graph.blame? catalogue id = some classType := by
  simp only [anomalies_clean, List.mem_append, List.mem_filterMap, Option.map_eq_some_iff,
    Anomaly.unfedRelay.injEq, reduceCtorEq, and_false, exists_false, or_false]
  constructor
  · rintro ⟨_, -, _, blamed, rfl, rfl⟩
    exact blamed
  · intro blamed
    exact ⟨id, mem_ids_of_blame? blamed, classType, blamed, rfl, rfl⟩

theorem brokenLink_mem_clean {link : Link} (member : link ∈ graph.links) {missing : String}
    (lost : graph.missing? catalogue link = some missing) :
    .brokenLink link.consumer link.input missing ∈ (graph.clean catalogue).anomalies := by
  rw [anomalies_clean]
  refine List.mem_append_right _ (List.mem_filterMap.mpr ⟨link, member, ?_⟩)
  rw [lost, Option.map_some]

theorem unfed_iff_blame? {id : String} :
    Unfed catalogue graph id ↔ ∃ classType, graph.blame? catalogue id = some classType := by
  simp only [blame?_eq_some_iff]
  constructor
  · rintro ⟨node, found, relays, cause⟩
    have routed : graph.routing? catalogue id = _ := routing?_of_get? found
    rw [relays] at routed
    rcases cause with several | ⟨path, last, loop⟩
    · exact ⟨_, routed, (feed_eq_unfed_iff found relays).mpr (.inl ⟨several, rfl⟩)⟩
    · exact ⟨_, routed, (feed_eq_unfed_iff found relays).mpr (.inr ⟨path, last, loop, rfl⟩)⟩
  · rintro ⟨classType, routed, unfed⟩
    obtain ⟨node, found, relays⟩ := routing?_eq_some_iff.mp routed
    refine ⟨node, found, relays, ?_⟩
    rcases (feed_eq_unfed_iff found relays).mp unfed with ⟨several, -⟩ | ⟨path, last, loop, -⟩
    · exact .inl several
    · exact .inr ⟨path, last, loop⟩

theorem Leads.not_mem_ids {passed : List String} {source : Source} {missing : String}
    (leads : Leads catalogue graph passed source (.broken missing)) : missing ∉ graph.ids := by
  generalize result : Trace.broken missing = trace at leads
  induction leads with
  | missing absent =>
    cases result
    exact Keyed.get?_eq_none_iff.mp absent
  | relay found relays fresh single onward ih => exact ih result
  | _ => contradiction

/-- What leads to nothing leads to an ornament or passes a relay that is to blame. -/
theorem end_of_trace {source : Source} (dropped : graph.trace catalogue source = .dropped) :
    ∃ last, ReflTransGen (PassesOn catalogue graph) source.node last ∧
      (graph.routing? catalogue last = some .ornament ∨ Unfed catalogue graph last) := by
  unfold Graph.trace at dropped
  split at dropped
  · contradiction
  · contradiction
  · next ornament => exact ⟨_, .refl, .inl ornament⟩
  · next relay =>
    obtain ⟨node, found, relays⟩ := routing?_eq_some_iff.mp relay
    have inside : source.node ∈ graph.ids := Keyed.mem_keys_of_get? found
    cases fed : graph.feed catalogue source.node with
    | source target => cases present : graph.has target.node <;> simp [fed, present] at dropped
    | unfed classType =>
      exact ⟨_, .refl, .inr (unfed_iff_blame?.mpr ⟨_, blame?_eq_some_iff.mpr ⟨relay, fed⟩⟩)⟩
    | nothing =>
      -- the relay is not to blame itself, but the one may be at which its chain ends
      obtain ⟨last, path, ornament | ⟨end_, endFound, endRelays, several⟩⟩ :=
        end_of_follow found relays (List.nodup_singleton _) (by simpa using inside) (by simp) fed
      · exact ⟨last, path, .inl ornament⟩
      · exact ⟨last, path, .inr ⟨end_, endFound, endRelays, .inl several⟩⟩

theorem get?_inputs_clean {link : Link} (member : link ∈ graph.links)
    (stays : graph.routing? catalogue link.consumer = some .ordinary) :
    (((graph.clean catalogue).graph.get? link.consumer).bind fun node =>
        node.inputs.get? link.input) = graph.cleanInput catalogue (.wired link.source) := by
  obtain ⟨node, found, wired⟩ := Graph.mem_links_iff.mp member
  rw [routing?_of_get? found, Option.some.injEq] at stays
  rw [get?_clean_of_ordinary found stays, Option.bind_some, Keyed.get?_filterMap, wired,
    Option.bind_some]

theorem covered_clean {link : Link} (member : link ∈ graph.links)
    (stays : graph.routing? catalogue link.consumer = some .ordinary)
    (gone : graph.cleanInput catalogue (.wired link.source) = none) :
    Covered catalogue graph (graph.clean catalogue) link := by
  rw [Graph.cleanInput] at gone
  cases traced : graph.trace catalogue link.source with
  | kept slot => simp [traced] at gone
  | broken missing =>
    have lost := missing?_eq_some_iff.mpr ⟨stays, leads_iff_trace.mpr traced⟩
    exact .inr (.inl ⟨missing, brokenLink_mem_clean member lost⟩)
  | dropped =>
    obtain ⟨last, path, ornament | unfed⟩ := end_of_trace traced
    · exact .inl ⟨last, path, ornament⟩
    · obtain ⟨classType, blamed⟩ := unfed_iff_blame?.mp unfed
      exact .inr (.inr ⟨last, classType, path, unfedRelay_mem_clean_iff.mpr blamed⟩)

end

/-- Whatever a cleaner held before, what it has noted once it has run accounts for the relays that
are unfed, the inputs that are lost and, with the ornaments, for all inputs that are gone. -/
theorem run_accounted (catalogue : Catalogue) (cleaner : Cleaning) (graph : Graph) :
    ∃ unfed lost, Account catalogue graph (cleaner.run catalogue graph) unfed lost := by
  rw [run_eq_clean]
  refine ⟨graph.ids.filterMap fun id => (graph.blame? catalogue id).map (id, ·),
    graph.links.filterMap fun link => (graph.missing? catalogue link).map (link, ·), ?_⟩
  constructor
  case noted =>
    simp only [anomalies_clean, List.map_filterMap, Option.map_map, Function.comp_def]
  case unfedOrder =>
    rw [map_fst_filterMap_pair]
    exact List.filter_sublist
  case unfed_iff =>
    intro id
    rw [map_fst_filterMap_pair, List.mem_filter, Option.isSome_iff_exists, ← unfed_iff_blame?,
      and_iff_right_iff_imp]
    intro unfed
    obtain ⟨classType, blamed⟩ := unfed_iff_blame?.mp unfed
    exact mem_ids_of_blame? blamed
  case lostOrder =>
    rw [map_fst_filterMap_pair]
    exact List.filter_sublist
  case lost_iff =>
    intro link missing
    rw [mem_filterMap_pair, missing?_eq_some_iff, Lost]
  case absent =>
    rintro ⟨link, missing⟩ member
    exact (missing?_eq_some_iff.mp (mem_filterMap_pair.mp member).2).2.not_mem_ids
  case covered =>
    intro link member stays gone
    exact covered_clean member stays (get?_inputs_clean member stays ▸ gone)

/-- A loop of two relays that a third enters, two relays that share a bad end, one that leads out of
the graph, an ornament, and a node that reads from all of these. -/
def tangled : Graph :=
  let reading (classType : String) (producers : List String) : Node :=
    { Node.ofClass classType with
      inputs := Keyed.ofList (producers.map fun producer => (producer, .wired ⟨producer, 0⟩)) }
  ⟨Keyed.ofList [
    ("save", reading "SaveImage" ["in", "tail", "astray", "note", "gone"]),
    ("in", reading "Reroute" ["round"]), ("round", reading "Reroute" ["back"]),
    ("back", reading "Reroute" ["round"]), ("tail", reading "Reroute" ["bad"]),
    ("bad", reading "Reroute" []), ("astray", reading "Reroute" ["nowhere"]),
    ("note", reading "Note" [])]⟩

example : (Cleaning.none.run .core tangled).anomalies =
    [.unfedRelay "in" "Reroute", .unfedRelay "round" "Reroute", .unfedRelay "back" "Reroute",
      .unfedRelay "bad" "Reroute", .brokenLink "save" "astray" "nowhere",
      .brokenLink "save" "gone" "gone"] := by
  decide

/-- A relay is noted with its own class if it has no wired input or several; if the chain that it
begins comes to a relay again, then with the class of the relay at which the chain closes. -/
theorem mem_anomalies_run_iff (catalogue : Catalogue) (cleaner : Cleaning) (graph : Graph)
    (id classType : String) :
    .unfedRelay id classType ∈ (cleaner.run catalogue graph).anomalies ↔
      ∃ node, graph.get? id = some node ∧ catalogue.routing node.classType = .relay ∧
        (node.links.length ≠ 1 ∧ node.classType = classType ∨
          ∃ path last, Loop catalogue graph [] (id :: path) last ∧
            graph.classOf last = classType) := by
  rw [run_eq_clean, unfedRelay_mem_clean_iff, blame?_eq_some_iff, routing?_eq_some_iff]
  constructor
  · rintro ⟨⟨node, found, relays⟩, unfed⟩
    exact ⟨node, found, relays, (feed_eq_unfed_iff found relays).mp unfed⟩
  · rintro ⟨node, found, relays, cause⟩
    exact ⟨⟨node, found, relays⟩, (feed_eq_unfed_iff found relays).mpr cause⟩

/-- Two relays of different classes that feed each other, and a node that reads from one of them. -/
def mixedLoop : Graph := ⟨.ofList [
  ("1", (Node.ofClass "Reroute").withInput "in" (.wired ⟨"2", 0⟩)),
  ("2", (Node.ofClass "Reroute (rgthree)").withInput "in" (.wired ⟨"1", 0⟩)),
  ("3", (Node.ofClass "SaveImage").withInput "images" (.wired ⟨"1", 0⟩))]⟩

theorem mixedLoop_misnamed : ¬ ∀ id classType,
    .unfedRelay id classType ∈ (Cleaning.none.run .core mixedLoop).anomalies →
      ∃ node, mixedLoop.get? id = some node ∧
        Catalogue.core.routing node.classType = .relay ∧ node.classType = classType := by
  intro named
  have noted : .unfedRelay "1" "Reroute (rgthree)" ∈
      (Cleaning.none.run .core mixedLoop).anomalies := by
    rw [run_eq_clean]
    decide
  obtain ⟨node, found, -, same⟩ := named _ _ noted
  have own : mixedLoop.classOf "1" = "Reroute" := by decide
  rw [Graph.classOf, found, Option.map_some, Option.getD_some, same] at own
  contradiction

end Flowgraph
