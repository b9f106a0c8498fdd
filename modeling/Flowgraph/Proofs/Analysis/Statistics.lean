import Flowgraph.Analysis
import Flowgraph.Proofs.Ascending
import Flowgraph.Proofs.Links
import Flowgraph.Proofs.NodeId

/-!
# Statistics of the connections

The statistics are counted in one pass over the nodes, and over the wired inputs of each. The three
things that are counted do not get in each other's way: the pass adds up the wired inputs, keeps the
node that has most of them, and counts for each slot the inputs that read it.

Main result: `Graph.connectionStats_eq`.
-/
namespace Flowgraph

instance : Std.TransCmp fun a b : Source => NodeId.compare a.node b.node where
  eq_swap := Std.OrientedCmp.eq_swap
  isLE_trans := Std.TransCmp.isLE_trans

instance : Std.TransCmp Source.compare :=
  inferInstanceAs (Std.TransCmp (compareLex (fun a b : Source => NodeId.compare a.node b.node)
    (compareOn fun source => source.slot.toNat)))

instance : Std.LawfulEqCmp Source.compare where
  eq_of_compare := by
    intro a b equal
    obtain ⟨nodes, slots⟩ := Ordering.then_eq_eq.mp equal
    have node := NodeId.eq_of_compare_eq nodes
    have slot := UInt32.toNat_inj.mp (Nat.compare_eq_eq.mp slots)
    cases a
    cases b
    rw [Source.mk.injEq]
    exact ⟨node, slot⟩

namespace OutputUsage

/-- How many inputs have been counted for a slot. -/
def readersOf (source : Source) : List OutputUsage → Nat
  | [] => 0
  | use :: rest => if use.source = source then use.consumers else readersOf source rest

/-- How often each slot of a list is read. -/
def tally (read : List Source) (usage : List OutputUsage) : List OutputUsage :=
  read.foldl (fun usage source => countIn source usage) usage

variable {source other : Source} {usage : List OutputUsage} {read : List Source}

theorem readersOf_countIn : readersOf other (countIn source usage) =
    readersOf other usage + if source = other then 1 else 0 := by
  induction usage with
  | nil => simp [countIn, readersOf]
  | cons use rest ih =>
    unfold countIn
    by_cases same : use.source = source
    · subst same
      by_cases asked : use.source = other <;> simp [readersOf, asked]
    · rw [if_neg same]
      by_cases asked : use.source = other
      · subst asked
        have different : source ≠ use.source := fun equal => same equal.symm
        simp [readersOf, different]
      · simp [readersOf, asked, ih]

theorem map_source_countIn : (countIn source usage).map OutputUsage.source =
    if source ∈ usage.map OutputUsage.source then usage.map OutputUsage.source
    else usage.map OutputUsage.source ++ [source] := by
  induction usage with
  | nil => simp [countIn]
  | cons use rest ih =>
    unfold countIn
    by_cases same : use.source = source
    · simp [same]
    · have different : source ≠ use.source := fun equal => same equal.symm
      rw [if_neg same, List.map_cons, ih, List.map_cons]
      by_cases later : source ∈ rest.map OutputUsage.source
      · rw [if_pos later, if_pos (List.mem_cons_of_mem _ later)]
      · have fresh : source ∉ use.source :: rest.map OutputUsage.source :=
          List.not_mem_cons_of_ne_of_not_mem different later
        rw [if_neg later, if_neg fresh, List.cons_append]

theorem readersOf_of_mem {use : OutputUsage} (once : (usage.map OutputUsage.source).Nodup)
    (member : use ∈ usage) : readersOf use.source usage = use.consumers := by
  induction usage with
  | nil => contradiction
  | cons first rest ih =>
    obtain ⟨fresh, once⟩ := List.nodup_cons.mp once
    rcases List.mem_cons.mp member with rfl | later
    · exact if_pos rfl
    · have different : first.source ≠ use.source := fun same =>
        fresh (same ▸ List.mem_map_of_mem later)
      rw [readersOf, if_neg different, ih once later]

theorem readersOf_tally :
    readersOf source (tally read usage) = readersOf source usage + read.count source := by
  unfold tally
  induction read generalizing usage with
  | nil => rfl
  | cons first rest ih =>
    rw [List.foldl_cons, ih, readersOf_countIn, List.count_cons]
    simp only [beq_iff_eq]
    omega

theorem mem_map_source_tally : source ∈ (tally read usage).map OutputUsage.source ↔
    source ∈ usage.map OutputUsage.source ∨ source ∈ read := by
  unfold tally
  induction read generalizing usage with
  | nil => simp
  | cons first rest ih =>
    rw [List.foldl_cons, ih, map_source_countIn]
    split
    · next known =>
      simp only [List.mem_cons]
      constructor
      · exact Or.imp_right .inr
      · rintro (old | rfl | later)
        · exact .inl old
        · exact .inl known
        · exact .inr later
    · simp only [List.mem_append, List.mem_cons, List.not_mem_nil, or_false, or_assoc]

theorem nodup_tally (once : (usage.map OutputUsage.source).Nodup) :
    ((tally read usage).map OutputUsage.source).Nodup := by
  unfold tally
  induction read generalizing usage with
  | nil => exact once
  | cons first rest ih =>
    refine ih ?_
    rw [map_source_countIn]
    split
    · exact once
    · next fresh => exact List.concat_eq_append ▸ once.concat fresh

theorem perm_sort (usage : List OutputUsage) : (sort usage).Perm usage :=
  List.mergeSort_perm usage _

theorem sorted_sort (once : (usage.map OutputUsage.source).Nodup) :
    Ascending.Sorted Source.compare ((sort usage).map OutputUsage.source) := by
  have distinct := ((perm_sort usage).map OutputUsage.source).nodup_iff.mpr once
  exact Ascending.sorted_iff.mpr
    ⟨distinct, List.pairwise_map.mpr (Ascending.pairwise_mergeSort OutputUsage.source usage)⟩

/-- Counting and sorting gives the slots that are read, each with how often it is read. -/
theorem sort_tally (read : List Source) : sort (tally read []) =
    (Ascending.ofList Source.compare read).map fun source => ⟨source, read.count source⟩ := by
  have once : ((tally read []).map OutputUsage.source).Nodup := nodup_tally List.nodup_nil
  have sources : (sort (tally read [])).map OutputUsage.source =
      Ascending.ofList Source.compare read := by
    refine (sorted_sort once).eq_of_mem_iff (Ascending.sorted_ofList read) fun source => ?_
    rw [((perm_sort _).map _).mem_iff, mem_map_source_tally, Ascending.mem_ofList_iff]
    simp
  have counts : ∀ use ∈ sort (tally read []), (⟨use.source, read.count use.source⟩ : OutputUsage) =
      use := by
    intro use member
    have counted := readersOf_of_mem once ((perm_sort _).mem_iff.mp member)
    rw [readersOf_tally, readersOf, Nat.zero_add] at counted
    rw [counted]
  rw [← sources, List.map_map]
  exact ((List.map_congr_left counts).trans (List.map_id _)).symm

end OutputUsage

namespace Graph

variable {graph : Graph}

/-- The sources that are read and whose nodes are there, one for each edge. -/
def readSlots (graph : Graph) : List Source :=
  (graph.links.map Link.source).filter fun source => graph.has source.node

/-- Of the node with the most wired inputs so far and another one, the one that has more, the former
if they have as many. -/
def busier (best : Option BusiestNode) (entry : String × Node) : Option BusiestNode :=
  if (best.map BusiestNode.inputs).getD 0 < entry.2.links.length then
    some ⟨entry.1, entry.2.classType, entry.2.links.length⟩
  else best

/-- All wired inputs of a node are counted, and those slots that are there. -/
theorem foldl_countLink (links : List (String × Source)) (inputs : Nat)
    (usage : List OutputUsage) : links.foldl graph.countLink (inputs, usage) =
      (inputs + links.length,
        OutputUsage.tally ((links.map Prod.snd).filter fun source => graph.has source.node)
          usage) := by
  induction links generalizing inputs usage with
  | nil => rfl
  | cons link rest ih =>
    rw [List.foldl_cons, countLink, ih]
    dsimp only
    rw [List.length_cons, List.map_cons, Nat.add_assoc, Nat.add_comm 1]
    by_cases there : graph.has link.2.node = true
    · rw [if_pos there, List.filter_cons, if_pos there]
      rfl
    · rw [if_neg there, List.filter_cons, if_neg there]

/-- The three counts of the pass go on each by itself, whatever has been counted before. -/
theorem foldl_countNode (entries : List (String × Node)) (stats : ConnectionStats) :
    entries.foldl graph.countNode stats =
      ⟨entries.foldl (fun total entry => total + entry.2.links.length) stats.total,
        entries.foldl busier stats.busiest,
        OutputUsage.tally (entries.flatMap fun entry => (entry.2.links.map Prod.snd).filter
          fun source => graph.has source.node) stats.usage⟩ := by
  induction entries generalizing stats with
  | nil => rfl
  | cons entry rest ih =>
    rw [List.foldl_cons, ih, countNode]
    simp only [foldl_countLink, Nat.zero_add, List.foldl_cons, busier, List.flatMap_cons,
      OutputUsage.tally, List.foldl_append]

theorem readSlots_eq (graph : Graph) : graph.readSlots = graph.entries.flatMap fun entry =>
    (entry.2.links.map Prod.snd).filter fun source => graph.has source.node := by
  rw [readSlots, links, List.map_flatMap, List.filter_flatMap]
  simp only [List.map_map, Function.comp_def]

/-- The pass over the nodes counts all wired inputs, finds the node that has most of them, and lists
the slots that are read with how often they are. -/
theorem connectionStats_eq (graph : Graph) : graph.connectionStats =
    ⟨graph.linkCount, graph.entries.foldl busier none,
      (Ascending.ofList Source.compare graph.readSlots).map fun source =>
        ⟨source, graph.readSlots.count source⟩⟩ := by
  have total : graph.linkCount =
      graph.entries.foldl (fun total entry => total + entry.2.links.length) 0 := by
    rw [linkCount, Keyed.values, List.foldl_map, entries]
  simp only [connectionStats, foldl_countNode, ConnectionStats.blank, ← total, ← readSlots_eq,
    OutputUsage.sort_tally]

end Graph

end Flowgraph
