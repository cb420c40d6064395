import TopoExec.Lib.KahnVisits
import TopoExec.Graph.Regions

/-! # When the regions can be ordered

The ordering of the regions works on their ids, and two regions may share one: two loops with
one id, a loop or a component that is called like another region. The passes before the
ordering report most of these clashes, but the ordering runs all the same.

`RegionVisits` says how often the ordering would have to take each id. It stops iff there are
such numbers (`regionOrder_terminates_iff`), and it lists as many ids as there are regions iff
the least of them add up to that (`regionOrder_length_iff`). Distinct ids are always taken once
each (`RegionsOrderedOnce.of_nodup`).
-/

namespace TopoExec

/-- The pairs of region ids that an immediate edge connects. -/
def regionLinks (graph : GraphSpec) : List (String × String) :=
  graph.edges.filterMap (regionEdgeOf graph)

/-- How many ids have an edge to the regions called `id`. -/
def predecessorCount (graph : GraphSpec) (id : String) : Nat :=
  ((regionLinks graph).map Prod.fst).dedup.countP fun other => (other, id) ∈ regionLinks graph

/-- The ids that the ordering takes, with repetitions. An id that no edge leads to is taken
once for each region that has it. Any other id is taken when the last of its predecessors has
been, and once more for each time that a predecessor is taken again. -/
def RegionVisits (graph : GraphSpec) (visits : List String) : Prop :=
  ∀ id, visits.count id =
    (if predecessorCount graph id = 0 then (regionIds graph).count id else 0) +
      (visits.countP (fun other => (other, id) ∈ regionLinks graph) -
        (predecessorCount graph id - 1))

/-- The ordering of the regions comes to an end. -/
def RegionsOrderable (graph : GraphSpec) : Prop := ∃ visits, RegionVisits graph visits

/-- It takes as many ids as there are regions. -/
def RegionsOrderedOnce (graph : GraphSpec) : Prop :=
  ∃ visits, RegionVisits graph visits ∧ visits.length = (immediateSccs graph).length ∧
    ∀ other, RegionVisits graph other → (immediateSccs graph).length ≤ other.length

variable {graph : GraphSpec}

/-- The maps that the ordering starts from are those of the links. -/
theorem regionEdges_links (graph : GraphSpec) :
    EdgesRecorded ((regionLinks graph).map Prod.fst).dedup (regionLinks graph)
      (regionEdges graph) := by
  have hinit : EdgesRecorded ((regionLinks graph).map Prod.fst).dedup [] {} := by
    refine ⟨?_, ?_, ?_⟩ <;> simp
  have hrecorded := hinit.foldl (List.nodup_dedup _) (regionLinks graph) fun edge hedge =>
    List.mem_dedup.mpr (List.mem_map_of_mem hedge)
  rwa [List.nil_append] at hrecorded

theorem regionVisits_iff {visits : List String} :
    RegionVisits graph visits ↔ Kahn.Balanced (regionEdges graph).outgoing (regionIds graph)
      (regionEdges graph).indegree visits := by
  have h := regionEdges_links graph
  have hindegree : (regionEdges graph).indegree = predecessorCount graph := by
    funext id
    simp only [h.indegree_eq, h.outgoing_iff, predecessorCount]
  simp only [RegionVisits, Kahn.Balanced, hindegree, h.outgoing_iff]

/-- The ordering stops iff its books can be balanced. -/
theorem regionOrder_terminates_iff :
    (∃ fuel order, regionOrder fuel graph = some order) ↔ RegionsOrderable graph := by
  unfold regionOrder RegionsOrderable
  rw [Kahn.order_terminates_iff (regionEdges_links graph).outgoing_nodup (sortReady_perm graph)]
  simp only [regionVisits_iff]

theorem regionOrder_length_iff :
    (∃ fuel order, regionOrder fuel graph = some order ∧
        order.length = (regionIds graph).length) ↔ RegionsOrderedOnce graph := by
  unfold regionOrder RegionsOrderedOnce
  rw [Kahn.order_length_iff (regionEdges_links graph).outgoing_nodup (sortReady_perm graph),
    length_regionIds]
  simp only [regionVisits_iff]

/-- Regions with ids of their own are taken once each. -/
theorem RegionsOrderedOnce.of_nodup (hids : DistinctIds graph) (hnd : (regionIds graph).Nodup) :
    RegionsOrderedOnce graph := by
  obtain ⟨order, hrun, hperm, -⟩ := regionOrder_spec (immediateSccs_partition hids) hnd
  exact regionOrder_length_iff.mp ⟨_, order, hrun, hperm.length_eq⟩

/-- Without an edge between two regions the ordering just lists them. -/
theorem RegionsOrderable.of_no_links (h : regionLinks graph = []) : RegionsOrderable graph := by
  refine ⟨regionIds graph, fun id => ?_⟩
  simp [predecessorCount, h]

end TopoExec
