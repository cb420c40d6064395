import TopoExec.Graph.Compile

/-! # What compilation computes

The SCC pass, the region ids and the region edges, characterised over the
edge relation of the graph. `immediateSccs` is the partition into classes of
mutual reachability, and `outgoing`/`indegree` describe the condensation in
the form that `Kahn.order_spec` asks for.
-/

namespace TopoExec

open Relation

/-- Component ids are non-empty and pairwise distinct. -/
structure DistinctIds (graph : GraphSpec) : Prop where
  nonempty : ∀ component ∈ graph.components, component.id ≠ ""
  nodup : (graph.components.map ComponentNodeSpec.id).Nodup

/-- `component` is the id of a component of the graph. -/
def Declared (graph : GraphSpec) (component : String) : Prop :=
  component ∈ graph.components.map ComponentNodeSpec.id

/-- An immediate edge whose endpoints are declared components. -/
def ImmediateEdge (graph : GraphSpec) (a b : String) : Prop :=
  Declared graph a ∧ Declared graph b ∧
    ∃ edge ∈ graph.edges, edge.isImmediate ∧ edge.source = a ∧ edge.target = b

/-- Reachability over immediate edges between declared components. -/
abbrev ImmediateReach (graph : GraphSpec) : String → String → Prop :=
  ReflTransGen (ImmediateEdge graph)

/-! ## Declared ids -/

/-- With distinct ids that are not empty nothing is left out. -/
theorem componentIds_foldl (components : List ComponentNodeSpec) (acc : List String)
    (hne : ∀ c ∈ components, c.id ≠ "")
    (hnd : (acc ++ components.map ComponentNodeSpec.id).Nodup) :
    components.foldl
      (fun ids component =>
        if component.id ≠ "" ∧ component.id ∉ ids then ids ++ [component.id] else ids)
      acc = acc ++ components.map ComponentNodeSpec.id := by
  induction components generalizing acc with
  | nil => simp
  | cons c components ih =>
      have hnew : c.id ∉ acc := by
        intro hin
        have := List.disjoint_of_nodup_append hnd hin
        simp at this
      have hnd' : ((acc ++ [c.id]) ++ components.map ComponentNodeSpec.id).Nodup := by
        simpa using hnd
      rw [List.foldl_cons, if_pos ⟨hne c (List.mem_cons_self ..), hnew⟩,
        ih _ (fun d hd => hne d (List.mem_cons_of_mem _ hd)) hnd']
      simp

/-- The ids are those of the components, in their order. -/
theorem componentIds_eq {graph : GraphSpec} (h : DistinctIds graph) :
    componentIds graph = graph.components.map ComponentNodeSpec.id := by
  simpa [componentIds] using
    componentIds_foldl graph.components [] h.nonempty (by simpa using h.nodup)

/-- A component has an id in the list when it is declared. -/
theorem mem_componentIds {graph : GraphSpec} (h : DistinctIds graph) {c : String} :
    c ∈ componentIds graph ↔ Declared graph c := by
  rw [componentIds_eq h, Declared]

/-- The successors in the list are those of the relation. -/
theorem mem_immediateEdges {graph : GraphSpec} (h : DistinctIds graph) {a b : String} :
    b ∈ immediateEdges graph a ↔ ImmediateEdge graph a b := by
  simp only [immediateEdges, List.mem_map, List.mem_filter, Bool.and_eq_true,
    decide_eq_true_eq, mem_componentIds h, ImmediateEdge]
  constructor
  · rintro ⟨edge, ⟨hmem, ⟨⟨himm, rfl⟩, hsrc⟩, htgt⟩, rfl⟩
    exact ⟨hsrc, htgt, edge, hmem, himm, rfl, rfl⟩
  · rintro ⟨hsrc, htgt, edge, hmem, himm, rfl, rfl⟩
    exact ⟨edge, ⟨hmem, ⟨⟨himm, rfl⟩, hsrc⟩, htgt⟩, rfl⟩

/-! ## The SCC pass -/

/-- Sorting keeps the ids. -/
theorem sortIds_perm (ids : List String) : (sortIds ids).Perm ids :=
  List.perm_insertionSort _ ids

/-- The search reaches what the relation reaches. -/
theorem reach_iff {graph : GraphSpec} (h : DistinctIds graph) {a b : String} :
    Scc.Reach (immediateEdges graph) a b ↔ ImmediateReach graph a b := by
  have hrel : (fun a b => b ∈ immediateEdges graph a) = ImmediateEdge graph := by
    funext a b
    exact propext (mem_immediateEdges h)
  rw [Scc.Reach, hrel]

/-- The classes computed by the SCC pass, in the terms of the graph. -/
structure SccPartition (graph : GraphSpec) (sccs : List (List String)) : Prop where
  cover : ∀ c, Declared graph c ↔ ∃ C ∈ sccs, c ∈ C
  disjoint : sccs.Pairwise List.Disjoint
  nonempty : ∀ C ∈ sccs, C ≠ []
  nodup : ∀ C ∈ sccs, C.Nodup
  mutually : ∀ C ∈ sccs, ∀ a ∈ C, ∀ b, b ∈ C ↔ ImmediateReach graph a b ∧ ImmediateReach graph b a

/-- The components found partition the graph into classes of mutual reach. -/
theorem immediateSccs_partition {graph : GraphSpec} (h : DistinctIds graph) :
    SccPartition graph (immediateSccs graph) := by
  have hclosed : ∀ v ∈ componentIds graph, ∀ w ∈ immediateEdges graph v,
      w ∈ componentIds graph := by
    intro v _ w hw
    exact (mem_componentIds h).mpr ((mem_immediateEdges h).mp hw).2.1
  obtain ⟨hcover, hdisj, hscc⟩ := Scc.tarjan_spec hclosed sortIds_perm
  refine ⟨?_, hdisj, fun C hC => (hscc C hC).1, fun C hC => (hscc C hC).2.1, ?_⟩
  · intro c
    rw [← mem_componentIds h]
    exact hcover c
  · intro C hC a ha b
    rw [(hscc C hC).2.2 a ha b, reach_iff h, reach_iff h]

namespace SccPartition

variable {graph : GraphSpec} {sccs : List (List String)}

/-- A component lies in one class only. -/
theorem unique_index (h : SccPartition graph sccs) {i j : Nat} {C D : List String}
    (hC : sccs[i]? = some C) (hD : sccs[j]? = some D) {c : String} (hcC : c ∈ C)
    (hcD : c ∈ D) : i = j := by
  obtain ⟨hi, rfl⟩ := List.getElem?_eq_some_iff.mp hC
  obtain ⟨hj, rfl⟩ := List.getElem?_eq_some_iff.mp hD
  by_contra hne
  have hpw := List.pairwise_iff_getElem.mp h.disjoint
  rcases Nat.lt_or_gt_of_ne hne with hlt | hgt
  · exact hpw i j hi hj hlt hcC hcD
  · exact hpw j i hj hi hgt hcD hcC

/-- A component is in one class. -/
theorem unique (h : SccPartition graph sccs) {C D : List String} (hC : C ∈ sccs) (hD : D ∈ sccs)
    {c : String} (hcC : c ∈ C) (hcD : c ∈ D) : C = D := by
  obtain ⟨i, hi⟩ := List.mem_iff_getElem?.mp hC
  obtain ⟨j, hj⟩ := List.mem_iff_getElem?.mp hD
  have hij := h.unique_index hi hj hcC hcD
  subst hij
  exact Option.some.inj (hi.symm.trans hj)

/-- Members of a class reach each other. -/
theorem same_class (h : SccPartition graph sccs) {C : List String} (hC : C ∈ sccs)
    {a b : String} (ha : a ∈ C) (hb : b ∈ C) : ImmediateReach graph a b :=
  ((h.mutually C hC a ha b).mp hb).1

/-- The classes, concatenated, list every declared id once. -/
theorem flatten_perm (h : SccPartition graph sccs) (hids : DistinctIds graph) :
    sccs.flatten.Perm (graph.components.map ComponentNodeSpec.id) := by
  have hnd : sccs.flatten.Nodup := List.nodup_flatten.mpr ⟨h.nodup, h.disjoint⟩
  refine (List.perm_ext_iff_of_nodup hnd hids.nodup).mpr ?_
  intro c
  rw [List.mem_flatten]
  exact (h.cover c).symm

end SccPartition

/-! ## Cyclic classes -/

/-- Sets of components are compared as lists without order. -/
theorem sameComponentSet_iff {left right : List String} :
    sameComponentSet left right ↔ left.Perm right := by
  unfold sameComponentSet
  rw [decide_eq_true_eq]
  constructor
  · intro heq
    exact (sortIds_perm left).symm.trans (heq ▸ sortIds_perm right)
  · intro hp
    exact List.Perm.eq_of_pairwise' (List.pairwise_insertionSort _ left)
      (List.pairwise_insertionSort _ right)
      ((sortIds_perm left).trans (hp.trans (sortIds_perm right).symm))

/-- A declared component has a self loop when an immediate edge leads back to it. -/
theorem hasImmediateSelfLoop_iff {graph : GraphSpec} {c : String} (hc : Declared graph c) :
    hasImmediateSelfLoop graph c ↔ ImmediateEdge graph c c := by
  simp only [hasImmediateSelfLoop, List.any_eq_true, Bool.and_eq_true, decide_eq_true_eq,
    ImmediateEdge, hc, true_and]
  constructor
  · rintro ⟨edge, hmem, ⟨himm, hs⟩, ht⟩
    exact ⟨edge, hmem, himm, hs, ht⟩
  · rintro ⟨edge, hmem, himm, hs, ht⟩
    exact ⟨edge, hmem, ⟨himm, hs⟩, ht⟩

/-- A class that is not cyclic is a single component without a self-edge. -/
theorem not_isCyclic {graph : GraphSpec} {C : List String} (hne : C ≠ [])
    (h : isCyclic graph C = false) :
    ∃ c, C = [c] ∧ hasImmediateSelfLoop graph c = false := by
  match C with
  | [] => exact absurd rfl hne
  | [c] => exact ⟨c, rfl, by simpa [isCyclic] using h⟩
  | c :: d :: rest => simp [isCyclic] at h

/-! ## Regions by index -/

/-- The regions are numbered as the classes are. -/
theorem getElem?_regionIds (graph : GraphSpec) (i : Nat) :
    (regionIds graph)[i]? =
      (immediateSccs graph)[i]?.map fun C => (regionOfScc graph i C).id := by
  simp [regionIds, sccRegions, List.getElem?_map, List.getElem?_zipIdx, Function.comp_def]

/-- There is a region for each class. -/
theorem length_regionIds (graph : GraphSpec) :
    (regionIds graph).length = (immediateSccs graph).length := by
  simp [regionIds, sccRegions]

@[simp] theorem regionOfScc_components (graph : GraphSpec) (i : Nat) (C : List String) :
    (regionOfScc graph i C).components = C := by
  unfold regionOfScc
  split <;> rfl

/-- The components of the regions are the classes. -/
theorem map_components_sccRegions (graph : GraphSpec) :
    (sccRegions graph).map CompiledGraphRegion.components = immediateSccs graph := by
  simp [sccRegions, Function.comp_def]

/-- The compiled regions have the ids of the regions. -/
theorem map_id_compiledRegions (graph : GraphSpec) :
    (compiledRegions graph).map CompiledGraphRegion.id = regionIds graph := by
  simp [compiledRegions, regionIds, Function.comp_def]

/-- The compiled regions have the classes as their components. -/
theorem map_components_compiledRegions (graph : GraphSpec) :
    (compiledRegions graph).map CompiledGraphRegion.components = immediateSccs graph := by
  rw [← map_components_sccRegions]
  simp [compiledRegions, Function.comp_def]

/-- A compiled region holds the class at its index, under the id there. -/
theorem compiledRegions_index {graph : GraphSpec} {k : Nat} {region : CompiledGraphRegion}
    (h : (compiledRegions graph)[k]? = some region) :
    (immediateSccs graph)[k]? = some region.components ∧
      (regionIds graph)[k]? = some region.id := by
  rw [← map_components_compiledRegions, ← map_id_compiledRegions]
  simp [h]

/-- The fold behind `component_scc`: the last class of the list that holds the
component, numbered from `n`. -/
theorem foldl_zipIdx_sound {c : String} {i : Nat} (sccs : List (List String)) (n : Nat)
    (found : Option Nat)
    (h : (sccs.zipIdx n).foldl
      (fun found scc => if c ∈ scc.1 then some scc.2 else found) found = some i) :
    found = some i ∨ ∃ k C, sccs[k]? = some C ∧ c ∈ C ∧ i = n + k := by
  induction sccs generalizing n found with
  | nil => exact Or.inl (by simpa using h)
  | cons D sccs ih =>
      rw [List.zipIdx_cons, List.foldl_cons] at h
      rcases ih (n + 1) _ h with hfound | ⟨k, C, hC, hc, rfl⟩
      · by_cases hD : c ∈ D
        · rw [if_pos hD] at hfound
          exact Or.inr ⟨0, D, rfl, hD, by simpa using (Option.some.inj hfound).symm⟩
        · rw [if_neg hD] at hfound
          exact Or.inl hfound
      · exact Or.inr ⟨k + 1, C, by simpa using hC, hc, by omega⟩

/-- The search through the classes finds a class of the component. -/
theorem foldl_zipIdx_complete {c : String} (sccs : List (List String)) (n : Nat)
    (found : Option Nat) (h : found ≠ none ∨ ∃ C ∈ sccs, c ∈ C) :
    (sccs.zipIdx n).foldl
      (fun found scc => if c ∈ scc.1 then some scc.2 else found) found ≠ none := by
  induction sccs generalizing n found with
  | nil =>
      rcases h with h | ⟨C, hC, _⟩
      · simpa using h
      · simp at hC
  | cons D sccs ih =>
      rw [List.zipIdx_cons, List.foldl_cons]
      apply ih
      by_cases hD : c ∈ D
      · left
        simp [hD]
      · rcases h with h | ⟨C, hC, hcC⟩
        · left
          simpa [hD] using h
        · rcases List.mem_cons.mp hC with rfl | hC
          · exact absurd hcC hD
          · exact Or.inr ⟨C, hC, hcC⟩

/-- The class that is found is the component's own. -/
theorem componentScc_eq_some {graph : GraphSpec}
    (h : SccPartition graph (immediateSccs graph)) {c : String} {i : Nat} :
    componentScc graph c = some i ↔ ∃ C, (immediateSccs graph)[i]? = some C ∧ c ∈ C := by
  constructor
  · intro hsome
    rcases foldl_zipIdx_sound _ 0 none hsome with hnone | ⟨k, C, hC, hc, rfl⟩
    · simp at hnone
    · exact ⟨C, by simpa using hC, hc⟩
  · rintro ⟨C, hC, hc⟩
    have hne : componentScc graph c ≠ none :=
      foldl_zipIdx_complete _ 0 none (Or.inr ⟨C, List.mem_of_getElem? hC, hc⟩)
    obtain ⟨j, hj⟩ := Option.ne_none_iff_exists'.mp hne
    rcases foldl_zipIdx_sound _ 0 none hj with hnone | ⟨k, D, hD, hcD, hjk⟩
    · simp at hnone
    · have hki := h.unique_index hD hC hcD hc
      rw [hj, hjk, hki, Nat.zero_add]

/-! ## Region edges -/

/-- `a` and `b` are the ids of two different regions with an immediate edge
from a component of the first to one of the second. -/
def RegionEdge (graph : GraphSpec) (a b : String) : Prop :=
  ∃ (i j : Nat) (C D : List String), i ≠ j ∧ (immediateSccs graph)[i]? = some C ∧
    (immediateSccs graph)[j]? = some D ∧
    (regionIds graph)[i]? = some a ∧ (regionIds graph)[j]? = some b ∧
    ∃ x ∈ C, ∃ y ∈ D, ImmediateEdge graph x y

/-- The edges between regions are those between components of different classes. -/
theorem mem_filterMap_regionEdgeOf {graph : GraphSpec}
    (h : SccPartition graph (immediateSccs graph)) {a b : String} :
    (a, b) ∈ graph.edges.filterMap (regionEdgeOf graph) ↔ RegionEdge graph a b := by
  rw [List.mem_filterMap]
  constructor
  · rintro ⟨edge, hmem, hedge⟩
    unfold regionEdgeOf at hedge
    split_ifs at hedge with himm
    split at hedge
    · rename_i i j hi hj
      split_ifs at hedge with hij
      obtain ⟨C, hC, hxC⟩ := (componentScc_eq_some h).mp hi
      obtain ⟨D, hD, hyD⟩ := (componentScc_eq_some h).mp hj
      have hpair := Prod.mk.inj (Option.some.inj hedge)
      have hida := getElem?_regionIds graph i
      have hidb := getElem?_regionIds graph j
      rw [hC] at hida
      rw [hD] at hidb
      rw [hida, hidb] at hpair
      refine ⟨i, j, C, D, hij, hC, hD, ?_, ?_, edge.source, hxC, edge.target, hyD, ?_⟩
      · rw [hida, ← hpair.1]
        rfl
      · rw [hidb, ← hpair.2]
        rfl
      · exact ⟨(h.cover _).mpr ⟨C, List.mem_of_getElem? hC, hxC⟩,
          (h.cover _).mpr ⟨D, List.mem_of_getElem? hD, hyD⟩, edge, hmem, himm, rfl, rfl⟩
    · simp at hedge
  · rintro ⟨i, j, C, D, hij, hC, hD, hida, hidb, x, hx, y, hy, _, _, edge, hmem, himm, rfl, rfl⟩
    refine ⟨edge, hmem, ?_⟩
    have hi := (componentScc_eq_some h).mpr ⟨C, hC, hx⟩
    have hj := (componentScc_eq_some h).mpr ⟨D, hD, hy⟩
    simp [regionEdgeOf, himm, hi, hj, hij, hida, hidb]

theorem mem_insertId {id x : String} {ids : List String} :
    x ∈ insertId id ids ↔ x = id ∨ x ∈ ids := by
  unfold insertId
  split_ifs with hin
  · constructor
    · exact Or.inr
    · rintro (rfl | hx)
      · exact hin
      · exact hx
  · rw [List.mem_orderedInsert]

theorem nodup_insertId {id : String} {ids : List String} (h : ids.Nodup) :
    (insertId id ids).Nodup := by
  unfold insertId
  split_ifs with hin
  · exact h
  · rw [(List.perm_orderedInsert _ id ids).nodup_iff]
    exact List.nodup_cons.mpr ⟨hin, h⟩

/-- The region edges after the pairs `pairs` have been recorded. -/
structure EdgesRecorded (nodes : List String) (pairs : List (String × String))
    (s : RegionEdges) : Prop where
  outgoing_iff : ∀ a b, b ∈ s.outgoing a ↔ (a, b) ∈ pairs
  outgoing_nodup : ∀ a, (s.outgoing a).Nodup
  indegree_eq : ∀ n, s.indegree n = nodes.countP fun m => n ∈ s.outgoing m

/-- An edge is recorded once, however often it is met. -/
theorem EdgesRecorded.add {nodes : List String} (hnodes : nodes.Nodup)
    {pairs : List (String × String)} {s : RegionEdges} (h : EdgesRecorded nodes pairs s)
    {edge : String × String} (hmem : edge.1 ∈ nodes) :
    EdgesRecorded nodes (pairs ++ [edge]) (addRegionEdge s edge) := by
  obtain ⟨a, b⟩ := edge
  unfold addRegionEdge
  split_ifs with hin
  · refine ⟨?_, h.outgoing_nodup, h.indegree_eq⟩
    intro x y
    rw [h.outgoing_iff, List.mem_append, List.mem_singleton]
    constructor
    · exact Or.inl
    · rintro (hxy | hxy)
      · exact hxy
      · obtain ⟨rfl, rfl⟩ := Prod.mk.inj hxy
        exact (h.outgoing_iff _ _).mp hin
  · have hout : ∀ x y, y ∈ Function.update s.outgoing a (insertId b (s.outgoing a)) x ↔
        y ∈ s.outgoing x ∨ (x = a ∧ y = b) := by
      intro x y
      by_cases hx : x = a
      · subst hx
        rw [Function.update_self, mem_insertId]
        tauto
      · rw [Function.update_of_ne hx]
        simp [hx]
    refine ⟨?_, ?_, ?_⟩
    · intro x y
      rw [hout, h.outgoing_iff, List.mem_append, List.mem_singleton, Prod.mk.injEq]
    · intro x
      by_cases hx : x = a
      · subst hx
        simpa using nodup_insertId (h.outgoing_nodup x)
      · simpa [Function.update_of_ne hx] using h.outgoing_nodup x
    · intro n
      simp only [hout]
      by_cases hn : n = b
      · subst hn
        -- exactly the source of the new edge is counted in addition
        obtain ⟨l₁, l₂, hl⟩ := List.append_of_mem hmem
        rw [hl] at hnodes
        have hne : ∀ m ∈ l₁ ++ l₂, m ≠ a := by
          rintro m hm rfl
          exact (List.nodup_cons.mp (List.nodup_middle.mp hnodes)).1 hm
        have hcongr : ∀ l : List String, (∀ m ∈ l, m ≠ a) →
            l.countP (fun m => decide (n ∈ s.outgoing m ∨ (m = a ∧ n = n))) =
              l.countP (fun m => decide (n ∈ s.outgoing m)) := by
          intro l hl
          apply List.countP_congr
          intro m hm
          simp [hl m hm]
        have hidx := h.indegree_eq n
        rw [hl] at hidx ⊢
        rw [List.countP_append, List.countP_cons] at hidx ⊢
        rw [hcongr l₁ (fun m hm => hne m (List.mem_append_left _ hm)),
          hcongr l₂ (fun m hm => hne m (List.mem_append_right _ hm))]
        simp only [Function.update_self, hidx]
        simp [hin]
        omega
      · rw [Function.update_of_ne hn, h.indegree_eq n]
        simp [hn]

/-- By induction on the edges that are left. -/
theorem EdgesRecorded.foldl {nodes : List String} (hnodes : nodes.Nodup)
    (rest : List (String × String)) {pairs : List (String × String)} {s : RegionEdges}
    (h : EdgesRecorded nodes pairs s) (hmem : ∀ edge ∈ rest, edge.1 ∈ nodes) :
    EdgesRecorded nodes (pairs ++ rest) (rest.foldl addRegionEdge s) := by
  induction rest generalizing pairs s with
  | nil => simpa using h
  | cons edge rest ih =>
      rw [List.foldl_cons, List.append_cons]
      exact ih (h.add hnodes (hmem edge (List.mem_cons_self ..)))
        (fun e he => hmem e (List.mem_cons_of_mem _ he))

/-- An edge between regions starts at one of them. -/
theorem RegionEdge.mem_left {graph : GraphSpec} {a b : String} (h : RegionEdge graph a b) :
    a ∈ regionIds graph := by
  obtain ⟨i, _, _, _, _, _, _, ha, _⟩ := h
  exact List.mem_of_getElem? ha

/-- An edge between regions ends at one of them. -/
theorem RegionEdge.mem_right {graph : GraphSpec} {a b : String} (h : RegionEdge graph a b) :
    b ∈ regionIds graph := by
  obtain ⟨_, j, _, _, _, _, _, _, hb, _⟩ := h
  exact List.mem_of_getElem? hb

/-- With distinct region ids the recorded edges are the condensation, and the
indegrees count its predecessors. -/
theorem regionEdges_recorded {graph : GraphSpec}
    (h : SccPartition graph (immediateSccs graph)) (hnd : (regionIds graph).Nodup) :
    (∀ a b, b ∈ (regionEdges graph).outgoing a ↔ RegionEdge graph a b) ∧
      (∀ a, ((regionEdges graph).outgoing a).Nodup) ∧
      ∀ n, (regionEdges graph).indegree n =
        (regionIds graph).countP fun m => n ∈ (regionEdges graph).outgoing m := by
  have hinit : EdgesRecorded (regionIds graph) [] {} := by
    refine ⟨?_, ?_, ?_⟩ <;> simp
  have hmem : ∀ edge ∈ graph.edges.filterMap (regionEdgeOf graph), edge.1 ∈ regionIds graph := by
    intro edge hedge
    exact ((mem_filterMap_regionEdgeOf h).mp hedge).mem_left
  have hrec := hinit.foldl hnd _ hmem
  rw [List.nil_append] at hrec
  refine ⟨?_, hrec.outgoing_nodup, hrec.indegree_eq⟩
  intro a b
  rw [← mem_filterMap_regionEdgeOf h]
  exact hrec.outgoing_iff a b

/-! ## The condensation is acyclic -/

/-- Region edges lead from every component of one region to every component of
the other. -/
theorem reach_of_regionEdges {graph : GraphSpec}
    (h : SccPartition graph (immediateSccs graph)) (hnd : (regionIds graph).Nodup)
    {a b : String} (hpath : TransGen (RegionEdge graph) a b) {i j : Nat} {C D : List String}
    (hi : (regionIds graph)[i]? = some a) (hC : (immediateSccs graph)[i]? = some C)
    (hj : (regionIds graph)[j]? = some b) (hD : (immediateSccs graph)[j]? = some D)
    {x y : String} (hx : x ∈ C) (hy : y ∈ D) : ImmediateReach graph x y := by
  have hindex : ∀ {i j : Nat} {c : String}, (regionIds graph)[i]? = some c →
      (regionIds graph)[j]? = some c → i = j := by
    intro i j c hi hj
    obtain ⟨hilt, _⟩ := List.getElem?_eq_some_iff.mp hi
    exact (List.getElem?_inj hilt hnd).mp (hi.trans hj.symm)
  have hedge : ∀ {a b : String} {i j : Nat} {C D : List String} {x y : String},
      RegionEdge graph a b → (regionIds graph)[i]? = some a →
      (immediateSccs graph)[i]? = some C → (regionIds graph)[j]? = some b →
      (immediateSccs graph)[j]? = some D → x ∈ C → y ∈ D → ImmediateReach graph x y := by
    rintro a b i j C D x y ⟨i', j', C', D', _, hC', hD', hi', hj', u, hu, v, hv, huv⟩
      hi hC hj hD hx hy
    have hii := hindex hi' hi
    have hjj := hindex hj' hj
    subst hii
    subst hjj
    have hCC : C' = C := Option.some.inj (hC'.symm.trans hC)
    have hDD : D' = D := Option.some.inj (hD'.symm.trans hD)
    subst hCC
    subst hDD
    have hxu := h.same_class (List.mem_of_getElem? hC) hx hu
    have hvy := h.same_class (List.mem_of_getElem? hD) hv hy
    exact (hxu.tail huv).trans hvy
  induction hpath generalizing j D y with
  | single hab => exact hedge hab hi hC hj hD hx hy
  | tail _ hbc ih =>
      have ⟨k, _, K, _, _, hK, _, hk, _, _⟩ := hbc
      obtain ⟨z, hz⟩ := List.exists_mem_of_ne_nil K (h.nonempty K (List.mem_of_getElem? hK))
      exact (ih hk hK hz).trans (hedge hbc hk hK hj hD hz hy)

/-- A cycle of regions would be one class. -/
theorem regionEdge_acyclic {graph : GraphSpec}
    (h : SccPartition graph (immediateSccs graph)) (hnd : (regionIds graph).Nodup) (a : String) :
    ¬ TransGen (RegionEdge graph) a a := by
  intro hcycle
  obtain ⟨b, hab, hba⟩ := TransGen.head'_iff.mp hcycle
  obtain ⟨i, j, C, D, hij, hC, hD, hi, hj, u, hu, v, hv, huv⟩ := hab
  have hvu : ImmediateReach graph v u := by
    rcases Relation.reflTransGen_iff_eq_or_transGen.mp hba with heq | hpath
    · -- the same id twice: the same region
      subst heq
      obtain ⟨hilt, _⟩ := List.getElem?_eq_some_iff.mp hi
      exact absurd ((List.getElem?_inj hilt hnd).mp (hi.trans hj.symm)) hij
    · exact reach_of_regionEdges h hnd hpath hj hD hi hC hv hu
  have hvC : v ∈ C :=
    (h.mutually C (List.mem_of_getElem? hC) u hu v).mpr ⟨ReflTransGen.single huv, hvu⟩
  exact hij (h.unique_index hC hD hvC hv)

/-! ## The order of the regions -/

/-- Sorting keeps what is ready. -/
theorem sortReady_perm (graph : GraphSpec) (ready : List String) :
    (sortReady graph ready).Perm ready :=
  List.perm_insertionSort _ ready

/-- With distinct region ids the ordering loop stops, and it lists every
region after its predecessors. -/
theorem regionOrder_spec {graph : GraphSpec}
    (h : SccPartition graph (immediateSccs graph)) (hnd : (regionIds graph).Nodup) :
    ∃ order, regionOrder (regionIds graph).length graph = some order ∧
      order.Perm (regionIds graph) ∧
      ∀ l₁ b l₂, order = l₁ ++ b :: l₂ → ∀ a, RegionEdge graph a b → a ∈ l₁ := by
  obtain ⟨hout, houtnd, hindeg⟩ := regionEdges_recorded h hnd
  have hsub : ∀ m ∈ regionIds graph, ∀ n ∈ (regionEdges graph).outgoing m,
      n ∈ regionIds graph := by
    intro m _ n hn
    exact ((hout m n).mp hn).mem_right
  obtain ⟨order, hrun, hord⟩ :=
    Kahn.order_spec hnd houtnd hsub (sortReady_perm graph) (fun n _ => hindeg n)
  have hedge : Kahn.Edge (regionEdges graph).outgoing = RegionEdge graph := by
    funext a b
    exact propext (hout a b)
  refine ⟨order, hrun, ?_, ?_⟩
  · apply hord.perm hnd
    rw [hedge]
    exact regionEdge_acyclic h hnd
  · intro l₁ b l₂ hsplit a hab
    exact hord.topo l₁ b l₂ hsplit a hab.mem_left ((hout a b).mpr hab)

end TopoExec
