import TopoExec.Lib.KahnPriority
import TopoExec.Graph.Acceptance

/-! # Priorities in the region order

The ordering loop re-sorts the ready regions by falling rank whenever it
appends one. `region_order_greedy` says what this comes to: at every position
stands the best of the regions whose predecessors are done. The argument is
`Kahn.order_greedy`; this module reads the ranks, the predecessors and the ties
off the graph.
-/

namespace TopoExec

variable {graph : GraphSpec}

/-- An immediate edge leads from the first region to the second. -/
def Feeds (graph : GraphSpec) (p r : CompiledGraphRegion) : Prop :=
  p ≠ r ∧ ∃ a ∈ p.components, ∃ b ∈ r.components, ImmediateEdge graph a b

/-- The rank of a region is the highest rank of its components. -/
def HasRank (graph : GraphSpec) (region : CompiledGraphRegion) (rank : Int) : Prop :=
  IsGreatest {rank | ∃ spec ∈ graph.components, spec.id ∈ region.components ∧
    rank = runtimePriorityRank spec.execution.priority} rank

/-- The first `n` regions of `before` are the shortest prefix that holds all the
predecessors of `region`: 0 for a region without any, and otherwise one more
than the position of the last of them. -/
def ReadyAfter (graph : GraphSpec) (plan : GraphCompiledPlan) (before : List String)
    (region : CompiledGraphRegion) (n : Nat) : Prop :=
  IsLeast {n | ∀ p ∈ plan.regions, Feeds graph p region → p.id ∈ before.take n} n

/-- The order between ready regions of equal rank: by the last predecessor, then
in SCC order if there is none and by id if it is the same one. -/
def ReadyFirst (graph : GraphSpec) (plan : GraphCompiledPlan) (before : List String)
    (chosen other : CompiledGraphRegion) : Prop :=
  ∃ n m, ReadyAfter graph plan before chosen n ∧ ReadyAfter graph plan before other m ∧
    (n < m ∨ (n = m ∧
      if n = 0 then [chosen, other].Sublist plan.regions else chosen.id < other.id))

/-! ## Ranks -/

theorem foldl_unmatched {specs : List ComponentNodeSpec} {id : String} {rank : Int}
    (h : id ∉ specs.map ComponentNodeSpec.id) :
    specs.foldl (fun rank spec =>
      if spec.id = id then runtimePriorityRank spec.execution.priority else rank) rank = rank := by
  induction specs generalizing rank with
  | nil => rfl
  | cons spec specs ih =>
      rw [List.map_cons, List.mem_cons, not_or] at h
      rw [List.foldl_cons, if_neg (Ne.symm h.1)]
      exact ih h.2

/-- With distinct ids the priority of a component is the one it declares. -/
theorem componentPriority_eq (hids : DistinctIds graph) {spec : ComponentNodeSpec}
    (hspec : spec ∈ graph.components) :
    componentPriority graph spec.id = runtimePriorityRank spec.execution.priority := by
  obtain ⟨l₁, l₂, hsplit⟩ := List.append_of_mem hspec
  have hnodup := hids.nodup
  rw [hsplit, List.map_append, List.map_cons, List.nodup_middle, List.nodup_cons] at hnodup
  have hafter : spec.id ∉ l₂.map ComponentNodeSpec.id := by
    intro hin
    exact hnodup.1 (List.mem_append_right _ hin)
  unfold componentPriority
  rw [hsplit, List.foldl_append, List.foldl_cons, if_pos rfl]
  exact foldl_unmatched hafter

theorem runtimePriorityRank_nonneg (priority : String) : 0 ≤ runtimePriorityRank priority := by
  unfold runtimePriorityRank
  split_ifs <;> omega

/-- The loop for the maximum: no smaller than the start and the values, and one
of these. -/
theorem foldl_max_spec (f : String → Int) (l : List String) (init : Int) :
    init ≤ l.foldl (fun rank c => max rank (f c)) init ∧
      (∀ c ∈ l, f c ≤ l.foldl (fun rank c => max rank (f c)) init) ∧
      (l.foldl (fun rank c => max rank (f c)) init = init ∨
        ∃ c ∈ l, l.foldl (fun rank c => max rank (f c)) init = f c) := by
  induction l generalizing init with
  | nil => simp
  | cons a l ih =>
      obtain ⟨hinit, hall, hone⟩ := ih (max init (f a))
      rw [List.foldl_cons]
      refine ⟨(le_max_left ..).trans hinit, ?_, ?_⟩
      · intro c hc
        rcases List.mem_cons.mp hc with rfl | hc
        · exact (le_max_right ..).trans hinit
        · exact hall c hc
      · rcases hone with hone | ⟨c, hc, hone⟩
        · rw [hone]
          rcases max_choice init (f a) with hmax | hmax
          · exact Or.inl hmax
          · exact Or.inr ⟨a, List.mem_cons_self, hmax⟩
        · exact Or.inr ⟨c, List.mem_cons_of_mem _ hc, hone⟩

/-- The region that an id finds. -/
theorem find_region (hnd : (regionIds graph).Nodup) {region : CompiledGraphRegion}
    (hregion : region ∈ compiledRegions graph) :
    ∃ found, ((sccRegions graph).find? fun r => r.id = region.id) = some found ∧
      found.components = region.components := by
  unfold compiledRegions at hregion
  obtain ⟨base, hbase, rfl⟩ := List.mem_map.mp hregion
  have hsome : ((sccRegions graph).find? fun r => r.id = base.id).isSome := by
    rw [List.find?_isSome]
    exact ⟨base, hbase, by simp⟩
  obtain ⟨found, hfound⟩ := Option.isSome_iff_exists.mp hsome
  have hid : found.id = base.id := by simpa using List.find?_some hfound
  have heq : found = base :=
    List.inj_on_of_nodup_map hnd (List.mem_of_find?_eq_some hfound) hbase hid
  exact ⟨found, hfound, by rw [heq]⟩

/-- `region_priority_rank` computes the rank of a region. -/
theorem regionPriorityRank_hasRank (hids : DistinctIds graph) (hnd : (regionIds graph).Nodup)
    {region : CompiledGraphRegion} (hregion : region ∈ compiledRegions graph) :
    HasRank graph region (regionPriorityRank graph region.id) := by
  have hpart := immediateSccs_partition hids
  obtain ⟨found, hfound, hcomponents⟩ := find_region hnd hregion
  have hscc : region.components ∈ immediateSccs graph := by
    rw [← map_components_compiledRegions]
    exact List.mem_map_of_mem hregion
  obtain ⟨hinit, hall, hone⟩ := foldl_max_spec (componentPriority graph) region.components (-1)
  -- every component of the region is declared
  have hspec : ∀ c ∈ region.components, ∃ spec ∈ graph.components, spec.id = c ∧
      componentPriority graph c = runtimePriorityRank spec.execution.priority := by
    intro c hc
    obtain ⟨spec, hmem, rfl⟩ := List.mem_map.mp ((hpart.cover c).mpr ⟨_, hscc, hc⟩)
    exact ⟨spec, hmem, rfl, componentPriority_eq hids hmem⟩
  set rank := region.components.foldl
    (fun rank c => max rank (componentPriority graph c)) (-1) with hrank
  obtain ⟨c, hc⟩ := List.exists_mem_of_ne_nil _ (hpart.nonempty _ hscc)
  obtain ⟨spec, hmem, -, hprio⟩ := hspec c hc
  have hpos : 0 ≤ rank := by
    have hle := hall c hc
    have hnonneg := runtimePriorityRank_nonneg spec.execution.priority
    omega
  have hvalue : regionPriorityRank graph region.id = rank := by
    unfold regionPriorityRank
    rw [hfound]
    simp only [hcomponents, ← hrank]
    rw [if_neg (by omega)]
  rw [hvalue]
  constructor
  · rcases hone with hone | ⟨d, hd, hone⟩
    · omega
    · obtain ⟨spec, hmem, rfl, hprio⟩ := hspec d hd
      exact ⟨spec, hmem, hd, hone.trans hprio⟩
  · rintro k ⟨spec, hmem, hin, rfl⟩
    rw [← componentPriority_eq hids hmem]
    exact hall spec.id hin

/-! ## Predecessors and ties -/

theorem regionEdge_iff_feeds (hnd : (regionIds graph).Nodup) {p r : CompiledGraphRegion}
    (hp : p ∈ compiledRegions graph) (hr : r ∈ compiledRegions graph) :
    RegionEdge graph p.id r.id ↔ Feeds graph p r := by
  obtain ⟨i, hi⟩ := List.mem_iff_getElem?.mp hp
  obtain ⟨j, hj⟩ := List.mem_iff_getElem?.mp hr
  obtain ⟨hiC, hiid⟩ := compiledRegions_index hi
  obtain ⟨hjC, hjid⟩ := compiledRegions_index hj
  have hindex : ∀ {k l : Nat} {id : String}, (regionIds graph)[k]? = some id →
      (regionIds graph)[l]? = some id → k = l := by
    intro k l id hk hl
    obtain ⟨hlt, _⟩ := List.getElem?_eq_some_iff.mp hk
    exact (List.getElem?_inj hlt hnd).mp (hk.trans hl.symm)
  constructor
  · rintro ⟨i', j', C, D, hne, hC, hD, hi', hj', x, hx, y, hy, hedge⟩
    obtain rfl := hindex hi' hiid
    obtain rfl := hindex hj' hjid
    rw [hiC] at hC
    rw [hjC] at hD
    obtain rfl := Option.some.inj hC
    obtain rfl := Option.some.inj hD
    refine ⟨?_, x, hx, y, hy, hedge⟩
    rintro rfl
    exact hne (hindex hi' hj')
  · rintro ⟨hne, x, hx, y, hy, hedge⟩
    refine ⟨i, j, _, _, ?_, hiC, hjC, hiid, hjid, x, hx, y, hy, hedge⟩
    rintro rfl
    exact hne (Option.some.inj (hi.symm.trans hj))

/-- Every region edge starts at the id of a region. -/
theorem RegionEdge.exists_left {a b : String} (h : RegionEdge graph a b) :
    ∃ p ∈ compiledRegions graph, p.id = a := by
  have hmem := h.mem_left
  rw [← map_id_compiledRegions, List.mem_map] at hmem
  exact hmem

/-- `outgoing_regions` iterates in the order of the ids. -/
theorem outgoing_pairwise (graph : GraphSpec) (a : String) :
    ((regionEdges graph).outgoing a).Pairwise (· ≤ ·) := by
  -- each recorded edge is inserted in its place
  have hfold : ∀ (pairs : List (String × String)) (s : RegionEdges),
      (∀ a, (s.outgoing a).Pairwise (· ≤ ·)) →
      ∀ a, ((pairs.foldl addRegionEdge s).outgoing a).Pairwise (· ≤ ·) := by
    intro pairs
    induction pairs with
    | nil => exact fun s hs => hs
    | cons edge pairs ih =>
        intro s hs
        rw [List.foldl_cons]
        apply ih
        intro a
        unfold addRegionEdge
        split_ifs with hin
        · exact hs a
        · by_cases ha : a = edge.1
          · subst ha
            simp only [Function.update_self]
            unfold insertId
            rw [if_neg hin]
            exact (hs edge.1).orderedInsert edge.2 _
          · simp only [Function.update_of_ne ha]
            exact hs a
  exact hfold _ {} (fun _ => List.Pairwise.nil) a

/-- Among the successors of one region the smaller id stands first. -/
theorem outgoing_lt (hids : DistinctIds graph) (hnd : (regionIds graph).Nodup) {p a b : String}
    (h : [a, b].Sublist ((regionEdges graph).outgoing p)) : a < b := by
  obtain ⟨-, houtnd, -⟩ := regionEdges_recorded (immediateSccs_partition hids) hnd
  have hle := List.pairwise_iff_forall_sublist.mp (outgoing_pairwise graph p) h
  have hne := List.pairwise_iff_forall_sublist.mp (houtnd p) h
  exact lt_of_le_of_ne hle hne

/-- Two region ids in the order of the list are two regions in that order. -/
theorem sublist_regions (hnd : (regionIds graph).Nodup) {r r' : CompiledGraphRegion}
    (hr : r ∈ compiledRegions graph) (hr' : r' ∈ compiledRegions graph)
    (h : [r.id, r'.id].Sublist (regionIds graph)) : [r, r'].Sublist (compiledRegions graph) := by
  rw [← map_id_compiledRegions] at h hnd
  obtain ⟨l, hsub, hmap⟩ := List.sublist_map_iff.mp h
  obtain ⟨s, s', rfl⟩ : ∃ s s', l = [s, s'] := by
    have hlen : l.length = 2 := by simpa using (congrArg List.length hmap).symm
    exact List.length_eq_two.mp hlen
  have hs : s = r := by
    apply List.inj_on_of_nodup_map hnd (hsub.subset (by simp)) hr
    simpa using (List.cons.inj hmap).1.symm
  have hs' : s' = r' := by
    apply List.inj_on_of_nodup_map hnd (hsub.subset (by simp)) hr'
    simpa using (List.cons.inj (List.cons.inj hmap).2).1.symm
  rwa [hs, hs'] at hsub

/-! ## The greedy choice -/

theorem regionOrder_greedy (hids : DistinctIds graph) (hnd : (regionIds graph).Nodup) {fuel : Nat}
    {order : List String} (hrun : regionOrder fuel graph = some order) :
    Kahn.Greedy (regionEdges graph).outgoing (regionIds graph) (regionPriorityRank graph)
      order := by
  obtain ⟨hout, houtnd, hindeg⟩ := regionEdges_recorded (immediateSccs_partition hids) hnd
  have hsub : ∀ m ∈ regionIds graph, ∀ n ∈ (regionEdges graph).outgoing m,
      n ∈ regionIds graph := by
    intro m _ n hn
    exact ((hout m n).mp hn).mem_right
  exact Kahn.order_greedy hnd houtnd hsub (fun n _ => hindeg n) hrun

/-- The time at which Kahn's loop sees a region ready, in terms of the graph. -/
theorem readyTime_readyAfter (hids : DistinctIds graph) (hnd : (regionIds graph).Nodup)
    {plan : GraphCompiledPlan} (hregions : plan.regions = compiledRegions graph)
    {before : List String} (hbefore : before.Nodup) {region : CompiledGraphRegion}
    (hregion : region ∈ compiledRegions graph)
    (hpreds : ∀ p ∈ plan.regions, Feeds graph p region → p.id ∈ before) :
    ReadyAfter graph plan before region
      (Kahn.readyTime (regionEdges graph).outgoing before region.id) := by
  obtain ⟨hout, -, -⟩ := regionEdges_recorded (immediateSccs_partition hids) hnd
  have hedge : ∀ P : String → Prop,
      (∀ a, region.id ∈ (regionEdges graph).outgoing a → P a) ↔
        ∀ p ∈ plan.regions, Feeds graph p region → P p.id := by
    intro P
    rw [hregions]
    constructor
    · intro h p hp hfeeds
      exact h p.id ((hout _ _).mpr ((regionEdge_iff_feeds hnd hp hregion).mpr hfeeds))
    · intro h a ha
      have hab := (hout _ _).mp ha
      obtain ⟨p, hp, rfl⟩ := hab.exists_left
      exact h p hp ((regionEdge_iff_feeds hnd hp hregion).mp hab)
  have hleast := Kahn.readyTime_isLeast hbefore ((hedge (· ∈ before)).mpr hpreds)
  unfold ReadyAfter
  simpa only [hedge] using hleast

/-- At every position of the region order stands a region of the highest rank
among those whose predecessors are done; equal ranks go by readiness. -/
theorem region_order_greedy (graph : GraphSpec) (hids : DistinctIds graph)
    (hclash : NoLoopClash graph) (result : GraphCompileResult)
    (hcompile : CompilesTo graph result) (hok : result.ok = true) :
    (∀ id ∈ result.plan.regionOrder, ∃ region ∈ result.plan.regions, region.id = id) ∧
    (∀ region ∈ result.plan.regions, ∃ rank, HasRank graph region rank) ∧
    ∀ before chosen after, chosen ∈ result.plan.regions →
      result.plan.regionOrder = before ++ chosen.id :: after →
      ∀ other ∈ result.plan.regions, other.id ∈ after →
        (∀ p ∈ result.plan.regions, Feeds graph p other → p.id ∈ before) →
        ∀ rank rank', HasRank graph chosen rank → HasRank graph other rank' →
          rank' ≤ rank ∧ (rank' = rank → ReadyFirst graph result.plan before chosen other) := by
  have hmatch := loopsMatchCycles_of_ok hids hcompile hok
  have hnd := (regionIds_nodup_iff hids hmatch).mpr hclash.noFreeClash
  obtain ⟨fuel, order, hrun, -, -, hregions, horder, -, -⟩ := compilesTo_iff.mp hcompile
  obtain ⟨hperm, htopo⟩ := accepted_order hids hmatch hclash.noFreeClash hrun
  rw [horder]
  refine ⟨?_, ?_, ?_⟩
  · intro id hid
    have hmem := hperm.mem_iff.mp hid
    rw [← map_id_compiledRegions, List.mem_map] at hmem
    rwa [hregions]
  · intro region hregion
    exact ⟨_, regionPriorityRank_hasRank hids hnd (hregions ▸ hregion)⟩
  · intro before chosen after hchosen hsplit other hother hafter hpreds rank rank' hrank hrank'
    have hnodup : (before ++ chosen.id :: after).Nodup := by
      rw [← hsplit]
      exact hperm.nodup_iff.mpr hnd
    have hbefore : before.Nodup := (List.nodup_append.mp hnodup).1
    have hother' := hregions ▸ hother
    have hchosen' := hregions ▸ hchosen
    -- the ranks are those of the sort
    obtain rfl := (regionPriorityRank_hasRank hids hnd hchosen').unique hrank
    obtain rfl := (regionPriorityRank_hasRank hids hnd hother').unique hrank'
    have hnotin : other.id ∉ before := by
      intro hin
      have hdisj := List.disjoint_of_nodup_append hnodup hin
      exact hdisj (List.mem_cons_of_mem _ hafter)
    have hne : other.id ≠ chosen.id := by
      intro heq
      have hcons := (List.nodup_append.mp hnodup).2.1
      exact (List.nodup_cons.mp hcons).1 (heq ▸ hafter)
    have hchosenPreds : ∀ p ∈ result.plan.regions, Feeds graph p chosen → p.id ∈ before := by
      intro p hp hfeeds
      exact htopo before chosen.id after hsplit p.id
        ((regionEdge_iff_feeds hnd (hregions ▸ hp) hchosen').mpr hfeeds)
    have hdone : ∀ a ∈ regionIds graph, other.id ∈ (regionEdges graph).outgoing a →
        a ∈ before := by
      intro a _ ha
      obtain ⟨hout, -, -⟩ := regionEdges_recorded (immediateSccs_partition hids) hnd
      have hedge := (hout _ _).mp ha
      obtain ⟨p, hp, rfl⟩ := hedge.exists_left
      exact hpreds p (hregions ▸ hp) ((regionEdge_iff_feeds hnd hp hother').mp hedge)
    have hmem : other.id ∈ regionIds graph := by
      rw [← map_id_compiledRegions]
      exact List.mem_map_of_mem hother'
    have hahead := regionOrder_greedy hids hnd hrun before chosen.id after hsplit other.id hmem
      hnotin hne hdone
    refine ⟨hahead.rank_le, ?_⟩
    intro heq
    rcases hahead with hlt | ⟨-, hearlier⟩
    · exact absurd heq hlt.ne
    · refine ⟨_, _, readyTime_readyAfter hids hnd hregions hbefore hchosen' hchosenPreds,
        readyTime_readyAfter hids hnd hregions hbefore hother' hpreds, ?_⟩
      rcases hearlier with hlt | ⟨htime, htie⟩
      · exact Or.inl hlt
      · refine Or.inr ⟨htime, ?_⟩
        split at htie
        · rename_i hzero
          rw [if_pos hzero, hregions]
          exact sublist_regions hnd hchosen' hother' htie
        · rename_i t hsucc
          obtain ⟨p, -, hsub⟩ := htie
          rw [if_neg (by omega)]
          exact outgoing_lt hids hnd hsub

/-- One source that feeds three components of different priority. -/
def priorityFanOut : GraphSpec where
  components :=
    [{ id := "logger", execution := { priority := "low" } }, { id := "filter" },
     { id := "alarm", execution := { priority := "high" } }, { id := "camera" }, { id := "audit" }]
  edges :=
    [{ id := "e1", fromEndpoint := "camera.out", toEndpoint := "logger.in", hasKind := true },
     { id := "e2", fromEndpoint := "camera.out", toEndpoint := "filter.in", hasKind := true },
     { id := "e3", fromEndpoint := "camera.out", toEndpoint := "alarm.in", hasKind := true }]

theorem priorityFanOut_ordered :
    ∃ result, CompilesTo priorityFanOut result ∧ result.ok = true ∧
      result.plan.regionOrder = ["camera", "alarm", "audit", "filter", "logger"] ∧
      ∀ before chosen after, chosen ∈ result.plan.regions →
        result.plan.regionOrder = before ++ chosen.id :: after →
        ∀ other ∈ result.plan.regions, other.id ∈ after →
          (∀ p ∈ result.plan.regions, Feeds priorityFanOut p other → p.id ∈ before) →
          ∀ rank rank', HasRank priorityFanOut chosen rank → HasRank priorityFanOut other rank' →
            rank' ≤ rank ∧
              (rank' = rank → ReadyFirst priorityFanOut result.plan before chosen other) := by
  refine ⟨_, ⟨5, rfl⟩, by decide, by decide, ?_⟩
  exact (region_order_greedy priorityFanOut ⟨by decide, by decide⟩ (by decide) _ ⟨5, rfl⟩
    (by decide)).2.2

end TopoExec
