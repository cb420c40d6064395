import Mathlib.Data.List.Pairwise
import TopoExec.Graph.Acceptance

/-! # The execution order of a run

Before its first iteration `EventRuntime::run` looks every id of `region_order`
up in a map from region ids to regions, in which the first region of an id
wins. Region ids mix loop ids and component ids, so the lookup finds every
region exactly when no loop is named like a component outside all loops.
-/

namespace TopoExec

/-- The `order` vector of `EventRuntime::run`; `componentIds` are the ids of
`components_`, used when the plan names no region. -/
def executionOrder (plan : GraphCompiledPlan) (componentIds : List String) :
    List CompiledGraphRegion :=
  let order := plan.regionOrder.filterMap fun regionId =>
    plan.regions.find? fun region => region.id = regionId
  if order.isEmpty then componentIds.map fun id => { id := id, components := [id] } else order

/-- The components that one iteration executes, in order. -/
def visitedComponents (plan : GraphCompiledPlan) (componentIds : List String) : List String :=
  (executionOrder plan componentIds).flatMap CompiledGraphRegion.components

/-! ## Lookup by id -/

/-- With distinct ids every region is found under its own id. -/
theorem find?_id_eq_some {regions : List CompiledGraphRegion}
    (hnd : (regions.map CompiledGraphRegion.id).Nodup) {region : CompiledGraphRegion}
    (hmem : region ∈ regions) : regions.find? (fun r => r.id = region.id) = some region := by
  obtain ⟨before, after, rfl⟩ := List.append_of_mem hmem
  rw [List.map_append, List.nodup_append] at hnd
  refine List.find?_eq_some_iff_append.mpr ⟨by simp, before, after, rfl, ?_⟩
  intro r hr
  have hne := hnd.2.2 r.id (List.mem_map_of_mem hr) region.id (by simp)
  simpa using hne

/-- Looking the ids of the regions up gives the regions back. -/
theorem filterMap_find?_ids {regions : List CompiledGraphRegion}
    (hnd : (regions.map CompiledGraphRegion.id).Nodup) :
    (regions.map CompiledGraphRegion.id).filterMap
      (fun regionId => regions.find? fun region => region.id = regionId) = regions := by
  rw [List.filterMap_map]
  conv_rhs => rw [← List.filterMap_some (l := regions)]
  exact List.filterMap_congr fun region hmem => find?_id_eq_some hnd hmem

/-- An order that lists distinct region ids once finds every region. -/
theorem filterMap_find?_perm {plan : GraphCompiledPlan}
    (hnd : (plan.regions.map CompiledGraphRegion.id).Nodup)
    (hperm : plan.regionOrder.Perm (plan.regions.map CompiledGraphRegion.id)) :
    (plan.regionOrder.filterMap fun regionId =>
      plan.regions.find? fun region => region.id = regionId).Perm plan.regions := by
  have hlookup := hperm.filterMap fun regionId =>
    plan.regions.find? fun region => region.id = regionId
  rwa [filterMap_find?_ids hnd] at hlookup

/-- It visits what the regions hold. -/
theorem visitedComponents_perm {plan : GraphCompiledPlan} {componentIds : List String}
    (hnd : (plan.regions.map CompiledGraphRegion.id).Nodup)
    (hperm : plan.regionOrder.Perm (plan.regions.map CompiledGraphRegion.id))
    (hcover : (plan.regions.flatMap CompiledGraphRegion.components).Perm componentIds) :
    (visitedComponents plan componentIds).Perm componentIds := by
  have horder := filterMap_find?_perm hnd hperm
  unfold visitedComponents executionOrder
  dsimp only
  split_ifs with hempty
  · simp [List.flatMap_map]
  · exact (horder.flatMap_right _).trans hcover

/-! ## Every component once -/

instance (graph : GraphSpec) : Decidable (NoFreeClash graph) :=
  inferInstanceAs (Decidable (∀ loop ∈ graph.compositeLoops, _))

/-- The regions of an accepted graph have distinct ids, and one iteration
executes every component once, exactly when no loop id is the id of a component
outside all loops. -/
theorem components_visited_once_iff (graph : GraphSpec) (hids : DistinctIds graph)
    (result : GraphCompileResult) (hcompile : CompilesTo graph result) (hok : result.ok = true) :
    ((result.plan.regions.map CompiledGraphRegion.id).Nodup ∧
        (visitedComponents result.plan (graph.components.map ComponentNodeSpec.id)).Perm
          (graph.components.map ComponentNodeSpec.id)) ↔
      NoFreeClash graph := by
  have hmatch := loopsMatchCycles_of_ok hids hcompile hok
  obtain ⟨fuel, order, hrun, _, _, hregions, horder, _, _⟩ := compilesTo_iff.mp hcompile
  have hmap : result.plan.regions.map CompiledGraphRegion.id = regionIds graph := by
    rw [hregions, map_id_compiledRegions]
  constructor
  · rintro ⟨hnd, _⟩
    rw [hmap] at hnd
    exact (regionIds_nodup_iff hids hmatch).mp hnd
  · intro hfree
    have hnd := (regionIds_nodup_iff hids hmatch).mpr hfree
    have hperm := (accepted_order hids hmatch hfree hrun).1
    rw [← hmap] at hnd
    refine ⟨hnd, visitedComponents_perm hnd ?_ ?_⟩
    · rw [hmap, horder]
      exact hperm
    · rw [hregions, List.flatMap_def, map_components_compiledRegions]
      exact (immediateSccs_partition hids).flatten_perm hids

theorem pipelineWithLoop_visited_once :
    ∃ result, CompilesTo pipelineWithLoop result ∧ result.ok = true ∧
      (visitedComponents result.plan ["sink", "plant", "control", "source"]).Perm
        ["sink", "plant", "control", "source"] := by
  refine ⟨_, ⟨3, rfl⟩, by decide, ?_⟩
  exact ((components_visited_once_iff pipelineWithLoop ⟨by decide, by decide⟩ _ ⟨3, rfl⟩
    (by decide)).mpr (by decide)).2

/-- A loop around `a` that is named like the free component `b`. -/
def loopNamedLikeComponent : GraphSpec where
  components := [{ id := "a" }, { id := "b" }]
  edges := [{ id := "aa", fromEndpoint := "a.out", toEndpoint := "a.in", hasKind := true }]
  compositeLoops := [{ id := "b", components := ["a"] }]

/-- Both regions are called `b`; the loop's region is executed twice and `b`
never. -/
theorem loopNamedLikeComponent_skips_b :
    ¬ ∀ (graph : GraphSpec) (result : GraphCompileResult), DistinctIds graph →
      CompilesTo graph result → result.ok = true →
        (result.plan.regions.map CompiledGraphRegion.id).Nodup ∧
          (visitedComponents result.plan (graph.components.map ComponentNodeSpec.id)).Perm
            (graph.components.map ComponentNodeSpec.id) := by
  intro honce
  have hvisit := (honce loopNamedLikeComponent _ ⟨by decide, by decide⟩ ⟨2, rfl⟩ (by decide)).2
  have hb := hvisit.mem_iff.mpr (show "b" ∈ _ by decide)
  revert hb
  decide

/-! ## Executing regions in topological order -/

/-- The edge leads from one region to another. -/
def Crosses (plan : GraphCompiledPlan) (spec : EdgeSpec) : Prop :=
  ∃ r ∈ plan.regions, ∃ r' ∈ plan.regions,
    r ≠ r' ∧ spec.source ∈ r.components ∧ spec.target ∈ r'.components

instance (plan : GraphCompiledPlan) (spec : EdgeSpec) : Decidable (Crosses plan spec) :=
  inferInstanceAs (Decidable (∃ r ∈ plan.regions, ∃ r' ∈ plan.regions, _))

/-- The order lists every region once, every component is in one region, and the
immediate edges between regions lead forward. -/
structure OrderedPlan (specs : List EdgeSpec) (plan : GraphCompiledPlan) : Prop where
  ids : (plan.regions.map CompiledGraphRegion.id).Nodup
  order : plan.regionOrder.Perm (plan.regions.map CompiledGraphRegion.id)
  distinct : (plan.regions.flatMap CompiledGraphRegion.components).Nodup
  forward : ∀ spec ∈ specs, spec.kind = .immediate → ∀ r ∈ plan.regions, ∀ r' ∈ plan.regions,
    r ≠ r' → spec.source ∈ r.components → spec.target ∈ r'.components →
      Precedes plan.regionOrder r.id r'.id

section

variable {specs : List EdgeSpec} {plan : GraphCompiledPlan} {componentIds : List String}
  {region : CompiledGraphRegion} {done rest : List CompiledGraphRegion}

theorem OrderedPlan.region_unique (h : OrderedPlan specs plan) {r r' : CompiledGraphRegion}
    (hr : r ∈ plan.regions) (hr' : r' ∈ plan.regions) {id : String} (hid : id ∈ r.components)
    (hid' : id ∈ r'.components) : r = r' := by
  by_contra hne
  have hpairwise := (List.nodup_flatMap.mp h.distinct).2
  have hsymm : Std.Symm (Function.onFun List.Disjoint CompiledGraphRegion.components) :=
    ⟨fun _ _ hdisjoint => hdisjoint.symm⟩
  exact hpairwise.forall hr hr' hne hid hid'

theorem OrderedPlan.regions_nodup (h : OrderedPlan specs plan) : plan.regions.Nodup :=
  List.Nodup.of_map _ h.ids

/-- Without a region to look up, the plan has no region at all. -/
theorem OrderedPlan.executionOrder_eq (h : OrderedPlan specs plan) (componentIds : List String) :
    plan.regions = [] ∨ (executionOrder plan componentIds).Perm plan.regions ∧
      executionOrder plan componentIds = plan.regionOrder.filterMap fun regionId =>
        plan.regions.find? fun region => region.id = regionId := by
  have hperm := filterMap_find?_perm h.ids h.order
  unfold executionOrder
  dsimp only
  split_ifs with hempty
  · left
    rw [List.isEmpty_iff.mp hempty] at hperm
    exact hperm.nil_eq.symm
  · exact Or.inr ⟨hperm, rfl⟩

theorem OrderedPlan.mem_regions (h : OrderedPlan specs plan)
    (horder : executionOrder plan componentIds = done ++ region :: rest) :
    plan.regions = [] ∨ region ∈ plan.regions := by
  refine (h.executionOrder_eq componentIds).imp_right fun heq => heq.1.mem_iff.mp ?_
  rw [horder]
  exact List.mem_append_right _ (List.mem_cons_self ..)

/-- What a region of the execution order sends to another region has not been
executed yet. -/
theorem OrderedPlan.target_later (h : OrderedPlan specs plan)
    (horder : executionOrder plan componentIds = done ++ region :: rest) {spec : EdgeSpec}
    (hspec : spec ∈ specs) (hkind : spec.kind = .immediate) (hcrosses : Crosses plan spec)
    (hsource : spec.source ∈ region.components) :
    spec.target ∉ (done ++ [region]).flatMap CompiledGraphRegion.components := by
  rcases hcrosses with ⟨r, hr, r', hr', hne, hsource', htarget⟩
  rcases h.executionOrder_eq componentIds with hnil | ⟨hperm, heq⟩
  · rw [hnil] at hr
    cases hr
  have hmem : ∀ q ∈ done ++ [region], q ∈ plan.regions := by
    intro q hq
    refine hperm.mem_iff.mp ?_
    rw [horder]
    rcases List.mem_append.mp hq with hq | hq
    · exact List.mem_append_left _ hq
    · rw [List.mem_singleton.mp hq]
      exact List.mem_append_right _ (List.mem_cons_self ..)
  rcases h.region_unique (hmem region (by simp)) hr hsource hsource' with rfl
  intro hvisited
  rcases List.mem_flatMap.mp hvisited with ⟨q, hq, htarget'⟩
  rcases h.region_unique (hmem q hq) hr' htarget' htarget with rfl
  -- so the target's region is among those before, and after, this one
  have hnodup : (done ++ region :: rest).Nodup := by
    rw [← horder]
    exact hperm.nodup_iff.mpr h.regions_nodup
  have hafter : ∃ l₁ l₂, q ∈ l₂ ∧ done ++ region :: rest = l₁ ++ region :: l₂ := by
    rcases h.forward spec hspec hkind region hr q hr' hne hsource htarget with ⟨l₁, l₂, l₃, hl⟩
    rw [heq, hl] at horder
    simp only [List.filterMap_append, List.filterMap_cons, find?_id_eq_some h.ids hr,
      find?_id_eq_some h.ids hr'] at horder
    rw [List.append_assoc, List.cons_append] at horder
    exact ⟨_, _, by simp, horder.symm⟩
  rcases hafter with ⟨l₁, l₂, hql, hsplit⟩
  have hparts := List.nodup_append.mp hnodup
  have hregion : region ∉ done := fun hmem => hparts.2.2 region hmem region (by simp) rfl
  have hrest : region ∉ rest := (List.nodup_cons.mp hparts.2.1).1
  rcases (List.append_cons_inj_of_notMem hregion hrest).mp hsplit with ⟨rfl, _, rfl⟩
  rcases List.mem_append.mp hq with hq | hq
  · exact hparts.2.2 q hq q (List.mem_cons_of_mem _ hql) rfl
  · exact hne (List.mem_singleton.mp hq).symm

/-- The plan of an accepted graph is ordered, if no loop is named like a component
outside all loops. Validation requires every edge to name a kind. -/
theorem orderedPlan_of_ok (graph : GraphSpec) (hids : DistinctIds graph)
    (hfree : NoFreeClash graph)
    (hkinds : ∀ edge ∈ graph.edges, edge.hasKind = true ∧ edge.invalidKind = "")
    {result : GraphCompileResult} (hcompile : CompilesTo graph result) (hok : result.ok = true) :
    OrderedPlan graph.edges result.plan := by
  have hmatch := loopsMatchCycles_of_ok hids hcompile hok
  have hpart := immediateSccs_partition hids
  rcases compilesTo_iff.mp hcompile with ⟨fuel, order, hrun, _, _, hregions, horder, _, _⟩
  have hcover : (result.plan.regions.flatMap CompiledGraphRegion.components).Perm
      (graph.components.map ComponentNodeSpec.id) := by
    rw [hregions, List.flatMap_def, map_components_compiledRegions]
    exact hpart.flatten_perm hids
  have hmap : result.plan.regions.map CompiledGraphRegion.id = regionIds graph := by
    rw [hregions, map_id_compiledRegions]
  refine ⟨?_, ?_, hcover.nodup_iff.mpr hids.nodup, ?_⟩
  · rw [hmap]
    exact (regionIds_nodup_iff hids hmatch).mpr hfree
  · rw [hmap, horder]
    exact (accepted_order hids hmatch hfree hrun).1
  · intro spec hspec hkind r hr r' hr' hne hsource htarget
    have hdeclared : ∀ q ∈ result.plan.regions, ∀ id ∈ q.components, Declared graph id :=
      fun q hq id hid => hcover.mem_iff.mp (List.mem_flatMap.mpr ⟨q, hq, hid⟩)
    have hedge : ImmediateEdge graph spec.source spec.target := by
      refine ⟨hdeclared r hr _ hsource, hdeclared r' hr' _ htarget, spec, hspec, ?_, rfl, rfl⟩
      simp [EdgeSpec.isImmediate, hkind, hkinds spec hspec]
    rw [hregions] at hr hr'
    rw [horder]
    exact accepted_forward hids hmatch hfree hrun hr hr' hne hsource htarget hedge

end

end TopoExec
