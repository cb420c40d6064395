import TopoExec.Graph.Validated

/-! # The lifecycle order

`component_lifecycle_order` orders the component indices by `depends_on`, or
throws the first error of `compute_component_lifecycle_order`. The traversal is
Kahn's loop over the indices, so what it delivers comes from `Kahn.order_spec`;
this module connects the index graph with the `depends_on` relation between
component ids.
-/

namespace TopoExec

open Relation

/-- `component_lifecycle_order`: `error` is a `std::invalid_argument` with that
text, `none` means that `fuel` is too small. -/
def componentLifecycleOrder (fuel : Nat) (graph : GraphSpec) :
    Option (Except String (List Nat)) := do
  let result ← computeComponentLifecycleOrder fuel graph
  return match result.errors with
    | [] => .ok result.order
    | error :: _ => .error error

/-- Some component lists a dependency twice. -/
def RepeatsDependency (graph : GraphSpec) : Prop :=
  ∃ component ∈ graph.components, ¬ component.dependsOn.Nodup

/-- Some component names a dependency that is not declared. -/
def MissesDependency (graph : GraphSpec) : Prop :=
  ∃ component ∈ graph.components, ∃ dependency ∈ component.dependsOn, ¬ Declared graph dependency

/-- The component `a` lists `b`. -/
def DependsOn (graph : GraphSpec) (a b : String) : Prop :=
  ∃ component ∈ graph.components, component.id = a ∧ b ∈ component.dependsOn

/-- The `depends_on` relation has a cycle. -/
def DependencyCycle (graph : GraphSpec) : Prop :=
  ∃ id, TransGen (DependsOn graph) id id

/-- Each component comes after all the components it depends on. -/
def AfterDependencies (graph : GraphSpec) (order : List Nat) : Prop :=
  ∀ before index after, order = before ++ index :: after →
    ∀ component, graph.components[index]? = some component →
      ∀ dependency ∈ component.dependsOn,
        ∃ earlier ∈ before, (graph.components[earlier]?).map ComponentNodeSpec.id = some dependency

variable {graph : GraphSpec}

/-! ## Indexes -/

/-- The index of an id is that of a component with it. -/
theorem lifecycleIndex_get {id : String} {index : Nat} (h : lifecycleIndex graph id = some index) :
    ∃ component, graph.components[index]? = some component ∧ component.id = id := by
  rw [lifecycleIndex, Option.map_eq_some_iff] at h
  obtain ⟨⟨component, n⟩, hfound, rfl⟩ := h
  have hid : component.id = id := by simpa using List.find?_some hfound
  have hmem := List.mem_reverse.mp (List.mem_of_find?_eq_some hfound)
  exact ⟨component, by simpa [List.mem_zipIdx_iff_getElem?] using hmem, hid⟩

/-- An id has an index when it is declared. -/
theorem lifecycleIndex_isSome {id : String} :
    (lifecycleIndex graph id).isSome ↔ Declared graph id := by
  rw [lifecycleIndex, Option.isSome_map, List.find?_isSome]
  constructor
  · rintro ⟨⟨component, n⟩, hmem, hid⟩
    have hin := List.fst_mem_of_mem_zipIdx (List.mem_reverse.mp hmem)
    exact List.mem_map.mpr ⟨component, hin, by simpa using hid⟩
  · intro hdeclared
    obtain ⟨component, hin, hid⟩ := List.mem_map.mp hdeclared
    obtain ⟨n, hn⟩ := List.mem_iff_getElem?.mp hin
    refine ⟨(component, n), ?_, by simpa using hid⟩
    rw [List.mem_reverse, List.mem_zipIdx_iff_getElem?]
    exact hn

/-- Distinct ids name one index each. -/
theorem index_unique (hids : (graph.components.map ComponentNodeSpec.id).Nodup) {i j : Nat}
    {a b : ComponentNodeSpec} (ha : graph.components[i]? = some a)
    (hb : graph.components[j]? = some b) (hid : a.id = b.id) : i = j := by
  have hi : (graph.components.map ComponentNodeSpec.id)[i]? = some a.id := by simp [ha]
  have hj : (graph.components.map ComponentNodeSpec.id)[j]? = some a.id := by simp [hb, hid]
  have hlt : i < (graph.components.map ComponentNodeSpec.id).length :=
    (List.getElem?_eq_some_iff.mp hi).1
  exact (List.getElem?_inj hlt hids).mp (hi.trans hj.symm)

/-- With distinct ids the index is that of the component. -/
theorem lifecycleIndex_of_get (hids : (graph.components.map ComponentNodeSpec.id).Nodup)
    {index : Nat} {component : ComponentNodeSpec} (h : graph.components[index]? = some component) :
    lifecycleIndex graph component.id = some index := by
  have hdeclared : Declared graph component.id :=
    List.mem_map_of_mem (List.mem_of_getElem? h)
  obtain ⟨n, hn⟩ := Option.isSome_iff_exists.mp (lifecycleIndex_isSome.mpr hdeclared)
  obtain ⟨other, hother, hid⟩ := lifecycleIndex_get hn
  rw [hn, index_unique hids hother h hid]

theorem lifecycleIndex_lt {id : String} {index : Nat} (h : lifecycleIndex graph id = some index) :
    index < graph.components.length := by
  obtain ⟨component, hget, -⟩ := lifecycleIndex_get h
  exact (List.getElem?_eq_some_iff.mp hget).1

/-! ## The index graph -/

/-- The indices of the dependencies that are declared. -/
theorem mem_dependencyIndexes {component : ComponentNodeSpec} {index : Nat} :
    index ∈ dependencyIndexes graph component ↔
      ∃ dependency ∈ component.dependsOn, lifecycleIndex graph dependency = some index := by
  simp [dependencyIndexes]

/-- Two names never share an index. -/
theorem dependencyIndexes_nodup (component : ComponentNodeSpec) :
    (dependencyIndexes graph component).Nodup := by
  apply List.Nodup.filterMap ?_ (List.nodup_dedup _)
  intro a b index ha hb
  obtain ⟨x, hx, hxa⟩ := lifecycleIndex_get ha
  obtain ⟨y, hy, hyb⟩ := lifecycleIndex_get hb
  have hxy : x = y := Option.some.inj (hx.symm.trans hy)
  rw [← hxa, ← hyb, hxy]

/-- The components that depend on one. -/
theorem mem_dependents {index later : Nat} :
    later ∈ dependents graph index ↔
      ∃ component, graph.components[later]? = some component ∧
        index ∈ dependencyIndexes graph component := by
  unfold dependents
  rw [List.mem_map]
  constructor
  · rintro ⟨⟨component, n⟩, hmem, rfl⟩
    obtain ⟨hin, hdep⟩ := List.mem_filter.mp hmem
    exact ⟨component, List.mem_zipIdx_iff_getElem?.mp hin, by simpa using hdep⟩
  · rintro ⟨component, hget, hdep⟩
    refine ⟨(component, later), List.mem_filter.mpr ⟨?_, by simpa using hdep⟩, rfl⟩
    exact List.mem_zipIdx_iff_getElem?.mpr hget

/-- No component depends on another twice. -/
theorem dependents_nodup (index : Nat) : (dependents graph index).Nodup := by
  have hsub : (dependents graph index).Sublist (graph.components.zipIdx.map Prod.snd) :=
    List.filter_sublist.map Prod.snd
  apply hsub.nodup
  rw [List.zipIdx_map_snd]
  exact List.nodup_range' ..

/-- The indegree of a component is the number of indices it waits for. -/
theorem lifecycleIndegree_eq {index : Nat} (hindex : index < graph.components.length) :
    lifecycleIndegree graph index =
      (List.range graph.components.length).countP fun m => index ∈ dependents graph m := by
  have hget := List.getElem?_eq_getElem hindex
  set component := graph.components[index] with hcomponent
  have hperm : ((List.range graph.components.length).filter
      fun m => decide (index ∈ dependents graph m)).Perm (dependencyIndexes graph component) := by
    rw [List.perm_ext_iff_of_nodup (List.nodup_range.filter _) (dependencyIndexes_nodup component)]
    intro m
    rw [List.mem_filter, List.mem_range, decide_eq_true_eq, mem_dependents]
    constructor
    · rintro ⟨-, other, hother, hdep⟩
      rw [hget] at hother
      rwa [Option.some.inj hother]
    · intro hdep
      obtain ⟨dependency, -, hm⟩ := mem_dependencyIndexes.mp hdep
      exact ⟨lifecycleIndex_lt hm, component, hget, hdep⟩
  rw [List.countP_eq_length_filter, hperm.length_eq, lifecycleIndegree, hget]
  rfl

/-- What the traversal delivers, for every graph. -/
theorem lifecycle_ordered (graph : GraphSpec) :
    ∃ order,
      (∀ fuel, graph.components.length ≤ fuel →
        Kahn.order (dependents graph) id (List.range graph.components.length) fuel
          (lifecycleIndegree graph) = some order) ∧
      Kahn.Ordered (dependents graph) (List.range graph.components.length) order := by
  have hsub : ∀ m ∈ List.range graph.components.length, ∀ n ∈ dependents graph m,
      n ∈ List.range graph.components.length := by
    intro m _ n hn
    obtain ⟨component, hget, -⟩ := mem_dependents.mp hn
    exact List.mem_range.mpr (List.getElem?_eq_some_iff.mp hget).1
  have hsort : ∀ l : List Nat, (id l).Perm l := List.Perm.refl
  obtain ⟨order, hrun, hordered⟩ := Kahn.order_spec List.nodup_range dependents_nodup hsub hsort
    (fun n hn => lifecycleIndegree_eq (List.mem_range.mp hn))
  rw [List.length_range] at hrun
  exact ⟨order, fun fuel hfuel => Kahn.loop_mono hfuel hrun, hordered⟩

/-! ## Errors -/

/-- A component's dependencies are accepted when they are declared and none is repeated. -/
theorem dependencyErrors_nil_iff {component : ComponentNodeSpec} :
    dependencyErrors graph component = [] ↔
      component.dependsOn.Nodup ∧
        ∀ dependency ∈ component.dependsOn, Declared graph dependency := by
  constructor
  · intro h
    refine ⟨?_, fun dependency hmem => dependencyErrors_eq_nil h hmem⟩
    have hfresh : (component.dependsOn.map id).Nodup := by
      refine Loop.report_nodup (fun earlier dependency hnone => ?_) h
      intro hseen
      rw [if_pos (by simpa using hseen)] at hnone
      simp at hnone
    simpa using hfresh
  · rintro ⟨hnodup, hdeclared⟩
    apply Loop.report_eq_nil.mpr
    intro before dependency after hsplit
    rw [hsplit, List.nodup_middle, List.nodup_cons] at hnodup
    have hfresh : dependency ∉ [] ++ before := by
      intro hmem
      exact hnodup.1 (by simpa using Or.inl hmem)
    rw [if_neg hfresh, require_eq_nil, lifecycleIndex_isSome]
    exact hdeclared dependency (by simp [hsplit])

/-- All dependencies are accepted. -/
theorem dependencyErrors_all_nil_iff :
    graph.components.flatMap (dependencyErrors graph) = [] ↔
      ¬ RepeatsDependency graph ∧ ¬ MissesDependency graph := by
  rw [List.flatMap_eq_nil_iff]
  simp only [RepeatsDependency, MissesDependency, not_exists, not_and, not_not]
  constructor
  · intro h
    exact ⟨fun component hmem => (dependencyErrors_nil_iff.mp (h component hmem)).1,
      fun component hmem => (dependencyErrors_nil_iff.mp (h component hmem)).2⟩
  · rintro ⟨hnodup, hdeclared⟩ component hmem
    exact dependencyErrors_nil_iff.mpr ⟨hnodup component hmem, hdeclared component hmem⟩

/-! ## Cycles -/

section Cycles

variable (hids : (graph.components.map ComponentNodeSpec.id).Nodup)

include hids

/-- A dependency between ids is an edge between their indices. -/
theorem dependsOn_edge {a b : String} (h : DependsOn graph a b) {j : Nat}
    (hj : lifecycleIndex graph b = some j) :
    ∃ i, lifecycleIndex graph a = some i ∧ i ∈ dependents graph j := by
  obtain ⟨component, hmem, rfl, hdep⟩ := h
  obtain ⟨i, hi⟩ := List.mem_iff_getElem?.mp hmem
  refine ⟨i, lifecycleIndex_of_get hids hi, mem_dependents.mpr ⟨component, hi, ?_⟩⟩
  exact mem_dependencyIndexes.mpr ⟨b, hdep, hj⟩

/-- An edge of the sort is a dependency. -/
theorem edge_dependsOn {i j : Nat} (h : i ∈ dependents graph j) :
    ∃ a b, lifecycleIndex graph a = some i ∧ lifecycleIndex graph b = some j ∧
      DependsOn graph a b := by
  obtain ⟨component, hget, hdep⟩ := mem_dependents.mp h
  obtain ⟨dependency, hmem, hj⟩ := mem_dependencyIndexes.mp hdep
  exact ⟨component.id, dependency, lifecycleIndex_of_get hids hget, hj, component,
    List.mem_of_getElem? hget, rfl, hmem⟩

/-- A chain of dependencies is a path of the sort. -/
theorem trans_dependsOn_edge {a b : String} (h : TransGen (DependsOn graph) a b) {j : Nat}
    (hj : lifecycleIndex graph b = some j) :
    ∃ i, lifecycleIndex graph a = some i ∧ TransGen (Kahn.Edge (dependents graph)) j i := by
  induction h using TransGen.head_induction_on with
  | single h =>
      obtain ⟨i, hi, hedge⟩ := dependsOn_edge hids h hj
      exact ⟨i, hi, TransGen.single hedge⟩
  | head h _ ih =>
      obtain ⟨k, hk, hpath⟩ := ih
      obtain ⟨i, hi, hedge⟩ := dependsOn_edge hids h hk
      exact ⟨i, hi, hpath.tail hedge⟩

/-- A path of the sort is a chain of dependencies. -/
theorem trans_edge_dependsOn {i j : Nat} (h : TransGen (Kahn.Edge (dependents graph)) j i) :
    ∃ a b, lifecycleIndex graph a = some i ∧ lifecycleIndex graph b = some j ∧
      TransGen (DependsOn graph) a b := by
  induction h with
  | single h =>
      obtain ⟨a, b, ha, hb, hdep⟩ := edge_dependsOn hids h
      exact ⟨a, b, ha, hb, TransGen.single hdep⟩
  | tail _ h ih =>
      obtain ⟨a, b, ha, hb, hpath⟩ := ih
      obtain ⟨c, d, hc, hd, hdep⟩ := edge_dependsOn hids h
      -- `a` and `d` are the id at the middle index
      obtain ⟨x, hx, rfl⟩ := lifecycleIndex_get ha
      obtain ⟨y, hy, rfl⟩ := lifecycleIndex_get hd
      have hxy : x = y := Option.some.inj (hx.symm.trans hy)
      subst hxy
      exact ⟨c, b, hc, hb, TransGen.head hdep hpath⟩

/-- A cycle of ids is a cycle of indices. -/
theorem dependencyCycle_iff :
    DependencyCycle graph ↔ ∃ i, TransGen (Kahn.Edge (dependents graph)) i i := by
  constructor
  · rintro ⟨id, hcycle⟩
    -- the last step of the cycle starts at a declared id, and so does the cycle
    have hdeclared : Declared graph id := by
      obtain ⟨next, hstep, -⟩ := TransGen.head'_iff.mp hcycle
      obtain ⟨component, hmem, rfl, -⟩ := hstep
      exact List.mem_map_of_mem hmem
    obtain ⟨j, hj⟩ := Option.isSome_iff_exists.mp (lifecycleIndex_isSome.mpr hdeclared)
    obtain ⟨i, hi, hpath⟩ := trans_dependsOn_edge hids hcycle hj
    have hij : i = j := Option.some.inj (hi.symm.trans hj)
    exact ⟨j, hij ▸ hpath⟩
  · rintro ⟨i, hcycle⟩
    obtain ⟨a, b, ha, hb, hpath⟩ := trans_edge_dependsOn hids hcycle
    obtain ⟨x, hx, rfl⟩ := lifecycleIndex_get ha
    obtain ⟨y, hy, rfl⟩ := lifecycleIndex_get hb
    have hxy : x = y := Option.some.inj (hx.symm.trans hy)
    exact ⟨x.id, hxy ▸ hpath⟩

end Cycles

/-! ## The order -/

/-- The order is complete exactly on an acyclic graph. -/
theorem lifecycle_length_iff (hids : (graph.components.map ComponentNodeSpec.id).Nodup)
    {order : List Nat}
    (h : Kahn.Ordered (dependents graph) (List.range graph.components.length) order) :
    order.length = graph.components.length ↔ ¬ DependencyCycle graph := by
  rw [dependencyCycle_iff hids]
  constructor
  · rintro hlen ⟨i, hcycle⟩
    have hperm := h.perm_of_length (by rw [hlen, List.length_range])
    apply h.acyclic hperm ?_ i hcycle
    intro m n hedge
    obtain ⟨component, -, hdep⟩ := mem_dependents.mp hedge
    obtain ⟨dependency, -, hm⟩ := mem_dependencyIndexes.mp hdep
    exact List.mem_range.mpr (lifecycleIndex_lt hm)
  · intro hacyclic
    have hperm := h.perm List.nodup_range (fun n hn => hacyclic ⟨n, hn⟩)
    rw [hperm.length_eq, List.length_range]

/-- An order of the sort has every component after its dependencies. -/
theorem lifecycle_afterDependencies {order : List Nat}
    (hdeclared : ¬ MissesDependency graph)
    (h : Kahn.Ordered (dependents graph) (List.range graph.components.length) order) :
    AfterDependencies graph order := by
  intro before index after hsplit component hget dependency hdep
  have hknown : Declared graph dependency := by
    by_contra hnot
    exact hdeclared ⟨component, List.mem_of_getElem? hget, dependency, hdep, hnot⟩
  obtain ⟨earlier, hearlier⟩ := Option.isSome_iff_exists.mp (lifecycleIndex_isSome.mpr hknown)
  have hedge : index ∈ dependents graph earlier :=
    mem_dependents.mpr ⟨component, hget, mem_dependencyIndexes.mpr ⟨dependency, hdep, hearlier⟩⟩
  have hbefore := h.topo before index after hsplit earlier
    (List.mem_range.mpr (lifecycleIndex_lt hearlier)) hedge
  obtain ⟨other, hother, hid⟩ := lifecycleIndex_get hearlier
  exact ⟨earlier, hbefore, by rw [hother, Option.map_some, hid]⟩

/-- `component_lifecycle_order` always answers: it throws exactly on a repeated
dependency, an undeclared one or a cycle, and otherwise orders all the
components behind their dependencies. -/
theorem componentLifecycleOrder_throws_iff (graph : GraphSpec)
    (hids : (graph.components.map ComponentNodeSpec.id).Nodup) :
    ∃ outcome,
      (∀ fuel, graph.components.length ≤ fuel →
        componentLifecycleOrder fuel graph = some outcome) ∧
      ((∃ error, outcome = .error error) ↔
        RepeatsDependency graph ∨ MissesDependency graph ∨ DependencyCycle graph) ∧
      ((¬ ∃ error, outcome = .error error) →
        ∃ order, outcome = .ok order ∧ order.Perm (List.range graph.components.length) ∧
          AfterDependencies graph order) := by
  obtain ⟨order, hrun, hordered⟩ := lifecycle_ordered graph
  set errors := graph.components.flatMap (dependencyErrors graph) ++
    require (order.length = graph.components.length)
      "component depends_on graph contains a cycle" with herrors
  -- the sort needs no more fuel than there are components
  have hcompute : ∀ fuel, graph.components.length ≤ fuel →
      computeComponentLifecycleOrder fuel graph = some { errors := errors, order := order } := by
    intro fuel hfuel
    simp [computeComponentLifecycleOrder, hrun fuel hfuel, herrors]
  have hnil : errors = [] ↔
      ¬ RepeatsDependency graph ∧ ¬ MissesDependency graph ∧ ¬ DependencyCycle graph := by
    rw [herrors, List.append_eq_nil_iff, dependencyErrors_all_nil_iff, require_eq_nil,
      lifecycle_length_iff hids hordered, and_assoc]
  cases hcase : errors with
  | nil =>
      obtain ⟨hrepeat, hmiss, hcycle⟩ := hnil.mp hcase
      refine ⟨.ok order, ?_, ?_, ?_⟩
      · intro fuel hfuel
        simp [componentLifecycleOrder, hcompute fuel hfuel, hcase]
      · simp [hrepeat, hmiss, hcycle]
      · intro _
        refine ⟨order, rfl, ?_, lifecycle_afterDependencies hmiss hordered⟩
        apply hordered.perm_of_length
        rw [(lifecycle_length_iff hids hordered).mpr hcycle, List.length_range]
  | cons error rest =>
      refine ⟨.error error, ?_, ?_, ?_⟩
      · intro fuel hfuel
        simp [componentLifecycleOrder, hcompute fuel hfuel, hcase]
      · have hsome : ¬ errors = [] := by simp [hcase]
        rw [hnil] at hsome
        constructor
        · intro _
          tauto
        · intro _
          exact ⟨error, rfl⟩
      · intro hnot
        exact absurd ⟨error, rfl⟩ hnot

/-- Two components, the first of which depends on the second. -/
def dependentPair : GraphSpec where
  components := [{ id := "camera", dependsOn := ["clock"] }, { id := "clock" }]

theorem dependentPair_orders :
    (dependentPair.components.map ComponentNodeSpec.id).Nodup ∧
    ∃ outcome, (∀ fuel, 2 ≤ fuel → componentLifecycleOrder fuel dependentPair = some outcome) ∧
      ((∃ error, outcome = .error error) ↔ RepeatsDependency dependentPair ∨
        MissesDependency dependentPair ∨ DependencyCycle dependentPair) ∧
      ((¬ ∃ error, outcome = .error error) →
        ∃ order, outcome = .ok order ∧ order.Perm (List.range 2) ∧
          AfterDependencies dependentPair order) :=
  ⟨by decide, componentLifecycleOrder_throws_iff dependentPair (by decide)⟩

example : componentLifecycleOrder 2 dependentPair = some (.ok [1, 0]) := by decide

end TopoExec
