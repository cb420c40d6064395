import TopoExec.Graph.Regions
import TopoExec.Graph.Validate

/-! # What validation promises

`Validated graph` collects what the rest of the runtime relies on in an accepted
graph: ids that identify components and edges, edges between declared
components, trigger inputs with an edge that names them, and lifecycle
dependencies that are declared. `validated_of_ok` derives it from an accepting
`validate_graph_impl`, whatever the registry answers.
-/

namespace TopoExec

structure Validated (graph : GraphSpec) : Prop where
  ids : DistinctIds graph
  edge_ids_nonempty : ∀ edge ∈ graph.edges, edge.id ≠ ""
  edge_ids_nodup : (graph.edges.map EdgeSpec.id).Nodup
  edge_source : ∀ edge ∈ graph.edges, Declared graph edge.source
  edge_target : ∀ edge ∈ graph.edges, Declared graph edge.target
  lane : ∀ component ∈ graph.components, component.execution.lane ∈ laneIds graph
  trigger_policy : ∀ component ∈ graph.components, triggerPolicyErrors component = []
  trigger_inputs : ∀ component ∈ graph.components, ∀ input ∈ triggerPolicyInputsFor component,
    ∃ edge ∈ graph.edges, edge.toEndpoint = endpointOf component.id input
  dependencies : ∀ component ∈ graph.components, ∀ dependency ∈ component.dependsOn,
    Declared graph dependency

variable {graph : GraphSpec}

/-! ## The errors of an accepted graph -/

section Passes

variable {parseDouble : String → Option Double} {registry : Option ComponentRegistry}
  {lanes ids : List String} {found : List (String × ComponentDescriptor)}

theorem componentErrors_eq_nil {earlier : List ComponentNodeSpec} {component : ComponentNodeSpec}
    (h : componentErrors parseDouble registry lanes earlier component = []) :
    component.id ≠ "" ∧ componentSpecErrors lanes earlier component = [] := by
  unfold componentErrors at h
  split_ifs at h with hid
  rw [List.append_eq_nil_iff] at h
  exact ⟨hid, h.1⟩

theorem componentSpecErrors_eq_nil {earlier : List ComponentNodeSpec}
    {component : ComponentNodeSpec} (h : componentSpecErrors lanes earlier component = []) :
    component.id ∉ earlier.map ComponentNodeSpec.id ∧ component.execution.lane ∈ lanes ∧
      triggerPolicyErrors component = [] := by
  simp only [componentSpecErrors, List.append_eq_nil_iff, require_eq_nil] at h
  obtain ⟨⟨⟨⟨⟨⟨⟨⟨hid, -⟩, hlane⟩, -⟩, -⟩, -⟩, -⟩, -⟩, htrigger⟩ := h
  exact ⟨hid, hlane, htrigger⟩

theorem edgeErrors_eq_nil {earlier : List EdgeSpec} {edge : EdgeSpec}
    (h : edgeErrors ids found earlier edge = []) :
    edge.id ≠ "" ∧ edge.id ∉ earlier.map EdgeSpec.id ∧ edge.source ∈ ids ∧ edge.target ∈ ids := by
  unfold edgeErrors at h
  split_ifs at h with hid <;> simp only [List.append_eq_nil_iff, require_eq_nil] at h
  · simp at h
  · exact ⟨hid, h.1.1.1.1.1.1, h.1.1.1.2, h.1.1.2⟩

end Passes

/-- Without repetitions a missing component is the only possible finding. -/
theorem dependencyErrors_eq_nil {component : ComponentNodeSpec}
    (h : dependencyErrors graph component = []) {dependency : String}
    (hmem : dependency ∈ component.dependsOn) : Declared graph dependency := by
  rcases Loop.report_eq_nil_mem h hmem with ⟨before, hbefore⟩
  split_ifs at hbefore with hdup
  rw [require_eq_nil, lifecycleIndex, Option.isSome_map, List.find?_isSome] at hbefore
  rcases hbefore with ⟨⟨declared, n⟩, hdeclared, hid⟩
  have hin := List.fst_mem_of_mem_zipIdx (List.mem_reverse.mp hdeclared)
  exact List.mem_map.mpr ⟨declared, hin, by simpa using hid⟩

theorem mem_declaredIds {id : String} (h : id ∈ declaredIds graph) : Declared graph id :=
  List.mem_of_mem_filter h

theorem mem_targetEndpoints {endpoint : String} (h : endpoint ∈ targetEndpoints graph) :
    ∃ edge ∈ graph.edges, edge.toEndpoint = endpoint := by
  rcases List.mem_map.mp h with ⟨edge, hedge, heq⟩
  exact ⟨edge, List.mem_of_mem_filter hedge, heq⟩

/-- The passes over an accepted graph have no findings. -/
theorem passes_of_ok {fuel : Nat} {parseDouble : String → Option Double}
    {registry : Option ComponentRegistry} {result : GraphValidationResult}
    (h : validateGraphImpl fuel parseDouble registry graph = some result)
    (hok : result.ok = true) :
    Loop.report (componentErrors parseDouble registry (laneIds graph)) [] graph.components = [] ∧
      (∀ component ∈ graph.components, dependencyErrors graph component = []) ∧
      Loop.report (edgeErrors (declaredIds graph) (descriptors registry graph)) []
        graph.edges = [] ∧
      ∀ component ∈ graph.components, triggerInputErrors graph component = [] := by
  simp only [validateGraphImpl, Option.bind_eq_bind, Option.bind_eq_some_iff, Option.pure_def,
    Option.some.injEq] at h
  rcases h with ⟨lifecycle, hlifecycle, compile, -, rfl⟩
  simp only [computeComponentLifecycleOrder, Option.bind_eq_bind, Option.bind_eq_some_iff,
    Option.pure_def, Option.some.injEq] at hlifecycle
  rcases hlifecycle with ⟨order, -, rfl⟩
  simp only [validationErrors, List.isEmpty_iff, List.append_eq_nil_iff,
    List.flatMap_eq_nil_iff] at hok
  obtain ⟨⟨⟨⟨⟨⟨⟨⟨⟨⟨-, hcomponents⟩, hlifecycle, -⟩, -⟩, hedges⟩, -⟩, -⟩, htriggers⟩, -⟩, -⟩, -⟩ :=
    hok
  exact ⟨hcomponents, hlifecycle, hedges, htriggers⟩

theorem validated_of_ok {fuel : Nat} {parseDouble : String → Option Double}
    {registry : Option ComponentRegistry} {result : GraphValidationResult}
    (h : validateGraphImpl fuel parseDouble registry graph = some result)
    (hok : result.ok = true) : Validated graph := by
  obtain ⟨hcomponents, hlifecycle, hedges, htriggers⟩ := passes_of_ok h hok
  -- every check was made against the components or edges before
  have hcomponent : ∀ component ∈ graph.components, ∃ earlier,
      component.id ≠ "" ∧ componentSpecErrors (laneIds graph) earlier component = [] := by
    intro component hmem
    rcases Loop.report_eq_nil_mem hcomponents hmem with ⟨earlier, hearlier⟩
    exact ⟨earlier, componentErrors_eq_nil hearlier⟩
  have hedge : ∀ edge ∈ graph.edges, edge.id ≠ "" ∧ edge.source ∈ declaredIds graph ∧
      edge.target ∈ declaredIds graph := by
    intro edge hmem
    rcases Loop.report_eq_nil_mem hedges hmem with ⟨earlier, hearlier⟩
    obtain ⟨hid, -, hsource, htarget⟩ := edgeErrors_eq_nil hearlier
    exact ⟨hid, hsource, htarget⟩
  constructor
  · constructor
    · intro component hmem
      rcases hcomponent component hmem with ⟨earlier, hid, -⟩
      exact hid
    · refine Loop.report_nodup ?_ hcomponents
      intro earlier component hnone
      exact (componentSpecErrors_eq_nil (componentErrors_eq_nil hnone).2).1
  · exact fun edge hmem => (hedge edge hmem).1
  · refine Loop.report_nodup ?_ hedges
    intro earlier edge hnone
    exact (edgeErrors_eq_nil hnone).2.1
  · exact fun edge hmem => mem_declaredIds (hedge edge hmem).2.1
  · exact fun edge hmem => mem_declaredIds (hedge edge hmem).2.2
  · intro component hmem
    rcases hcomponent component hmem with ⟨earlier, -, hspec⟩
    exact (componentSpecErrors_eq_nil hspec).2.1
  · intro component hmem
    rcases hcomponent component hmem with ⟨earlier, -, hspec⟩
    exact (componentSpecErrors_eq_nil hspec).2.2
  · intro component hmem input hinput
    have hnone := htriggers component hmem
    rw [triggerInputErrors, List.flatMap_eq_nil_iff] at hnone
    exact mem_targetEndpoints (require_eq_nil.mp (hnone input hinput))
  · intro component hmem dependency hdependency
    exact dependencyErrors_eq_nil (hlifecycle component hmem) hdependency

end TopoExec
