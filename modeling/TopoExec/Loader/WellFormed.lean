import TopoExec.Lib.Paired
import TopoExec.Loader.Flatten

/-! # Accepted graphs

What holds of every graph that the loader returns: all its names are within the limits,
and its subgraphs are closed, in that whatever a component, an edge or a loop of a
subgraph names belongs to the same subgraph. Validation then finds nothing more to
say about the subgraphs than that one id is used twice.
-/

namespace TopoExec

open Check YamlNode

namespace GraphIo

variable {limits : LoaderLimits} {library : YamlLibrary}

/-! ## Closed subgraphs -/

/-- A name that is not empty and not too long. -/
def IsIdentifier (limits : LoaderLimits) (name : String) : Prop :=
  name ≠ "" ∧ name.utf8ByteSize ≤ limits.maxIdentifierBytes

/-- A name with the namespace before it. -/
def Within (namespaceId name : String) : Prop :=
  ∃ localName, name = endpointOf namespaceId localName

/-- Nothing of an expansion names anything outside of it. -/
structure Expansion.Closed (limits : LoaderLimits) (expansion : Expansion) : Prop where
  identifier : IsIdentifier limits expansion.id
  nonempty : expansion.components ≠ []
  components : ∀ component ∈ expansion.components,
    IsIdentifier limits component.id ∧ Within expansion.id component.id ∧
      ∀ dependency ∈ component.dependsOn, Within expansion.id dependency
  edges : ∀ edge ∈ expansion.edges,
    IsIdentifier limits edge.id ∧ Within expansion.id edge.id ∧
      Within expansion.id edge.fromEndpoint ∧ Within expansion.id edge.toEndpoint
  compositeLoops : ∀ loop ∈ expansion.compositeLoops,
    IsIdentifier limits loop.id ∧ Within expansion.id loop.id ∧ loop.components ≠ [] ∧
      ∀ component ∈ loop.components, Within expansion.id component

/-- What passes the check is an identifier. -/
theorem isIdentifier_of_checkedId {value context result : String}
    (h : checkedId limits value context = .ok result) : IsIdentifier limits result := by
  obtain ⟨rfl, hlimit⟩ := checkedId_eq_ok.mp h
  exact hlimit

theorem isIdentifier_of_localId {node : YamlNode} {context id : String}
    (h : localIdOf limits node context = .ok id) : IsIdentifier limits id := by
  obtain ⟨text, -, hchecked⟩ := bind_eq_ok.mp h
  exact isIdentifier_of_checkedId hchecked

/-- A prefixed name is within its instance. -/
theorem within_of_map {namespaceId name : String} {names : List String}
    (h : name ∈ names.map (endpointOf namespaceId)) : Within namespaceId name := by
  obtain ⟨localName, -, hname⟩ := List.mem_map.mp h
  exact ⟨localName, hname.symm⟩

/-- A component has the id it was read under. -/
theorem readComponentNode_id {node : YamlNode} {componentId context : String}
    {component : LoadedComponent}
    (h : readComponentNode limits library node componentId context = .ok component) :
    component.id = componentId ∧ IsIdentifier limits component.id := by
  obtain ⟨_, -, h⟩ := bind_eq_ok.mp h
  obtain ⟨id, hid, h⟩ := bind_eq_ok.mp h
  obtain ⟨_, -, h⟩ := bind_eq_ok.mp h
  obtain ⟨type, -, h⟩ := bind_eq_ok.mp h
  obtain ⟨sources, -, h⟩ := bind_eq_ok.mp h
  obtain ⟨trigger, -, h⟩ := bind_eq_ok.mp h
  obtain ⟨execution, -, h⟩ := bind_eq_ok.mp h
  obtain ⟨dependsOn, -, h⟩ := bind_eq_ok.mp h
  obtain ⟨boundary, -, h⟩ := bind_eq_ok.mp h
  obtain ⟨given, -, h⟩ := bind_eq_ok.mp h
  obtain ⟨config, -, h⟩ := bind_eq_ok.mp h
  cases h
  obtain ⟨rfl, hlimit⟩ := checkedId_eq_ok.mp hid
  exact ⟨rfl, hlimit⟩

/-- An edge has the id it was read under. -/
theorem readEdgeNode_id {node : YamlNode} {edgeId context : String} {edge : LoadedEdge}
    (h : readEdgeNode limits library node edgeId context = .ok edge) :
    edge.id = edgeId ∧ IsIdentifier limits edge.id := by
  obtain ⟨_, -, h⟩ := bind_eq_ok.mp h
  obtain ⟨id, hid, h⟩ := bind_eq_ok.mp h
  obtain ⟨_, -, h⟩ := bind_eq_ok.mp h
  obtain ⟨fromEndpoint, -, h⟩ := bind_eq_ok.mp h
  obtain ⟨toEndpoint, -, h⟩ := bind_eq_ok.mp h
  obtain ⟨given, -, h⟩ := bind_eq_ok.mp h
  obtain ⟨kind, -, h⟩ := bind_eq_ok.mp h
  obtain ⟨policy, -, h⟩ := bind_eq_ok.mp h
  cases h
  obtain ⟨rfl, hlimit⟩ := checkedId_eq_ok.mp hid
  exact ⟨rfl, hlimit⟩

/-- A loop has an identifier and at least one component. -/
theorem readCompositeLoop_id {node : YamlNode} {context : String} {loop : LoadedLoop}
    (h : readCompositeLoop limits library node context = .ok loop) :
    IsIdentifier limits loop.id ∧ loop.components ≠ [] := by
  obtain ⟨_, -, h⟩ := bind_eq_ok.mp h
  obtain ⟨_, -, h⟩ := bind_eq_ok.mp h
  obtain ⟨text, -, h⟩ := bind_eq_ok.mp h
  obtain ⟨id, hid, h⟩ := bind_eq_ok.mp h
  obtain ⟨components, -, h⟩ := bind_eq_ok.mp h
  obtain ⟨_, hnonempty, h⟩ := bind_eq_ok.mp h
  obtain ⟨policyNode, -, h⟩ := bind_eq_ok.mp h
  obtain ⟨policy, -, h⟩ := bind_eq_ok.mp h
  cases h
  exact ⟨isIdentifier_of_checkedId hid, refuse_eq_ok.mp hnonempty⟩

/-- An expanded component depends on components of its own instance. -/
theorem expandComponentNode_closed {namespaceId context : String} {node : YamlNode}
    {component : LoadedComponent}
    (h : expandComponentNode limits library namespaceId context node = .ok component) :
    IsIdentifier limits component.id ∧ Within namespaceId component.id ∧
      ∀ dependency ∈ component.dependsOn, Within namespaceId dependency := by
  obtain ⟨localId, -, h⟩ := bind_eq_ok.mp h
  obtain ⟨id, hid, h⟩ := bind_eq_ok.mp h
  obtain ⟨read, hread, h⟩ := bind_eq_ok.mp h
  obtain ⟨dependsOn, hdependsOn, h⟩ := bind_eq_ok.mp h
  cases h
  obtain ⟨hsame, hidentifier⟩ := readComponentNode_id hread
  refine ⟨hidentifier, ⟨localId, hsame.trans (prefixedIdentifier_eq_ok hid).1⟩, ?_⟩
  intro dependency hdependency
  exact within_of_map (namespacedRefs_eq_ok hdependsOn ▸ hdependency)

/-- An expanded edge joins components of its own instance. -/
theorem expandEdgeNode_closed {namespaceId context : String} {node : YamlNode} {edge : LoadedEdge}
    (h : expandEdgeNode limits library namespaceId context node = .ok edge) :
    IsIdentifier limits edge.id ∧ Within namespaceId edge.id ∧
      Within namespaceId edge.fromEndpoint ∧ Within namespaceId edge.toEndpoint := by
  obtain ⟨localId, -, h⟩ := bind_eq_ok.mp h
  obtain ⟨id, hid, h⟩ := bind_eq_ok.mp h
  obtain ⟨read, hread, h⟩ := bind_eq_ok.mp h
  obtain ⟨fromEndpoint, hfrom, h⟩ := bind_eq_ok.mp h
  obtain ⟨toEndpoint, hto, h⟩ := bind_eq_ok.mp h
  cases h
  obtain ⟨hsame, hidentifier⟩ := readEdgeNode_id hread
  exact ⟨hidentifier, ⟨localId, hsame.trans (prefixedIdentifier_eq_ok hid).1⟩,
    ⟨_, namespacedEndpoint_eq_ok hfrom⟩, ⟨_, namespacedEndpoint_eq_ok hto⟩⟩

/-- An expanded loop has members of its own instance. -/
theorem expandLoopNode_closed {namespaceId context : String} {node : YamlNode} {loop : LoadedLoop}
    (h : expandLoopNode limits library namespaceId context node = .ok loop) :
    IsIdentifier limits loop.id ∧ Within namespaceId loop.id ∧ loop.components ≠ [] ∧
      ∀ component ∈ loop.components, Within namespaceId component := by
  obtain ⟨read, hread, h⟩ := bind_eq_ok.mp h
  obtain ⟨id, hid, h⟩ := bind_eq_ok.mp h
  obtain ⟨components, hcomponents, h⟩ := bind_eq_ok.mp h
  cases h
  have hrefs := namespacedRefs_eq_ok hcomponents
  obtain ⟨hprefixed, hbounded⟩ := prefixedIdentifier_eq_ok hid
  refine ⟨isIdentifier_of_checkedId (hbounded ""), ⟨_, hprefixed⟩, ?_, ?_⟩
  · intro hnil
    rw [hrefs] at hnil
    exact (readCompositeLoop_id hread).2 (List.map_eq_nil_iff.mp hnil)
  · intro component hcomponent
    exact within_of_map (hrefs ▸ hcomponent)

/-- A property of all that is read from a sequence. -/
theorem Reads.forall {α : Type} {read : String → YamlNode → Except LoadError α} {P : α → Prop}
    (hread : ∀ node value, read "" node = .ok value → P value) {nodes : List YamlNode}
    {values : List α} (h : Reads read nodes values) : ∀ value ∈ values, P value := by
  intro value hvalue
  obtain ⟨node, -, hnode⟩ := Paired.exists_left h hvalue
  exact hread node value (hnode "")

/-- An expansion refers to nothing outside it. -/
theorem Expands.closed {node : YamlNode} {expansion : Expansion}
    (h : Expands limits library node expansion) : expansion.Closed limits := by
  obtain ⟨context, h⟩ := h
  obtain ⟨_, -, h⟩ := bind_eq_ok.mp h
  obtain ⟨_, -, h⟩ := bind_eq_ok.mp h
  obtain ⟨id, hid, h⟩ := bind_eq_ok.mp h
  obtain ⟨componentsNode, -, h⟩ := bind_eq_ok.mp h
  obtain ⟨componentNodes, -, h⟩ := bind_eq_ok.mp h
  obtain ⟨_, hnonempty, h⟩ := bind_eq_ok.mp h
  obtain ⟨components, hcomponents, h⟩ := bind_eq_ok.mp h
  obtain ⟨edgesNode, -, h⟩ := bind_eq_ok.mp h
  obtain ⟨edgeNodes, -, h⟩ := bind_eq_ok.mp h
  obtain ⟨edges, hedges, h⟩ := bind_eq_ok.mp h
  obtain ⟨loopNodes, -, h⟩ := bind_eq_ok.mp h
  obtain ⟨loops, hloops, h⟩ := bind_eq_ok.mp h
  cases h
  have hcomponents' := (readEach_eq_ok fun context context' node =>
    expandComponentNode_accepts (.refl limits) id context context' node).mp hcomponents
  have hedges' := (readEach_eq_ok fun context context' node =>
    expandEdgeNode_accepts (.refl limits) id context context' node).mp hedges
  have hloops' := (readEach_eq_ok fun context context' node =>
    expandLoopNode_accepts (.refl limits) id context context' node).mp hloops
  constructor
  · exact isIdentifier_of_localId hid
  · intro hnil
    have hlength := hcomponents'.length_eq
    have hempty : components = [] := hnil
    rw [hempty] at hlength
    exact refuse_eq_ok.mp hnonempty (List.eq_nil_of_length_eq_zero hlength)
  · exact hcomponents'.forall fun _ _ hexpand => expandComponentNode_closed hexpand
  · exact hedges'.forall fun _ _ hexpand => expandEdgeNode_closed hexpand
  · exact hloops'.forall fun _ _ hexpand => expandLoopNode_closed hexpand

/-! ## Accepted graphs -/

/-- What an accepted graph keeps of its document: the elements at the top, followed by
those of its subgraphs. -/
structure LoadedGraph.Accepted (limits : LoaderLimits) (graph : LoadedGraph) : Prop where
  schemaVersion : graph.schemaVersion = kTopoExecSchemaVersion
  laneCount : graph.lanes.length ≤ limits.maxLanes
  componentCount : graph.components.length ≤ limits.maxComponents
  edgeCount : graph.edges.length ≤ limits.maxEdges
  loopCount : graph.compositeLoops.length ≤ limits.maxCompositeLoops
  componentIds : ∀ component ∈ graph.components, IsIdentifier limits component.id
  edgeIds : ∀ edge ∈ graph.edges, IsIdentifier limits edge.id
  loopIds : ∀ loop ∈ graph.compositeLoops, IsIdentifier limits loop.id ∧ loop.components ≠ []
  subgraphs : ∃ (components : List LoadedComponent) (edges : List LoadedEdge)
    (loops : List LoadedLoop) (expansions : List Expansion),
    graph.components = components ++ expansions.flatMap Expansion.components ∧
    graph.edges = edges ++ expansions.flatMap Expansion.edges ∧
    graph.compositeLoops = loops ++ expansions.flatMap Expansion.compositeLoops ∧
    graph.hierarchy = expansions.map Expansion.hierarchy ∧
    ∀ expansion ∈ expansions, expansion.Closed limits

/-- Every expansion of a loaded graph is closed. -/
theorem Loading.closed {entries : List (YamlNode × YamlNode)} {graph : LoadedGraph}
    (loading : Loading limits library entries graph) :
    ∀ expansion ∈ loading.expansions, expansion.Closed limits := by
  intro expansion hexpansion
  obtain ⟨node, -, hexpands⟩ := Paired.exists_left loading.expands hexpansion
  exact hexpands.closed

/-- The elements at the top and those of closed subgraphs. -/
theorem forall_append_flatMap {α : Type} {P : α → Prop} {values : List α}
    {expansions : List Expansion} {part : Expansion → List α} (h : ∀ value ∈ values, P value)
    (hpart : ∀ expansion ∈ expansions, ∀ value ∈ part expansion, P value) :
    ∀ value ∈ values ++ expansions.flatMap part, P value := by
  intro value hvalue
  rcases List.mem_append.mp hvalue with htop | hadded
  · exact h value htop
  · obtain ⟨expansion, hexpansion, hin⟩ := List.mem_flatMap.mp hadded
    exact hpart expansion hexpansion value hin

/-- There are no more lanes than the limit. -/
theorem readLanes_count {root : YamlNode} {lanes : List LoadedLane}
    (h : readLanes limits library root = .ok lanes) : lanes.length ≤ limits.maxLanes := by
  obtain ⟨child, -, h⟩ := bind_eq_ok.mp h
  obtain ⟨entries, -, h⟩ := bind_eq_ok.mp h
  obtain ⟨_, hcount, h⟩ := bind_eq_ok.mp h
  have hlength := (mapM_eq_ok.mp h).length_eq
  exact hlength ▸ enforceLimit_eq_ok.mp hcount

/-- The components have identifiers. -/
theorem readComponents_ids {root : YamlNode} {components : List LoadedComponent}
    (h : readComponents limits library root = .ok components) :
    ∀ component ∈ components, IsIdentifier limits component.id := by
  obtain ⟨child, -, h⟩ := bind_eq_ok.mp h
  obtain ⟨items, -, h⟩ := bind_eq_ok.mp h
  obtain ⟨_, -, h⟩ := bind_eq_ok.mp h
  have hreads := (readEach_eq_ok (readComponent_accepts (.refl limits))).mp h
  refine hreads.forall fun node component hread => ?_
  obtain ⟨id, -, hread⟩ := bind_eq_ok.mp hread
  exact (readComponentNode_id hread).2

/-- The edges have identifiers. -/
theorem readEdges_ids {root : YamlNode} {edges : List LoadedEdge}
    (h : readEdges limits library root = .ok edges) :
    ∀ edge ∈ edges, IsIdentifier limits edge.id := by
  obtain ⟨child, -, h⟩ := bind_eq_ok.mp h
  obtain ⟨items, -, h⟩ := bind_eq_ok.mp h
  obtain ⟨_, -, h⟩ := bind_eq_ok.mp h
  have hreads := (readEach_eq_ok (readEdge_accepts (.refl limits))).mp h
  refine hreads.forall fun node edge hread => ?_
  obtain ⟨id, -, hread⟩ := bind_eq_ok.mp hread
  exact (readEdgeNode_id hread).2

/-- The loops have identifiers and components. -/
theorem readLoops_ids {root : YamlNode} {loops : List LoadedLoop}
    (h : readLoops limits library root = .ok loops) :
    ∀ loop ∈ loops, IsIdentifier limits loop.id ∧ loop.components ≠ [] := by
  obtain ⟨items, -, h⟩ := bind_eq_ok.mp h
  have hreads := (readEach_eq_ok fun context context' node =>
    readCompositeLoop_accepts (.refl limits) node context context').mp h
  exact hreads.forall fun _ _ hread => readCompositeLoop_id hread

/-- A graph that was put together step by step passed every check. -/
theorem Loading.accepted {entries : List (YamlNode × YamlNode)} {graph : LoadedGraph}
    (loading : Loading limits library entries graph) : graph.Accepted limits := by
  have hclosed := loading.closed
  have hversion := (readGraphHeader_keeps loading.readHeader).2
  have hlanes := readLanes_count loading.readLanes
  have hcomponents := readComponents_ids loading.readComponents
  have hedges := readEdges_ids loading.readEdges
  have hloops := readLoops_ids loading.readLoops
  have hcounts := loading.counts
  obtain ⟨_, hcomponentCount, hcounts⟩ := bind_eq_ok.mp hcounts
  obtain ⟨_, hedgeCount, hloopCount⟩ := bind_eq_ok.mp hcounts
  have hresult := loading.result
  -- what is in the graph was read from the document or comes from a closed expansion
  constructor
  · rw [hresult]
    exact hversion
  · rw [hresult]
    exact hlanes
  · exact enforceLimit_eq_ok.mp hcomponentCount
  · exact enforceLimit_eq_ok.mp hedgeCount
  · exact enforceLimit_eq_ok.mp hloopCount
  · rw [hresult]
    exact forall_append_flatMap hcomponents fun expansion hexpansion component hin =>
      ((hclosed expansion hexpansion).components component hin).1
  · rw [hresult]
    exact forall_append_flatMap hedges fun expansion hexpansion edge hin =>
      ((hclosed expansion hexpansion).edges edge hin).1
  · rw [hresult]
    apply forall_append_flatMap hloops
    intro expansion hexpansion loop hin
    obtain ⟨hid, -, hnonempty, -⟩ := (hclosed expansion hexpansion).compositeLoops loop hin
    exact ⟨hid, hnonempty⟩
  · exact ⟨loading.components, loading.edges, loading.compositeLoops, loading.expansions,
      congrArg LoadedGraph.components hresult, congrArg LoadedGraph.edges hresult,
      congrArg LoadedGraph.compositeLoops hresult, congrArg LoadedGraph.hierarchy hresult,
      hclosed⟩

/-! ## Validation -/

/-- Validation says nothing about the references of a subgraph. -/
theorem LoadedGraph.Accepted.hierarchyErrors_eq {graph : LoadedGraph}
    (h : graph.Accepted limits) {entry : GraphHierarchyEntry} (hentry : entry ∈ graph.hierarchy)
    (earlier : List GraphHierarchyEntry) :
    hierarchyErrors graph.toSpec earlier entry =
      require (entry.id ∉ earlier.map GraphHierarchyEntry.id)
        ("duplicate subgraph: " ++ entry.id) := by
  obtain ⟨components, edges, loops, expansions, hcomponents, hedges, hloops, hhierarchy, hclosed⟩ :=
    h.subgraphs
  rw [hhierarchy] at hentry
  obtain ⟨expansion, hexpansion, rfl⟩ := List.mem_map.mp hentry
  have hone := hclosed expansion hexpansion
  -- what the entry names was added to the graph with it
  have hknownComponents : expandedErrors expansion.id "component" (declaredIds graph.toSpec)
      expansion.hierarchy.components = [] := by
    unfold expandedErrors
    rw [List.flatMap_eq_nil_iff]
    intro id hid
    obtain ⟨component, hcomponent, rfl⟩ := List.mem_map.mp hid
    rw [require_eq_nil, declaredIds, List.mem_filter]
    refine ⟨?_, by simpa using (hone.components component hcomponent).1.1⟩
    have hin : component ∈ graph.components := by
      rw [hcomponents]
      exact List.mem_append_right _ (List.mem_flatMap.mpr ⟨expansion, hexpansion, hcomponent⟩)
    exact List.mem_map.mpr ⟨_, List.mem_map_of_mem hin, rfl⟩
  have hknownEdges : expandedErrors expansion.id "edge"
      ((namedEdges graph.toSpec.edges).map EdgeSpec.id) expansion.hierarchy.edges = [] := by
    unfold expandedErrors
    rw [List.flatMap_eq_nil_iff]
    intro id hid
    obtain ⟨edge, hedge, rfl⟩ := List.mem_map.mp hid
    have hin : edge ∈ graph.edges := by
      rw [hedges]
      exact List.mem_append_right _ (List.mem_flatMap.mpr ⟨expansion, hexpansion, hedge⟩)
    rw [require_eq_nil]
    refine List.mem_map.mpr
      ⟨edge.toEdgeSpec, List.mem_filter.mpr ⟨List.mem_map_of_mem hin, ?_⟩, rfl⟩
    simpa using (hone.edges edge hedge).1.1
  have hknownLoops : expandedErrors expansion.id "composite_loop"
      (graph.toSpec.compositeLoops.map CompositeLoopSpec.id)
      expansion.hierarchy.compositeLoops = [] := by
    unfold expandedErrors
    rw [List.flatMap_eq_nil_iff]
    intro id hid
    obtain ⟨loop, hloop, rfl⟩ := List.mem_map.mp hid
    have hin : loop ∈ graph.compositeLoops := by
      rw [hloops]
      exact List.mem_append_right _ (List.mem_flatMap.mpr ⟨expansion, hexpansion, hloop⟩)
    rw [require_eq_nil]
    exact List.mem_map.mpr ⟨_, List.mem_map_of_mem hin, rfl⟩
  have hid : expansion.hierarchy.id ≠ "" := hone.identifier.1
  unfold hierarchyErrors
  rw [if_neg hid]
  change _ ++ expandedErrors expansion.id "component" _ _ ++
    expandedErrors expansion.id "edge" _ _ ++
    expandedErrors expansion.id "composite_loop" _ _ = _
  rw [hknownComponents, hknownEdges, hknownLoops, List.append_nil, List.append_nil, List.append_nil]

/-- Nothing is reported about the subgraphs exactly if their ids differ. -/
theorem LoadedGraph.Accepted.hierarchy_report {graph : LoadedGraph} (h : graph.Accepted limits) :
    Loop.report (hierarchyErrors graph.toSpec) [] graph.hierarchy = [] ↔
      (graph.hierarchy.map GraphHierarchyEntry.id).Nodup := by
  rw [Loop.report_eq_nil]
  constructor
  · intro hreport
    rw [List.Nodup, List.pairwise_map, List.pairwise_iff_getElem]
    intro i j hi hj hij hsame
    -- the later of two equal ids would be reported
    have hsplit := List.take_append_drop j graph.hierarchy
    rw [List.drop_eq_getElem_cons hj] at hsplit
    have hnone := hreport _ _ _ hsplit.symm
    rw [h.hierarchyErrors_eq (List.getElem_mem hj), require_eq_nil] at hnone
    apply hnone
    rw [← hsame]
    apply List.mem_map_of_mem
    rw [List.nil_append, List.mem_take_iff_getElem]
    exact ⟨i, by omega, rfl⟩
  · intro hnodup before entry after hsplit
    have hentry : entry ∈ graph.hierarchy := by
      rw [hsplit]
      exact List.mem_append_right _ List.mem_cons_self
    rw [h.hierarchyErrors_eq hentry, require_eq_nil, List.nil_append]
    rw [hsplit, List.map_append, List.map_cons] at hnodup
    intro hin
    exact (List.nodup_append.mp hnodup).2.2 _ hin _ List.mem_cons_self rfl

/-- All the other passes look at the parts that a graph and its flat form share. -/
theorem validationErrors_flat (graph : LoadedGraph) (parseDouble : String → Option Double)
    (registry : Option ComponentRegistry) (lifecycleErrors compileErrors : List String) :
    validationErrors parseDouble registry graph.toSpec lifecycleErrors compileErrors = [] ↔
      validationErrors parseDouble registry graph.flat.toSpec lifecycleErrors compileErrors = [] ∧
        Loop.report (hierarchyErrors graph.toSpec) [] graph.hierarchy = [] := by
  have hheader : headerErrors graph.flat.toSpec = headerErrors graph.toSpec := rfl
  have hboundary : boundaryErrors registry graph.flat.toSpec =
      boundaryErrors registry graph.toSpec := rfl
  have hwriters : stateWriterErrors graph.flat.toSpec = stateWriterErrors graph.toSpec := rfl
  have hdescriptors : descriptors registry graph.flat.toSpec =
      descriptors registry graph.toSpec := rfl
  have hinputs : ∀ found, componentInputErrors found graph.flat.toSpec =
      componentInputErrors found graph.toSpec := fun _ => rfl
  have htriggers : triggerInputErrors graph.flat.toSpec = triggerInputErrors graph.toSpec := rfl
  have hnone : graph.flat.toSpec.hierarchy = [] := rfl
  have hlanes : laneIds graph.flat.toSpec = laneIds graph.toSpec := rfl
  have hids : declaredIds graph.flat.toSpec = declaredIds graph.toSpec := rfl
  have hparts : graph.flat.toSpec.lanes = graph.toSpec.lanes ∧
      graph.flat.toSpec.components = graph.toSpec.components ∧
      graph.flat.toSpec.edges = graph.toSpec.edges ∧
      graph.flat.toSpec.compositeLoops = graph.toSpec.compositeLoops := ⟨rfl, rfl, rfl, rfl⟩
  unfold validationErrors
  rw [hheader, hboundary, hwriters, hdescriptors, hinputs, htriggers, hnone, hlanes, hids,
    hparts.1, hparts.2.1, hparts.2.2.1, hparts.2.2.2]
  simp only [List.append_eq_nil_iff, Loop.report, and_true]
  constructor
  · rintro ⟨⟨hrest, hreport⟩, hcompile⟩
    exact ⟨⟨hrest, hcompile⟩, hreport⟩
  · rintro ⟨⟨hrest, hcompile⟩, hreport⟩
    exact ⟨⟨hrest, hreport⟩, hcompile⟩

/-- What validation computes first sees no subgraph. -/
theorem validateGraph_eq_some {fuel : Nat} {parseDouble : String → Option Double}
    {registry : ComponentRegistry} {graph : GraphSpec} {result : GraphValidationResult} :
    validateGraph fuel parseDouble registry graph = some result ↔
      ∃ lifecycle compile, computeComponentLifecycleOrder fuel graph = some lifecycle ∧
        compileForValidation fuel graph = some compile ∧
        result.errors = validationErrors parseDouble (some registry) graph lifecycle.errors
          compile.errors ∧
        result.ok = result.errors.isEmpty ∧ result.compiledPlan = compile.plan := by
  unfold validateGraph validateGraphImpl
  cases computeComponentLifecycleOrder fuel graph with
  | none => simp
  | some lifecycle =>
      cases compileForValidation fuel graph with
      | none => simp
      | some compile =>
          obtain ⟨ok, errors, compiledPlan⟩ := result
          simp only [Option.bind_eq_bind, Option.bind_some, Option.pure_def, Option.some.injEq,
            GraphValidationResult.mk.injEq, exists_and_left, ↓existsAndEq, true_and]
          constructor
          · rintro ⟨rfl, rfl, rfl⟩
            exact ⟨rfl, rfl, rfl⟩
          · rintro ⟨rfl, rfl, rfl⟩
            exact ⟨rfl, rfl, rfl⟩

/-- Both orders are of the components and the edges, which the flat form has all. -/
theorem validateGraph_flat_isSome (graph : LoadedGraph) (fuel : Nat)
    (parseDouble : String → Option Double) (registry : ComponentRegistry) :
    (validateGraph fuel parseDouble registry graph.flat.toSpec).isSome =
      (validateGraph fuel parseDouble registry graph.toSpec).isSome := by
  have hlifecycle : computeComponentLifecycleOrder fuel graph.flat.toSpec =
      computeComponentLifecycleOrder fuel graph.toSpec := rfl
  have hcompile : compileForValidation fuel graph.flat.toSpec =
      compileForValidation fuel graph.toSpec := rfl
  unfold validateGraph validateGraphImpl
  rw [hlifecycle, hcompile]
  cases computeComponentLifecycleOrder fuel graph.toSpec with
  | none => simp
  | some lifecycle => cases compileForValidation fuel graph.toSpec <;> simp

/-- A graph is valid exactly if its flat form is and no subgraph has the id of another, and
the two have the same plan. -/
theorem LoadedGraph.Accepted.validateGraph_flat {graph : LoadedGraph} (h : graph.Accepted limits)
    {fuel : Nat} {parseDouble : String → Option Double} {registry : ComponentRegistry}
    {result : GraphValidationResult}
    (hvalidate : validateGraph fuel parseDouble registry graph.toSpec = some result) :
    ∃ flat, validateGraph fuel parseDouble registry graph.flat.toSpec = some flat ∧
      flat.compiledPlan = result.compiledPlan ∧
      (result.ok = true ↔
        flat.ok = true ∧ (graph.hierarchy.map GraphHierarchyEntry.id).Nodup) := by
  have hlifecycle' : computeComponentLifecycleOrder fuel graph.flat.toSpec =
      computeComponentLifecycleOrder fuel graph.toSpec := rfl
  have hcompile' : compileForValidation fuel graph.flat.toSpec =
      compileForValidation fuel graph.toSpec := rfl
  obtain ⟨lifecycle, compile, hlifecycle, hcompile, herrors, hok, hplan⟩ :=
    validateGraph_eq_some.mp hvalidate
  obtain ⟨errors, hflat⟩ : ∃ errors, errors = validationErrors parseDouble (some registry)
      graph.flat.toSpec lifecycle.errors compile.errors := ⟨_, rfl⟩
  refine ⟨{ ok := errors.isEmpty, errors := errors, compiledPlan := compile.plan }, ?_, hplan.symm,
    ?_⟩
  · rw [validateGraph_eq_some, hlifecycle', hcompile']
    exact ⟨lifecycle, compile, hlifecycle, hcompile, hflat, rfl, rfl⟩
  · rw [hok, herrors, List.isEmpty_iff, List.isEmpty_iff, ← h.hierarchy_report, hflat]
    exact validationErrors_flat graph parseDouble (some registry) _ _

end GraphIo

end TopoExec
