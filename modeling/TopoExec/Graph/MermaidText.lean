import TopoExec.Graph.Mermaid

/-! # The lines of a Mermaid diagram

`graph_mermaid` writes one line after the other. Every text of the graph goes through
`mermaid_label` or is the name of a node, and neither has a line break. The ids of the
regions in the last line are written as they are.
-/

namespace TopoExec

/-! ## The diagram -/

/-- `to_string` of an edge kind. -/
def EdgeKind.name : EdgeKind → String
  | .immediate => "immediate"
  | .delay => "delay"
  | .state => "state"
  | .async => "async"

section

variable (graph : GraphSpec) (nodeIds : OrderedMap String String)

/-- `node_id`. -/
def mermaidNode (id : String) : String := (nodeIds.find id).getD (mermaidNodeId id)

/-- A component with its label, after the indentation of its line. -/
def componentLine (indent : String) (component : ComponentNodeSpec) : String :=
  indent ++ mermaidNode nodeIds component.id ++ "[\"" ++ mermaidLabel component.id ++ "\\n" ++
    mermaidLabel component.type ++ "\"]"

/-- A component that a subgraph lists, declared or not. -/
def memberLine (componentId : String) : String :=
  match graph.components.find? fun candidate => candidate.id = componentId with
  | some component => componentLine nodeIds "    " component
  | none => "    " ++ mermaidNode nodeIds componentId

def hierarchyLines (hierarchy : GraphHierarchyEntry) : List String :=
  ["  subgraph " ++ mermaidNode nodeIds hierarchy.id ++ "[Subgraph: " ++
      mermaidLabel hierarchy.id ++ "]"] ++
    hierarchy.components.map (memberLine graph nodeIds) ++ ["  end"]

def loopLines (loop : CompositeLoopSpec) : List String :=
  ["  subgraph " ++ mermaidNode nodeIds loop.id ++ "[CompositeLoop: " ++
      mermaidLabel loop.loopPolicy.type ++ "]"] ++
    loop.components.map (fun component => "    " ++ mermaidNode nodeIds component) ++ ["  end"]

def edgeLine (edge : EdgeSpec) : String :=
  "  " ++ mermaidNode nodeIds (componentIdFromEndpoint edge.fromEndpoint) ++ " -->|\"" ++
    mermaidLabel edge.id ++ ":" ++ edge.kind.name ++ "/" ++ mermaidLabel edge.policy.mode ++
    "\"| " ++ mermaidNode nodeIds (componentIdFromEndpoint edge.toEndpoint)

/-- `hierarchy_components`. -/
def hierarchyComponents : List String := graph.hierarchy.flatMap GraphHierarchyEntry.components

/-- The components that no subgraph lists. -/
def looseComponents : List ComponentNodeSpec :=
  graph.components.filter fun component => component.id ∉ hierarchyComponents graph

/-- All the lines but the last one. -/
def graphLines : List String :=
  ["flowchart TD", "  %% graph: " ++ mermaidLabel graph.name] ++
    graph.hierarchy.flatMap (hierarchyLines graph nodeIds) ++
    (looseComponents graph).map (componentLine nodeIds "  ") ++
    graph.compositeLoops.flatMap (loopLines nodeIds) ++
    graph.edges.map (edgeLine nodeIds)

end

def regionOrderLine (plan : GraphCompiledPlan) : String :=
  "  %% region_order: " ++ joinIds plan.regionOrder

/-- Each line with its line break. -/
def writeLines : List String → String
  | [] => ""
  | line :: lines => line ++ "\n" ++ writeLines lines

def graphMermaid (graph : GraphSpec) (plan : GraphCompiledPlan) : String :=
  writeLines (graphLines graph (buildMermaidNodeIds graph) ++ [regionOrderLine plan])

/-! ## Line breaks -/

def newlineCount (text : String) : Nat := text.toList.count '\n'

@[simp]
theorem newlineCount_append (left right : String) :
    newlineCount (left ++ right) = newlineCount left + newlineCount right := by
  rw [newlineCount, String.toList_append, List.count_append]
  rfl

@[simp]
theorem newlineCount_mermaidLabel (text : String) : newlineCount (mermaidLabel text) = 0 := by
  rw [newlineCount, mermaidLabel, String.toList_ofList, List.count_eq_zero]
  intro hmem
  obtain ⟨character, -, hmem⟩ := List.mem_flatMap.1 hmem
  unfold mermaidLabelChar at hmem
  split_ifs at hmem with hquote hbackslash hopen hclose hbreak
  · exact absurd hmem (by decide)
  · exact absurd hmem (by decide)
  · exact absurd hmem (by decide)
  · exact absurd hmem (by decide)
  · exact absurd hmem (by decide)
  · exact hbreak (Or.inl (List.mem_singleton.1 hmem).symm)

theorem newlineCount_of_safe {name : String} (h : MermaidSafe name) : newlineCount name = 0 := by
  rw [newlineCount, List.count_eq_zero]
  intro hmem
  exact absurd (h _ hmem) (by decide)

@[simp]
theorem newlineCount_mermaidNode (graph : GraphSpec) (id : String) :
    newlineCount (mermaidNode (buildMermaidNodeIds graph) id) = 0 := by
  apply newlineCount_of_safe
  unfold mermaidNode
  cases hfind : (buildMermaidNodeIds graph).find id with
  | none => exact mermaidNodeId_safe id
  | some name => exact (buildMermaidNodeIds_safe graph hfind)

theorem newlineCount_writeLines (lines : List String) :
    newlineCount (writeLines lines) = lines.length + (lines.map newlineCount).sum := by
  induction lines with
  | nil => rfl
  | cons line lines ih =>
      have hbreak : newlineCount "\n" = 1 := by decide
      rw [writeLines, newlineCount_append, newlineCount_append, ih, hbreak, List.length_cons,
        List.map_cons, List.sum_cons]
      omega

theorem newlineCount_joinIds (ids : List String) :
    newlineCount (joinIds ids) = (ids.map newlineCount).sum := by
  induction ids with
  | nil => rfl
  | cons id ids ih =>
      cases ids with
      | nil => simp [joinIds]
      | cons next ids =>
          have hcomma : newlineCount "," = 0 := by decide
          rw [joinIds, String.intercalate_cons_cons, newlineCount_append, newlineCount_append,
            hcomma, List.map_cons, List.sum_cons, ← ih, joinIds, Nat.add_zero]

/-! ## The lines -/

section

variable (graph : GraphSpec)

theorem newlineCount_componentLine {indent : String} (hindent : newlineCount indent = 0)
    (component : ComponentNodeSpec) :
    newlineCount (componentLine (buildMermaidNodeIds graph) indent component) = 0 := by
  simp only [componentLine, newlineCount_append, newlineCount_mermaidNode,
    newlineCount_mermaidLabel, hindent]
  decide

theorem newlineCount_memberLine (componentId : String) :
    newlineCount (memberLine graph (buildMermaidNodeIds graph) componentId) = 0 := by
  unfold memberLine
  split
  · exact newlineCount_componentLine graph (by decide) _
  · simp only [newlineCount_append, newlineCount_mermaidNode]
    decide

theorem newlineCount_edgeLine (edge : EdgeSpec) :
    newlineCount (edgeLine (buildMermaidNodeIds graph) edge) = 0 := by
  have hkind : newlineCount edge.kind.name = 0 := by
    cases edge.kind <;> decide
  simp only [edgeLine, newlineCount_append, newlineCount_mermaidNode, newlineCount_mermaidLabel,
    hkind]
  decide

theorem newlineCount_of_mem_hierarchyLines {hierarchy : GraphHierarchyEntry} {line : String}
    (h : line ∈ hierarchyLines graph (buildMermaidNodeIds graph) hierarchy) :
    newlineCount line = 0 := by
  rw [hierarchyLines, List.mem_append, List.mem_append, List.mem_singleton, List.mem_singleton]
    at h
  rcases h with (rfl | hmember) | rfl
  · simp only [newlineCount_append, newlineCount_mermaidNode, newlineCount_mermaidLabel]
    decide
  · obtain ⟨componentId, -, rfl⟩ := List.mem_map.1 hmember
    exact newlineCount_memberLine graph componentId
  · decide

theorem newlineCount_of_mem_loopLines {loop : CompositeLoopSpec} {line : String}
    (h : line ∈ loopLines (buildMermaidNodeIds graph) loop) : newlineCount line = 0 := by
  rw [loopLines, List.mem_append, List.mem_append, List.mem_singleton, List.mem_singleton] at h
  rcases h with (rfl | hmember) | rfl
  · simp only [newlineCount_append, newlineCount_mermaidNode, newlineCount_mermaidLabel]
    decide
  · obtain ⟨component, -, rfl⟩ := List.mem_map.1 hmember
    simp only [newlineCount_append, newlineCount_mermaidNode]
    decide
  · decide

/-- No line of the graph is broken, whatever its texts are. -/
theorem newlineCount_of_mem_graphLines {line : String}
    (h : line ∈ graphLines graph (buildMermaidNodeIds graph)) : newlineCount line = 0 := by
  simp only [graphLines, List.mem_append, List.mem_cons, List.not_mem_nil, or_false,
    List.mem_flatMap, List.mem_map] at h
  rcases h with ((((rfl | rfl) | ⟨hierarchy, -, hline⟩) | ⟨component, -, rfl⟩) | ⟨loop, -, hline⟩) |
    ⟨edge, -, rfl⟩
  · decide
  · simp only [newlineCount_append, newlineCount_mermaidLabel]
    decide
  · exact newlineCount_of_mem_hierarchyLines graph hline
  · exact newlineCount_componentLine graph (by decide) component
  · exact newlineCount_of_mem_loopLines graph hline
  · exact newlineCount_edgeLine graph edge

/-- The lines that the structure of a graph asks for. -/
def diagramLineCount : Nat :=
  3 + (graph.hierarchy.map fun hierarchy => 2 + hierarchy.components.length).sum +
    (graph.components.filter fun component =>
      ∀ hierarchy ∈ graph.hierarchy, component.id ∉ hierarchy.components).length +
    (graph.compositeLoops.map fun loop => 2 + loop.components.length).sum + graph.edges.length

theorem length_graphLines (nodeIds : OrderedMap String String) :
    (graphLines graph nodeIds).length + 1 = diagramLineCount graph := by
  have hhierarchy : (fun hierarchy => (hierarchyLines graph nodeIds hierarchy).length) =
      fun hierarchy => 2 + hierarchy.components.length := by
    funext hierarchy
    simp only [hierarchyLines, List.length_append, List.length_singleton, List.length_map]
    omega
  have hloop : (fun loop => (loopLines nodeIds loop).length) =
      fun loop => 2 + loop.components.length := by
    funext loop
    simp only [loopLines, List.length_append, List.length_singleton, List.length_map]
    omega
  have hloose : looseComponents graph = graph.components.filter fun component =>
      ∀ hierarchy ∈ graph.hierarchy, component.id ∉ hierarchy.components := by
    apply List.filter_congr
    intro component _
    simp [hierarchyComponents, List.mem_flatMap]
  simp only [graphLines, List.length_append, List.length_flatMap, List.length_map,
    List.length_cons, List.length_nil, hhierarchy, hloop, hloose, diagramLineCount]
  omega

/-- The line breaks of the diagram: one for each line, and those of the region ids. -/
theorem newlineCount_graphMermaid (plan : GraphCompiledPlan) :
    newlineCount (graphMermaid graph plan) =
      diagramLineCount graph + (plan.regionOrder.map newlineCount).sum := by
  have hlines : ((graphLines graph (buildMermaidNodeIds graph)).map newlineCount).sum = 0 := by
    rw [List.sum_eq_zero_iff_forall_eq_nat]
    intro count hmem
    obtain ⟨line, hline, rfl⟩ := List.mem_map.1 hmem
    exact newlineCount_of_mem_graphLines graph hline
  have hregions : newlineCount (regionOrderLine plan) =
      (plan.regionOrder.map newlineCount).sum := by
    have hliteral : newlineCount "  %% region_order: " = 0 := by decide
    have hline : newlineCount (regionOrderLine plan) =
        newlineCount "  %% region_order: " + newlineCount (joinIds plan.regionOrder) :=
      newlineCount_append _ _
    rw [hline, newlineCount_joinIds, hliteral, Nat.zero_add]
  rw [graphMermaid, newlineCount_writeLines, List.map_append, List.sum_append, hlines,
    List.length_append, List.map_singleton, List.sum_singleton, hregions, List.length_singleton,
    length_graphLines, Nat.zero_add]

/-- The number of line breaks depends on the structure of the graph alone, iff no id in
the region order of the plan has a line break. -/
theorem graphMermaid_lines_iff (plan : GraphCompiledPlan) :
    newlineCount (graphMermaid graph plan) = diagramLineCount graph ↔
      ∀ regionId ∈ plan.regionOrder, '\n' ∉ regionId.toList := by
  rw [newlineCount_graphMermaid, Nat.add_eq_left, List.sum_eq_zero_iff_forall_eq_nat,
    List.forall_mem_map]
  simp only [newlineCount, List.count_eq_zero]

end

/-- A component whose id has a line break. -/
def brokenLineGraph : GraphSpec := { name := "g", components := [{ id := "a\nb", type := "t" }] }

/-- The graph compiles without errors, and its diagram has a line too many. -/
theorem brokenLineGraph_extra_line :
    ∃ result, CompilesTo brokenLineGraph result ∧ result.ok = true ∧
      newlineCount (graphMermaid brokenLineGraph result.plan) ≠
        diagramLineCount brokenLineGraph := by
  refine ⟨_, ⟨2, rfl⟩, by decide, ?_⟩
  rw [newlineCount_graphMermaid]
  decide

end TopoExec
