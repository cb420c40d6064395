import Mathlib.Data.List.Forall2
import TopoExec.Graph.Spec

/-! # Expansion of subgraphs

The loader writes the components, edges and composite loops of a subgraph into
the graph, with the id of the subgraph and a dot before every name. The endpoints
of the edges are taken apart again later, at their last dot. That gives back the
component and the port if the local endpoint has a dot; `source` alone becomes
`cell.source`, which is a port of `cell` then.
-/

namespace TopoExec

/-- What holds identifiers in bounds. -/
structure GraphInputLimits where
  maxIdentifierBytes : Nat := 128
deriving DecidableEq, Repr

/-- A subgraph as its node says it, with local names. -/
structure SubgraphNode where
  id : String
  components : List ComponentNodeSpec := []
  edges : List EdgeSpec := []
  compositeLoops : List CompositeLoopSpec := []
deriving DecidableEq, Repr

section

variable (limits : GraphInputLimits)

def enforceIdentifierLimit (value context : String) : Except String Unit :=
  if value = "" then .error (context ++ " must not be empty")
  else if limits.maxIdentifierBytes < value.utf8ByteSize then
    .error (context ++ " length exceeds limit " ++ toString limits.maxIdentifierBytes)
  else .ok ()

def checkedIdentifier (value context : String) : Except String String := do
  enforceIdentifierLimit limits value context
  return value

def prefixedId (namespaceId localId context : String) : Except String String :=
  checkedIdentifier limits (namespaceId ++ "." ++ localId) context

/-- `local_component` is the beginning of the endpoint, so that cutting off its
bytes is cutting off its characters. -/
def namespaceEndpoint (namespaceId endpoint context : String) : Except String String := do
  let localComponent := componentIdFromEndpoint endpoint
  if localComponent = "" then throw (context ++ " must name a local component")
  let prefixedComponent := namespaceId ++ "." ++ localComponent
  enforceIdentifierLimit limits prefixedComponent (context ++ " component")
  if localComponent.utf8ByteSize = endpoint.utf8ByteSize then return prefixedComponent
  return prefixedComponent ++ String.ofList (endpoint.toList.drop localComponent.length)

def namespaceComponentRefs (namespaceId : String) (localIds : List String) (context : String) :
    Except String (List String) :=
  localIds.mapM fun localId => do
    enforceIdentifierLimit limits localId context
    enforceIdentifierLimit limits (namespaceId ++ "." ++ localId) context
    return namespaceId ++ "." ++ localId

/-- `context` with the index of an element. -/
def atIndex (context : String) (index : Nat) : String := context ++ "[" ++ toString index ++ "]"

/-- The loop body for the components of `append_subgraph_expansion`. -/
def expandComponent (namespaceId context : String) (component : ComponentNodeSpec) :
    Except String ComponentNodeSpec := do
  let localId ← checkedIdentifier limits component.id (context ++ ".id")
  let id ← prefixedId limits namespaceId localId (context ++ ".id")
  let dependsOn ← namespaceComponentRefs limits namespaceId component.dependsOn
    ("components." ++ id ++ ".depends_on")
  return { component with id := id, dependsOn := dependsOn }

/-- The loop body for the edges. -/
def expandEdge (namespaceId context : String) (edge : EdgeSpec) : Except String EdgeSpec := do
  let localId ← checkedIdentifier limits edge.id (context ++ ".id")
  let id ← prefixedId limits namespaceId localId (context ++ ".id")
  let fromEndpoint ← namespaceEndpoint limits namespaceId edge.fromEndpoint
    ("edges." ++ id ++ ".from")
  let toEndpoint ← namespaceEndpoint limits namespaceId edge.toEndpoint ("edges." ++ id ++ ".to")
  return { edge with id := id, fromEndpoint := fromEndpoint, toEndpoint := toEndpoint }

/-- The loop body for the composite loops, with the checks of
`read_composite_loop`. -/
def expandLoop (namespaceId context : String) (loop : CompositeLoopSpec) :
    Except String CompositeLoopSpec := do
  let localId ← checkedIdentifier limits loop.id (context ++ ".id")
  if loop.components = [] then
    throw (context ++ ".components must contain at least one component")
  let id ← prefixedId limits namespaceId localId (context ++ ".id")
  let components ← namespaceComponentRefs limits namespaceId loop.components
    ("composite_loops." ++ id ++ ".components")
  return { loop with id := id, components := components }

def appendSubgraphExpansion (node : SubgraphNode) (graph : GraphSpec) (context : String) :
    Except String GraphSpec := do
  let id ← checkedIdentifier limits node.id (context ++ ".id")
  if node.components = [] then
    throw (context ++ ".components must contain at least one component")
  let components ← node.components.zipIdx.mapM fun item =>
    expandComponent limits id (atIndex (context ++ ".components") item.2) item.1
  let edges ← node.edges.zipIdx.mapM fun item =>
    expandEdge limits id (atIndex (context ++ ".edges") item.2) item.1
  let compositeLoops ← node.compositeLoops.zipIdx.mapM fun item =>
    expandLoop limits id (atIndex (context ++ ".composite_loops") item.2) item.1
  return { graph with
    components := graph.components ++ components
    edges := graph.edges ++ edges
    compositeLoops := graph.compositeLoops ++ compositeLoops
    hierarchy := graph.hierarchy ++
      [{ id := id
         components := components.map ComponentNodeSpec.id
         edges := edges.map EdgeSpec.id
         compositeLoops := compositeLoops.map CompositeLoopSpec.id }] }

end

/-! ## Endpoints -/

variable {limits : GraphInputLimits}

/-- Apart what a chain of checks returned. -/
theorem bind_eq_ok {ε α β : Type} {x : Except ε α} {f : α → Except ε β} {b : β} :
    (x >>= f) = .ok b ↔ ∃ a, x = .ok a ∧ f a = .ok b := by
  cases x with
  | error e => simp [bind, Except.bind]
  | ok a => simp [bind, Except.bind]

/-- What an accepted endpoint becomes. -/
theorem namespaceEndpoint_eq {namespaceId endpoint context result : String}
    (h : namespaceEndpoint limits namespaceId endpoint context = .ok result) :
    result = if '.' ∈ endpoint.toList then
        endpointOf (endpointOf namespaceId (componentIdFromEndpoint endpoint))
          (portNameFromEndpoint endpoint)
      else endpointOf namespaceId endpoint := by
  unfold namespaceEndpoint at h
  dsimp only at h
  by_cases hempty : componentIdFromEndpoint endpoint = ""
  · rw [if_pos hempty] at h
    cases h
  rw [if_neg hempty] at h
  by_cases hsize : (componentIdFromEndpoint endpoint).utf8ByteSize = endpoint.utf8ByteSize
  · -- the component is the whole endpoint
    rw [if_pos hsize] at h
    obtain ⟨-, -, hresult⟩ := bind_eq_ok.mp h
    cases hresult
    have hno : '.' ∉ endpoint.toList := by
      intro hdot
      have hbytes := congrArg String.utf8ByteSize (endpointOf_parsed hdot)
      rw [← hsize, endpointOf, String.utf8ByteSize_append, String.utf8ByteSize_append] at hbytes
      have hone : ".".utf8ByteSize = 1 := by decide
      omega
    rw [if_neg hno, componentIdFromEndpoint_of_no_dot hno, endpointOf]
  · rw [if_neg hsize] at h
    obtain ⟨-, -, hresult⟩ := bind_eq_ok.mp h
    cases hresult
    have hdot : '.' ∈ endpoint.toList := by
      by_contra hno
      exact hsize (by rw [componentIdFromEndpoint_of_no_dot hno])
    have hparsed := congrArg String.toList (endpointOf_parsed hdot)
    rw [if_pos hdot]
    apply String.toList_injective
    have hrest : endpoint.toList.drop (componentIdFromEndpoint endpoint).length =
        '.' :: (portNameFromEndpoint endpoint).toList := by
      rw [← hparsed]
      simp [endpointOf, ← String.length_toList]
    simp only [endpointOf, String.toList_append, String.toList_ofList, hrest]
    simp

theorem endpointOf_ne (namespaceId c : String) : namespaceId ≠ endpointOf namespaceId c := by
  intro h
  have hlength := congrArg String.length h
  have hone : ".".length = 1 := by decide
  rw [endpointOf, String.length_append, String.length_append] at hlength
  omega

/-- The component and the port survive the expansion exactly in an endpoint with
a dot. -/
theorem namespaceEndpoint_parses_iff {namespaceId endpoint context result : String}
    (h : namespaceEndpoint limits namespaceId endpoint context = .ok result) :
    (componentIdFromEndpoint result = endpointOf namespaceId (componentIdFromEndpoint endpoint) ∧
      portNameFromEndpoint result = portNameFromEndpoint endpoint) ↔ '.' ∈ endpoint.toList := by
  have hresult := namespaceEndpoint_eq h
  constructor
  · rintro ⟨hcomponent, -⟩
    by_contra hno
    rw [if_neg hno] at hresult
    rw [hresult, componentIdFromEndpoint_endpointOf hno] at hcomponent
    exact endpointOf_ne _ _ hcomponent
  · intro hdot
    rw [if_pos hdot] at hresult
    have hport := portNameFromEndpoint_no_dot endpoint
    rw [hresult, componentIdFromEndpoint_endpointOf hport, portNameFromEndpoint_endpointOf hport]
    exact ⟨rfl, rfl⟩

theorem endpointOf_injective (namespaceId : String) :
    Function.Injective (endpointOf namespaceId) := by
  intro c d h
  have hlists := congrArg String.toList h
  simp only [endpointOf, String.toList_append] at hlists
  exact String.toList_injective (List.append_cancel_left hlists)

/-- The components of the subgraph that an expanded endpoint can name. -/
theorem namespaceEndpoint_names_iff {namespaceId endpoint context result : String}
    (h : namespaceEndpoint limits namespaceId endpoint context = .ok result) (c : String) :
    componentIdFromEndpoint result = endpointOf namespaceId c ↔
      '.' ∈ endpoint.toList ∧ componentIdFromEndpoint endpoint = c := by
  have hresult := namespaceEndpoint_eq h
  by_cases hdot : '.' ∈ endpoint.toList
  · rw [if_pos hdot] at hresult
    rw [hresult, componentIdFromEndpoint_endpointOf (portNameFromEndpoint_no_dot endpoint),
      (endpointOf_injective namespaceId).eq_iff]
    simp [hdot]
  · rw [if_neg hdot] at hresult
    rw [hresult, componentIdFromEndpoint_endpointOf hdot]
    simp [hdot, endpointOf_ne]

/-! ## Edges -/

/-- Some edge leads from `c` to `d`. -/
def Connects (edges : List EdgeSpec) (c d : String) : Prop :=
  ∃ edge ∈ edges, edge.source = c ∧ edge.target = d

/-- Both endpoints say a port. -/
def EdgeSpec.HasPorts (edge : EdgeSpec) : Prop :=
  '.' ∈ edge.fromEndpoint.toList ∧ '.' ∈ edge.toEndpoint.toList

/-- The elements of an expanded list and those they come from. -/
theorem mapM_ok_mem {ε α β : Type} {f : α → Except ε β} {l : List α} {l' : List β}
    (h : l.mapM f = .ok l') :
    (∀ a ∈ l, ∃ b ∈ l', f a = .ok b) ∧ ∀ b ∈ l', ∃ a ∈ l, f a = .ok b := by
  induction l generalizing l' with
  | nil =>
      cases h
      exact ⟨by simp, by simp⟩
  | cons a l ih =>
      rw [List.mapM_cons] at h
      obtain ⟨b, hb, htail⟩ := bind_eq_ok.mp h
      obtain ⟨bs, hbs, hresult⟩ := bind_eq_ok.mp htail
      cases hresult
      obtain ⟨hleft, hright⟩ := ih hbs
      constructor
      · intro x hx
        rcases List.mem_cons.mp hx with rfl | hx
        · exact ⟨b, List.mem_cons_self, hb⟩
        · obtain ⟨y, hy, hxy⟩ := hleft x hx
          exact ⟨y, List.mem_cons_of_mem b hy, hxy⟩
      · intro y hy
        rcases List.mem_cons.mp hy with rfl | hy
        · exact ⟨a, List.mem_cons_self, hb⟩
        · obtain ⟨x, hx, hxy⟩ := hright y hy
          exact ⟨x, List.mem_cons_of_mem a hx, hxy⟩

theorem expandEdge_endpoints {namespaceId context : String} {edge result : EdgeSpec}
    (h : expandEdge limits namespaceId context edge = .ok result) :
    (∃ at', namespaceEndpoint limits namespaceId edge.fromEndpoint at' = .ok result.fromEndpoint) ∧
      ∃ at', namespaceEndpoint limits namespaceId edge.toEndpoint at' = .ok result.toEndpoint := by
  unfold expandEdge at h
  obtain ⟨_, -, h⟩ := bind_eq_ok.mp h
  obtain ⟨_, -, h⟩ := bind_eq_ok.mp h
  obtain ⟨fromEndpoint, hfrom, h⟩ := bind_eq_ok.mp h
  obtain ⟨toEndpoint, hto, h⟩ := bind_eq_ok.mp h
  cases h
  exact ⟨⟨_, hfrom⟩, ⟨_, hto⟩⟩

/-- The edges that an accepted subgraph adds. -/
theorem appendSubgraphExpansion_edges {node : SubgraphNode} {graph graph' : GraphSpec}
    {context : String} (h : appendSubgraphExpansion limits node graph context = .ok graph') :
    ∃ expanded, graph'.edges = graph.edges ++ expanded ∧
      node.edges.zipIdx.mapM (fun item =>
        expandEdge limits node.id (atIndex (context ++ ".edges") item.2) item.1) =
      .ok expanded := by
  unfold appendSubgraphExpansion at h
  obtain ⟨id, hid, h⟩ := bind_eq_ok.mp h
  have hsame : id = node.id := by
    obtain ⟨-, -, hid⟩ := bind_eq_ok.mp hid
    cases hid
    rfl
  subst hsame
  by_cases hempty : node.components = []
  · rw [if_pos hempty] at h
    cases h
  · rw [if_neg hempty] at h
    obtain ⟨_, -, h⟩ := bind_eq_ok.mp h
    obtain ⟨expanded, hexpanded, h⟩ := bind_eq_ok.mp h
    obtain ⟨_, -, h⟩ := bind_eq_ok.mp h
    cases h
    exact ⟨expanded, rfl, hexpanded⟩

/-- The expanded edges connect what the local edges with ports connect. -/
theorem connects_expanded_iff {node : SubgraphNode} {context : String} {expanded : List EdgeSpec}
    (h : node.edges.zipIdx.mapM (fun item =>
      expandEdge limits node.id (atIndex (context ++ ".edges") item.2) item.1) = .ok expanded)
    (c d : String) :
    Connects expanded (endpointOf node.id c) (endpointOf node.id d) ↔
      ∃ edge ∈ node.edges, edge.HasPorts ∧ edge.source = c ∧ edge.target = d := by
  obtain ⟨hleft, hright⟩ := mapM_ok_mem h
  constructor
  · rintro ⟨result, hresult, hsource, htarget⟩
    obtain ⟨item, hitem, hexpand⟩ := hright result hresult
    obtain ⟨⟨_, hfrom⟩, ⟨_, hto⟩⟩ := expandEdge_endpoints hexpand
    obtain ⟨hdot, hc⟩ := (namespaceEndpoint_names_iff hfrom c).mp hsource
    obtain ⟨hdot', hd⟩ := (namespaceEndpoint_names_iff hto d).mp htarget
    exact ⟨item.1, List.fst_mem_of_mem_zipIdx hitem, ⟨hdot, hdot'⟩, hc, hd⟩
  · rintro ⟨edge, hedge, ⟨hdot, hdot'⟩, hc, hd⟩
    obtain ⟨i, hi, hget⟩ := List.getElem_of_mem hedge
    have hitem : (edge, i) ∈ node.edges.zipIdx := by
      rw [List.mk_mem_zipIdx_iff_getElem?, List.getElem?_eq_getElem hi, hget]
    obtain ⟨result, hresult, hexpand⟩ := hleft _ hitem
    obtain ⟨⟨_, hfrom⟩, ⟨_, hto⟩⟩ := expandEdge_endpoints hexpand
    exact ⟨result, hresult, (namespaceEndpoint_names_iff hfrom c).mpr ⟨hdot, hc⟩,
      (namespaceEndpoint_names_iff hto d).mpr ⟨hdot', hd⟩⟩

/-- An accepted endpoint keeps its component and port exactly if it has a dot, and
an accepted subgraph its wiring exactly if every edge has ports, or runs between
the same components as one that has. -/
theorem subgraph_wiring_iff (limits : GraphInputLimits) :
    (∀ namespaceId endpoint context result,
      namespaceEndpoint limits namespaceId endpoint context = .ok result →
        ((componentIdFromEndpoint result =
            endpointOf namespaceId (componentIdFromEndpoint endpoint) ∧
          portNameFromEndpoint result = portNameFromEndpoint endpoint) ↔
            '.' ∈ endpoint.toList)) ∧
      ∀ node graph context graph', appendSubgraphExpansion limits node graph context = .ok graph' →
        ∃ expanded, graph'.edges = graph.edges ++ expanded ∧
          ((∀ c d, Connects expanded (endpointOf node.id c) (endpointOf node.id d) ↔
              Connects node.edges c d) ↔
            ∀ edge ∈ node.edges, ∃ other ∈ node.edges,
              other.HasPorts ∧ other.source = edge.source ∧ other.target = edge.target) := by
  constructor
  · intro namespaceId endpoint context result h
    exact namespaceEndpoint_parses_iff h
  · intro node graph context graph' h
    obtain ⟨expanded, hedges, hexpanded⟩ := appendSubgraphExpansion_edges h
    refine ⟨expanded, hedges, ?_⟩
    constructor
    · intro hwiring edge hedge
      -- an edge of the template has an image with ports, the edge itself or a parallel one
      have hlocal : Connects node.edges edge.source edge.target := ⟨edge, hedge, rfl, rfl⟩
      exact (connects_expanded_iff hexpanded _ _).mp ((hwiring _ _).mpr hlocal)
    · intro hports c d
      rw [connects_expanded_iff hexpanded]
      constructor
      · rintro ⟨edge, hedge, -, hc, hd⟩
        exact ⟨edge, hedge, hc, hd⟩
      · rintro ⟨edge, hedge, rfl, rfl⟩
        exact hports edge hedge

/-- A subgraph `cell` with one edge. -/
def cellNode (fromEndpoint toEndpoint : String) : SubgraphNode where
  id := "cell"
  components := [{ id := "source" }, { id := "sink" }]
  edges := [{ id := "e", fromEndpoint := fromEndpoint, toEndpoint := toEndpoint }]

/-- With ports the wiring is kept. -/
theorem cell_with_ports_wired :
    (componentIdFromEndpoint "cell.source.out" = endpointOf "cell" "source" ∧
        portNameFromEndpoint "cell.source.out" = "out") ∧
      ∃ graph, appendSubgraphExpansion {} (cellNode "source.out" "sink.in") {} "s" = .ok graph ∧
        ∀ c d, Connects graph.edges (endpointOf "cell" c) (endpointOf "cell" d) ↔
          Connects (cellNode "source.out" "sink.in").edges c d := by
  obtain ⟨hendpoint, hsubgraph⟩ := subgraph_wiring_iff {}
  constructor
  · exact (hendpoint "cell" "source.out" "edges.cell.e.from" "cell.source.out" rfl).mpr (by decide)
  · obtain ⟨expanded, hedges, hiff⟩ := hsubgraph (cellNode "source.out" "sink.in") {} "s" _ rfl
    refine ⟨_, rfl, ?_⟩
    rw [hedges]
    apply hiff.mpr
    intro edge hedge
    refine ⟨edge, hedge, ?_, rfl, rfl⟩
    rw [List.mem_singleton.mp hedge]
    exact ⟨by decide, by decide⟩

/-- Without them the edge runs from `cell` to `cell`. -/
theorem cell_without_ports_unwired :
    ¬ ((∀ limits namespaceId endpoint context result,
        namespaceEndpoint limits namespaceId endpoint context = .ok result →
          componentIdFromEndpoint result =
              endpointOf namespaceId (componentIdFromEndpoint endpoint) ∧
            portNameFromEndpoint result = portNameFromEndpoint endpoint) ∨
      ∀ limits node graph context graph',
        appendSubgraphExpansion limits node graph context = .ok graph' →
          ∀ expanded, graph'.edges = graph.edges ++ expanded →
            ∀ c d, Connects expanded (endpointOf node.id c) (endpointOf node.id d) ↔
              Connects node.edges c d) := by
  rintro (hparses | hwires)
  · have hparsed := (hparses {} "cell" "source" "edges.cell.e.from" "cell.source" rfl).1
    revert hparsed
    decide
  · have hlocal : Connects (cellNode "source" "sink").edges "source" "sink" :=
      ⟨_, List.mem_singleton_self _, by decide, by decide⟩
    have hconnected := (hwires {} (cellNode "source" "sink") {} "s" _ rfl _ rfl "source" "sink").mpr
      hlocal
    obtain ⟨edge, hedge, hsource, -⟩ := hconnected
    rw [List.mem_singleton.mp hedge] at hsource
    revert hsource
    decide

end TopoExec
