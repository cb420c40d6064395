import TopoExec.Lib.Scc
import TopoExec.Lib.Kahn
import TopoExec.Graph.Spec

/-! # Graph compilation

`compile_graph_impl`, cut into its phases: component ids, immediate edges and
their SCCs, loop ownership, region construction, region edges, and the
priority ordering of the regions. Each phase returns the errors it adds, in
the order in which the source adds them; the result is `ok` when there are
none.

Maps that are only looked up by key are functions. Sets that are iterated are
sorted lists, since `std::set` iterates in key order. The ordering loop of the
source has no bound, and region ids that clash can keep it running for ever,
so `compileGraphImpl` takes the number of iterations it may use and
`CompilesTo` says that some number is enough.
-/

namespace TopoExec

/-- `enum class CompiledRegionKind`. -/
inductive CompiledRegionKind where
  | component
  | compositeLoop
deriving DecidableEq, Repr

structure CompiledGraphRegion where
  id : String
  kind : CompiledRegionKind := .component
  components : List String
  compositeLoopId : String := ""
  loopPolicy : LoopPolicySpec := {}
  incomingRegions : List String := []
  outgoingRegions : List String := []
deriving DecidableEq, Repr

structure GraphCompiledPlan where
  regions : List CompiledGraphRegion := []
  regionOrder : List String := []
  componentRegion : String → Option String := fun _ => none
  immediateSccs : List (List String) := []

structure GraphCompileResult where
  ok : Bool := true
  errors : List String := []
  plan : GraphCompiledPlan := {}

/-! ## Components and immediate edges -/

/-- The declared ids in order, without empty ids and repetitions. -/
def componentIds (graph : GraphSpec) : List String :=
  graph.components.foldl
    (fun ids component =>
      if component.id ≠ "" ∧ component.id ∉ ids then ids ++ [component.id] else ids)
    []

/-- The edges that compilation looks at. -/
def EdgeSpec.isImmediate (edge : EdgeSpec) : Bool :=
  edge.hasKind && edge.invalidKind = "" && edge.kind = .immediate

/-- `immediate_edges[component]`: the targets of its immediate edges, in edge
order, as far as both ends are declared. -/
def immediateEdges (graph : GraphSpec) (component : String) : List String :=
  (graph.edges.filter fun edge =>
    edge.isImmediate && edge.source = component && edge.source ∈ componentIds graph &&
      edge.target ∈ componentIds graph).map EdgeSpec.target

/-- `std::sort` of component ids. -/
def sortIds (ids : List String) : List String := ids.insertionSort (· ≤ ·)

/-- `tarjan_scc`. -/
def tarjanScc (nodes : List String) (edges : String → List String) : List (List String) :=
  Scc.tarjan edges sortIds nodes

def immediateSccs (graph : GraphSpec) : List (List String) :=
  tarjanScc (componentIds graph) (immediateEdges graph)

/-! ## Loop ownership -/

/-- `loops_by_component` (as the id of the owning loop), `loop_ids` and the
errors so far. -/
structure OwnershipState where
  loopsByComponent : String → Option String := fun _ => none
  loopIds : List String := []
  errors : List String := []

/-- One entry of a loop's component list; the second component of the state is
`loop_components`. -/
def claimComponent (known : List String) (loop : CompositeLoopSpec)
    (s : OwnershipState × List String) (component : String) : OwnershipState × List String :=
  let duplicate :=
    if component ∈ s.2 then
      ["composite_loop " ++ loop.id ++ " lists duplicate component " ++ component]
    else []
  let errors := s.1.errors ++ duplicate
  let seen := if component ∈ s.2 then s.2 else component :: s.2
  if component ∉ known then
    ({ s.1 with
        errors := errors ++
          ["composite_loop " ++ loop.id ++ " references missing component " ++ component] },
      seen)
  else
    match s.1.loopsByComponent component with
    | some owner =>
        if owner ≠ loop.id then
          ({ s.1 with
              errors := errors ++
                ["component " ++ component ++ " is owned by multiple composite_loops: " ++
                  owner ++ "," ++ loop.id] },
            seen)
        else
          ({ s.1 with
              loopsByComponent := Function.update s.1.loopsByComponent component (some loop.id)
              errors := errors },
            seen)
    | none =>
        ({ s.1 with
            loopsByComponent := Function.update s.1.loopsByComponent component (some loop.id)
            errors := errors },
          seen)

/-- One composite loop of the ownership pass. -/
def claimLoop (known : List String) (s : OwnershipState) (loop : CompositeLoopSpec) :
    OwnershipState :=
  if loop.id = "" then
    { s with errors := s.errors ++ ["composite_loop id must not be empty"] }
  else
    let duplicate :=
      if loop.id ∈ s.loopIds then ["duplicate composite_loop: " ++ loop.id] else []
    let loopIds := if loop.id ∈ s.loopIds then s.loopIds else loop.id :: s.loopIds
    (loop.components.foldl (claimComponent known loop)
      ({ s with loopIds := loopIds, errors := s.errors ++ duplicate }, [])).1

def ownershipErrors (graph : GraphSpec) : List String :=
  (graph.compositeLoops.foldl (claimLoop (componentIds graph)) {}).errors

/-! ## Regions -/

/-- `same_component_set`: equal as sorted lists. -/
def sameComponentSet (left right : List String) : Bool := sortIds left = sortIds right

def hasImmediateSelfLoop (graph : GraphSpec) (component : String) : Bool :=
  graph.edges.any fun edge =>
    edge.isImmediate && edge.source = component && edge.target = component

/-- `join_ids`. -/
def joinIds (ids : List String) : String := String.intercalate "," ids

/-- More than one component, or one with an immediate self-edge. -/
def isCyclic (graph : GraphSpec) (scc : List String) : Bool :=
  1 < scc.length ||
    match scc with
    | [] => false
    | component :: _ => hasImmediateSelfLoop graph component

/-- The first loop with the same component set. -/
def matchingLoop (graph : GraphSpec) (scc : List String) : Option CompositeLoopSpec :=
  graph.compositeLoops.find? fun loop => sameComponentSet loop.components scc

/-- The region of one SCC, before its region edges are known. -/
def regionOfScc (graph : GraphSpec) (sccIndex : Nat) (scc : List String) : CompiledGraphRegion :=
  match matchingLoop graph scc with
  | some loop =>
      { id := loop.id
        kind := .compositeLoop
        components := scc
        compositeLoopId := loop.id
        loopPolicy := loop.loopPolicy }
  | none =>
      { id := match scc with
          | [component] => component
          | _ => "region_" ++ toString sccIndex
        components := scc }

/-- The errors that the region of one SCC adds. -/
def regionErrors (graph : GraphSpec) (scc : List String) : List String :=
  match matchingLoop graph scc with
  | none =>
      if isCyclic graph scc then
        ["immediate cycle detected among components " ++ joinIds scc ++
          "; declare a matching composite_loop or use delay/state/async edges"]
      else []
  | some loop =>
      if isCyclic graph scc then []
      else
        ["composite_loop " ++ loop.id ++
          " does not match an immediate cyclic strongly connected component"]

/-- `matched_loop_ids`. -/
def matchedLoopIds (graph : GraphSpec) : List String :=
  (immediateSccs graph).filterMap fun scc => (matchingLoop graph scc).map CompositeLoopSpec.id

def unmatchedLoopErrors (graph : GraphSpec) : List String :=
  (graph.compositeLoops.filter fun loop => loop.id ∉ matchedLoopIds graph).map fun loop =>
    "composite_loop " ++ loop.id ++
      " must exactly match one immediate cyclic strongly connected component"

/-- `result.plan.regions` as first built, one per SCC. -/
def sccRegions (graph : GraphSpec) : List CompiledGraphRegion :=
  (immediateSccs graph).zipIdx.map fun scc => regionOfScc graph scc.2 scc.1

/-- `region_ids`, indexed like the SCCs. -/
def regionIds (graph : GraphSpec) : List String := (sccRegions graph).map CompiledGraphRegion.id

/-- `component_scc`: a later SCC would overwrite an earlier one. -/
def componentScc (graph : GraphSpec) (component : String) : Option Nat :=
  (immediateSccs graph).zipIdx.foldl
    (fun found scc => if component ∈ scc.1 then some scc.2 else found) none

/-- `component_region`, written in the same pass. -/
def componentRegion (graph : GraphSpec) (component : String) : Option String :=
  (sccRegions graph).foldl
    (fun found region => if component ∈ region.components then some region.id else found) none

/-! ## Region edges -/

/-- `outgoing_regions`, `incoming_regions` and `indegree`. -/
structure RegionEdges where
  outgoing : String → List String := fun _ => []
  incoming : String → List String := fun _ => []
  indegree : String → Nat := fun _ => 0

/-- Insert into a sorted, duplicate-free list. -/
def insertId (id : String) (ids : List String) : List String :=
  if id ∈ ids then ids else ids.orderedInsert (· ≤ ·) id

/-- The two region ids an edge connects, when it is immediate and connects
components of different SCCs. -/
def regionEdgeOf (graph : GraphSpec) (edge : EdgeSpec) : Option (String × String) :=
  if edge.isImmediate then
    match componentScc graph edge.source, componentScc graph edge.target with
    | some fromScc, some toScc =>
        if fromScc = toScc then none
        else some ((regionIds graph)[fromScc]?.getD "", (regionIds graph)[toScc]?.getD "")
    | _, _ => none
  else none

/-- Record one region edge; parallel edges count once. -/
def addRegionEdge (s : RegionEdges) (edge : String × String) : RegionEdges :=
  if edge.2 ∈ s.outgoing edge.1 then s
  else
    { outgoing := Function.update s.outgoing edge.1 (insertId edge.2 (s.outgoing edge.1))
      incoming := Function.update s.incoming edge.2 (insertId edge.1 (s.incoming edge.2))
      indegree := Function.update s.indegree edge.2 (s.indegree edge.2 + 1) }

def regionEdges (graph : GraphSpec) : RegionEdges :=
  (graph.edges.filterMap (regionEdgeOf graph)).foldl addRegionEdge {}

/-! ## Ordering -/

/-- `component_priority[component]`. -/
def componentPriority (graph : GraphSpec) (component : String) : Int :=
  graph.components.foldl
    (fun rank spec =>
      if spec.id = component then runtimePriorityRank spec.execution.priority else rank)
    0

/-- `region_priority_rank`: the highest rank among the components of the first
region with that id. -/
def regionPriorityRank (graph : GraphSpec) (regionId : String) : Int :=
  match (sccRegions graph).find? fun region => region.id = regionId with
  | none => 2
  | some region =>
      let rank := region.components.foldl
        (fun rank component => max rank (componentPriority graph component)) (-1)
      if rank < 0 then 2 else rank

/-- `sort_ready`: `std::stable_sort` by falling rank. -/
def sortReady (graph : GraphSpec) (ready : List String) : List String :=
  ready.insertionSort fun lhs rhs => regionPriorityRank graph rhs ≤ regionPriorityRank graph lhs

/-- The regions with their edges filled in. -/
def compiledRegions (graph : GraphSpec) : List CompiledGraphRegion :=
  (sccRegions graph).map fun region =>
    { region with
      outgoingRegions := (regionEdges graph).outgoing region.id
      incomingRegions := (regionEdges graph).incoming region.id }

/-- `region_order`, or `none` if the loop is still running. -/
def regionOrder (fuel : Nat) (graph : GraphSpec) : Option (List String) :=
  Kahn.order (regionEdges graph).outgoing (sortReady graph) (regionIds graph) fuel
    (regionEdges graph).indegree

/-- The text of the last error of the compilation. -/
def cyclicCondensationError : String :=
  "compiled immediate region graph is cyclic after SCC condensation"

/-- The errors of all the passes before the ordering. -/
def passErrors (graph : GraphSpec) : List String :=
  ownershipErrors graph ++ (immediateSccs graph).flatMap (regionErrors graph) ++
    unmatchedLoopErrors graph

/-- `compile_graph_impl`. -/
def compileGraphImpl (fuel : Nat) (graph : GraphSpec) : Option GraphCompileResult := do
  let order ← regionOrder fuel graph
  let errors := passErrors graph ++
    (if order.length ≠ (regionIds graph).length then [cyclicCondensationError] else [])
  return {
    ok := errors.isEmpty
    errors := errors
    plan := {
      regions := compiledRegions graph
      regionOrder := order
      componentRegion := componentRegion graph
      immediateSccs := immediateSccs graph } }

/-- `compile_graph(graph)` returns `result`. -/
def CompilesTo (graph : GraphSpec) (result : GraphCompileResult) : Prop :=
  ∃ fuel, compileGraphImpl fuel graph = some result

end TopoExec
