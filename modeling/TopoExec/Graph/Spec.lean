import Mathlib.Data.String.Basic
import Mathlib.Data.List.Sort
import Mathlib.Data.List.TakeWhile

/-! # Graph specifications

`GraphSpec` as validation, compilation, the channel bus, the publication router,
the trigger engine and the runtime read it. Left out are the fields that only
rendering, advisories or a wall-clock lane look at.
-/

namespace TopoExec

/-- `enum class EdgeKind`. -/
inductive EdgeKind where
  | immediate
  | delay
  | state
  | async
deriving DecidableEq, Repr

structure EdgePolicySpec where
  mode : String := "latest"
  capacity : Int := 1
  overflow : String := "overwrite"
  lifespanMs : Int := 0
  deadlineMs : Int := 0
  maxInflight : Int := 0
  copyPolicy : String := "copy"
  readers : String := "single"
  timestampDomain : String := "steady"
  owner : String := "runtime"
deriving DecidableEq, Repr

structure EdgeSpec where
  id : String
  fromEndpoint : String
  toEndpoint : String
  kind : EdgeKind := .immediate
  hasKind : Bool := false
  invalidKind : String := ""
  policy : EdgePolicySpec := {}
deriving DecidableEq, Repr

/-- `residualThreshold` is a finite `double` of the source. -/
structure LoopPolicySpec where
  type : String := ""
  budgetMs : Int := 0
  maxIterations : Int := 0
  convergence : String := ""
  residualThreshold : Option Rat := none
  partialSuccess : String := ""
  maxInflight : Int := 0
  minIntervalMs : Int := 0
deriving DecidableEq, Repr

structure CompositeLoopSpec where
  id : String
  components : List String
  loopPolicy : LoopPolicySpec := {}
deriving DecidableEq, Repr

structure ExecutionSpec where
  lane : String := ""
  reentrant : Bool := false
  priority : String := "normal"
  budgetMs : Int := 0
  onError : String := "fail_fast"
deriving DecidableEq, Repr

structure EventSourceSpec where
  id : String := ""
  type : String := "manual"
  inputs : List String := []
  periodMs : Int := 0
deriving DecidableEq, Repr

structure TriggerPolicySpec where
  type : String := "manual"
  inputs : List String := []
  batchSize : Int := 0
  batchWindowMs : Int := 0
  syncSlopMs : Int := 0
  minIntervalMs : Int := 0
  maxLatencyMs : Int := 0
  watermarkLatenessMs : Int := 0
  debounceWindowMs : Int := 0
  condition : String := "all_inputs_ready"
  coalesce : Bool := false
deriving DecidableEq, Repr

/-- `enum class ComponentRole`. -/
inductive ComponentRole where
  | processing
  | inputBoundary
  | outputBoundary
  | inputOutputBoundary
deriving DecidableEq, Repr

/-- `values` lists the entries of the source's map, each key once. -/
structure ConfigView where
  values : List (String × String) := []
  nestedValues : List String := []
deriving DecidableEq, Repr

/-- `boundaryRole` is the `role` of the source's `boundary`. -/
structure ComponentNodeSpec where
  id : String
  execution : ExecutionSpec := {}
  type : String := ""
  eventSources : List EventSourceSpec := []
  triggerPolicy : TriggerPolicySpec := {}
  dependsOn : List String := []
  boundaryRole : ComponentRole := .processing
  config : ConfigView := {}
deriving DecidableEq, Repr

structure LaneSpec where
  id : String
  type : String := ""
  maxThreads : Int := 0
  queueCapacity : Int := 0
  overflow : String := "reject"
  periodMs : Int := 0
  tickBudgetMs : Int := 0
  overrunPolicy : String := "drop_tick"
deriving DecidableEq, Repr

structure GraphHierarchyEntry where
  id : String
  components : List String := []
  edges : List String := []
  compositeLoops : List String := []
deriving DecidableEq, Repr

structure ClockPolicySpec where
  runtimeDomain : String := "steady"
  eventDomain : String := "steady"
deriving DecidableEq, Repr

structure GraphSpec where
  components : List ComponentNodeSpec := []
  edges : List EdgeSpec := []
  compositeLoops : List CompositeLoopSpec := []
  schemaVersion : Int := 0
  name : String := ""
  kind : String := "internal_test"
  clock : ClockPolicySpec := {}
  lanes : List LaneSpec := []
  hierarchy : List GraphHierarchyEntry := []
deriving DecidableEq, Repr

/-! ## Endpoints

An endpoint is `component.port`; the last dot separates the two, so a
component id may itself contain dots. -/

/-- The text before the last dot, or the whole endpoint without one. -/
def componentIdFromEndpoint (endpoint : String) : String :=
  match endpoint.toList.reverse.dropWhile (· ≠ '.') with
  | [] => endpoint
  | _ :: component => String.ofList component.reverse

/-- The text after the last dot, or nothing without one. -/
def portNameFromEndpoint (endpoint : String) : String :=
  if '.' ∈ endpoint.toList then
    String.ofList (endpoint.toList.reverse.takeWhile (· ≠ '.')).reverse
  else ""

/-- The component that an edge starts from. -/
def EdgeSpec.source (edge : EdgeSpec) : String := componentIdFromEndpoint edge.fromEndpoint

/-- The component that an edge leads to. -/
def EdgeSpec.target (edge : EdgeSpec) : String := componentIdFromEndpoint edge.toEndpoint

/-- `component_id + "." + port`. -/
def endpointOf (component port : String) : String := component ++ "." ++ port

theorem dropWhile_ne_append {cs ds : List Char} (h : '.' ∉ cs) :
    (cs ++ '.' :: ds).dropWhile (· ≠ '.') = '.' :: ds := by
  induction cs with
  | nil => simp
  | cons c cs ih =>
      rw [List.mem_cons, not_or] at h
      have hc : c ≠ '.' := fun hc => h.1 hc.symm
      have := ih h.2
      simp_all

/-- A port name without dots parses back to the component it was appended to. -/
theorem componentIdFromEndpoint_endpointOf {component port : String}
    (h : '.' ∉ port.toList) :
    componentIdFromEndpoint (endpointOf component port) = component := by
  have hdrop : (endpointOf component port).toList.reverse.dropWhile (· ≠ '.') =
      '.' :: component.toList.reverse := by
    have hlist : (endpointOf component port).toList.reverse =
        port.toList.reverse ++ '.' :: component.toList.reverse := by
      simp [endpointOf]
    rw [hlist]
    exact dropWhile_ne_append (by simpa using h)
  unfold componentIdFromEndpoint
  rw [hdrop]
  simp

example : componentIdFromEndpoint "cell.arm.out" = "cell.arm" := by decide

theorem takeWhile_ne_append {cs ds : List Char} (h : '.' ∉ cs) :
    (cs ++ '.' :: ds).takeWhile (· ≠ '.') = cs := by
  induction cs with
  | nil => simp
  | cons c cs ih =>
      rw [List.mem_cons, not_or] at h
      have hc : c ≠ '.' := fun hc => h.1 hc.symm
      have := ih h.2
      simp_all

/-- A port name without dots is what comes after the last dot. -/
theorem portNameFromEndpoint_endpointOf {component port : String} (h : '.' ∉ port.toList) :
    portNameFromEndpoint (endpointOf component port) = port := by
  have hlist : (endpointOf component port).toList =
      component.toList ++ '.' :: port.toList := by
    simp [endpointOf]
  have hreverse : (endpointOf component port).toList.reverse =
      port.toList.reverse ++ '.' :: component.toList.reverse := by
    rw [hlist]
    simp
  unfold portNameFromEndpoint
  rw [hreverse, takeWhile_ne_append (by simpa using h), if_pos (by rw [hlist]; simp)]
  simp

theorem portNameFromEndpoint_no_dot (endpoint : String) :
    '.' ∉ (portNameFromEndpoint endpoint).toList := by
  unfold portNameFromEndpoint
  split_ifs
  · intro hdot
    rw [String.toList_ofList, List.mem_reverse] at hdot
    simpa using List.mem_takeWhile_imp hdot
  · simp

/-- An endpoint without a dot is all component. -/
theorem componentIdFromEndpoint_of_no_dot {endpoint : String} (h : '.' ∉ endpoint.toList) :
    componentIdFromEndpoint endpoint = endpoint := by
  have hdrop : endpoint.toList.reverse.dropWhile (· ≠ '.') = [] := by
    rw [List.dropWhile_eq_nil_iff]
    intro c hc
    have hne : c ≠ '.' := fun hdot => h (hdot ▸ List.mem_reverse.mp hc)
    simp [hne]
  unfold componentIdFromEndpoint
  rw [hdrop]

/-- An endpoint with a dot is its component and its port. -/
theorem endpointOf_parsed {endpoint : String} (h : '.' ∈ endpoint.toList) :
    endpointOf (componentIdFromEndpoint endpoint) (portNameFromEndpoint endpoint) = endpoint := by
  have hsplit : endpoint.toList.reverse.takeWhile (· ≠ '.') ++
      endpoint.toList.reverse.dropWhile (· ≠ '.') = endpoint.toList.reverse :=
    List.takeWhile_append_dropWhile
  unfold componentIdFromEndpoint portNameFromEndpoint
  rw [if_pos h]
  cases hdrop : endpoint.toList.reverse.dropWhile (· ≠ '.') with
  | nil =>
      have hall := List.dropWhile_eq_nil_iff.mp hdrop '.' (List.mem_reverse.mpr h)
      simp at hall
  | cons c component =>
      -- the search stops at a dot
      have hc : c = '.' := by
        have hhead := List.head?_dropWhile_not (· ≠ '.') endpoint.toList.reverse
        rw [hdrop] at hhead
        simpa using hhead
      subst hc
      rw [hdrop] at hsplit
      have hback := congrArg List.reverse hsplit
      rw [List.reverse_append, List.reverse_cons, List.reverse_reverse] at hback
      apply String.toList_injective
      simp only [endpointOf, String.toList_append, String.toList_ofList]
      exact hback

/-! ## Event sources and trigger inputs -/

def isTimerEventSource (source : EventSourceSpec) : Bool := source.type = "timer"

def isMessageEventSource (source : EventSourceSpec) : Bool :=
  source.type = "message" || source.type = "request" || source.type = "task_ready" ||
    source.type = "future_ready"

def hasTimerEventSource (component : ComponentNodeSpec) : Bool :=
  component.eventSources.any isTimerEventSource

def hasMessageEventSource (component : ComponentNodeSpec) : Bool :=
  component.eventSources.any isMessageEventSource

/-- The inputs of the trigger policy, or those of all the event sources. -/
def triggerPolicyInputsFor (component : ComponentNodeSpec) : List String :=
  if component.triggerPolicy.inputs ≠ [] then component.triggerPolicy.inputs
  else component.eventSources.flatMap EventSourceSpec.inputs

/-- `runtime_priority_rank`: unknown and empty priorities count as normal. -/
def runtimePriorityRank (priority : String) : Int :=
  if priority = "high" then 3
  else if priority = "low" then 1
  else if priority = "background" then 0
  else 2

end TopoExec
