import TopoExec.Lib.Loop
import TopoExec.Graph.Compile

/-! # Graph validation

`validate_graph_impl`: the checks of the source in its order, each with the
error it adds. A pass over a list of the specification is a `Loop.report`; what
the source collects in sets on the way is read off the elements already passed.
Warnings and advisories never make a graph invalid and are left out, as are the
codes and paths of the diagnostics, which are computed from the error texts.

Components are user code. A `ComponentRegistry` gives the answers of the
registry: whether a type is registered, and what creating and describing a
component of that type returns for the `n`-th component of the graph. With no
registry the same checks are `validate_graph_structure`.

`std::stod` is the parameter `parseDouble`. A parsed number is a `Double`, which
keeps the values that compare differently from rational numbers apart.
-/

namespace TopoExec

/-! ## Allowed values -/

def isTimestampDomainValue (value : String) : Bool :=
  value ∈ ["steady", "system", "device", "external"]

def isAllowedSchedulerType (type : String) : Bool :=
  type ∈ ["fixed_rate", "event_loop", "thread_pool"]

def isAllowedChannelType (type : String) : Bool :=
  type ∈ ["latest", "queue", "ring_buffer", "latched", "barrier", "previous_tick"]

def isLatestStyleChannelType (type : String) : Bool :=
  type ∈ ["latest", "latched", "previous_tick"]

def isBackpressureDropPolicy (policy : String) : Bool := policy ∈ ["drop_newest", "block"]

def isAllowedDropPolicy (policy : String) : Bool :=
  policy ∈ ["overwrite", "drop_oldest", "drop_newest", "block", "fail_fast", "reject"]

def isAllowedLaneOverflow (policy : String) : Bool :=
  isAllowedDropPolicy policy || policy = "reject_new"

def isAllowedOverrunPolicy (policy : String) : Bool :=
  policy ∈ ["drop_tick", "skip_next", "catch_up_once"]

def isAllowedRuntimePriority (priority : String) : Bool :=
  priority ∈ ["", "background", "low", "normal", "high"]

def isAllowedCopyPolicy (policy : String) : Bool :=
  policy ∈ ["copy", "shared_view", "loaned_view", "move_only"]

def isAllowedOwner (owner : String) : Bool := owner ∈ ["producer", "runtime", "consumer"]

def isAllowedReaders (readers : String) : Bool := readers ∈ ["single", "multi", "multiple"]

def isAllowedEventSourceType (type : String) : Bool :=
  type ∈ ["message", "timer", "request", "task_ready", "future_ready", "manual"]

def isReservedEventSourceType (type : String) : Bool := type ∈ ["action_goal", "action_cancel"]

def isAllowedTriggerPolicyType (type : String) : Bool :=
  type ∈ ["on_event", "any_input", "all_inputs", "time_sync", "batch", "request", "task_ready",
    "manual", "watermark", "condition", "debounce", "rate_limit"]

def isAllowedTriggerCondition (condition : String) : Bool :=
  condition ∈ ["all_inputs_ready", "any_input_ready", "event_timestamp_present"]

def isAllowedLoopPolicyType (type : String) : Bool :=
  type ∈ ["fixed_point", "transaction", "solver_iteration", "coalesced_event", "async_task"]

def isAllowedLoopConvergence (convergence : String) : Bool :=
  convergence ∈ ["", "single_pass", "after_first_iteration", "always", "stable_state"]

def isAllowedLoopPartialSuccess (partialSuccess : String) : Bool :=
  partialSuccess ∈ ["", "commit_outputs", "discard_outputs", "fail_run"]

/-- `if (!condition) add_error(result, error)`. -/
def require (condition : Prop) [Decidable condition] (error : String) : List String :=
  if condition then [] else [error]

@[simp]
theorem require_eq_nil {condition : Prop} [Decidable condition] {error : String} :
    require condition error = [] ↔ condition := by
  unfold require
  split_ifs with h <;> simp [h]

/-! ## The graph and its lanes -/

def kTopoExecSchemaVersion : Int := 1

def headerErrors (graph : GraphSpec) : List String :=
  require (graph.schemaVersion = kTopoExecSchemaVersion)
      ("schema_version must be " ++ toString kTopoExecSchemaVersion) ++
    require (graph.name ≠ "") "graph.name must not be empty" ++
    (if graph.kind = "" then ["graph.kind must not be empty"]
      else require (graph.kind = "runnable" ∨ graph.kind = "internal_test")
        "graph.kind must be runnable or internal_test") ++
    require (graph.clock.runtimeDomain = "steady") "graph.clock.runtime_domain must be steady" ++
    require (isTimestampDomainValue graph.clock.eventDomain)
      ("graph.clock.event_domain has unsupported domain " ++ graph.clock.eventDomain)

def laneErrors (earlier : List LaneSpec) (lane : LaneSpec) : List String :=
  if lane.id = "" then ["lane id must not be empty"]
  else
    require (lane.id ∉ earlier.map LaneSpec.id) ("duplicate lane: " ++ lane.id) ++
    require (isAllowedSchedulerType lane.type)
      ("lane " ++ lane.id ++ " has unsupported type " ++ lane.type) ++
    require (0 ≤ lane.maxThreads) ("lane " ++ lane.id ++ " max_threads must be non-negative") ++
    require (0 ≤ lane.queueCapacity)
      ("lane " ++ lane.id ++ " queue_capacity must be non-negative") ++
    require (0 ≤ lane.periodMs) ("lane " ++ lane.id ++ " period_ms must be non-negative") ++
    require (0 ≤ lane.tickBudgetMs)
      ("lane " ++ lane.id ++ " tick_budget_ms must be non-negative") ++
    require (isAllowedLaneOverflow lane.overflow)
      ("lane " ++ lane.id ++ " has unsupported overflow " ++ lane.overflow) ++
    require (isAllowedOverrunPolicy lane.overrunPolicy)
      ("lane " ++ lane.id ++ " has unsupported overrun_policy " ++ lane.overrunPolicy)

/-- `lanes`, the set of the lane ids seen. -/
def laneIds (graph : GraphSpec) : List String :=
  (graph.lanes.map LaneSpec.id).filter (· ≠ "")

/-! ## Component descriptors -/

/-- A `double`: the values that are not numbers, or a rational number. -/
inductive Double where
  | nan
  | infinity (negative : Bool)
  | finite (value : Rat)
deriving DecidableEq, Repr

/-- `lhs < rhs`, false as soon as one of them is not a number. -/
def Double.lt : Double → Double → Bool
  | .nan, _ => false
  | _, .nan => false
  | .infinity negative, .infinity negative' => negative && !negative'
  | .infinity negative, .finite _ => negative
  | .finite _, .infinity negative => !negative
  | .finite value, .finite value' => value < value'

/-- The value is an integer in the range of `int`. -/
def Double.isInt : Double → Bool
  | .finite value => value.den = 1 && -2147483648 ≤ value && value ≤ 2147483647
  | _ => false

inductive PortMultiplicity where
  | single
  | multiple
deriving DecidableEq, Repr

structure PortDescriptor where
  name : String
  schema : String := ""
  payloadType : String := ""
  multiplicity : PortMultiplicity := .single
  required : Bool := false
deriving DecidableEq, Repr

inductive ConfigValueKind where
  | string
  | int
  | double
  | bool
deriving DecidableEq, Repr

structure ConfigFieldSpec where
  name : String
  kind : ConfigValueKind := .string
  required : Bool := false
  minValue : Option Double := none
  maxValue : Option Double := none
  enumValues : List String := []
  allowNested : Bool := false
deriving DecidableEq, Repr

/-- `schedulerLane` is the `lane` of the source's `scheduler`. -/
structure ComponentDescriptor where
  type : String
  role : ComponentRole := .processing
  configFields : List ConfigFieldSpec := []
  inputs : List PortDescriptor := []
  outputs : List PortDescriptor := []
  schedulerLane : String := ""
deriving DecidableEq, Repr

/-- `describe n type` is the descriptor of the component created for the `n`-th
node, or the text of the exception that creating or describing it throws. -/
structure ComponentRegistry where
  contains : String → Bool
  describe : Nat → String → Except String ComponentDescriptor

def ComponentRole.text : ComponentRole → String
  | .processing => "processing"
  | .inputBoundary => "input"
  | .outputBoundary => "output"
  | .inputOutputBoundary => "input_output"

def componentRoleHasInput (role : ComponentRole) : Bool :=
  role = .inputBoundary || role = .inputOutputBoundary

def componentRoleHasOutput (role : ComponentRole) : Bool :=
  role = .outputBoundary || role = .inputOutputBoundary

def boundaryRolesCompatible (graphRole descriptorRole : ComponentRole) : Bool :=
  if graphRole = .processing then true
  else if componentRoleHasInput graphRole && !componentRoleHasInput descriptorRole then false
  else if componentRoleHasOutput graphRole && !componentRoleHasOutput descriptorRole then false
  else true

def findPort (ports : List PortDescriptor) (name : String) : Option PortDescriptor :=
  ports.find? fun port => port.name = name

/-- `port_contracts_compatible`: the reason why the two do not fit, if any. -/
def portContractsReason (output input : PortDescriptor) : Option String :=
  if output.schema ≠ "" ∧ input.schema ≠ "" ∧ output.schema ≠ input.schema then
    some ("schema " ++ output.schema ++ " != " ++ input.schema)
  else if output.payloadType ≠ "" ∧ input.payloadType ≠ "" ∧
      output.payloadType ≠ input.payloadType then
    some ("payload_type " ++ output.payloadType ++ " != " ++ input.payloadType)
  else none

def configKindName : ConfigValueKind → String
  | .string => "string"
  | .int => "int"
  | .double => "double"
  | .bool => "bool"

section

variable (parseDouble : String → Option Double)

/-- The checks on a value of a numeric field. -/
def numericFieldErrors (place : String) (field : ConfigFieldSpec) (value : String) :
    List String :=
  match parseDouble value with
  | none => [place ++ " must be " ++ configKindName field.kind]
  | some numeric =>
      require (field.kind = .int → numeric.isInt) (place ++ " must be int") ++
      require (∀ bound ∈ field.minValue, ¬ numeric.lt bound) (place ++ " is below minimum") ++
      require (∀ bound ∈ field.maxValue, ¬ bound.lt numeric) (place ++ " is above maximum")

/-- One field of `validate_component_config`. -/
def configFieldErrors (component : ComponentNodeSpec) (field : ConfigFieldSpec) : List String :=
  let place := "component " ++ component.id ++ " config field " ++ field.name
  match component.config.values.lookup field.name with
  | none =>
      require (field.required = false)
        ("component " ++ component.id ++ " missing required config field " ++ field.name)
  | some value =>
      if field.name ∈ component.config.nestedValues ∧ field.allowNested = false then
        [place ++ " does not allow nested values"]
      else
        match field.kind with
        | .string =>
            require (field.enumValues = [] ∨ value ∈ field.enumValues)
              (place ++ " has unsupported enum value " ++ value)
        | .bool => require (value = "true" ∨ value = "false") (place ++ " must be bool true/false")
        | .int | .double => numericFieldErrors parseDouble place field value

def validateComponentConfig (component : ComponentNodeSpec) (descriptor : ComponentDescriptor) :
    List String :=
  descriptor.configFields.flatMap (configFieldErrors parseDouble component)

/-! ## Components -/

def eventSourceErrors (component : ComponentNodeSpec) (source : EventSourceSpec) : List String :=
  (if isReservedEventSourceType source.type then
      ["component " ++ component.id ++ " event_source.type " ++ source.type ++
        " is reserved but not implemented in schema v1"]
    else require (isAllowedEventSourceType source.type)
      ("component " ++ component.id ++ " has unsupported event_source.type " ++ source.type)) ++
  require (source.type = "timer" → 0 < source.periodMs)
    ("component " ++ component.id ++ " timer event_source requires positive period_ms") ++
  require (source.type = "message" → source.inputs ≠ [])
    ("component " ++ component.id ++ " message event_source requires at least one input")

/-- The policies that need an input as soon as there is a message source. -/
def inputDrivenPolicyTypes : List String :=
  ["on_event", "all_inputs", "any_input", "time_sync", "batch", "watermark", "condition",
    "debounce", "rate_limit"]

def triggerPolicyErrors (component : ComponentNodeSpec) : List String :=
  let policy := component.triggerPolicy
  require (isAllowedTriggerPolicyType policy.type)
    ("component " ++ component.id ++ " has unsupported trigger_policy.type " ++ policy.type) ++
  require (policy.type ∈ inputDrivenPolicyTypes → hasMessageEventSource component →
      triggerPolicyInputsFor component ≠ [])
    ("component " ++ component.id ++ " trigger_policy requires at least one input") ++
  require (0 ≤ policy.batchSize ∧ 0 ≤ policy.batchWindowMs ∧ 0 ≤ policy.syncSlopMs ∧
      0 ≤ policy.minIntervalMs ∧ 0 ≤ policy.maxLatencyMs ∧ 0 ≤ policy.watermarkLatenessMs ∧
      0 ≤ policy.debounceWindowMs)
    ("component " ++ component.id ++ " trigger_policy numeric fields must be non-negative") ++
  require (policy.debounceWindowMs ≤ 0)
    ("component " ++ component.id ++
      " trigger_policy.debounce_window_ms is reserved in schema v1 and must be 0") ++
  require (policy.type = "batch" → 0 < policy.batchSize ∨ 0 < policy.batchWindowMs)
    ("component " ++ component.id ++
      " batch trigger_policy requires batch_size or batch_window_ms") ++
  require (policy.type = "condition" → isAllowedTriggerCondition policy.condition)
    ("component " ++ component.id ++ " condition trigger_policy.condition must be one of " ++
      "all_inputs_ready, any_input_ready, or event_timestamp_present") ++
  require (policy.type = "rate_limit" → 0 < policy.minIntervalMs)
    ("component " ++ component.id ++
      " rate_limit trigger_policy requires positive min_interval_ms")

/-- The checks on a component that look at the specification only. -/
def componentSpecErrors (lanes : List String) (earlier : List ComponentNodeSpec)
    (component : ComponentNodeSpec) : List String :=
  require (component.id ∉ earlier.map ComponentNodeSpec.id)
    ("duplicate component: " ++ component.id) ++
  require (component.type ≠ "") ("component " ++ component.id ++ " type must not be empty") ++
  require (component.execution.lane ∈ lanes)
    ("component " ++ component.id ++ " references missing lane " ++ component.execution.lane) ++
  require (isAllowedRuntimePriority component.execution.priority)
    ("component " ++ component.id ++ " has unsupported execution.priority " ++
      component.execution.priority) ++
  require (component.execution.onError = "fail_fast")
    ("component " ++ component.id ++ " has unsupported execution.on_error " ++
      component.execution.onError ++ " (only fail_fast is implemented)") ++
  require (component.eventSources ≠ [])
    ("component " ++ component.id ++ " requires at least one event_source") ++
  component.eventSources.flatMap (eventSourceErrors component) ++
  require (¬ (hasTimerEventSource component ∧ hasMessageEventSource component))
    ("component " ++ component.id ++
      " cannot mix timer event_source with input-driven event_source types") ++
  triggerPolicyErrors component

/-- The checks that compare a component with its descriptor. -/
def descriptorErrors (component : ComponentNodeSpec) (descriptor : ComponentDescriptor) :
    List String :=
  require (descriptor.type = component.type)
    ("component " ++ component.id ++ " descriptor type mismatch: " ++ descriptor.type ++ " != " ++
      component.type) ++
  require (descriptor.schedulerLane = "" ∨ descriptor.schedulerLane = component.execution.lane)
    ("component " ++ component.id ++ " lane mismatch: descriptor " ++ descriptor.schedulerLane ++
      " != graph " ++ component.execution.lane) ++
  require (boundaryRolesCompatible component.boundaryRole descriptor.role)
    ("component " ++ component.id ++ " boundary role mismatch: graph " ++
      component.boundaryRole.text ++ " is incompatible with descriptor " ++
      descriptor.role.text) ++
  validateComponentConfig parseDouble component descriptor

/-- The probe of the `n`-th component. -/
def probeErrors (registry : ComponentRegistry) (n : Nat) (component : ComponentNodeSpec) :
    List String :=
  if !registry.contains component.type then
    ["component " ++ component.id ++ " type is not registered: " ++ component.type]
  else
    match registry.describe n component.type with
    | .error what => ["component " ++ component.id ++ " descriptor probe failed: " ++ what]
    | .ok descriptor => descriptorErrors parseDouble component descriptor

def componentErrors (registry : Option ComponentRegistry) (lanes : List String)
    (earlier : List ComponentNodeSpec) (component : ComponentNodeSpec) : List String :=
  if component.id = "" then ["component id must not be empty"]
  else
    componentSpecErrors lanes earlier component ++
      match registry with
      | none => []
      | some registry => probeErrors parseDouble registry earlier.length component

end

/-- `component_ids`. -/
def declaredIds (graph : GraphSpec) : List String :=
  (graph.components.map ComponentNodeSpec.id).filter (· ≠ "")

/-- `descriptors`, in the order in which they are found. -/
def descriptors (registry : Option ComponentRegistry) (graph : GraphSpec) :
    List (String × ComponentDescriptor) :=
  match registry with
  | none => []
  | some registry =>
      graph.components.zipIdx.filterMap fun (component, n) =>
        if component.id = "" ∨ !registry.contains component.type then none
        else (registry.describe n component.type).toOption.map fun found => (component.id, found)

/-- `descriptors.find(id)`: a later component of the same id replaces an earlier one. -/
def descriptorFor (found : List (String × ComponentDescriptor)) (id : String) :
    Option ComponentDescriptor :=
  found.reverse.lookup id

/-- `has_input_boundary` and `has_output_boundary`, for the two directions. -/
def hasBoundary (direction : ComponentRole → Bool) (registry : Option ComponentRegistry)
    (graph : GraphSpec) : Bool :=
  (graph.components.any fun component =>
      component.id ≠ "" && direction component.boundaryRole) ||
    (descriptors registry graph).any fun found => direction found.2.role

def boundaryErrors (registry : Option ComponentRegistry) (graph : GraphSpec) : List String :=
  if registry.isSome ∧ graph.kind = "runnable" then
    require (hasBoundary componentRoleHasInput registry graph)
        "runnable graph must declare at least one input boundary component" ++
      require (hasBoundary componentRoleHasOutput registry graph)
        "runnable graph must declare at least one output boundary component"
  else []

/-! ## Lifecycle dependencies -/

/-- `indexes`: the last component declared under an id. -/
def lifecycleIndex (graph : GraphSpec) (id : String) : Option Nat :=
  (graph.components.zipIdx.reverse.find? fun (component, _) => component.id = id).map Prod.snd

/-- The indexes that one component depends on, each dependency counted once. -/
def dependencyIndexes (graph : GraphSpec) (component : ComponentNodeSpec) : List Nat :=
  component.dependsOn.dedup.filterMap (lifecycleIndex graph)

def dependencyErrors (graph : GraphSpec) (component : ComponentNodeSpec) : List String :=
  Loop.report
    (fun earlier dependency =>
      if dependency ∈ earlier then
        ["component " ++ component.id ++ " has duplicate lifecycle dependency " ++ dependency]
      else require (lifecycleIndex graph dependency).isSome
        ("component " ++ component.id ++ " depends_on missing component " ++ dependency))
    [] component.dependsOn

/-- `dependents[index]`, in the order in which they are appended. -/
def dependents (graph : GraphSpec) (index : Nat) : List Nat :=
  (graph.components.zipIdx.filter fun (component, _) =>
    index ∈ dependencyIndexes graph component).map Prod.snd

/-- `indegrees[index]`. -/
def lifecycleIndegree (graph : GraphSpec) (index : Nat) : Nat :=
  ((graph.components[index]?).map fun component =>
    (dependencyIndexes graph component).length).getD 0

structure LifecycleOrderResult where
  errors : List String
  order : List Nat
deriving DecidableEq, Repr

/-- `compute_component_lifecycle_order`; `none` if `fuel` is too small. -/
def computeComponentLifecycleOrder (fuel : Nat) (graph : GraphSpec) :
    Option LifecycleOrderResult := do
  let order ← Kahn.order (dependents graph) id (List.range graph.components.length) fuel
    (lifecycleIndegree graph)
  return {
    errors := graph.components.flatMap (dependencyErrors graph) ++
      require (order.length = graph.components.length)
        "component depends_on graph contains a cycle"
    order := order }

/-! ## Edges -/

def edgePolicyErrors (edge : EdgeSpec) : List String :=
  let policy := edge.policy
  require (isAllowedChannelType policy.mode)
    ("edge " ++ edge.id ++ " has unsupported policy.mode " ++ policy.mode) ++
  require (0 < policy.capacity) ("edge " ++ edge.id ++ " policy.capacity must be positive") ++
  require (0 ≤ policy.maxInflight)
    ("edge " ++ edge.id ++ " policy.max_inflight must be non-negative") ++
  require (0 < policy.maxInflight → edge.kind = .async)
    ("edge " ++ edge.id ++ " policy.max_inflight applies only to async edges") ++
  require (isAllowedDropPolicy policy.overflow)
    ("edge " ++ edge.id ++ " has unsupported policy.overflow " ++ policy.overflow) ++
  require (¬ (isLatestStyleChannelType policy.mode ∧ isBackpressureDropPolicy policy.overflow))
    ("edge " ++ edge.id ++ " latest-style policy cannot use overflow " ++ policy.overflow) ++
  require (isTimestampDomainValue policy.timestampDomain)
    ("edge " ++ edge.id ++ " has unsupported policy.timestamp_domain " ++
      policy.timestampDomain) ++
  require (isAllowedCopyPolicy policy.copyPolicy)
    ("edge " ++ edge.id ++ " has unsupported policy.copy_policy " ++ policy.copyPolicy) ++
  require (isAllowedOwner policy.owner)
    ("edge " ++ edge.id ++ " has unsupported policy.owner " ++ policy.owner) ++
  require (isAllowedReaders policy.readers)
    ("edge " ++ edge.id ++ " has unsupported policy.readers " ++ policy.readers) ++
  require (policy.copyPolicy = "move_only" → policy.readers = "single")
    ("edge " ++ edge.id ++ " move_only copy_policy requires readers: single")

/-- The port of an edge in a descriptor, with the error if it is not there.
Without a descriptor or without a port name nothing is looked up. -/
def endpointPort (ports : Option (List PortDescriptor)) (endpoint error : String) :
    Option PortDescriptor × List String :=
  match ports with
  | none => (none, [])
  | some ports =>
      if portNameFromEndpoint endpoint = "" then (none, [])
      else
        match findPort ports (portNameFromEndpoint endpoint) with
        | none => (none, [error])
        | some port => (some port, [])

def edgePortErrors (found : List (String × ComponentDescriptor)) (edge : EdgeSpec) :
    List String :=
  let output := endpointPort
    ((descriptorFor found edge.source).map ComponentDescriptor.outputs) edge.fromEndpoint
    ("edge " ++ edge.id ++ " references missing output port " ++ edge.fromEndpoint)
  let input := endpointPort
    ((descriptorFor found edge.target).map ComponentDescriptor.inputs) edge.toEndpoint
    ("edge " ++ edge.id ++ " references missing input port " ++ edge.toEndpoint)
  output.2 ++ input.2 ++
    match output.1, input.1 with
    | some output, some input =>
        match portContractsReason output input with
        | none => []
        | some reason =>
            ["edge " ++ edge.id ++ " payload type mismatch: " ++ edge.fromEndpoint ++ " -> " ++
              edge.toEndpoint ++ " " ++ reason]
    | _, _ => []

/-- The edges that are looked at: one without an id is only reported. -/
def namedEdges (edges : List EdgeSpec) : List EdgeSpec := edges.filter fun edge => edge.id ≠ ""

def edgeErrors (ids : List String) (found : List (String × ComponentDescriptor))
    (earlier : List EdgeSpec) (edge : EdgeSpec) : List String :=
  if edge.id = "" then ["edge id must not be empty"]
  else
    require (edge.id ∉ earlier.map EdgeSpec.id) ("duplicate edge: " ++ edge.id) ++
    (if !edge.hasKind then ["edge " ++ edge.id ++ " kind is required"]
      else require (edge.invalidKind = "")
        ("edge " ++ edge.id ++ " has unsupported kind " ++ edge.invalidKind)) ++
    edgePolicyErrors edge ++
    require (edge.source ∈ ids)
      ("edge " ++ edge.id ++ " references missing source component " ++ edge.source) ++
    require (edge.target ∈ ids)
      ("edge " ++ edge.id ++ " references missing target component " ++ edge.target) ++
    require (edge.fromEndpoint ∈ (namedEdges earlier).map EdgeSpec.fromEndpoint →
        edge.policy.owner ≠ "producer")
      ("source endpoint has multiple producer-owned edges: " ++ edge.fromEndpoint) ++
    edgePortErrors found edge

/-- `state_writers_by_target`, in the order of its keys. -/
def stateWriterErrors (graph : GraphSpec) : List String :=
  let edges := (namedEdges graph.edges).filter fun edge => edge.kind = .state
  let targets := edges.foldl (fun targets edge => insertId edge.toEndpoint targets) []
  targets.flatMap fun target =>
    let writers := (edges.filter fun edge => edge.toEndpoint = target).map EdgeSpec.id
    require (writers.length ≤ 1)
      ("state edge target has multiple writers: " ++ target ++ " via " ++ joinIds writers)

/-! ## Inputs -/

/-- `target_endpoint_counts[endpoint]`. -/
def targetEndpointCount (graph : GraphSpec) (endpoint : String) : Nat :=
  (namedEdges graph.edges).countP fun edge => edge.toEndpoint = endpoint

def requiredInputErrors (graph : GraphSpec) (component : ComponentNodeSpec)
    (input : PortDescriptor) : List String :=
  if input.name = "" then []
  else if targetEndpointCount graph (endpointOf component.id input.name) = 0 then
    require (input.required = false)
      ("component " ++ component.id ++ " missing required input " ++ input.name)
  else
    require (input.multiplicity = .single →
        targetEndpointCount graph (endpointOf component.id input.name) ≤ 1)
      ("component " ++ component.id ++ " input " ++ input.name ++
        " multiplicity single has multiple incoming edges")

def componentInputErrors (found : List (String × ComponentDescriptor)) (graph : GraphSpec)
    (component : ComponentNodeSpec) : List String :=
  match descriptorFor found component.id with
  | none => []
  | some descriptor => descriptor.inputs.flatMap (requiredInputErrors graph component)

/-- `target_endpoints`. -/
def targetEndpoints (graph : GraphSpec) : List String :=
  (namedEdges graph.edges).map EdgeSpec.toEndpoint

def triggerInputErrors (graph : GraphSpec) (component : ComponentNodeSpec) : List String :=
  (triggerPolicyInputsFor component).flatMap fun input =>
    require (endpointOf component.id input ∈ targetEndpoints graph)
      ("component " ++ component.id ++ " trigger input has no incoming edge: " ++ input)

/-! ## Composite loops and subgraphs -/

def loopErrors (loop : CompositeLoopSpec) : List String :=
  let policy := loop.loopPolicy
  require (isAllowedLoopPolicyType policy.type)
    ("composite_loop " ++ loop.id ++ " has unsupported loop_policy.type " ++ policy.type) ++
  require (0 ≤ policy.budgetMs ∧ 0 ≤ policy.maxIterations ∧ 0 ≤ policy.maxInflight ∧
      0 ≤ policy.minIntervalMs)
    ("composite_loop " ++ loop.id ++ " numeric policy fields must be non-negative") ++
  require (∀ threshold ∈ policy.residualThreshold, 0 ≤ threshold)
    ("composite_loop " ++ loop.id ++ " residual_threshold must be non-negative") ++
  require (isAllowedLoopConvergence policy.convergence)
    ("composite_loop " ++ loop.id ++ " has unsupported loop_policy.convergence " ++
      policy.convergence) ++
  require (isAllowedLoopPartialSuccess policy.partialSuccess)
    ("composite_loop " ++ loop.id ++ " has unsupported loop_policy.partial_success " ++
      policy.partialSuccess)

/-- The references of a subgraph to the things of one kind. -/
def expandedErrors (hierarchyId kind : String) (known references : List String) : List String :=
  references.flatMap fun reference =>
    require (reference ∈ known)
      ("subgraph " ++ hierarchyId ++ " references missing expanded " ++ kind ++ " " ++ reference)

def hierarchyErrors (graph : GraphSpec) (earlier : List GraphHierarchyEntry)
    (hierarchy : GraphHierarchyEntry) : List String :=
  if hierarchy.id = "" then ["subgraph id must not be empty"]
  else
    require (hierarchy.id ∉ earlier.map GraphHierarchyEntry.id)
      ("duplicate subgraph: " ++ hierarchy.id) ++
    expandedErrors hierarchy.id "component" (declaredIds graph) hierarchy.components ++
    expandedErrors hierarchy.id "edge" ((namedEdges graph.edges).map EdgeSpec.id)
      hierarchy.edges ++
    expandedErrors hierarchy.id "composite_loop" (graph.compositeLoops.map CompositeLoopSpec.id)
      hierarchy.compositeLoops

/-! ## The whole validation -/

structure GraphValidationResult where
  ok : Bool
  errors : List String
  compiledPlan : GraphCompiledPlan := {}

/-- A graph with a repeated component id is not compiled. -/
def compileForValidation (fuel : Nat) (graph : GraphSpec) : Option GraphCompileResult :=
  if (declaredIds graph).Nodup then compileGraphImpl fuel graph else some {}

/-- The errors of all the passes, in their order. -/
def validationErrors (parseDouble : String → Option Double) (registry : Option ComponentRegistry)
    (graph : GraphSpec) (lifecycleErrors compileErrors : List String) : List String :=
  headerErrors graph ++
  Loop.report laneErrors [] graph.lanes ++
  Loop.report (componentErrors parseDouble registry (laneIds graph)) [] graph.components ++
  lifecycleErrors ++
  boundaryErrors registry graph ++
  Loop.report (edgeErrors (declaredIds graph) (descriptors registry graph)) [] graph.edges ++
  stateWriterErrors graph ++
  graph.components.flatMap (componentInputErrors (descriptors registry graph) graph) ++
  graph.components.flatMap (triggerInputErrors graph) ++
  graph.compositeLoops.flatMap loopErrors ++
  Loop.report (hierarchyErrors graph) [] graph.hierarchy ++
  compileErrors

/-- `validate_graph_impl`; `none` if `fuel` is too small for the two orderings. -/
def validateGraphImpl (fuel : Nat) (parseDouble : String → Option Double)
    (registry : Option ComponentRegistry) (graph : GraphSpec) : Option GraphValidationResult := do
  let lifecycle ← computeComponentLifecycleOrder fuel graph
  let compile ← compileForValidation fuel graph
  let errors := validationErrors parseDouble registry graph lifecycle.errors compile.errors
  return { ok := errors.isEmpty, errors := errors, compiledPlan := compile.plan }

def validateGraphStructure (fuel : Nat) (graph : GraphSpec) : Option GraphValidationResult :=
  validateGraphImpl fuel (fun _ => none) none graph

def validateGraph (fuel : Nat) (parseDouble : String → Option Double)
    (registry : ComponentRegistry) (graph : GraphSpec) : Option GraphValidationResult :=
  validateGraphImpl fuel parseDouble (some registry) graph

end TopoExec
