import TopoExec.Loader.Node

/-! # Reading the parts of a graph

The readers of `graph_io.cpp` for components, edges, composite loops and lanes. What they
return are the specifications of `TopoExec.Graph.Spec` and the fields that these leave out.
-/

namespace TopoExec

namespace GraphIo

/-! ## What is read -/

/-- `sourceInputs` are the `input` fields of the event sources, in their order. -/
structure LoadedComponent extends ComponentNodeSpec where
  sourceInputs : List String := []
  triggerInput : String := ""
  boundaryDescriptor : String := ""
deriving DecidableEq, Repr

structure LoadedEdgePolicy extends EdgePolicySpec where
  preserveOrder : Bool := true
  allowDrop : Bool := true
  emitHealthEvents : Bool := true
deriving DecidableEq, Repr

/-- The last three are fields of the policy. -/
structure LoadedEdge extends EdgeSpec where
  preserveOrder : Bool := true
  allowDrop : Bool := true
  emitHealthEvents : Bool := true
deriving DecidableEq, Repr

/-- `dropPolicy` is a field of the policy. -/
structure LoadedLoop extends CompositeLoopSpec where
  dropPolicy : String := ""
deriving DecidableEq, Repr

structure LoadedLane extends LaneSpec where
  hz : Rat := 0
  priority : String := ""
  maxCallbackMs : Int := 0
  wallClockEnabled : Bool := false
  threadName : String := ""
  cpuAffinity : List Int := []
  nicePriority : Int := 0
  rtPolicy : String := "none"
  rtPriority : Int := 0
  isolationIntent : String := "none"
deriving DecidableEq, Repr

/-! ## Parts with a name of their own -/

def parseEdgeKind (kind : String) : Option EdgeKind :=
  if kind = "immediate" then some .immediate
  else if kind = "delay" then some .delay
  else if kind = "state" then some .state
  else if kind = "async" then some .async
  else none

def parseComponentRole (value : String) : Option ComponentRole :=
  if value = "processing" then some .processing
  else if value = "input" then some .inputBoundary
  else if value = "output" then some .outputBoundary
  else if value = "input_output" then some .inputOutputBoundary
  else none

/-- An `input` stands for a list of inputs that is not given. -/
def effectiveInputs (input : String) (inputs : List String) : List String :=
  if input ≠ "" ∧ inputs = [] then [input] else inputs

section

variable (limits : LoaderLimits) (library : YamlLibrary)

def checkedId (value context : String) : Except LoadError String :=
  orInvalid (checkedIdentifier limits.toGraphInputLimits value context)

/-! ## Configurations -/

mutual

/-- A null is in bounds at any depth. -/
def enforceConfigLimits (context : String) (depth : Nat) : YamlNode → Except LoadError Unit
  | .null => .ok ()
  | .scalar text => do
      enforceLimit depth limits.maxConfigDepth (context ++ " depth")
      enforceLimit text.utf8ByteSize limits.maxConfigValueBytes (context ++ " value size")
  | .sequence items => do
      enforceLimit depth limits.maxConfigDepth (context ++ " depth")
      enforceConfigItems context (depth + 1) 0 items
  | .map entries => do
      enforceLimit depth limits.maxConfigDepth (context ++ " depth")
      enforceConfigEntries context (depth + 1) entries

def enforceConfigItems (context : String) (depth index : Nat) :
    List YamlNode → Except LoadError Unit
  | [] => .ok ()
  | item :: rest => do
      enforceConfigLimits (atIndex context index) depth item
      enforceConfigItems context depth (index + 1) rest

def enforceConfigEntries (context : String) (depth : Nat) :
    List (YamlNode × YamlNode) → Except LoadError Unit
  | [] => .ok ()
  | (name, value) :: rest => do
      let key ← name.asString
      enforceLimit key.utf8ByteSize limits.maxIdentifierBytes (context ++ " key length")
      enforceConfigLimits (context ++ "." ++ key) depth value
      enforceConfigEntries context depth rest

end

/-- The loop body of `read_config_node`: nested values are kept as the text that the
library prints for them. -/
def readConfigEntry (context : String) (view : ConfigView) (entry : YamlNode × YamlNode) :
    Except LoadError ConfigView := do
  let key ← entry.1.asString
  if entry.2.isMap || entry.2.isSequence then
    enforceLimit (library.emit entry.2).utf8ByteSize limits.maxConfigValueBytes
      (context ++ "." ++ key ++ " serialized value size")
    return {
      values := OrderedMap.put key (library.emit entry.2) view.values
      nestedValues :=
        if key ∈ view.nestedValues then view.nestedValues
        else view.nestedValues.orderedInsert (· ≤ ·) key }
  else
    let value ← entry.2.asString
    return { view with values := OrderedMap.put key value view.values }

/-- `config` is the node, if it is there and not null. -/
def readConfigNode (config : Option YamlNode) (context : String) : Except LoadError ConfigView :=
  match config with
  | none => .ok {}
  | some node => do
      let entries ← requireMap node context
      enforceConfigLimits limits context 0 node
      entries.foldlM (readConfigEntry limits library context) {}

/-! ## Components -/

def readEventSource (context : String) (node : YamlNode) :
    Except LoadError (EventSourceSpec × String) := do
  let _ ← requireMap node context
  rejectUnknownFields node context ["id", "type", "inputs", "input", "period_ms"]
  let id ← optionalString node "id"
  let type ← optionalString node "type" "manual"
  let inputs ← optionalStringVector node "inputs" context
  let input ← optionalString node "input"
  let periodMs ← optionalInt library node "period_ms"
  return ({ id := id, type := type, inputs := effectiveInputs input inputs, periodMs := periodMs },
    input)

def readEventSources (node : YamlNode) (componentId : String) :
    Except LoadError (List (EventSourceSpec × String)) := do
  match ← node.field "event_sources" with
  | none => return [({}, "")]
  | some sources =>
      let context := "components." ++ componentId ++ ".event_sources"
      let items ← requireSequence sources context
      items.zipIdx.mapM fun item => readEventSource library (atIndex context item.2) item.1

def readTriggerPolicy (node : YamlNode) (componentId : String) :
    Except LoadError (TriggerPolicySpec × String) := do
  match ← node.field "trigger_policy" with
  | none => return ({}, "")
  | some policy =>
      let context := "components." ++ componentId ++ ".trigger_policy"
      let _ ← requireMap policy context
      rejectUnknownFields policy context
        ["type", "inputs", "input", "batch_size", "batch_window_ms", "sync_slop_ms",
          "min_interval_ms", "max_latency_ms", "watermark_lateness_ms", "debounce_window_ms",
          "condition", "coalesce"]
      let type ← optionalString policy "type" "manual"
      let inputs ← optionalStringVector policy "inputs" context
      let input ← optionalString policy "input"
      let batchSize ← optionalInt library policy "batch_size"
      let batchWindowMs ← optionalInt library policy "batch_window_ms"
      let syncSlopMs ← optionalInt library policy "sync_slop_ms"
      let minIntervalMs ← optionalInt library policy "min_interval_ms"
      let maxLatencyMs ← optionalInt library policy "max_latency_ms"
      let watermarkLatenessMs ← optionalInt library policy "watermark_lateness_ms"
      let debounceWindowMs ← optionalInt library policy "debounce_window_ms"
      let condition ← optionalString policy "condition" "all_inputs_ready"
      let coalesce ← optionalBool library policy "coalesce"
      return (
        { type := type, inputs := effectiveInputs input inputs, batchSize := batchSize
          batchWindowMs := batchWindowMs, syncSlopMs := syncSlopMs
          minIntervalMs := minIntervalMs, maxLatencyMs := maxLatencyMs
          watermarkLatenessMs := watermarkLatenessMs, debounceWindowMs := debounceWindowMs
          condition := condition, coalesce := coalesce },
        input)

def readExecutionSpec (node : YamlNode) (componentId : String) :
    Except LoadError ExecutionSpec := do
  let execution ← requireNode node "execution" ("components." ++ componentId)
  let context := "components." ++ componentId ++ ".execution"
  let _ ← requireMap execution context
  rejectUnknownFields execution context ["lane", "reentrant", "priority", "budget_ms", "on_error"]
  let lane ← requireString execution "lane" context
  let reentrant ← optionalBool library execution "reentrant"
  let priority ← optionalString execution "priority" "normal"
  let budgetMs ← optionalInt library execution "budget_ms"
  let onError ← optionalString execution "on_error" "fail_fast"
  return {
    lane := lane, reentrant := reentrant, priority := priority, budgetMs := budgetMs
    onError := onError }

def readBoundaryDescriptor (node : YamlNode) (componentId : String) :
    Except LoadError (ComponentRole × String) := do
  match ← node.field "boundary" with
  | none => return (.processing, "")
  | some boundary =>
      let context := "components." ++ componentId ++ ".boundary"
      let _ ← requireMap boundary context
      rejectUnknownFields boundary context ["role", "descriptor"]
      match parseComponentRole (← optionalString boundary "role" "processing") with
      | none => invalid (context ++ ".role has unsupported value")
      | some role => return (role, ← optionalString boundary "descriptor")

def readComponentNode (node : YamlNode) (componentId context : String) :
    Except LoadError LoadedComponent := do
  let _ ← requireMap node context
  let id ← checkedId limits componentId (context ++ ".id")
  let place := "components." ++ id
  rejectUnknownFields node place
    ["id", "type", "event_sources", "trigger_policy", "execution", "depends_on", "boundary",
      "config"]
  let type ← requireString node "type" place
  let sources ← readEventSources library node id
  let trigger ← readTriggerPolicy library node id
  let execution ← readExecutionSpec library node id
  let dependsOn ← optionalStringVector node "depends_on" place
  let boundary ← readBoundaryDescriptor node id
  let config ← readConfigNode limits library (← node.field "config") (place ++ ".config")
  return {
    id := id
    execution := execution
    type := type
    eventSources := sources.map Prod.fst
    triggerPolicy := trigger.1
    dependsOn := dependsOn
    boundaryRole := boundary.1
    config := config
    sourceInputs := sources.map Prod.snd
    triggerInput := trigger.2
    boundaryDescriptor := boundary.2 }

/-! ## Edges -/

def readEdgePolicy (node : YamlNode) (edgeId : String) : Except LoadError LoadedEdgePolicy := do
  match ← node.field "policy" with
  | none => return {}
  | some policy =>
      let context := "edges." ++ edgeId ++ ".policy"
      let _ ← requireMap policy context
      rejectUnknownFields policy context
        ["mode", "capacity", "overflow", "lifespan_ms", "deadline_ms", "max_inflight",
          "preserve_order", "allow_drop", "emit_health_events", "timestamp_domain", "copy_policy",
          "owner", "readers"]
      let mode ← optionalString policy "mode" "latest"
      let capacity ← optionalInt library policy "capacity" 1
      let overflow ← optionalString policy "overflow" "overwrite"
      let lifespanMs ← optionalInt library policy "lifespan_ms"
      let deadlineMs ← optionalInt library policy "deadline_ms"
      let maxInflight ← optionalInt library policy "max_inflight"
      let preserveOrder ← optionalBool library policy "preserve_order" true
      let allowDrop ← optionalBool library policy "allow_drop" true
      let emitHealthEvents ← optionalBool library policy "emit_health_events" true
      let timestampDomain ← optionalString policy "timestamp_domain" "steady"
      let copyPolicy ← optionalString policy "copy_policy" "copy"
      let owner ← optionalString policy "owner" "runtime"
      let readers ← optionalString policy "readers" "single"
      return {
        mode := mode, capacity := capacity, overflow := overflow, lifespanMs := lifespanMs
        deadlineMs := deadlineMs, maxInflight := maxInflight, copyPolicy := copyPolicy
        readers := readers, timestampDomain := timestampDomain, owner := owner
        preserveOrder := preserveOrder, allowDrop := allowDrop
        emitHealthEvents := emitHealthEvents }

/-- A kind that is none of the four is kept as a text, for validation to report. -/
def invalidKindOf (kind : Option String) : String :=
  match kind with
  | none => ""
  | some kind => if parseEdgeKind kind = none then kind else ""

def readEdgeNode (node : YamlNode) (edgeId context : String) : Except LoadError LoadedEdge := do
  let _ ← requireMap node context
  let id ← checkedId limits edgeId (context ++ ".id")
  let place := "edges." ++ id
  rejectUnknownFields node place ["id", "from", "to", "kind", "policy"]
  let fromEndpoint ← requireString node "from" place
  let toEndpoint ← requireString node "to" place
  let kind ← (← node.field "kind").mapM YamlNode.asString
  let policy ← readEdgePolicy library node id
  return {
    id := id
    fromEndpoint := fromEndpoint
    toEndpoint := toEndpoint
    kind := (kind.bind parseEdgeKind).getD .immediate
    hasKind := kind.isSome
    invalidKind := invalidKindOf kind
    policy := policy.toEdgePolicySpec
    preserveOrder := policy.preserveOrder
    allowDrop := policy.allowDrop
    emitHealthEvents := policy.emitHealthEvents }

/-! ## Composite loops -/

def readLoopPolicy (node : YamlNode) (context : String) :
    Except LoadError (LoopPolicySpec × String) := do
  let _ ← requireMap node context
  rejectUnknownFields node context
    ["type", "budget_ms", "max_iterations", "max_inflight", "drop_policy", "min_interval_ms",
      "convergence", "residual_threshold", "partial_success"]
  let type ← requireString node "type" context
  let budgetMs ← optionalInt library node "budget_ms"
  let maxIterations ← optionalInt library node "max_iterations"
  let maxInflight ← optionalInt library node "max_inflight"
  let dropPolicy ← optionalString node "drop_policy"
  let minIntervalMs ← optionalInt library node "min_interval_ms"
  let convergence ← optionalString node "convergence"
  let residualThreshold ← (← node.field "residual_threshold").mapM
    (YamlNode.convert library.doubleOf)
  let partialSuccess ← optionalString node "partial_success"
  return (
    { type := type, budgetMs := budgetMs, maxIterations := maxIterations
      convergence := convergence, residualThreshold := residualThreshold
      partialSuccess := partialSuccess, maxInflight := maxInflight
      minIntervalMs := minIntervalMs },
    dropPolicy)

def readCompositeLoop (node : YamlNode) (context : String) : Except LoadError LoadedLoop := do
  let _ ← requireMap node context
  rejectUnknownFields node context ["id", "components", "loop_policy"]
  let id ← checkedId limits (← requireString node "id" context) (context ++ ".id")
  let components ← optionalStringVector node "components" context
  Check.refuse (components = [])
    (.invalidArgument (context ++ ".components must contain at least one component"))
  let policy ← readLoopPolicy library (← requireNode node "loop_policy" context)
    (context ++ ".loop_policy")
  return { id := id, components := components, loopPolicy := policy.1, dropPolicy := policy.2 }

/-! ## Lanes -/

/-- The loop body over the lanes, which are a mapping. -/
def readLane (entry : YamlNode × YamlNode) : Except LoadError LoadedLane := do
  let id ← checkedId limits (← entry.1.asString) "lanes id"
  let node := entry.2
  let context := "lanes." ++ id
  let _ ← requireMap node context
  rejectUnknownFields node context
    ["type", "hz", "priority", "max_callback_ms", "max_threads", "queue_capacity", "overflow",
      "wall_clock_enabled", "period_ms", "tick_budget_ms", "overrun_policy", "thread_name",
      "cpu_affinity", "nice_priority", "rt_policy", "rt_priority", "isolation_intent"]
  let type ← requireString node "type" context
  let hz ← optionalDouble library node "hz"
  let priority ← optionalString node "priority"
  let maxCallbackMs ← optionalInt library node "max_callback_ms"
  let maxThreads ← optionalInt library node "max_threads"
  let queueCapacity ← optionalInt library node "queue_capacity"
  let overflow ← optionalString node "overflow" "reject"
  let wallClockEnabled ← optionalBool library node "wall_clock_enabled"
  let periodMs ← optionalInt library node "period_ms"
  let tickBudgetMs ← optionalInt library node "tick_budget_ms"
  let overrunPolicy ← optionalString node "overrun_policy" "drop_tick"
  let threadName ← optionalString node "thread_name"
  let cpuAffinity ← optionalIntVector library node "cpu_affinity" context
  let nicePriority ← optionalInt library node "nice_priority"
  let rtPolicy ← optionalString node "rt_policy" "none"
  let rtPriority ← optionalInt library node "rt_priority"
  let isolationIntent ← optionalString node "isolation_intent" "none"
  return {
    id := id, type := type, maxThreads := maxThreads, queueCapacity := queueCapacity
    overflow := overflow, periodMs := periodMs, tickBudgetMs := tickBudgetMs
    overrunPolicy := overrunPolicy, hz := hz, priority := priority
    maxCallbackMs := maxCallbackMs, wallClockEnabled := wallClockEnabled
    threadName := threadName, cpuAffinity := cpuAffinity, nicePriority := nicePriority
    rtPolicy := rtPolicy, rtPriority := rtPriority, isolationIntent := isolationIntent }

end

end GraphIo

end TopoExec
