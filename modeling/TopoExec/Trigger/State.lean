import TopoExec.Lib.Queues
import TopoExec.Channel.Step

/-! # The trigger policy engine

`TriggerPolicyEngine`: the messages drained from the channels wait in one queue for
each input of a component, and `collect_ready_invocations` turns them into
invocations in the way the component's policy asks for.

`pop_front` on an empty `std::deque` has no defined effect; here it is the fault
`emptyPop`. The two loops of the source without a bound run on fuel, one more than
there are messages waiting, and `stillRunning` is the fault of a loop that is not
done by then. Timestamps are exact integers. An invocation also remembers the
messages it was made from, which no function reads; its cancellation callbacks and
an engine without a bus are left out.
-/

namespace TopoExec

open Queues

/-! ## Invocations -/

/-- `enum class EventKind`. -/
inductive EventKind where
  | message
  | timer
  | request
  | actionGoal
  | actionCancel
  | futureReady
  | taskReady
  | lifecycle
  | health
  | manual
deriving DecidableEq, Repr

/-- `enum class TriggerKind`. -/
inductive TriggerKind where
  | onMessage
  | onTick
  | allInputs
  | anyInput
  | timeSync
  | batch
  | request
  | taskReady
  | manual
  | watermark
  | condition
  | debounce
  | rateLimit
deriving DecidableEq, Repr

def triggerKindName : TriggerKind → String
  | .onMessage => "on_message"
  | .onTick => "on_tick"
  | .allInputs => "all_inputs"
  | .anyInput => "any_input"
  | .timeSync => "time_sync"
  | .batch => "batch"
  | .request => "request"
  | .taskReady => "task_ready"
  | .manual => "manual"
  | .watermark => "watermark"
  | .condition => "condition"
  | .debounce => "debounce"
  | .rateLimit => "rate_limit"

structure SchedulerGroupConfig where
  id : String
  type : String := ""
  maxThreads : Int := 0
  queueCapacity : Int := 0
  overflow : String := "reject"
deriving DecidableEq, Repr

structure TickContext where
  sequence : Nat := 0
  scheduledAt : Int := 0
  startedAt : Int := 0
deriving DecidableEq, Repr

/-- A message with the input it was drained for. -/
abbrev PortMessage := String × RuntimeChannelMessage

/-- `payloadsByPort` lists the entries of the source's map in the order of their
keys. -/
structure Invocation where
  metadata : InvocationMetadata := {}
  event : EventKind := .manual
  trigger : TriggerKind := .manual
  port : String := ""
  channelId : String := ""
  correlationId : String := ""
  payload : Option RuntimePayload := none
  readyInputs : List String := []
  payloadsByPort : List (String × RuntimePayload) := []
  batchPayloads : List RuntimePayload := []
  scheduledAt : Int := 0
  startedAt : Int := 0
  receivedAt : Int := 0
  publishedAt : Int := 0
  sequence : Nat := 0
  deadlineMissed : Bool := false
  eventTimestamp : Option EventTimestamp := none
  budgetMs : Int := 0
  lane : String := ""
  priority : String := ""
  messages : List PortMessage := []
deriving DecidableEq, Repr

def eventKindForSources : List EventSourceSpec → EventKind
  | [] => .message
  | source :: rest =>
      if source.type = "request" then .request
      else if source.type = "task_ready" then .taskReady
      else if source.type = "future_ready" then .futureReady
      else eventKindForSources rest

def eventKindForComponent (component : ComponentNodeSpec) : EventKind :=
  if component.triggerPolicy.type = "request" then .request
  else if component.triggerPolicy.type = "task_ready" then .taskReady
  else eventKindForSources component.eventSources

def triggerKindForPolicy (policy : TriggerPolicySpec) (event : EventKind) : TriggerKind :=
  if event = .timer then .onTick
  else if policy.type = "all_inputs" then .allInputs
  else if policy.type = "any_input" || policy.type = "on_event" then .anyInput
  else if policy.type = "time_sync" then .timeSync
  else if policy.type = "batch" then .batch
  else if policy.type = "request" then .request
  else if policy.type = "task_ready" then .taskReady
  else if policy.type = "watermark" then .watermark
  else if policy.type = "condition" then .condition
  else if policy.type = "debounce" then .debounce
  else if policy.type = "rate_limit" then .rateLimit
  else .manual

section

variable (context : TickContext) (component : ComponentNodeSpec) (lane : SchedulerGroupConfig)

def eventInvocationFor (event : EventKind) : Invocation :=
  let trigger := triggerKindForPolicy component.triggerPolicy event
  { event := event
    trigger := trigger
    scheduledAt := context.scheduledAt
    startedAt := context.startedAt
    sequence := context.sequence
    metadata := { epochId := context.sequence, triggerKind := triggerKindName trigger }
    budgetMs := component.execution.budgetMs
    lane := lane.id
    priority := component.execution.priority }

/-- `timer_invocation_for`: the trigger of a timer event is always the tick. -/
def timerInvocationFor : Invocation := eventInvocationFor context component lane .timer

/-- `map[key] = value` on the entries of a map. -/
def assign {β : Type} (key : String) (value : β) : List (String × β) → List (String × β)
  | [] => [(key, value)]
  | entry :: rest =>
      if key < entry.1 then (key, value) :: entry :: rest
      else if key = entry.1 then (key, value) :: rest
      else entry :: assign key value rest

/-- What the first message of an invocation determines. -/
def withFirstMessage (trigger : TriggerKind) (invocation : Invocation) (item : PortMessage) :
    Invocation :=
  let message := item.2
  let id := metadataId message.channelId message.sequence
  -- a message without a correlation begins its own
  let correlationId := orElse message.metadata.correlationId id
  { invocation with
    port := item.1
    channelId := message.channelId
    metadata :=
      { message.metadata with
        epochId := context.sequence
        triggerKind := triggerKindName trigger
        correlationId := correlationId
        causationId := orElse message.metadata.causationId id
        transactionId := orElse message.metadata.transactionId correlationId }
    correlationId := correlationId
    payload := some message.payload
    receivedAt := message.receivedAt
    publishedAt := message.publishedAt
    deadlineMissed := message.deadlineMissed
    eventTimestamp := message.eventTimestamp }

/-- The body of the loop over the messages of an invocation. -/
def addMessage (trigger : TriggerKind) (invocation : Invocation) (item : PortMessage) :
    Invocation :=
  let invocation :=
    if invocation.payload.isNone then withFirstMessage context trigger invocation item
    else invocation
  { invocation with
    readyInputs := invocation.readyInputs ++ [item.1]
    payloadsByPort := assign item.1 item.2.payload invocation.payloadsByPort
    batchPayloads := invocation.batchPayloads ++ [item.2.payload]
    messages := invocation.messages ++ [item] }

def invocationFromMessages (event : EventKind) (trigger : TriggerKind)
    (messages : List PortMessage) : Invocation :=
  let invocation := eventInvocationFor context component lane event
  messages.foldl (addMessage context trigger)
    { invocation with
      trigger := trigger
      metadata := { invocation.metadata with triggerKind := triggerKindName trigger } }

end

/-! ## Waiting messages -/

abbrev PendingMessages := Bank String RuntimeChannelMessage

inductive TriggerFault where
  | emptyPop
  | stillRunning
deriving DecidableEq, Repr

/-- The counters of `TriggerRuntimeMetrics` that the engine writes. -/
structure TriggerRuntimeMetrics where
  timeoutDropCount : Nat := 0
  batchFlushCount : Nat := 0
  timeSyncDropCount : Nat := 0
  lateDropCount : Nat := 0
  pendingDropCount : Nat := 0
  conditionSuppressedCount : Nat := 0
  rateLimitSuppressedCount : Nat := 0
deriving DecidableEq, Repr

/-- What the engine keeps for one component id: its entries in `pending_`,
`last_stats_`, `last_invoked_` and `watermarks_`. -/
structure TriggerState where
  pending : PendingMessages := .empty
  stats : TriggerRuntimeMetrics := {}
  lastInvoked : Option Int := none
  watermarks : String → Option Int := fun _ => none

/-- `pending[input].pop_front()`. -/
def popFront (pending : PendingMessages) (input : String) : Except TriggerFault PendingMessages :=
  match pending.queue input with
  | [] => .error .emptyPop
  | _ :: rest => .ok (pending.set input rest)

/-- `front_messages_for_inputs`: nothing if one of the queues is empty. -/
def frontMessagesForInputs (pending : PendingMessages) : List String → Option (List PortMessage)
  | [] => some []
  | input :: rest =>
      match pending.queue input with
      | [] => none
      | message :: _ => (frontMessagesForInputs pending rest).map ((input, message) :: ·)

/-- `consume_front_messages`, also for the inputs without a timestamp. -/
def consumeFrontMessages : List String → PendingMessages → Except TriggerFault PendingMessages
  | [], pending => .ok pending
  | input :: rest, pending =>
      match popFront pending input with
      | .error fault => .error fault
      | .ok pending => consumeFrontMessages rest pending

def messagesHaveComparableTimestamps : List PortMessage → Bool
  | [] => false
  | first :: rest =>
      match first.2.eventTimestamp with
      | none => false
      | some timestamp => rest.all fun item =>
          (item.2.eventTimestamp.map EventTimestamp.domain) = some timestamp.domain

def eventTimestampNs (item : PortMessage) : Int :=
  (item.2.eventTimestamp.map EventTimestamp.nanoseconds).getD 0

def oldestPendingBatchTime (inputs : List String) (pending : PendingMessages) : Option Int :=
  inputs.foldl
    (fun oldest input =>
      match (pending.queue input).head?, oldest with
      | none, _ => oldest
      | some message, none => some message.receivedAt
      | some message, some time =>
          if message.receivedAt < time then some message.receivedAt else oldest)
    none

/-! ## Before the policy -/

section

variable (clock : Nat → Int)

/-- `drain_inputs`, with the messages drained and the inputs they were drained
for. -/
def drainInputs (componentId : String) : List String → PendingMessages → RuntimeChannelBus →
    List PortMessage × PendingMessages × RuntimeChannelBus
  | [], pending, bus => ([], pending, bus)
  | input :: rest, pending, bus =>
      let drained := bus.drainForComponentPort clock componentId input 0
      let tail := drainInputs componentId rest
        (pending.set input (pending.queue input ++ drained.1)) drained.2
      (drained.1.map (fun message => (input, message)) ++ tail.1, tail.2)

end

/-- `prune_timed_out_messages`, with the number of messages dropped. -/
def pruneTimedOutMessages (policy : TriggerPolicySpec) (now : Int) (pending : PendingMessages) :
    PendingMessages × Nat :=
  if policy.maxLatencyMs ≤ 0 then (pending, 0)
  else
    sweep
      (fun _ queue dropped =>
        let retained := queue.filter fun message =>
          now - message.receivedAt ≤ policy.maxLatencyMs * nanosecondsPerMillisecond
        (retained, dropped + (queue.length - retained.length)))
      pending 0

def kTriggerPendingCapacityCushion : Nat := 1

/-- The bound of one pending queue. -/
def pendingLimit (bus : RuntimeChannelBus) (component : ComponentNodeSpec) (port : String) : Nat :=
  let policy := component.triggerPolicy
  let capacity := max 1 (bus.configuredCapacityForComponentPort component.id port)
  let limit := if 0 < policy.batchSize then max capacity policy.batchSize.toNat else capacity
  -- these policies look at the newest message only
  if policy.type = "debounce" || policy.coalesce then 1 else limit + kTriggerPendingCapacityCushion

/-- `enforce_pending_bounds`: the oldest messages go first. -/
def enforcePendingBounds (bus : RuntimeChannelBus) (component : ComponentNodeSpec)
    (pending : PendingMessages) : PendingMessages × Nat :=
  sweep
    (fun port queue dropped =>
      let excess := queue.length - pendingLimit bus component port
      (queue.drop excess, dropped + excess))
    pending 0

def rateLimited (policy : TriggerPolicySpec) (lastInvoked : Option Int) (now : Int) : Bool :=
  if policy.minIntervalMs ≤ 0 then false
  else
    match lastInvoked with
    | none => false
    | some last => now - last < policy.minIntervalMs * nanosecondsPerMillisecond

/-! ## The policies -/

section

variable (context : TickContext) (component : ComponentNodeSpec) (lane : SchedulerGroupConfig)

/-- The invocation of the policies that go by the component's event kind. -/
def eventInvocationFromMessages (messages : List PortMessage) : Invocation :=
  let event := eventKindForComponent component
  invocationFromMessages context component lane event
    (triggerKindForPolicy component.triggerPolicy event) messages

/-- The loop of `collect_any_input` over the ports; with a minimal interval it is
left after the first invocation. -/
def collectAnyInputFrom : List String → PendingMessages → List Invocation × PendingMessages
  | [], pending => ([], pending)
  | port :: rest, pending =>
      match pending.queue port with
      | [] => collectAnyInputFrom rest pending
      | message :: queue =>
          -- one invocation uses up the interval, and the other messages wait
          if 0 < component.triggerPolicy.minIntervalMs then
            ([eventInvocationFromMessages context component lane [(port, message)]],
              pending.set port queue)
          else
            let tail := collectAnyInputFrom rest (pending.set port [])
            ((message :: queue).map (fun message =>
                eventInvocationFromMessages context component lane [(port, message)]) ++ tail.1,
              tail.2)

def collectAnyInput (pending : PendingMessages) : List Invocation × PendingMessages :=
  collectAnyInputFrom context component lane pending.keys pending

/-- Keep the newest message of a queue for the invocation and clear the queue. -/
def coalesceQueue (port : String) (queue : List RuntimeChannelMessage)
    (messages : List PortMessage) : List RuntimeChannelMessage × List PortMessage :=
  match queue.getLast? with
  | none => (queue, messages)
  | some message => ([], messages ++ [(port, message)])

def collectCoalescedAnyInput (pending : PendingMessages) : List Invocation × PendingMessages :=
  let swept := sweep coalesceQueue pending []
  if swept.2 = [] then ([], swept.1)
  else ([eventInvocationFromMessages context component lane swept.2], swept.1)

/-- Consume the first message of each input and invoke the component with them. -/
def invokeWithFronts (trigger : TriggerKind) (messages : List PortMessage)
    (pending : PendingMessages) : Except TriggerFault (List Invocation × PendingMessages) :=
  match consumeFrontMessages (triggerPolicyInputsFor component) pending with
  | .error fault => .error fault
  | .ok pending =>
      .ok ([invocationFromMessages context component lane .message trigger messages], pending)

def collectAllInputs (pending : PendingMessages) :
    Except TriggerFault (List Invocation × PendingMessages) :=
  match frontMessagesForInputs pending (triggerPolicyInputsFor component) with
  | none => .ok ([], pending)
  | some messages =>
      invokeWithFronts context component lane
        (triggerKindForPolicy component.triggerPolicy .message) messages pending

/-- The first of the messages with the smallest timestamp. -/
def minItem (first : PortMessage) (rest : List PortMessage) : PortMessage :=
  rest.foldl
    (fun least item => if eventTimestampNs item < eventTimestampNs least then item else least)
    first

/-- The first of the messages with the greatest timestamp. -/
def maxItem (first : PortMessage) (rest : List PortMessage) : PortMessage :=
  rest.foldl
    (fun greatest item =>
      if eventTimestampNs greatest < eventTimestampNs item then item else greatest)
    first

/-- The messages can be taken together: no slop is set, their timestamps cannot be
compared, or they are close enough. -/
def inSync (policy : TriggerPolicySpec) : List PortMessage → Bool
  | [] => true
  | first :: rest =>
      let slop := policy.syncSlopMs * nanosecondsPerMillisecond
      slop ≤ 0 || !messagesHaveComparableTimestamps (first :: rest) ||
        eventTimestampNs (maxItem first rest) - eventTimestampNs (minItem first rest) ≤ slop

/-- The loop of `collect_time_sync`, with the number of messages it drops. -/
def collectTimeSyncLoop : Nat → PendingMessages → Nat →
    Except TriggerFault (List Invocation × PendingMessages × Nat)
  | 0, _, _ => .error .stillRunning
  | fuel + 1, pending, dropped =>
      match frontMessagesForInputs pending (triggerPolicyInputsFor component) with
      | none => .ok ([], pending, dropped)
      | some messages =>
          if inSync component.triggerPolicy messages then
            (invokeWithFronts context component lane .timeSync messages pending).map
              fun result => (result.1, result.2, dropped)
          else
            -- the oldest front can be matched with nothing that is still to come
            match messages with
            | [] => .ok ([], pending, dropped)
            | first :: rest =>
                match popFront pending (minItem first rest).1 with
                | .error fault => .error fault
                | .ok pending => collectTimeSyncLoop fuel pending (dropped + 1)

/-- The messages of one queue that are not late; `s` holds the watermarks and the
number of late messages. -/
def retainTimely (latenessNs : Int) : List RuntimeChannelMessage → (String → Option Int) × Nat →
    List RuntimeChannelMessage × (String → Option Int) × Nat
  | [], s => ([], s)
  | message :: queue, s =>
      match message.eventTimestamp with
      | none =>
          -- a message without a timestamp is never late
          let tail := retainTimely latenessNs queue s
          (message :: tail.1, tail.2)
      | some timestamp =>
          let found := s.1 timestamp.domain
          -- a late message does not move the watermark
          if ∃ mark ∈ found, timestamp.nanoseconds < mark - latenessNs then
            retainTimely latenessNs queue (s.1, s.2 + 1)
          else
            let marks :=
              if ∀ mark ∈ found, mark < timestamp.nanoseconds then
                Function.update s.1 timestamp.domain (some timestamp.nanoseconds)
              else s.1
            let tail := retainTimely latenessNs queue (marks, s.2)
            (message :: tail.1, tail.2)

/-- The sweep of `collect_watermark`. -/
def dropLateMessages (pending : PendingMessages) (watermarks : String → Option Int) :
    PendingMessages × (String → Option Int) × Nat :=
  sweep
    (fun _ queue s =>
      retainTimely (component.triggerPolicy.watermarkLatenessMs * nanosecondsPerMillisecond)
        queue s)
    pending (watermarks, 0)

/-- The loop of the condition `event_timestamp_present`, with the number of
messages it drops. -/
def collectTimestampedLoop : Nat → PendingMessages → Nat →
    Except TriggerFault (List Invocation × PendingMessages × Nat)
  | 0, _, _ => .error .stillRunning
  | fuel + 1, pending, dropped =>
      match frontMessagesForInputs pending (triggerPolicyInputsFor component) with
      | none => .ok ([], pending, dropped)
      | some messages =>
          let missing := (messages.filter fun item => item.2.eventTimestamp.isNone).map Prod.fst
          if missing = [] then
            (invokeWithFronts context component lane .condition messages pending).map
              fun result => (result.1, result.2, dropped)
          else
            -- the messages with a timestamp wait for the next round
            match consumeFrontMessages missing pending with
            | .error fault => .error fault
            | .ok pending => collectTimestampedLoop fuel pending (dropped + missing.length)

/-- `target_count` of `collect_batch`. -/
def batchTargetCount (pending : PendingMessages) : Nat :=
  let policy := component.triggerPolicy
  let inputs := triggerPolicyInputsFor component
  let available := (inputs.map fun input => (pending.queue input).length).sum
  if 0 < policy.batchSize ∧ policy.batchSize.toNat ≤ available then policy.batchSize.toNat
  -- too few for a batch, so the window decides
  else if 0 < policy.batchWindowMs then
    match oldestPendingBatchTime inputs pending with
    | none => 0
    | some oldest =>
        if policy.batchWindowMs * nanosecondsPerMillisecond ≤ context.startedAt - oldest then
          if 0 < policy.batchSize then min available policy.batchSize.toNat else available
        else 0
  else 0

/-- Take messages input by input until there are `target` of them. -/
def fillBatch (target : Nat) : List String → List PortMessage → PendingMessages →
    List PortMessage × PendingMessages
  | [], messages, pending => (messages, pending)
  | input :: rest, messages, pending =>
      let queue := pending.queue input
      let room := target - messages.length
      fillBatch target rest (messages ++ (queue.take room).map fun message => (input, message))
        (pending.set input (queue.drop room))

def collectAllInputsState (s : TriggerState) :
    Except TriggerFault (List Invocation × TriggerState) :=
  (collectAllInputs context component lane s.pending).map
    fun result => (result.1, { s with pending := result.2 })

def collectTimeSync (s : TriggerState) : Except TriggerFault (List Invocation × TriggerState) :=
  (collectTimeSyncLoop context component lane (s.pending.size + 1) s.pending
      s.stats.timeSyncDropCount).map
    fun result => (result.1,
      { s with pending := result.2.1, stats := { s.stats with timeSyncDropCount := result.2.2 } })

def collectBatch (s : TriggerState) : List Invocation × TriggerState :=
  let target := batchTargetCount context component s.pending
  if target = 0 then ([], s)
  else
    let taken := fillBatch target (triggerPolicyInputsFor component) [] s.pending
    if taken.1 = [] then ([], { s with pending := taken.2 })
    else
      ([invocationFromMessages context component lane .message .batch taken.1],
        { s with
          pending := taken.2
          stats := { s.stats with batchFlushCount := s.stats.batchFlushCount + 1 } })

def collectWatermark (s : TriggerState) : List Invocation × TriggerState :=
  let swept := dropLateMessages component s.pending s.watermarks
  let collected := collectAnyInput context component lane swept.1
  (collected.1,
    { s with
      pending := collected.2
      watermarks := swept.2.1
      stats := { s.stats with lateDropCount := s.stats.lateDropCount + swept.2.2 } })

/-- `++stats.condition_suppressed_count` if nothing was collected. -/
def countSuppressed (result : List Invocation × TriggerState) : List Invocation × TriggerState :=
  if result.1 = [] then
    (result.1,
      { result.2 with
        stats := { result.2.stats with
          conditionSuppressedCount := result.2.stats.conditionSuppressedCount + 1 } })
  else result

/-- An empty condition is `all_inputs_ready`; without inputs a timestamp is never
present. -/
def collectCondition (s : TriggerState) : Except TriggerFault (List Invocation × TriggerState) :=
  let condition := orElse component.triggerPolicy.condition "all_inputs_ready"
  if condition = "any_input_ready" then
    let collected := collectAnyInput context component lane s.pending
    .ok (countSuppressed (collected.1, { s with pending := collected.2 }))
  else if condition = "all_inputs_ready" then
    (collectAllInputsState context component lane s).map countSuppressed
  else if condition = "event_timestamp_present" ∧ triggerPolicyInputsFor component ≠ [] then
    (collectTimestampedLoop context component lane (s.pending.size + 1) s.pending
        s.stats.pendingDropCount).map
      fun result => countSuppressed (result.1,
        { s with pending := result.2.1, stats := { s.stats with pendingDropCount := result.2.2 } })
  else .ok (countSuppressed ([], s))

/-- The chain of policy types in `collect_ready_invocations`. -/
def collectByPolicy (s : TriggerState) : Except TriggerFault (List Invocation × TriggerState) :=
  let policy := component.triggerPolicy
  if policy.type = "all_inputs" then collectAllInputsState context component lane s
  else if policy.type = "time_sync" then collectTimeSync context component lane s
  else if policy.type = "batch" then .ok (collectBatch context component lane s)
  else if policy.type = "watermark" then .ok (collectWatermark context component lane s)
  else if policy.type = "condition" then collectCondition context component lane s
  else if policy.type = "debounce" || policy.coalesce then
    let collected := collectCoalescedAnyInput context component lane s.pending
    .ok (collected.1, { s with pending := collected.2 })
  else
    let collected := collectAnyInput context component lane s.pending
    .ok (collected.1, { s with pending := collected.2 })

/-- `record_invocation`, if there is one. -/
def recordInvocation (result : List Invocation × TriggerState) : List Invocation × TriggerState :=
  if result.1 = [] then result
  else (result.1, { result.2 with lastInvoked := some context.startedAt })

/-- The state when the policy is asked: drained, pruned and bounded. -/
def beforePolicy (bus : RuntimeChannelBus) (pending : PendingMessages) (s : TriggerState) :
    TriggerState :=
  let pruned := pruneTimedOutMessages component.triggerPolicy context.startedAt pending
  let bounded := enforcePendingBounds bus component pruned.1
  { s with
    pending := bounded.1
    stats := { timeoutDropCount := pruned.2, pendingDropCount := bounded.2 } }

/-- `collect_ready_invocations` from the policy on. -/
def collectUnlessRateLimited (s : TriggerState) :
    Except TriggerFault (List Invocation × TriggerState) :=
  if rateLimited component.triggerPolicy s.lastInvoked context.startedAt then
    .ok ([], { s with
      stats := { s.stats with
        rateLimitSuppressedCount := s.stats.rateLimitSuppressedCount + 1 } })
  else (collectByPolicy context component lane s).map (recordInvocation context)

end

/-! ## The engine -/

/-- The engine and the bus it drains. -/
structure TriggerPolicyEngine where
  state : String → TriggerState := fun _ => {}
  bus : RuntimeChannelBus

/-- What one call of `collect_ready_invocations` did. -/
structure CollectRecord where
  componentId : String
  drained : List PortMessage := []
  invocations : List Invocation
  stats : TriggerRuntimeMetrics := {}

namespace TriggerPolicyEngine

variable (clock : Nat → Int)

/-- The call is driven by messages: neither a timer nor the scheduler makes the
invocation. -/
def messageDriven (component : ComponentNodeSpec) : Bool :=
  !hasTimerEventSource component && hasMessageEventSource component

def collectReadyInvocations (context : TickContext) (component : ComponentNodeSpec)
    (lane : SchedulerGroupConfig) (engine : TriggerPolicyEngine) :
    Except TriggerFault (CollectRecord × TriggerPolicyEngine) :=
  if hasTimerEventSource component then
    .ok ({ componentId := component.id
           invocations := [timerInvocationFor context component lane] }, engine)
  else if !hasMessageEventSource component then
    .ok ({ componentId := component.id
           invocations := [eventInvocationFor context component lane .manual] }, engine)
  else
    let s := engine.state component.id
    let drained := drainInputs clock component.id (triggerPolicyInputsFor component) s.pending
      engine.bus
    (collectUnlessRateLimited context component lane
        (beforePolicy context component drained.2.2 drained.2.1 s)).map
      fun result =>
        ({ componentId := component.id
           drained := drained.1
           invocations := result.1
           stats := result.2.stats },
          { state := Function.update engine.state component.id result.2
            bus := drained.2.2 })

def takeLastStats (componentId : String) (engine : TriggerPolicyEngine) :
    TriggerRuntimeMetrics × TriggerPolicyEngine :=
  let s := engine.state componentId
  (s.stats,
    { engine with state := Function.update engine.state componentId { s with stats := {} } })

end TriggerPolicyEngine

/-! ## Runs -/

/-- What can happen to an engine and its bus. -/
inductive TriggerOp where
  | bus (op : BusOp)
  | collect (context : TickContext) (component : ComponentNodeSpec) (lane : SchedulerGroupConfig)
  | takeLastStats (componentId : String)

/-- One operation, with a record of it if it is a collection. -/
def TriggerOp.exec (clock : Nat → Int) (engine : TriggerPolicyEngine) :
    TriggerOp → Except TriggerFault (Option CollectRecord × TriggerPolicyEngine)
  | .bus op => .ok (none, { engine with bus := (op.exec clock engine.bus).2 })
  | .collect context component lane =>
      (engine.collectReadyInvocations clock context component lane).map
        fun result => (some result.1, result.2)
  | .takeLastStats componentId => .ok (none, (engine.takeLastStats componentId).2)

/-- The collections of a run and the engine at its end. -/
def runTriggers (clock : Nat → Int) : List TriggerOp → TriggerPolicyEngine →
    Except TriggerFault (List CollectRecord × TriggerPolicyEngine)
  | [], engine => .ok ([], engine)
  | op :: ops, engine =>
      match op.exec clock engine with
      | .error fault => .error fault
      | .ok (record, engine) =>
          (runTriggers clock ops engine).map fun result => (record.toList ++ result.1, result.2)

end TopoExec
