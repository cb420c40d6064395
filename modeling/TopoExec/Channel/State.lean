import Std.Data.TreeMap.Lemmas
import TopoExec.Graph.Spec

/-! # One channel

The state of a channel and the functions of `RuntimeChannelBus` that work on
one channel at a time. What never changes after construction (`config`, `from`
and `to` of the source's `ChannelState`) is a `ChannelConfig`; the rest is a
`ChannelState`.

Time is a number of nanoseconds, and every function that reads the steady clock
takes the reading as an argument. Counters and sequence numbers are natural
numbers. The two `double` gauges of the metrics and the emission of health
events are left out; the number of health events is kept.

A `ChannelLedger` records what has happened to the messages of a channel. No
function reads it.
-/

namespace TopoExec

/-! ## Payloads and messages -/

/-- `RuntimePayloadValue`; large objects are shared, so a number stands for the
object a payload points to. -/
inductive RuntimePayloadValue where
  | text (text : String)
  | frameView (object : Nat)
  | binaryBlob (object : Nat)
  | opaqueObject (object : Nat)
deriving DecidableEq, Repr

structure RuntimePayload where
  schema : String := "topoexec.runtime.Text"
  value : RuntimePayloadValue := .text ""
deriving DecidableEq, Repr

def RuntimePayload.isText (payload : RuntimePayload) : Bool :=
  match payload.value with
  | .text _ => true
  | _ => false

def RuntimePayload.isLargePayload (payload : RuntimePayload) : Bool := !payload.isText

/-- `copy_text_payload`, which is only called on text payloads. -/
def copyTextPayload (payload : RuntimePayload) : RuntimePayload :=
  { schema := payload.schema, value := payload.value }

/-- The empty text if the payload can be copied. -/
def largePayloadCopyReason (payload : RuntimePayload) : String :=
  if payload.isLargePayload then
    "cannot copy large payload schema " ++ payload.schema ++ "; use shared_view or loaned_view"
  else ""

structure EventTimestamp where
  domain : String
  nanoseconds : Int
  source : String
deriving DecidableEq, Repr

structure InvocationMetadata where
  correlationId : String := ""
  causationId : String := ""
  epochId : Nat := 0
  transactionId : String := ""
  sourceComponent : String := ""
  sourcePort : String := ""
  triggerKind : String := ""
deriving DecidableEq, Repr

/-- `value` if the text is empty. -/
def orElse (text value : String) : String := if text = "" then value else text

def metadataForSourceEndpoint (metadata : InvocationMetadata) (sourceEndpoint : String) :
    InvocationMetadata :=
  { metadata with
    sourceComponent := orElse metadata.sourceComponent (componentIdFromEndpoint sourceEndpoint)
    sourcePort := orElse metadata.sourcePort (portNameFromEndpoint sourceEndpoint) }

def metadataId (channelId : String) (sequence : Nat) : String :=
  channelId ++ "#" ++ toString sequence

def finalizeMessageMetadata (metadata : InvocationMetadata) (channelId : String)
    (sequence : Nat) (sourceEndpoint : String) : InvocationMetadata :=
  let metadata := metadataForSourceEndpoint metadata sourceEndpoint
  let id := metadataId channelId sequence
  let correlationId := orElse metadata.correlationId id
  { metadata with
    correlationId := correlationId
    causationId := id
    transactionId := orElse metadata.transactionId correlationId }

/-- `tag` is not in the source: it numbers the publications of the router, so
that one of them can be followed into a channel. -/
structure RuntimeChannelMessage where
  channelId : String
  payload : RuntimePayload
  publishedAt : Int
  receivedAt : Int
  sequence : Nat
  deadlineMissed : Bool := false
  eventTimestamp : Option EventTimestamp := none
  metadata : InvocationMetadata := {}
  tag : Option Nat := none
deriving DecidableEq, Repr

structure RuntimeChannelPublishResult where
  accepted : Bool
  reason : String := ""
deriving DecidableEq, Repr

/-! ## Configuration -/

inductive ChannelType where
  | latestOnly
  | everyMessage
  | latchedSnapshot
  | previousTick
  | barrier
deriving DecidableEq, Repr

inductive DropPolicy where
  | overwrite
  | dropOldest
  | dropNewest
  | blockProducer
  | failFast
deriving DecidableEq, Repr

inductive CopyPolicy where
  | copy
  | sharedView
  | loanedView
  | moveOnly
deriving DecidableEq, Repr

def channelTypeFromPolicy (policy : EdgePolicySpec) : ChannelType :=
  if policy.mode = "latest" then .latestOnly
  else if policy.mode = "latched" then .latchedSnapshot
  else if policy.mode = "previous_tick" then .previousTick
  else if policy.mode = "barrier" then .barrier
  else .everyMessage

def dropPolicyFromString (value : String) : DropPolicy :=
  if value = "overwrite" then .overwrite
  else if value = "drop_oldest" then .dropOldest
  else if value = "drop_newest" then .dropNewest
  else if value = "block" then .blockProducer
  else .failFast

def copyPolicyFromString (value : String) : CopyPolicy :=
  if value = "shared_view" then .sharedView
  else if value = "loaned_view" then .loanedView
  else if value = "move_only" then .moveOnly
  else .copy

def ChannelType.isLatestStyle : ChannelType → Bool
  | .latestOnly | .latchedSnapshot | .previousTick => true
  | .everyMessage | .barrier => false

def isMultiReader (readers : String) : Bool := readers = "multi" || readers = "multiple"

/-- Lifespan and deadline are milliseconds. -/
structure ChannelConfig where
  id : String
  type : ChannelType := .latestOnly
  capacity : Nat := 1
  dropPolicy : DropPolicy := .overwrite
  lifespan : Int := 0
  deadline : Int := 0
  copyPolicy : CopyPolicy := .copy
  readers : String := "single"
  fromEndpoint : String
  toEndpoint : String
  capacity_pos : 0 < capacity

/-- The configuration part of the constructor of `RuntimeChannelBus`. -/
def ChannelConfig.ofEdge (spec : EdgeSpec) : ChannelConfig where
  id := spec.id
  type := channelTypeFromPolicy spec.policy
  capacity := (max 1 spec.policy.capacity).toNat
  dropPolicy := dropPolicyFromString spec.policy.overflow
  lifespan := spec.policy.lifespanMs
  deadline := spec.policy.deadlineMs
  copyPolicy := copyPolicyFromString spec.policy.copyPolicy
  readers := spec.policy.readers
  fromEndpoint := spec.fromEndpoint
  toEndpoint := spec.toEndpoint
  capacity_pos := by omega

/-! ## State -/

structure RuntimeChannelMetrics where
  publishedCount : Nat := 0
  deliveredCount : Nat := 0
  dropCount : Nat := 0
  deadlineMissCount : Nat := 0
  staleDropCount : Nat := 0
  rejectCount : Nat := 0
  overwriteCount : Nat := 0
  healthEventCount : Nat := 0
  payloadCopyCount : Nat := 0
  copyFallbackCount : Nat := 0
  depth : Nat := 0
  maxDepth : Nat := 0
  degradationReason : String := ""
deriving DecidableEq, Repr

/-- The messages stored so far, the sequence numbers evicted from the queue and
expired, the deliveries with their readers, and the number of refusals for lack
of capacity. -/
structure ChannelLedger where
  stored : List RuntimeChannelMessage := []
  evicted : List Nat := []
  expired : List Nat := []
  delivered : List (String × Nat) := []
  refused : Nat := 0

structure ChannelState where
  nextSequence : Nat := 1
  latest : Option RuntimeChannelMessage := none
  pendingPreviousTick : Option RuntimeChannelMessage := none
  queue : List RuntimeChannelMessage := []
  deliveredLatestSequences : Std.TreeMap String Nat := {}
  deliveredQueueSequences : Std.TreeMap String Nat := {}
  metrics : RuntimeChannelMetrics := {}
  highWatermarkReported : Bool := false
  ledger : ChannelLedger := {}

/-! ## Reader cursors -/

def kMaxTrackedReaders : Nat := 4096

def pruneLatestDedup (delivered : Std.TreeMap String Nat) (latestSequence : Nat) :
    Std.TreeMap String Nat :=
  delivered.filter fun _ sequence => sequence = latestSequence

/-- `minRetainedSequence = 0` stands for an empty queue. -/
def pruneQueueDedup (delivered : Std.TreeMap String Nat) (minRetainedSequence : Nat) :
    Std.TreeMap String Nat :=
  delivered.filter fun _ sequence =>
    !(minRetainedSequence = 0 || sequence < minRetainedSequence)

/-- Erase the first entry `n` times. -/
def eraseBegin : Nat → Std.TreeMap String Nat → Std.TreeMap String Nat
  | 0, delivered => delivered
  | n + 1, delivered =>
      match delivered.minKey? with
      | none => delivered
      | some reader => eraseBegin n (delivered.erase reader)

def enforceReaderCap (delivered : Std.TreeMap String Nat) : Std.TreeMap String Nat :=
  eraseBegin (delivered.size - kMaxTrackedReaders) delivered

/-! ## Publishing -/

section

variable (config : ChannelConfig)

/-- A copying channel takes no large payloads. -/
def preflightPayloadForState (state : ChannelState) (payload : RuntimePayload) :
    RuntimeChannelPublishResult × ChannelState :=
  if config.copyPolicy ≠ .copy then (⟨true, ""⟩, state)
  else
    let reason := largePayloadCopyReason payload
    if reason ≠ "" then
      (⟨false, reason⟩,
        { state with
          metrics.copyFallbackCount := state.metrics.copyFallbackCount + 1
          metrics.degradationReason := reason })
    else (⟨true, ""⟩, state)

/-- The payload for the channel and whether it was copied, or the reason why
there is none. -/
def preparePayloadForState (state : ChannelState) (source : RuntimePayload) :
    Except String (RuntimePayload × Bool) × ChannelState :=
  if config.copyPolicy = .copy then
    let reason := largePayloadCopyReason source
    if reason ≠ "" then
      (.error reason,
        { state with
          metrics.copyFallbackCount := state.metrics.copyFallbackCount + 1
          metrics.degradationReason := reason })
    else (.ok (copyTextPayload source, true), state)
  else (.ok (source, false), state)

/-- How a full queue refuses a message: the reason, and whether the refusal
counts as a drop. -/
def DropPolicy.refusal : DropPolicy → Option (String × Bool)
  | .dropNewest => some ("dropped newest payload", true)
  | .blockProducer => some ("would block producer", false)
  | .failFast => some ("channel capacity exceeded", true)
  | .overwrite | .dropOldest => none

/-- The counters of a refusal, the same in the preflight and in the publish. -/
def ChannelState.refuse (state : ChannelState) (isDrop : Bool) : ChannelState :=
  { state with
    metrics.dropCount := state.metrics.dropCount + (if isDrop then 1 else 0)
    metrics.rejectCount := state.metrics.rejectCount + 1
    metrics.healthEventCount := state.metrics.healthEventCount + 1
    ledger.refused := state.ledger.refused + 1 }

def preflightPublishToState (state : ChannelState) (plannedPublications : Nat) :
    RuntimeChannelPublishResult × ChannelState :=
  if config.type.isLatestStyle || state.queue.length + plannedPublications < config.capacity then
    (⟨true, ""⟩, state)
  else
    match config.dropPolicy.refusal with
    | some (reason, isDrop) => (⟨false, reason⟩, state.refuse isDrop)
    -- the other policies make room when the message is published
    | none => (⟨true, ""⟩, state)

/-- `maybe_emit_high_watermark`. -/
def maybeEmitHighWatermark (state : ChannelState) : ChannelState :=
  if state.highWatermarkReported || config.type.isLatestStyle || config.capacity = 0 ||
      state.metrics.depth < config.capacity then state
  else { state with highWatermarkReported := true }

/-- `maybe_rearm_high_watermark`. -/
def maybeRearmHighWatermark (state : ChannelState) : ChannelState :=
  if state.metrics.depth < config.capacity then { state with highWatermarkReported := false }
  else state

/-- The loop that pops the front of the queue while it is over capacity; the
list is the queue. -/
def evictOverflow (state : ChannelState) : List RuntimeChannelMessage → ChannelState
  | [] => { state with queue := [] }
  | oldest :: rest =>
      if config.capacity < (oldest :: rest).length then
        evictOverflow
          { state with
            metrics.overwriteCount := state.metrics.overwriteCount + 1
            metrics.healthEventCount := state.metrics.healthEventCount + 1
            ledger.evicted := state.ledger.evicted ++ [oldest.sequence] } rest
      else { state with queue := oldest :: rest }

def optionCount {α : Type} (value : Option α) : Nat := if value.isSome then 1 else 0

/-- `accept_message` on a previous-tick channel: the value waits for the next
epoch. -/
def acceptPending (state : ChannelState) (message : RuntimeChannelMessage) : ChannelState :=
  let overwritten := optionCount state.pendingPreviousTick
  let depth := optionCount state.latest + 1
  { state with
    pendingPreviousTick := some message
    metrics.overwriteCount := state.metrics.overwriteCount + overwritten
    metrics.healthEventCount := state.metrics.healthEventCount + overwritten
    metrics.publishedCount := state.metrics.publishedCount + 1
    metrics.depth := depth
    metrics.maxDepth := max state.metrics.maxDepth depth
    ledger.stored := state.ledger.stored ++ [message] }

/-- `accept_message` on the other latest-style channels. -/
def acceptLatest (state : ChannelState) (message : RuntimeChannelMessage) : ChannelState :=
  -- a latched value is replaced without a count
  let overwritten := if config.type = .latestOnly ∧ 0 < state.metrics.depth then 1 else 0
  maybeEmitHighWatermark config
    { state with
      latest := some message
      queue := []
      metrics.overwriteCount := state.metrics.overwriteCount + overwritten
      metrics.healthEventCount := state.metrics.healthEventCount + overwritten
      metrics.publishedCount := state.metrics.publishedCount + 1
      metrics.depth := 1
      metrics.maxDepth := max state.metrics.maxDepth 1
      ledger.stored := state.ledger.stored ++ [message] }

/-- `accept_message` on a queue or barrier channel. -/
def acceptQueued (state : ChannelState) (message : RuntimeChannelMessage) : ChannelState :=
  -- the message is in the queue before the front is popped
  let trimmed := evictOverflow config
    { state with
      latest := some message
      ledger.stored := state.ledger.stored ++ [message] }
    (state.queue ++ [message])
  maybeEmitHighWatermark config
    { trimmed with
      metrics.publishedCount := trimmed.metrics.publishedCount + 1
      metrics.depth := trimmed.queue.length
      metrics.maxDepth := max trimmed.metrics.maxDepth trimmed.queue.length }

def acceptMessage (state : ChannelState) (message : RuntimeChannelMessage) : ChannelState :=
  if config.type = .previousTick then acceptPending state message
  else if config.type.isLatestStyle then acceptLatest config state message
  else acceptQueued config state message

/-- What `publish_to_state` is given besides the channel. -/
structure Prepared where
  payload : RuntimePayload
  payloadWasCopied : Bool
  eventTimestamp : Option EventTimestamp
  metadata : InvocationMetadata
  tag : Option Nat

/-- The message that `publish_to_state` builds. -/
def messageOf (state : ChannelState) (now : Int) (prepared : Prepared) : RuntimeChannelMessage where
  channelId := config.id
  payload := prepared.payload
  publishedAt := now
  receivedAt := now
  sequence := state.nextSequence
  eventTimestamp := prepared.eventTimestamp
  metadata := finalizeMessageMetadata prepared.metadata config.id state.nextSequence
    config.fromEndpoint
  tag := prepared.tag

/-- The sequence number is used up and the copy counted before the capacity is
looked at. -/
def ChannelState.numbered (state : ChannelState) (payloadWasCopied : Bool) : ChannelState :=
  { state with
    nextSequence := state.nextSequence + 1
    metrics.payloadCopyCount :=
      state.metrics.payloadCopyCount + (if payloadWasCopied then 1 else 0) }

def publishToState (now : Int) (state : ChannelState) (prepared : Prepared) :
    RuntimeChannelPublishResult × ChannelState :=
  let message := messageOf config state now prepared
  let state := state.numbered prepared.payloadWasCopied
  if !config.type.isLatestStyle && config.capacity ≤ state.queue.length then
    match config.dropPolicy.refusal with
    | some (reason, isDrop) => (⟨false, reason⟩, state.refuse isDrop)
    | none => (⟨true, ""⟩, acceptMessage config state message)
  else (⟨true, ""⟩, acceptMessage config state message)

/-! ## Reading -/

def nanosecondsPerMillisecond : Int := 1000000

def messageExpired (message : RuntimeChannelMessage) (now : Int) : Bool :=
  0 < config.lifespan &&
    config.lifespan * nanosecondsPerMillisecond < now - message.publishedAt

def deadlineMissed (message : RuntimeChannelMessage) (now : Int) : Bool :=
  0 < config.deadline &&
    config.deadline * nanosecondsPerMillisecond < now - message.publishedAt

/-- `mark_stale_drop`. -/
def ChannelState.markStaleDrop (state : ChannelState) (message : RuntimeChannelMessage) :
    ChannelState :=
  { state with
    metrics.dropCount := state.metrics.dropCount + 1
    metrics.staleDropCount := state.metrics.staleDropCount + 1
    metrics.healthEventCount := state.metrics.healthEventCount + 1
    metrics.degradationReason := "stale message expired"
    ledger.expired := state.ledger.expired ++ [message.sequence] }

/-- The message as the reader gets it. -/
def deliveredMessage (now : Int) (message : RuntimeChannelMessage) : RuntimeChannelMessage :=
  { message with deadlineMissed := message.deadlineMissed || deadlineMissed config message now }

/-- The state part of `mark_delivery_metrics`, with the delivery recorded. -/
def markDeliveryMetrics (now : Int) (state : ChannelState) (readerId : String)
    (message : RuntimeChannelMessage) : ChannelState :=
  let missed := if deadlineMissed config message now then 1 else 0
  { state with
    metrics.deadlineMissCount := state.metrics.deadlineMissCount + missed
    metrics.healthEventCount := state.metrics.healthEventCount + missed
    metrics.degradationReason :=
      if deadlineMissed config message now then "deadline missed"
      else state.metrics.degradationReason
    ledger.delivered := state.ledger.delivered ++ [(readerId, message.sequence)] }

/-- The expired latest value is taken out. -/
def ChannelState.dropLatest (state : ChannelState) (message : RuntimeChannelMessage) :
    ChannelState :=
  let state := { state with latest := none }.markStaleDrop message
  { state with metrics.depth := 0 }

def consumeLatestFromState (now : Int) (readerId : String) (state : ChannelState) :
    Option RuntimeChannelMessage × ChannelState :=
  match state.latest with
  | none => (none, state)
  | some latest =>
      if messageExpired config latest now then (none, state.dropLatest latest)
      else if state.deliveredLatestSequences[readerId]? = some latest.sequence then (none, state)
      else
        let delivered := state.deliveredLatestSequences.insert readerId latest.sequence
        let delivered :=
          if kMaxTrackedReaders < delivered.size then
            enforceReaderCap (pruneLatestDedup delivered latest.sequence)
          else delivered
        let state :=
          { state with
            deliveredLatestSequences := delivered
            metrics.deliveredCount := state.metrics.deliveredCount + 1 }
        (some (deliveredMessage config now latest),
          markDeliveryMetrics config now state readerId latest)

/-- `messages` and `retained` of the drain loop, with the state it updates. -/
structure DrainState where
  state : ChannelState
  messages : List RuntimeChannelMessage := []
  retained : List RuntimeChannelMessage := []

/-- `max_batch != 0 && size >= max_batch`. -/
def batchFull (maxBatch size : Nat) : Bool := maxBatch ≠ 0 && maxBatch ≤ size

/-- The message goes to the reader; channels with several readers keep it and
move the reader's cursor. -/
def deliverStep (now : Int) (readerId : String) (s : DrainState)
    (message : RuntimeChannelMessage) : DrainState :=
  let state := markDeliveryMetrics config now s.state readerId message
  let messages := s.messages ++ [deliveredMessage config now message]
  if isMultiReader config.readers then
    { state :=
        { state with
          deliveredQueueSequences :=
            state.deliveredQueueSequences.insert readerId message.sequence }
      messages := messages
      retained := s.retained ++ [message] }
  else { s with state := state, messages := messages }

/-- One message of the drain loop. -/
def drainStep (now : Int) (readerId : String) (lastDelivered maxBatch : Nat) (s : DrainState)
    (message : RuntimeChannelMessage) : DrainState :=
  if messageExpired config message now then { s with state := s.state.markStaleDrop message }
  else if (isMultiReader config.readers && message.sequence ≤ lastDelivered) ||
      batchFull maxBatch s.messages.length then
    { s with retained := s.retained ++ [message] }
  else deliverStep config now readerId s message

/-- The cursor of a reader; single-reader channels keep none. -/
def lastDelivered (state : ChannelState) (readerId : String) : Nat :=
  if isMultiReader config.readers then state.deliveredQueueSequences[readerId]?.getD 0 else 0

/-- What follows the drain loop. -/
def finishDrain (maxBatch : Nat) (drained : DrainState) :
    List RuntimeChannelMessage × ChannelState :=
  let queue :=
    if isMultiReader config.readers || (maxBatch ≠ 0 && !drained.retained.isEmpty) then
      drained.retained
    else []
  let state := maybeRearmHighWatermark config
    { drained.state with
      queue := queue
      metrics.deliveredCount := drained.state.metrics.deliveredCount + drained.messages.length
      metrics.depth := queue.length }
  let cursors :=
    if kMaxTrackedReaders < state.deliveredQueueSequences.size then
      enforceReaderCap (pruneQueueDedup state.deliveredQueueSequences
        ((queue.head?.map RuntimeChannelMessage.sequence).getD 0))
    else state.deliveredQueueSequences
  (drained.messages, { state with deliveredQueueSequences := cursors })

/-- A barrier hands nothing out until it is full. -/
def consumeFromState (now : Int) (readerId : String) (maxBatch : Nat) (state : ChannelState) :
    List RuntimeChannelMessage × ChannelState :=
  if config.type = .barrier ∧ state.queue.length < config.capacity then ([], state)
  else
    finishDrain config maxBatch (state.queue.foldl
      (drainStep config now readerId (lastDelivered config state readerId) maxBatch)
      { state := state })

/-- One message of the snapshot loop. -/
def snapshotStep (now : Int) (maxBatch : Nat) (s : DrainState) (message : RuntimeChannelMessage) :
    DrainState :=
  if messageExpired config message now then { s with state := s.state.markStaleDrop message }
  else
    { s with
      messages :=
        if maxBatch = 0 ∨ s.messages.length < maxBatch then s.messages ++ [message]
        else s.messages
      retained := s.retained ++ [message] }

def snapshotFromState (now : Int) (maxBatch : Nat) (state : ChannelState) :
    List RuntimeChannelMessage × ChannelState :=
  if config.type.isLatestStyle then
    match state.latest with
    | none => ([], state)
    | some latest =>
        if messageExpired config latest now then ([], state.dropLatest latest)
        else ([latest], state)
  else
    let walked := state.queue.foldl (snapshotStep config now maxBatch) { state := state }
    (walked.messages,
      maybeRearmHighWatermark config
        { walked.state with
          queue := walked.retained
          metrics.depth := walked.retained.length })

/-- The body of the loop of `advance_epoch`, with whether it updated the
channel. -/
def advanceState (state : ChannelState) : Bool × ChannelState :=
  match config.type, state.pendingPreviousTick with
  | .previousTick, some pending =>
      (true,
        { state with
          latest := some pending
          pendingPreviousTick := none
          metrics.depth := 1
          metrics.maxDepth := max state.metrics.maxDepth 1 })
  | _, _ => (false, state)

end

end TopoExec
