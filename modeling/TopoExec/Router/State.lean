import TopoExec.Channel.Step

/-! # The publication router

`RuntimePublicationRouter` stages what components publish and hands it to the
bus at commit points: immediate publications at `commit_immediate`, the deferred
kinds one epoch later, and what leaves an active composite region when that
region is committed. Every public operation is one step; `commit_batch` releases
the router's mutex around the call of the bus, and no other router operation is
interleaved there.

Two things are added to the source. A publication carries the number of
publications staged before it as its `tag`, and the router writes a `trace` of
what happens to each tag. No operation reads either of them.
-/

namespace TopoExec

/-! ## State -/

structure RoutedEdge where
  channelId : String
  sourceComponent : String
  targetComponent : String
  kind : EdgeKind := .immediate
  maxInflight : Int := 0
  overflow : String := ""
deriving DecidableEq, Repr

structure StagedRoutedPublication where
  kind : EdgeKind := .immediate
  publication : RuntimeChannelPublication
deriving DecidableEq, Repr

structure RuntimePublicationRouterMetrics where
  stagedCount : Nat := 0
  immediateStagedCount : Nat := 0
  delayedStagedCount : Nat := 0
  stateStagedCount : Nat := 0
  stateCommitCount : Nat := 0
  asyncStagedCount : Nat := 0
  asyncAdmissionAcceptedCount : Nat := 0
  asyncAdmissionRejectedCount : Nat := 0
  asyncAdmissionDroppedCount : Nat := 0
  asyncAdmissionOverwriteCount : Nat := 0
  asyncCompletionCount : Nat := 0
  asyncInFlightCount : Nat := 0
  asyncMaxInFlightCount : Nat := 0
  asyncCancelledCount : Nat := 0
  committedCount : Nat := 0
  compositeDiscardedCount : Nat := 0
  failedCommitCount : Nat := 0
deriving DecidableEq, Repr

/-- The operations that move staged publications. -/
inductive RouterCall where
  | beginEpoch
  | endEpoch
  | commitImmediate
  | beginComposite
  | commitComposite
  | discardComposite
deriving DecidableEq, Repr

/-- The points of a run at which the runtime writes the bus into the trace. -/
inductive RunPoint where
  | iterationBegin (iteration : Nat)
  | epochBegun (iteration : Nat)
  | collect (iteration : Nat) (componentId : String)
deriving DecidableEq, Repr

/-- What happens to the publications, in order. `returned` closes a call, after
everything that the call handed to the bus. -/
inductive TraceEvent where
  | staged (tag : Nat) (channelId : String) (kind : EdgeKind) (composite : Bool)
  | handed (tag : Nat) (channelId : String) (call : RouterCall)
  | overwritten (tag : Nat)
  | discarded (tag : Nat)
  | returned (call : RouterCall)
  | reached (point : RunPoint) (channels : Option RuntimeChannelBus)

/-- `channels` is the bus that the router points to, if any. -/
structure RuntimePublicationRouter where
  channels : Option RuntimeChannelBus
  sourceToEdges : String → Option (List RoutedEdge) := fun _ => none
  activeCompositeComponents : List String := []
  compositeExternalStage : List StagedRoutedPublication := []
  immediateStage : List RuntimeChannelPublication := []
  deferredNextEpoch : List RuntimeChannelPublication := []
  deferredReady : List RuntimeChannelPublication := []
  metrics : RuntimePublicationRouterMetrics := {}
  trace : List TraceEvent := []

def RoutedEdge.ofSpec (spec : EdgeSpec) : RoutedEdge where
  channelId := spec.id
  sourceComponent := spec.source
  targetComponent := spec.target
  kind := spec.kind
  maxInflight := spec.policy.maxInflight
  overflow := spec.policy.overflow

/-- The edge has as many publications in flight as it may have. -/
def RoutedEdge.full (edge : RoutedEdge) (pending : Nat) : Bool :=
  0 < edge.maxInflight && edge.maxInflight ≤ pending

/-- A full edge with one of these policies drops its oldest publication. -/
def RoutedEdge.overwrites (edge : RoutedEdge) : Bool :=
  edge.overflow = "drop_oldest" || edge.overflow = "overwrite"

/-- The edges of a source endpoint, in the order of the specification. -/
def edgesOfSource (specs : List EdgeSpec) (sourceEndpoint : String) : Option (List RoutedEdge) :=
  match specs.filter fun spec => spec.fromEndpoint = sourceEndpoint with
  | [] => none
  | found => some (found.map RoutedEdge.ofSpec)

namespace RuntimePublicationRouter

def ofEdges (channels : Option RuntimeChannelBus) (specs : List EdgeSpec) :
    RuntimePublicationRouter where
  channels := channels
  sourceToEdges := edgesOfSource specs

/-! ## Async admission -/

def isPendingAsync (channelId : String) (publication : RuntimeChannelPublication) : Bool :=
  publication.kind = .async && (channelId = "" || publication.id = channelId)

/-- `pending_async_count_locked`; the empty id counts all channels. -/
def pendingAsyncCount (router : RuntimePublicationRouter) (channelId : String := "") : Nat :=
  router.deferredNextEpoch.countP (isPendingAsync channelId) +
    router.deferredReady.countP (isPendingAsync channelId) +
    router.compositeExternalStage.countP fun staged =>
      staged.kind = .async && (channelId = "" || staged.publication.id = channelId)

/-- `matches` of `drop_oldest_pending_async_locked`. -/
def isAsyncOf (channelId : String) (publication : RuntimeChannelPublication) : Bool :=
  publication.kind = .async && publication.id = channelId

/-- Record what happened to the publication of a tag. -/
def tagEvents (event : Nat → TraceEvent) (publications : List RuntimeChannelPublication) :
    List TraceEvent :=
  publications.filterMap fun publication => publication.tag.map event

/-- `drop_oldest_pending_async_locked`: the first match, in the ready list, the
next list and the composite stage. -/
def dropOldestPendingAsync (router : RuntimePublicationRouter) (channelId : String) :
    Bool × RuntimePublicationRouter :=
  -- the ready list holds what was staged first
  match router.deferredReady.find? (isAsyncOf channelId) with
  | some dropped =>
      (true,
        { router with
          deferredReady := router.deferredReady.eraseP (isAsyncOf channelId)
          trace := router.trace ++ tagEvents .overwritten [dropped] })
  | none =>
      match router.deferredNextEpoch.find? (isAsyncOf channelId) with
      | some dropped =>
          (true,
            { router with
              deferredNextEpoch := router.deferredNextEpoch.eraseP (isAsyncOf channelId)
              trace := router.trace ++ tagEvents .overwritten [dropped] })
      | none =>
          match router.compositeExternalStage.find? fun staged =>
              isAsyncOf channelId staged.publication with
          | some dropped =>
              (true,
                { router with
                  compositeExternalStage := router.compositeExternalStage.eraseP fun staged =>
                    isAsyncOf channelId staged.publication
                  trace := router.trace ++ tagEvents .overwritten [dropped.publication] })
          | none => (false, router)

/-- The end of an admission: the publication counts as in flight. -/
def admitted (router : RuntimePublicationRouter) (pending : Nat) : RuntimePublicationRouter :=
  { router with
    metrics.asyncAdmissionAcceptedCount := router.metrics.asyncAdmissionAcceptedCount + 1
    metrics.asyncInFlightCount := pending + 1
    metrics.asyncMaxInFlightCount := max router.metrics.asyncMaxInFlightCount (pending + 1) }

/-- `admit_async_locked`. -/
def admitAsync (router : RuntimePublicationRouter) (edge : RoutedEdge) :
    RuntimeChannelPublishResult × RuntimePublicationRouter :=
  if edge.kind ≠ .async then (⟨true, ""⟩, router)
  else
    let pending := router.pendingAsyncCount edge.channelId
    -- `pending` counts all three places where an async publication can wait
    if edge.full pending then
      if edge.overwrites then
        let dropped := router.dropOldestPendingAsync edge.channelId
        if dropped.1 then
          (⟨true, ""⟩,
            { dropped.2 with
              metrics.asyncAdmissionOverwriteCount :=
                dropped.2.metrics.asyncAdmissionOverwriteCount + 1 }.admitted (pending - 1))
        -- nothing was found to drop, and the publication is admitted all the same
        else (⟨true, ""⟩, dropped.2.admitted pending)
      else if edge.overflow = "drop_newest" then
        (⟨false, "async admission dropped newest for channel " ++ edge.channelId⟩,
          { router with
            metrics.asyncAdmissionDroppedCount := router.metrics.asyncAdmissionDroppedCount + 1
            metrics.asyncAdmissionRejectedCount := router.metrics.asyncAdmissionRejectedCount + 1
            metrics.asyncInFlightCount := router.pendingAsyncCount })
      else
        (⟨false, "async admission max_inflight exceeded for channel " ++ edge.channelId⟩,
          { router with
            metrics.asyncAdmissionRejectedCount := router.metrics.asyncAdmissionRejectedCount + 1
            metrics.asyncInFlightCount := router.pendingAsyncCount })
    else (⟨true, ""⟩, router.admitted pending)

/-! ## Publishing -/

/-- The edge leaves the active composite region. -/
def leavesComposite (router : RuntimePublicationRouter) (edge : RoutedEdge) : Bool :=
  !router.activeCompositeComponents.isEmpty &&
    edge.sourceComponent ∈ router.activeCompositeComponents &&
    edge.targetComponent ∉ router.activeCompositeComponents

/-- The counters of one staged publication. -/
def countStaged (metrics : RuntimePublicationRouterMetrics) (kind : EdgeKind) :
    RuntimePublicationRouterMetrics :=
  let metrics := { metrics with stagedCount := metrics.stagedCount + 1 }
  match kind with
  | .immediate => { metrics with immediateStagedCount := metrics.immediateStagedCount + 1 }
  | .delay => { metrics with delayedStagedCount := metrics.delayedStagedCount + 1 }
  | .state => { metrics with stateStagedCount := metrics.stateStagedCount + 1 }
  | .async => { metrics with asyncStagedCount := metrics.asyncStagedCount + 1 }

/-- Stage a publication for one edge, after its admission. -/
def stage (router : RuntimePublicationRouter) (edge : RoutedEdge)
    (publication : RuntimeChannelPublication) : RuntimePublicationRouter :=
  let tag := router.metrics.stagedCount
  let publication := { publication with tag := some tag }
  let counted :=
    { router with
      metrics := countStaged router.metrics edge.kind
      trace := router.trace ++
        [TraceEvent.staged tag edge.channelId edge.kind (router.leavesComposite edge)] }
  -- what leaves the region waits for its loop, whatever its kind
  if router.leavesComposite edge then
    { counted with
      compositeExternalStage :=
        router.compositeExternalStage ++ [{ kind := edge.kind, publication := publication }] }
  else if edge.kind = .immediate then
    { counted with immediateStage := router.immediateStage ++ [publication] }
  else { counted with deferredNextEpoch := router.deferredNextEpoch ++ [publication] }

/-- The payload of a publish call with what travels with it. -/
structure Publish where
  sourceEndpoint : String
  payload : RuntimePayload
  metadata : InvocationMetadata := {}
  eventTimestamp : Option EventTimestamp := none

/-- The publication that an edge gets, before it is numbered. -/
def publicationFor (publish : Publish) (edge : RoutedEdge) : RuntimeChannelPublication where
  target := .channel
  id := edge.channelId
  payload := some publish.payload
  kind := edge.kind
  eventTimestamp := publish.eventTimestamp
  metadata :=
    { metadataForSourceEndpoint publish.metadata publish.sourceEndpoint with
      sourceComponent := edge.sourceComponent
      sourcePort := portNameFromEndpoint publish.sourceEndpoint }

/-- The loop over the edges of an endpoint; a refused admission ends it. -/
def publishEdges (publish : Publish) : List RoutedEdge → RuntimePublicationRouter →
    RuntimeChannelPublishResult × RuntimePublicationRouter
  | [], router => (⟨true, ""⟩, router)
  | edge :: rest, router =>
      let admission := router.admitAsync edge
      -- the edges before a refused one keep their publication
      if admission.1.accepted then
        publishEdges publish rest (admission.2.stage edge (publicationFor publish edge))
      else admission

def publishSharedFromWithMetadata (router : RuntimePublicationRouter) (sourceEndpoint : String)
    (payload : Option RuntimePayload) (metadata : InvocationMetadata := {})
    (eventTimestamp : Option EventTimestamp := none) :
    RuntimeChannelPublishResult × RuntimePublicationRouter :=
  match payload with
  | none => (⟨false, "payload must not be null"⟩, router)
  | some payload =>
      match router.sourceToEdges sourceEndpoint with
      | none => (⟨false, "unknown source endpoint: " ++ sourceEndpoint⟩, router)
      | some edges =>
          publishEdges
            { sourceEndpoint := sourceEndpoint, payload := payload, metadata := metadata,
              eventTimestamp := eventTimestamp } edges router

/-! ## Commit points -/

/-- Close a call in the trace. -/
def close (router : RuntimePublicationRouter) (call : RouterCall) : RuntimePublicationRouter :=
  { router with trace := router.trace ++ [.returned call] }

/-- The `handed` events of a batch. -/
def handedEvents (call : RouterCall) (publications : List RuntimeChannelPublication) :
    List TraceEvent :=
  publications.filterMap fun publication =>
    publication.tag.map fun tag => .handed tag publication.id call

section

variable (clock : Nat → Int)

def commitBatch (router : RuntimePublicationRouter) (call : RouterCall)
    (publications : List RuntimeChannelPublication) :
    RuntimeChannelPublishResult × RuntimePublicationRouter :=
  if publications.isEmpty then (⟨true, ""⟩, router)
  else
    match router.channels with
    | none =>
        (⟨false, "publication router has no channel bus"⟩,
          { router with metrics.failedCommitCount := router.metrics.failedCommitCount + 1 })
    | some bus =>
        let result := bus.publishBatch clock publications
        let handed :=
          { router with
            channels := some result.2
            trace := router.trace ++ handedEvents call publications }
        if result.1.accepted then
          (result.1,
            { handed with
              metrics.committedCount := handed.metrics.committedCount + publications.length
              metrics.stateCommitCount := handed.metrics.stateCommitCount +
                publications.countP fun publication => publication.kind = .state })
        else
          (result.1,
            { handed with metrics.failedCommitCount := handed.metrics.failedCommitCount + 1 })

def beginCompositeRegion (router : RuntimePublicationRouter) (components : List String) :
    RuntimePublicationRouter :=
  { router with
    activeCompositeComponents := components
    compositeExternalStage := []
    trace := router.trace ++
      tagEvents .discarded
        (router.compositeExternalStage.map StagedRoutedPublication.publication) }.close
    .beginComposite

def commitCompositeRegionOutputs (router : RuntimePublicationRouter) :
    RuntimeChannelPublishResult × RuntimePublicationRouter :=
  let immediate := router.compositeExternalStage.filter fun staged => staged.kind = .immediate
  let deferred := router.compositeExternalStage.filter fun staged => !(staged.kind = .immediate)
  let released :=
    { router with
      deferredNextEpoch :=
        router.deferredNextEpoch ++ deferred.map StagedRoutedPublication.publication
      compositeExternalStage := []
      activeCompositeComponents := [] }
  let result := released.commitBatch clock .commitComposite
    (immediate.map StagedRoutedPublication.publication)
  (result.1, result.2.close .commitComposite)

/-- The end of `discard_composite_region_outputs`, after the lists are cleared. -/
def cancelAsync (router : RuntimePublicationRouter) (discardedAsync : Nat) :
    RuntimePublicationRouter :=
  if 0 < discardedAsync then
    { router with
      metrics.asyncCancelledCount := router.metrics.asyncCancelledCount + discardedAsync
      metrics.asyncInFlightCount := router.pendingAsyncCount }
  else router

def discardCompositeRegionOutputs (router : RuntimePublicationRouter) :
    RuntimePublicationRouter :=
  let discardedAsync := router.compositeExternalStage.countP fun staged => staged.kind = .async
  let discarded :=
    { router with
      metrics.compositeDiscardedCount :=
        router.metrics.compositeDiscardedCount + router.compositeExternalStage.length
      compositeExternalStage := []
      activeCompositeComponents := []
      trace := router.trace ++
        tagEvents .discarded
          (router.compositeExternalStage.map StagedRoutedPublication.publication) }
  (discarded.cancelAsync discardedAsync).close .discardComposite

/-- The end of `begin_epoch`, after the commit. -/
def completeAsync (router : RuntimePublicationRouter) (accepted : Bool) (asyncReadyCount : Nat) :
    RuntimePublicationRouter :=
  if accepted && 0 < asyncReadyCount then
    { router with
      metrics.asyncCompletionCount := router.metrics.asyncCompletionCount + asyncReadyCount
      metrics.asyncInFlightCount := router.pendingAsyncCount }
  else router

def beginEpoch (router : RuntimePublicationRouter) :
    RuntimeChannelPublishResult × RuntimePublicationRouter :=
  let ready := router.deferredReady
  let asyncReadyCount := ready.countP fun publication => publication.kind = .async
  let result :=
    { router with
      channels := router.channels.map RuntimeChannelBus.advanceEpoch
      deferredReady := [] }.commitBatch clock .beginEpoch ready
  (result.1, (result.2.completeAsync result.1.accepted asyncReadyCount).close .beginEpoch)

def commitImmediate (router : RuntimePublicationRouter) :
    RuntimeChannelPublishResult × RuntimePublicationRouter :=
  let result := { router with immediateStage := [] }.commitBatch clock .commitImmediate
    router.immediateStage
  (result.1, result.2.close .commitImmediate)

def endEpoch (router : RuntimePublicationRouter) : RuntimePublicationRouter :=
  { router with
    deferredReady := router.deferredReady ++ router.deferredNextEpoch
    deferredNextEpoch := [] }.close .endEpoch

/-- Somebody else uses the bus. -/
def useBus (router : RuntimePublicationRouter) (op : BusOp) : RuntimePublicationRouter :=
  { router with channels := router.channels.map fun bus => (op.exec clock bus).2 }

end

end RuntimePublicationRouter

/-! ## Operations -/

/-- The public operations of the router, and the use of the bus by others
between them. -/
inductive RouterOp where
  | publish (sourceEndpoint : String) (payload : Option RuntimePayload)
      (metadata : InvocationMetadata) (eventTimestamp : Option EventTimestamp)
  | beginEpoch
  | commitImmediate
  | endEpoch
  | beginCompositeRegion (components : List String)
  | commitCompositeRegionOutputs
  | discardCompositeRegionOutputs
  | useBus (op : BusOp)

def RouterOp.exec (clock : Nat → Int) (router : RuntimePublicationRouter) :
    RouterOp → RuntimePublicationRouter
  | .publish sourceEndpoint payload metadata eventTimestamp =>
      (router.publishSharedFromWithMetadata sourceEndpoint payload metadata eventTimestamp).2
  | .beginEpoch => (router.beginEpoch clock).2
  | .commitImmediate => (router.commitImmediate clock).2
  | .endEpoch => router.endEpoch
  | .beginCompositeRegion components => router.beginCompositeRegion components
  | .commitCompositeRegionOutputs => (router.commitCompositeRegionOutputs clock).2
  | .discardCompositeRegionOutputs => router.discardCompositeRegionOutputs
  | .useBus op => router.useBus clock op

/-- The states that operations reach from a new router, each operation called
only where `allowed` lets it. -/
inductive RouterReachable (clock : Nat → Int)
    (allowed : RuntimePublicationRouter → RouterOp → Prop) (channels : Option RuntimeChannelBus)
    (specs : List EdgeSpec) : RuntimePublicationRouter → Prop where
  | init : RouterReachable clock allowed channels specs (.ofEdges channels specs)
  | step {router : RuntimePublicationRouter} (op : RouterOp)
      (hreach : RouterReachable clock allowed channels specs router) (hop : allowed router op) :
      RouterReachable clock allowed channels specs (op.exec clock router)

end TopoExec
