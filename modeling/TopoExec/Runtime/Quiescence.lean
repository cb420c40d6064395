import TopoExec.Channel.PreviousTick
import TopoExec.Graph.Validate
import TopoExec.Runtime.EdgeVisibility

/-! # What an idle run leaves behind

With `run_until_idle` a run stops after an iteration that executed no component. Nothing was
published in that iteration, so what its `begin_epoch` left is what the run leaves: the
lists of the router are empty. `begin_epoch` advances the channels before it commits the
deferred publications, so a previous-tick channel of a deferred edge can still hold a value
that waits (`idle_nothing_staged`).
-/

namespace TopoExec

open RuntimePublicationRouter Loop

/-- No publication waits in the router. -/
structure NothingStaged (router : RuntimePublicationRouter) : Prop where
  immediate : router.immediateStage = []
  next : router.deferredNextEpoch = []
  ready : router.deferredReady = []
  composite : router.compositeExternalStage = []

/-- A previous-tick channel holds a value for the next epoch. -/
def HoldsPending (router : RuntimePublicationRouter) (id : String) : Prop :=
  ∃ bus, router.channels = some bus ∧ id ∈ bus.channelIds ∧
    (bus.config id).type = .previousTick ∧ (bus.channels id).pendingPreviousTick ≠ none

/-- The channel belongs to an edge whose publications are committed an epoch later. -/
def DeferredEdge (specs : List EdgeSpec) (id : String) : Prop :=
  ∃ spec ∈ specs, spec.id = id ∧ spec.kind ≠ .immediate

/-- The router before an iteration: only deferred publications wait, for its epoch. -/
structure AtBoundary (specs : List EdgeSpec) (router : RuntimePublicationRouter) : Prop where
  staging : StagingInv specs router
  immediate : router.immediateStage = []
  next : router.deferredNextEpoch = []
  composite : router.compositeExternalStage = []
  active : router.activeCompositeComponents = []

variable {specs : List EdgeSpec} {router : RuntimePublicationRouter} {clock : Nat → Int}

/-! ## The epoch boundary -/

namespace RuntimeChannelBus

/-- A batch leaves a value waiting only where one of its publications goes. -/
theorem publishBatch_pending {bus : RuntimeChannelBus} {id : String}
    (htype : (bus.config id).type = .previousTick)
    (hnone : (bus.channels id).pendingPreviousTick = none)
    {publications : List RuntimeChannelPublication}
    (htarget : ∀ publication ∈ publications, publication.target = .channel)
    (haccepted : (bus.publishBatch clock publications).1.accepted = true)
    (hpending :
      ((bus.publishBatch clock publications).2.channels id).pendingPreviousTick ≠ none) :
    ∃ publication ∈ publications, publication.id = id := by
  obtain ⟨expanded, hexpanded, hstored⟩ :=
    (publishBatch_allOrNothing clock bus publications).2.accepted haccepted
  obtain ⟨new, hnew, hall, -⟩ := (hstored id).stored
  have hwithin : WithinEpoch (bus.channels id)
      ((bus.publishBatch clock publications).2.channels id) :=
    withinEpoch_exec clock htype (show BusOp.publishBatch publications ≠ .advanceEpoch by simp)
  obtain ⟨⟨recent, hrecent, hlast⟩, -⟩ := hwithin
  -- what waits is the last value that the batch stored
  obtain rfl : recent = new := List.append_cancel_left (hrecent.symm.trans hnew)
  rw [hlast, hnone, Option.or_none] at hpending
  have hsome : recent ≠ [] := by
    rintro rfl
    exact hpending rfl
  obtain ⟨one, hone⟩ := List.exists_mem_of_ne_nil
    (expanded.filter fun publication => publication.channelId = id) (by
      intro hnil
      rw [hnil] at hall
      cases hall
      exact hsome rfl)
  obtain ⟨hmem, hid⟩ := List.mem_filter.mp hone
  obtain ⟨publication, hpublication, hexpands⟩ :=
    Paired.exists_left (expandAll_channels htarget hexpanded) hmem
  refine ⟨publication, hpublication, ?_⟩
  rw [← hexpands.channelId]
  simpa using hid

end RuntimeChannelBus

/-- What waits after `begin_epoch` was committed by it. -/
theorem beginEpoch_pending (hstaging : StagingInv specs router)
    (haccepted : (router.beginEpoch clock).1.accepted = true) {id : String}
    (hpending : HoldsPending (router.beginEpoch clock).2 id) : DeferredEdge specs id := by
  obtain ⟨bus', hbus', hknown, htype, hwaits⟩ := hpending
  obtain ⟨router', inFlight, completions, hcommits, heq⟩ := router.beginEpoch_commits clock
  rw [haccepted] at hcommits
  rw [heq] at hbus'
  change router'.channels = some bus' at hbus'
  cases hcommits with
  | empty _ =>
      -- nothing was committed after the channels advanced
      obtain ⟨bus, hbus, rfl⟩ := Option.map_eq_some_iff.mp hbus'
      exact absurd (advanceEpoch_shows (show id ∈ bus.channelIds from hknown) htype).2 hwaits
  | @accepted advanced hadvanced hbatch =>
      obtain ⟨bus, hbus, rfl⟩ := Option.map_eq_some_iff.mp hadvanced
      cases hbus'
      have hevolves := exec_evolves clock bus.advanceEpoch (.publishBatch router.deferredReady)
      have hknown' : id ∈ bus.channelIds := hevolves.channelIds ▸ hknown
      have htype' : (bus.config id).type = .previousTick := hevolves.config ▸ htype
      have hheld : ∀ p ∈ router.deferredReady, p ∈ router.held := fun p hp =>
        mem_held.mpr (Or.inl hp)
      have hnone := (advanceEpoch_shows hknown' htype').2
      obtain ⟨p, hp, rfl⟩ := RuntimeChannelBus.publishBatch_pending
        (show (bus.advanceEpoch.config id).type = .previousTick from htype') hnone
        (fun p hp => (hstaging.numbered p (hheld p hp)).target) hbatch hwaits
      obtain ⟨spec, hspec, hid, hkind⟩ := (hstaging.numbered p (hheld p hp)).edge
      exact ⟨spec, hspec, hid.symm, hkind ▸ hstaging.ready p hp⟩

/-- Reading the bus leaves what waits. -/
theorem HoldsPending.of_read {read : BusRead} {id : String}
    (h : HoldsPending (router.useBus clock read.1) id) : HoldsPending router id := by
  obtain ⟨bus', hbus', hknown, htype, hwaits⟩ := h
  obtain ⟨bus, hbus, rfl⟩ := Option.map_eq_some_iff.mp hbus'
  have hevolves := exec_evolves clock bus read.1
  have hsame : ((read.1.exec clock bus).2.channels id).pendingPreviousTick =
      (bus.channels id).pendingPreviousTick := by
    refine ChannelSteps.invariant (P := fun s => s.pendingPreviousTick =
      (bus.channels id).pendingPreviousTick) ?_ (hevolves.steps id) rfl
    intro s s' hstep h
    exact (pending_of_read (BusOp.kinds_of_isRead read.2) hstep.slots).trans h
  refine ⟨bus, hbus, hevolves.channelIds ▸ hknown, hevolves.config ▸ htype, ?_⟩
  rw [← hsame]
  exact hwaits

/-! ## Inside an iteration -/

/-- What an idle stop finds: nothing is staged, and values wait for deferred edges only. -/
structure Still (specs : List EdgeSpec) (router : RuntimePublicationRouter) : Prop extends
    NothingStaged router where
  pending : ∀ id, HoldsPending router id → DeferredEdge specs id

/-- The run has not stopped for being idle. -/
def NotIdle (s : RunState) : Prop := s.result.stopReason ≠ .idle

/-- A component of the region executes, in an iteration that began after `before` ticks.
Outside composite regions nothing goes to the composite stage. -/
structure Going (specs : List EdgeSpec) (before : Nat) (active : List String) (s : RunState) :
    Prop where
  staging : StagingInv specs s.router
  inside : s.router.activeCompositeComponents = active
  composite : active = [] → s.router.compositeExternalStage = []
  notIdle : NotIdle s
  le : before ≤ s.result.tickCalls

/-- Between two components: without a tick the router is as the epoch found it. -/
structure Paused (specs : List EdgeSpec) (before : Nat) (active : List String) (s : RunState) :
    Prop extends Going specs before active s where
  immediate : s.router.immediateStage = []
  still : s.result.tickCalls = before → Still specs s.router

variable {before : Nat} {active : List String} {env : Env} {options : SchedulerRunOptions}
  {runtime : EventRuntime}

/-- Where the result is the same the run has not been found idle. -/
theorem NotIdle.same {s s' : RunState} (h : NotIdle s) (hs : SameRun s s') : NotIdle s' := by
  unfold NotIdle
  rw [hs.reason]
  exact h

/-- A failed run was not found idle. -/
theorem notIdle_fail (s : RunState) (message : String) : NotIdle (s.fail message) := by
  simp [NotIdle, RunState.fail]

/-- Where router and result are the same the run goes on. -/
theorem Going.same {s s' : RunState} (h : Going specs before active s) (hs : SameRun s s') :
    Going specs before active s' := by
  refine ⟨?_, ?_, ?_, h.notIdle.same hs, hs.ticks ▸ h.le⟩ <;> rw [hs.router]
  · exact h.staging
  · exact h.inside
  · exact h.composite

/-- Reading the bus stages nothing. -/
theorem Still.read (h : Still specs router) (read : BusRead) :
    Still specs (router.useBus clock read.1) :=
  ⟨⟨h.immediate, h.next, h.ready, h.composite⟩, fun id hid => h.pending id hid.of_read⟩

/-- Only the router, the ticks and the reason to stop matter. -/
theorem Paused.same {s s' : RunState} (h : Paused specs before active s)
    (hrouter : s'.router = s.router) (hticks : s'.result.tickCalls = s.result.tickCalls)
    (hreason : NotIdle s') : Paused specs before active s' := by
  refine ⟨⟨?_, ?_, ?_, hreason, hticks ▸ h.le⟩, ?_, ?_⟩ <;> rw [hrouter]
  · exact h.staging
  · exact h.inside
  · exact h.composite
  · exact h.immediate
  · rw [hticks]
    exact h.still

/-- Reading the bus stages nothing. -/
theorem Paused.read {s : RunState} (h : Paused specs before active s) (read : BusRead) :
    Paused specs before active (s.withRouter (s.router.useBus clock read.1)) :=
  ⟨⟨h.staging.exec (.useBus read.1), h.inside, h.composite, h.notIdle, h.le⟩, h.immediate,
    fun hnone => (h.still hnone).read read⟩

/-- Reaching a point of the run stages nothing. -/
theorem Paused.reach {s : RunState} (h : Paused specs before active s) (point : RunPoint) :
    Paused specs before active (s.reach point) := by
  refine ⟨⟨stagingInv_reach h.staging point, h.inside, h.composite, h.notIdle, h.le⟩,
    h.immediate, ?_⟩
  intro hnone
  have hstill := h.still hnone
  exact ⟨⟨hstill.immediate, hstill.next, hstill.ready, hstill.composite⟩, hstill.pending⟩

/-- Publishing outside composite regions leaves the composite stage alone. -/
theorem publish_composite (hactive : router.activeCompositeComponents = active)
    (hcomposite : active = [] → router.compositeExternalStage = []) (sourceEndpoint : String)
    (payload : Option RuntimePayload) (metadata : InvocationMetadata)
    (eventTimestamp : Option EventTimestamp) :
    let published :=
      (router.publishSharedFromWithMetadata sourceEndpoint payload metadata eventTimestamp).2
    published.activeCompositeComponents = active ∧
      (active = [] → published.compositeExternalStage = []) := by
  refine publish_invariant (P := fun r => r.activeCompositeComponents = active ∧
    (active = [] → r.compositeExternalStage = [])) ?_ ?_ ⟨hactive, hcomposite⟩
  · rintro edges publish - r r' edge - hadmission ⟨hr, hnone⟩
    obtain ⟨dropped, hthinned⟩ := hadmission.thinned
    have hr' : r'.activeCompositeComponents = active := hthinned.active.trans hr
    have hnone' : active = [] → r'.compositeExternalStage = [] := by
      intro hempty
      have hsub := hthinned.composite
      rw [hnone hempty] at hsub
      exact List.sublist_nil.mp hsub
    rcases r'.stage_cases edge (publicationFor publish edge) with
      ⟨hleaves, hadds⟩ | ⟨-, -, hadds⟩ | ⟨-, -, hadds⟩
    · refine ⟨hadds.active.trans hr', ?_⟩
      -- an edge leaves a composite region only while one is active
      intro hempty
      rw [leavesComposite, hr', hempty] at hleaves
      cases hleaves
    · exact ⟨hadds.active.trans hr', fun hempty => hadds.composite.trans (hnone' hempty)⟩
    · exact ⟨hadds.active.trans hr', fun hempty => hadds.composite.trans (hnone' hempty)⟩
  · rintro r r' hrefused ⟨hr, hnone⟩
    exact ⟨hrefused.active.trans hr, fun hempty => hrefused.composite.trans (hnone hempty)⟩

namespace EventRuntime

variable {s : RunState}

/-- What a component does is staged by it or nothing. -/
theorem perform_going (componentId : String) (h : Going specs before active s)
    (action : ComponentAction) :
    Going specs before active (perform clock componentId s action) := by
  cases action with
  | publish port payload metadata eventTimestamp =>
      obtain ⟨hactive, hcomposite⟩ := publish_composite h.inside h.composite
        (endpointOf componentId port) payload (publicationMetadataFor componentId port metadata)
        eventTimestamp
      exact ⟨h.staging.publish .., hactive, hcomposite, h.notIdle, h.le⟩
  | read op => exact ⟨h.staging.exec (.useBus op.1), h.inside, h.composite, h.notIdle, h.le⟩
  | reportLoopConvergence report =>
      unfold perform
      dsimp only
      split_ifs
      · exact ⟨h.staging, h.inside, h.composite, h.notIdle, h.le⟩
      · exact h

/-- A commit leaves nothing staged for immediate commit. -/
theorem commitImmediate_going (clock : Nat → Int) (h : Going specs before active s) :
    Going specs before active (s.withRouter (s.router.commitImmediate clock).2) ∧
      (s.router.commitImmediate clock).2.immediateStage = [] := by
  obtain ⟨events, -, hmoves⟩ := s.router.commitImmediate_moves clock
  refine ⟨⟨h.staging.exec .commitImmediate, ?_, ?_, h.notIdle, h.le⟩, hmoves.immediate⟩
  · exact hmoves.active.trans h.inside
  · exact fun hempty => hmoves.composite.trans (h.composite hempty)

/-- A tick is counted. -/
theorem countTick_going (h : Going specs before active s) (componentId : String) :
    Going specs (before + 1) active (countTick options componentId s) :=
  ⟨h.staging, h.inside, h.composite, h.notIdle, Nat.succ_le_succ h.le⟩

/-- After a tick nothing is said about the epoch any more. -/
theorem paused_of_tick (h : Going specs (before + 1) active s)
    (himmediate : s.router.immediateStage = []) : Paused specs before active s := by
  have hle := h.le
  refine ⟨⟨h.staging, h.inside, h.composite, h.notIdle, by omega⟩, himmediate, ?_⟩
  intro hnone
  omega

/-- A recorded invocation is a tick, so `Paused` says less after it. -/
theorem regionRules_paused (iteration : Nat) (components : List String) :
    RegionRules clock env iteration components (Going specs before active)
      (Going specs (before + 1) active) (Paused specs before active) NotIdle where
  sameExecuting s s' h hs := h.same hs
  sameReady s s' h hs := h.same hs.router hs.ticks (h.notIdle.same hs)
  sameEnded s s' h hs := h.same hs
  executing s h := h.toGoing
  recorded s h := ⟨h.staging, h.inside, h.composite, h.notIdle, Nat.le_of_succ_le h.le⟩
  perform s id _ _ action _ h := perform_going id h action
  tick _ s id _ h := countTick_going h id
  commitTick _ s id _ h _ := by
    obtain ⟨hgoing, himmediate⟩ := commitImmediate_going clock h
    exact paused_of_tick (countTick_going hgoing id) himmediate
  commit s h _ := by
    obtain ⟨hgoing, himmediate⟩ := commitImmediate_going clock h
    exact paused_of_tick hgoing himmediate
  rejected s message _ _ := notIdle_fail _ message
  fail s message _ := notIdle_fail s message
  stop s _ := by simp [NotIdle, RunState.stop]
  cancel s h := h.same rfl rfl (by simp [NotIdle, RunState.stop])
  collect s id _ h := h.reach (.collect iteration id)
  read s op h := h.read op

/-! ## Composite loops and regions -/

/-- The outputs of a region are committed or discarded; there are none without a tick. -/
theorem leaveComposite_paused (h : Paused specs before active s)
    {router' : RuntimePublicationRouter} (hstaging : StagingInv specs router')
    {next : List RuntimeChannelPublication} {events : List TraceEvent}
    (hmoves : Moves s.router router' s.router.immediateStage next s.router.deferredReady [] []
      events)
    (hnext : s.router.compositeExternalStage = [] → next = s.router.deferredNextEpoch)
    (hchannels : s.router.compositeExternalStage = [] → router'.channels = s.router.channels) :
    Paused specs before [] (s.withRouter router') := by
  refine ⟨⟨hstaging, hmoves.active, fun _ => hmoves.composite, h.notIdle, h.le⟩,
    hmoves.immediate.trans h.immediate, ?_⟩
  intro hnone
  have hstill := h.still hnone
  refine ⟨⟨hmoves.immediate.trans hstill.immediate, ?_, hmoves.ready.trans hstill.ready,
    hmoves.composite⟩, ?_⟩
  · exact (hmoves.next.trans (hnext hstill.composite)).trans hstill.next
  · intro id hid
    refine hstill.pending id ?_
    unfold HoldsPending at hid ⊢
    rwa [show (s.withRouter router').router.channels = s.router.channels from
      hchannels hstill.composite] at hid

/-- Without outputs there is nothing to commit. -/
theorem channels_commitComposite (h : router.compositeExternalStage = []) :
    (router.commitCompositeRegionOutputs clock).2.channels = router.channels := by
  simp [commitCompositeRegionOutputs, commitBatch, RuntimePublicationRouter.close, h]

/-- After a composite region nothing of it is left in the composite list. -/
theorem finishCompositeRegion_paused (h : Paused specs before active s)
    (region : CompiledGraphRegion) (stop : LoopStop) :
    Outcome (Paused specs before []) NotIdle (finishCompositeRegion clock region stop s) := by
  have hdiscard : Paused specs before [] (discardOutputs region.id s) := by
    have hstaging : StagingInv specs
        (RouterOp.discardCompositeRegionOutputs.exec clock s.router) := h.staging.exec _
    have hleft := leaveComposite_paused h hstaging s.router.discardCompositeRegionOutputs_moves
      (fun _ => rfl) (fun _ => channels_discardCompositeRegionOutputs s.router)
    exact hleft.same rfl rfl h.notIdle
  unfold finishCompositeRegion
  dsimp only
  split
  · exact Outcome.left (notIdle_fail _ _)
  · split
    · split
      · obtain ⟨events, -, hmoves⟩ := s.router.commitCompositeRegionOutputs_moves clock
        have hcommit : Paused specs before []
            (s.withRouter (s.router.commitCompositeRegionOutputs clock).2) := by
          refine leaveComposite_paused h (h.staging.exec .commitCompositeRegionOutputs) hmoves ?_
            channels_commitComposite
          intro hempty
          simp [compositeOf, hempty]
        exact Outcome.both hcommit hcommit.notIdle _
      · exact Outcome.left (notIdle_fail _ _)
    · exact Outcome.both hdiscard hdiscard.notIdle _

/-- After a region nothing immediate is left. -/
theorem executeRegion_paused (iteration : Nat) (region : CompiledGraphRegion)
    (h : Paused specs before [] s) :
    Outcome (Paused specs before []) NotIdle
      (executeRegion clock env options runtime iteration region s) := by
  unfold executeRegion
  cases region.kind with
  | component => exact executeComponents_rule (regionRules_paused iteration region.components) h
  | compositeLoop =>
      dsimp only
      have hbegun : Paused specs before region.components
          (s.withRouter (s.router.beginCompositeRegion region.components)) := by
        have hstaging : StagingInv specs
            ((RouterOp.beginCompositeRegion region.components).exec clock s.router) :=
          h.staging.exec _
        refine ⟨⟨hstaging, rfl, fun _ => rfl, h.notIdle, h.le⟩, h.immediate, ?_⟩
        intro hnone
        have hstill := h.still hnone
        exact ⟨⟨hstill.immediate, hstill.next, hstill.ready, rfl⟩, hstill.pending⟩
      generalize (if 0 < region.loopPolicy.maxIterations then
        region.loopPolicy.maxIterations.toNat else 1) = maxIterations
      have hlooped : LoopOutcome (Paused specs before region.components) NotIdle
          (loopIterations clock env options runtime iteration region maxIterations 0
            (s.withRouter (s.router.beginCompositeRegion region.components))) :=
        loopIterations_rule (regionRules_paused iteration region.components) maxIterations 0 hbegun
      generalize loopIterations clock env options runtime iteration region maxIterations 0 _ =
        looped at hlooped ⊢
      rcases looped with ⟨stop, s'⟩
      cases stop with
      | none => exact Outcome.left hlooped
      | some stop => exact finishCompositeRegion_paused hlooped region stop

/-! ## Iterations -/

/-- The iteration begins with what was ready handed over. -/
theorem beginIteration_paused (iteration : Nat) (h : AtBoundary specs s.router)
    (hreason : NotIdle s) :
    Outcome (Paused specs s.result.tickCalls []) NotIdle
      (beginIteration clock env iteration s) := by
  unfold beginIteration
  dsimp only
  split
  · refine Outcome.left ?_
    simp [NotIdle]
  · have hstaging := stagingInv_reach h.staging (.iterationBegin iteration)
    obtain ⟨events, -, hmoves⟩ :=
      (s.reach (.iterationBegin iteration)).router.beginEpoch_moves clock
    split
    · next haccepted =>
        have hbegun : Paused specs s.result.tickCalls []
            (s.withRouter ((s.reach (.iterationBegin iteration)).router.beginEpoch clock).2) := by
          refine ⟨⟨hstaging.exec .beginEpoch, hmoves.active.trans h.active,
            fun _ => hmoves.composite.trans h.composite, hreason, Nat.le_refl _⟩,
            hmoves.immediate.trans h.immediate, ?_⟩
          intro _
          exact ⟨⟨hmoves.immediate.trans h.immediate, hmoves.next.trans h.next, hmoves.ready,
            hmoves.composite.trans h.composite⟩, fun id => beginEpoch_pending hstaging haccepted⟩
        refine Outcome.goesOn ((hbegun.reach (.epochBegun iteration)).same rfl rfl ?_)
        exact hreason
    · exact Outcome.left (notIdle_fail _ _)

/-- The end of an iteration: at the next boundary, and still if there was no tick. -/
theorem endIteration_boundary (h : Paused specs before [] s) :
    AtBoundary specs (endIteration s).router ∧ NotIdle (endIteration s) ∧
      ((endIteration s).result.tickCalls = before → Still specs (endIteration s).router) := by
  refine ⟨⟨?_, h.immediate, rfl, h.composite rfl, h.inside⟩, h.notIdle, ?_⟩
  · have hstaging : StagingInv specs (RouterOp.endEpoch.exec (fun _ => 0) s.router) :=
      h.staging.exec _
    exact hstaging
  · intro hnone
    have hstill := h.still hnone
    refine ⟨⟨hstill.immediate, rfl, ?_, hstill.composite⟩, hstill.pending⟩
    show s.router.deferredReady ++ s.router.deferredNextEpoch = []
    rw [hstill.ready, hstill.next, List.append_nil]

/-- An iteration ends with publications staged for later epochs only. -/
theorem runIteration_boundary (iteration : Nat) (h : AtBoundary specs s.router)
    (hreason : NotIdle s) :
    Outcome (fun s' => AtBoundary specs s'.router ∧ NotIdle s' ∧
      (s'.result.tickCalls = s.result.tickCalls → Still specs s'.router)) NotIdle
      (runIteration clock env options runtime iteration s) := by
  refine (beginIteration_paused iteration h hreason).bind
    (executeRegions clock env options runtime iteration) ?_
  intro s' hs'
  have hloop : Outcome (Paused specs s.result.tickCalls []) NotIdle
      (forEach (executeRegion clock env options runtime iteration) runtime.order s') :=
    forEach_outcome (I := fun _ => Paused specs s.result.tickCalls [])
      (fun _ region _ _ _ hs => executeRegion_paused iteration region hs) hs'
  refine hloop.bind (fun s' => (true, endIteration s')) ?_
  intro s'' hs''
  exact Outcome.goesOn (endIteration_boundary hs'')

/-- Idle is no reason to stop before an iteration. -/
theorem stopBeforeIteration_notIdle {reason : SchedulerStopReason}
    (h : (stopBeforeIteration env s).1 = some reason) : reason ≠ .idle := by
  unfold stopBeforeIteration at h
  dsimp only at h
  split_ifs at h <;> cases h <;> simp

/-- Looking for a stop counts nothing. -/
theorem result_stopBeforeIteration (s : RunState) :
    (stopBeforeIteration env s).2.result = s.result := by
  unfold stopBeforeIteration
  dsimp only
  split_ifs <;> rfl

/-- The run stops for being idle after a still iteration only. -/
theorem runIterations_still (left iteration : Nat) (h : AtBoundary specs s.router)
    (hreason : NotIdle s)
    (hidle : (runIterations clock env options runtime left iteration s).result.stopReason = .idle) :
    Still specs (runIterations clock env options runtime left iteration s).router := by
  induction left generalizing iteration s with
  | zero => exact absurd hidle hreason
  | succ left ih =>
      have hstopped : AtBoundary specs (stopBeforeIteration env s).2.router := by
        rw [router_stopBeforeIteration]
        exact h
      have hreason' : NotIdle (stopBeforeIteration env s).2 := by
        unfold NotIdle
        rw [result_stopBeforeIteration]
        exact hreason
      unfold runIterations at hidle ⊢
      dsimp only at hidle ⊢
      cases hstop : (stopBeforeIteration env s).1 with
      | some reason =>
          rw [hstop] at hidle
          exact absurd hidle (stopBeforeIteration_notIdle hstop)
      | none =>
          rw [hstop] at hidle
          dsimp only at hidle ⊢
          have houtcome : Outcome (fun s' => AtBoundary specs s'.router ∧ NotIdle s' ∧
              (s'.result.tickCalls = (stopBeforeIteration env s).2.result.tickCalls →
                Still specs s'.router)) NotIdle
              (runIteration clock env options runtime iteration (stopBeforeIteration env s).2) :=
            runIteration_boundary iteration hstopped hreason'
          generalize runIteration clock env options runtime iteration
            (stopBeforeIteration env s).2 = executed at houtcome hidle ⊢
          cases hgoes : executed.1 with
          | false =>
              rw [hgoes] at hidle
              exact absurd hidle (houtcome.of_false hgoes)
          | true =>
              obtain ⟨hboundary, hnotIdle, hstill⟩ := houtcome.of_true hgoes
              simp only [hgoes, Bool.not_true, Bool.false_eq_true, if_false] at hidle ⊢
              split at hidle
              · next hticks =>
                  rw [if_pos hticks]
                  simp only [Bool.and_eq_true, decide_eq_true_eq] at hticks
                  have hlast := hstill hticks.2
                  exact ⟨⟨hlast.immediate, hlast.next, hlast.ready, hlast.composite⟩,
                    hlast.pending⟩
              · next hticks =>
                  rw [if_neg hticks]
                  exact ih (iteration + 1) hboundary hnotIdle hidle

end EventRuntime

/-- What a run leaves when it stops because it is idle, for every graph, every environment
and every router at an iteration boundary: no publication is staged, and a previous-tick
channel can hold a waiting value only if its edge is a deferred one. -/
theorem idle_nothing_staged (clock : Nat → Int) (env : Env) (options : SchedulerRunOptions)
    (runtime : EventRuntime) (specs : List EdgeSpec) (router : RuntimePublicationRouter)
    (hstart : AtBoundary specs router)
    (hidle : (runtime.run clock env options router).result.stopReason = .idle) :
    NothingStaged (runtime.run clock env options router).router ∧
      ∀ id, HoldsPending (runtime.run clock env options router).router id →
        DeferredEdge specs id := by
  have hnew : NotIdle { router := router, result := { stopReason := .tickBound } } := by
    simp [NotIdle]
  have hstill := EventRuntime.runIterations_still _ 0 hstart hnew hidle
  exact ⟨hstill.toNothingStaged, hstill.pending⟩

/-! ## A value that waits -/

/-- A relay between a source and a sink. Its output is delayed, into a previous-tick
channel. -/
def relayGraph : GraphSpec where
  schemaVersion := 1
  name := "relay"
  lanes := [{ id := "main", type := "event_loop" }]
  components :=
    [{ id := "source", type := "Source", execution := { lane := "main" }, eventSources := [{}] },
     { id := "relay", type := "Relay", execution := { lane := "main" }
       eventSources := [{ type := "message", inputs := ["in"] }]
       triggerPolicy := { type := "any_input", inputs := ["in"] } },
     { id := "sink", type := "Sink", execution := { lane := "main" }
       eventSources := [{ type := "message", inputs := ["in"] }]
       triggerPolicy := { type := "any_input", inputs := ["in"] } }]
  edges :=
    [{ id := "feed", fromEndpoint := "source.out", toEndpoint := "relay.in", hasKind := true },
     { id := "late", fromEndpoint := "relay.out", toEndpoint := "sink.in", kind := .delay,
       hasKind := true, policy := { mode := "previous_tick" } }]

def relayRegistry : ComponentRegistry where
  contains := fun _ => true
  describe := fun _ type =>
    .ok { type := type
          inputs := if type = "Source" then [] else [{ name := "in" }]
          outputs := if type = "Sink" then [] else [{ name := "out" }] }

/-- A runtime of the graph with some of its components. -/
def relayRuntime (ids : List String) : EventRuntime where
  compiledPlan := ((validateGraph 4 (fun _ => none) relayRegistry relayGraph).map
    GraphValidationResult.compiledPlan).getD {}
  components := ids.map fun id => { id := id, lane := { id := "main" } }

/-- The router after one iteration of the source, which published once. -/
def relayFed : RuntimePublicationRouter :=
  ((relayRuntime ["source"]).run (fun n => n) (publishOnce 5 "out") { tickIterations := 1 }
    (.ofEdges (some (.ofEdges relayGraph.edges)) relayGraph.edges)).router

/-- The triggers of the sink and of the relay drain their inputs, the sink first: a delayed
edge orders nothing. In the first iteration there is a message for the relay. -/
def relayEnv : Env where
  collectReadyInvocations := fun question =>
    if question = 5 then ([⟨.drainForComponentPort "relay" "in" 0, rfl⟩], .ok [{}])
    else if question = 12 then ([⟨.drainForComponentPort "relay" "in" 0, rfl⟩], .ok [])
    else ([⟨.drainForComponentPort "sink" "in" 0, rfl⟩], .ok [])
  execute := fun _ => [.publish "out" (some {}) {} none]

/-- The relay and the sink, until idle. -/
def relayRun : RunState :=
  (relayRuntime ["relay", "sink"]).run (fun n => n) relayEnv { runUntilIdle := true } relayFed

theorem relayFed_atBoundary : AtBoundary relayGraph.edges relayFed := by
  have hstable : RunStable (fun n => n) (StagingInv relayGraph.edges) :=
    ⟨fun _ op h => h.exec op, fun _ point h => stagingInv_reach h point⟩
  have hstaging : StagingInv relayGraph.edges relayFed :=
    EventRuntime.runIterations_keeps (hstable.keeps _) _ _ (ofEdges_stagingInv _ _)
  exact ⟨hstaging, rfl, rfl, rfl, rfl⟩

theorem relayRun_idle : relayRun.result.stopReason = .idle := rfl

/-- The value of the relay was committed by the last epoch and waits for the next one. -/
theorem relayRun_holdsPending : HoldsPending relayRun.router "late" :=
  ⟨_, rfl, by decide, by decide, by decide⟩

theorem relayRun_nothing_staged :
    HoldsPending relayRun.router "late" ∧ NothingStaged relayRun.router ∧
      DeferredEdge relayGraph.edges "late" := by
  obtain ⟨hstaged, hpending⟩ := idle_nothing_staged (fun n => n) relayEnv { runUntilIdle := true }
    (relayRuntime ["relay", "sink"]) relayGraph.edges relayFed relayFed_atBoundary relayRun_idle
  exact ⟨relayRun_holdsPending, hstaged, hpending "late" relayRun_holdsPending⟩

/-- An idle run with a value that a further epoch would show. -/
theorem relayRun_not_quiescent :
    ¬ ∀ (clock : Nat → Int) (env : Env) (options : SchedulerRunOptions) (fuel : Nat)
      (parseDouble : String → Option Double) (registry : ComponentRegistry) (graph : GraphSpec)
      (result : GraphValidationResult) (runtime : EventRuntime)
      (router : RuntimePublicationRouter),
      validateGraph fuel parseDouble registry graph = some result → result.ok = true →
        runtime.compiledPlan = result.compiledPlan → AtBoundary graph.edges router →
          (runtime.run clock env options router).router.metrics.failedCommitCount =
            router.metrics.failedCommitCount →
          (runtime.run clock env options router).result.stopReason = .idle →
            NothingStaged (runtime.run clock env options router).router ∧
              ∀ id, ¬ HoldsPending (runtime.run clock env options router).router id := by
  intro hquiet
  have hquiescent := hquiet (fun n => n) relayEnv { runUntilIdle := true } 4 (fun _ => none)
    relayRegistry relayGraph _ (relayRuntime ["relay", "sink"]) relayFed rfl (by decide) rfl
    relayFed_atBoundary (by decide) relayRun_idle
  exact hquiescent.2 "late" relayRun_holdsPending

end TopoExec
