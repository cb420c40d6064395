import TopoExec.Runtime.EventRuntime
import TopoExec.Runtime.Timeline

/-! # The router inside an iteration

The invariant of the router while the runtime executes the components of one
region, and what each call of the router does to it. Publications with a number
below `first` are left over from before the run and are not followed.
-/

namespace TopoExec

open RuntimePublicationRouter

/-- The publication was staged before the run. -/
def IsOld (first : Nat) (publication : RuntimeChannelPublication) : Prop :=
  ∀ tag, publication.tag = some tag → tag < first

/-- Where the run is: the region that is executed, the composite components that
the router knows, and the components that may have collected their triggers. -/
structure Place where
  iteration : Nat
  names : List String
  region : CompiledGraphRegion
  active : List String

namespace RunFrame

variable (frame : RunFrame)

/-- What the place owes to the plan. -/
structure PlaceOk (place : Place) : Prop where
  named : place.region.components ⊆ place.names
  active : place.region.kind = .compositeLoop → place.active = place.region.components
  inactive : place.region.kind = .component → ∀ id ∈ place.region.components, id ∉ place.active
  forward : ∀ spec ∈ frame.specs, spec.kind = .immediate → Crosses frame.plan spec →
    spec.source ∈ place.region.components → spec.target ∉ place.names

/-- The invariants of the router, with the numbers and the failures of this run. -/
structure RouterInv (router : RuntimePublicationRouter) : Prop where
  staging : StagingInv frame.specs router
  once : OnceInv router
  visibility : VisibilityInv router
  fate : FateInv frame.first router
  later : frame.first ≤ router.metrics.stagedCount
  failed : router.metrics.failedCommitCount = frame.failures

/-- What holds of the router whenever the run ends. -/
structure RunInv (router : RuntimePublicationRouter) : Prop extends frame.RouterInv router where
  events : History.Each frame.EventOk router.trace

/-- What holds of the router between the actions of a component. -/
structure Inside (place : Place) (router : RuntimePublicationRouter) : Prop extends
    frame.RouterInv router where
  trace : frame.TraceInv place.iteration place.names router.trace
  active : router.activeCompositeComponents = place.active
  composite : ∀ s ∈ router.compositeExternalStage, IsOld frame.first s.publication ∨
    place.region.kind = .compositeLoop ∧ ∃ spec ∈ frame.specs, s.publication.id = spec.id ∧
      spec.target ∉ place.region.components

/-- Between components nothing of this run is staged for immediate commit. -/
structure AtComponent (place : Place) (router : RuntimePublicationRouter) : Prop extends
    frame.Inside place router where
  immediate : ∀ p ∈ router.immediateStage, IsOld frame.first p

end RunFrame

variable {frame : RunFrame} {place : Place} {router router' : RuntimePublicationRouter}
  {clock : Nat → Int}

/-- Inside a region the invariant of the run holds. -/
theorem RunFrame.Inside.runInv (h : frame.Inside place router) : frame.RunInv router :=
  ⟨h.toRouterInv, h.trace.events⟩

/-! ## The invariants of the router -/

/-- A call that stages nothing and fails no commit keeps the invariant when it keeps the fates. -/
theorem RunFrame.RouterInv.exec (h : frame.RouterInv router) (clock : Nat → Int)
    (op : RouterOp) (hfate : FateInv frame.first (op.exec clock router))
    (hstaged : (op.exec clock router).metrics.stagedCount = router.metrics.stagedCount)
    (hfailed : (op.exec clock router).metrics.failedCommitCount =
      router.metrics.failedCommitCount) : frame.RouterInv (op.exec clock router) :=
  ⟨h.staging.exec op, h.once.exec h.staging op, h.visibility.exec h.staging op, hfate,
    hstaged ▸ h.later, hfailed.trans h.failed⟩

/-- An accepted commit hands over what was immediate. -/
theorem RunFrame.RouterInv.commitImmediate (h : frame.RouterInv router)
    (haccepted : (router.commitImmediate clock).1.accepted = true) :
    frame.RouterInv (router.commitImmediate clock).2 := by
  rcases router.commitImmediate_moves clock with ⟨events, _, hmoves⟩
  exact h.exec clock .commitImmediate (h.fate.commitImmediate h.staging haccepted) hmoves.staged
    (commitImmediate_commitsAt haccepted).failed

/-- An accepted start of an epoch hands over what was ready. -/
theorem RunFrame.RouterInv.beginEpoch (h : frame.RouterInv router)
    (haccepted : (router.beginEpoch clock).1.accepted = true) :
    frame.RouterInv (router.beginEpoch clock).2 := by
  rcases router.beginEpoch_moves clock with ⟨events, _, hmoves⟩
  exact h.exec clock .beginEpoch (h.fate.beginEpoch h.staging haccepted) hmoves.staged
    (beginEpoch_commitsAt haccepted).failed

/-- An accepted commit of a region hands over its immediate outputs. -/
theorem RunFrame.RouterInv.commitCompositeRegionOutputs (h : frame.RouterInv router)
    (haccepted : (router.commitCompositeRegionOutputs clock).1.accepted = true) :
    frame.RouterInv (router.commitCompositeRegionOutputs clock).2 := by
  rcases router.commitCompositeRegionOutputs_moves clock with ⟨events, _, hmoves⟩
  exact h.exec clock .commitCompositeRegionOutputs
    (h.fate.commitCompositeRegionOutputs h.staging haccepted) hmoves.staged
    (commitCompositeRegionOutputs_commitsAt haccepted).failed

theorem RunFrame.RouterInv.endEpoch (h : frame.RouterInv router) :
    frame.RouterInv router.endEpoch :=
  h.exec (fun _ => 0) .endEpoch h.fate.endEpoch rfl rfl

theorem RunFrame.RouterInv.beginCompositeRegion (h : frame.RouterInv router)
    (components : List String) : frame.RouterInv (router.beginCompositeRegion components) :=
  h.exec (fun _ => 0) (.beginCompositeRegion components)
    (h.fate.beginCompositeRegion components) rfl rfl

theorem RunFrame.RouterInv.discardCompositeRegionOutputs (h : frame.RouterInv router) :
    frame.RouterInv router.discardCompositeRegionOutputs :=
  h.exec (fun _ => 0) .discardCompositeRegionOutputs h.fate.discardCompositeRegionOutputs
    router.discardCompositeRegionOutputs_moves.staged
    (failed_discardCompositeRegionOutputs router)

theorem RunFrame.RouterInv.read (h : frame.RouterInv router) (read : BusRead) :
    frame.RouterInv (router.useBus clock read.1) :=
  h.exec clock (.useBus read.1) (h.fate.read read) rfl rfl

/-- Writing the bus into the trace moves nothing. -/
theorem reach_moves (s : RunState) (point : RunPoint) :
    Moves s.router (s.reach point).router s.router.immediateStage s.router.deferredNextEpoch
      s.router.deferredReady s.router.compositeExternalStage s.router.activeCompositeComponents
      [.reached point s.router.channels] :=
  ⟨rfl, rfl, rfl, rfl, rfl, rfl, rfl, rfl⟩

/-- Reaching a point of the run moves nothing. -/
theorem stagingInv_reach {specs : List EdgeSpec} {s : RunState} (h : StagingInv specs s.router)
    (point : RunPoint) : StagingInv specs (s.reach point).router :=
  h.moves (reach_moves s point) (by simp) (by simp) (by simp) (by simp)

/-- The invariants of the router that hold of any use of it. -/
structure Sound (specs : List EdgeSpec) (router : RuntimePublicationRouter) : Prop where
  staging : StagingInv specs router
  once : OnceInv router
  visibility : VisibilityInv router

/-- Every call keeps the lists in order. -/
theorem Sound.exec {specs : List EdgeSpec} (h : Sound specs router) (clock : Nat → Int)
    (op : RouterOp) : Sound specs (op.exec clock router) :=
  ⟨h.staging.exec op, h.once.exec h.staging op, h.visibility.exec h.staging op⟩

theorem Sound.reach {specs : List EdgeSpec} {s : RunState} (h : Sound specs s.router)
    (point : RunPoint) : Sound specs (s.reach point).router := by
  have hmoves := reach_moves s point
  refine ⟨stagingInv_reach h.staging point, ?_, ?_⟩
  · refine h.once.moves h.staging hmoves rfl fun tag => ?_
    rw [count_held,
      show handedTags (fun _ => true) [.reached point s.router.channels] = [] from rfl]
    simp
  · exact ⟨h.visibility.immediate_extend (by simp), h.visibility.next_extend _,
      h.visibility.ready_extend _, h.visibility.composite_extend ⟨by simp, by simp⟩,
      h.visibility.handed.quiet (by simp)⟩

/-- Reaching a point of the run is no call of the router. -/
theorem RunFrame.RouterInv.reach {s : RunState} (h : frame.RouterInv s.router) (point : RunPoint) :
    frame.RouterInv (s.reach point).router := by
  have hmoves := reach_moves s point
  rcases Sound.reach ⟨h.staging, h.once, h.visibility⟩ point with ⟨hstaging, honce, hvisibility⟩
  refine ⟨hstaging, honce, hvisibility, ?_, h.later, h.failed⟩
  refine ⟨h.fate.fate_extend hmoves.trace (by simp) fun p hp _ _ => Or.inl hp, ?_⟩
  rcases h.fate.entered with ⟨bus, hbus, htracks⟩
  exact ⟨bus, hbus, htracks.quiet (fun _ => rfl) (by simp)⟩

/-! ## Quiet events -/

/-- What a commit within an epoch hands over is quiet. -/
theorem quiet_handsOver {call : RouterCall} {publications : List RuntimeChannelPublication}
    {events : List TraceEvent} (h : HandsOver call publications events)
    (hcall : call ≠ .beginEpoch) : Quiet (events ++ [.returned call]) := by
  intro e he
  rcases List.mem_append.mp he with he | he
  · rcases h with rfl | rfl
    · cases he
    · rcases mem_handedEvents.mp he with ⟨_, _, _, _, rfl⟩
      simpa [TraceEvent.isQuiet] using hcall
  · rw [List.mem_singleton.mp he]
    rfl

/-- Events of one quiet kind are quiet together. -/
theorem quiet_tagEvents {event : Nat → TraceEvent} (h : ∀ tag, (event tag).isQuiet = true)
    (publications : List RuntimeChannelPublication) : Quiet (tagEvents event publications) := by
  intro e he
  simp only [tagEvents, List.mem_filterMap, Option.map_eq_some_iff] at he
  rcases he with ⟨_, _, tag, _, rfl⟩
  exact h tag

/-- What a failed commit clears is quiet. -/
theorem quiet_clearEvents (call : RouterCall) (publications : List RuntimeChannelPublication) :
    Quiet (clearEvents call publications) := by
  intro e he
  rcases List.mem_append.mp he with he | he
  · exact quiet_tagEvents (fun _ => rfl) publications e he
  · rw [List.mem_singleton.mp he]
    rfl

/-! ## The calls of a component -/

namespace RunFrame

/-- Two edges never share an id. -/
def DistinctEdges (frame : RunFrame) : Prop := ∀ channelId, OneEdge frame.specs channelId

/-- Dropping publications leaves the place in the run. -/
theorem Inside.thinned {dropped : List RuntimeChannelPublication}
    (h : frame.Inside place router) (hthinned : Thinned router router' dropped) :
    frame.Inside place router' := by
  refine ⟨⟨h.staging.thinned hthinned, h.once.thinned hthinned, h.visibility.thinned hthinned,
    h.fate.thinned hthinned, hthinned.staged ▸ h.later, hthinned.failed.trans h.failed⟩, ?_,
    hthinned.active.trans h.active, fun s hs => h.composite s (hthinned.composite.subset hs)⟩
  rw [hthinned.trace]
  exact h.trace.quiet (quiet_tagEvents (fun _ => rfl) dropped)

/-- A refused publication leaves the place in the run. -/
theorem Inside.refused (h : frame.Inside place router) (hrefused : Refused router router') :
    frame.Inside place router' := by
  refine ⟨⟨h.staging.refused hrefused, h.once.refused hrefused, h.visibility.refused hrefused,
    h.fate.refused hrefused, hrefused.staged ▸ h.later, hrefused.failed.trans h.failed⟩, ?_,
    hrefused.active.trans h.active, ?_⟩
  · rw [hrefused.trace]
    exact h.trace
  · rw [hrefused.composite]
    exact h.composite

/-- The publication that a component of the region stages is one of this place. -/
theorem Inside.stage (h : frame.Inside place router) (hplace : frame.PlaceOk place)
    (hids : frame.DistinctEdges) {spec : EdgeSpec} (hspec : spec ∈ frame.specs)
    (hsource : spec.source ∈ place.region.components) (publish : Publish) :
    frame.Inside place (router.stage (.ofSpec spec) (publicationFor publish (.ofSpec spec))) := by
  have hrouter : ∀ {immediate next : List RuntimeChannelPublication}
      {composite : List StagedRoutedPublication}, Adds router
        (router.stage (.ofSpec spec) (publicationFor publish (.ofSpec spec))) (.ofSpec spec)
        immediate next composite →
      frame.RouterInv (router.stage (.ofSpec spec) (publicationFor publish (.ofSpec spec))) ∧
        frame.TraceInv place.iteration place.names
          (router.stage (.ofSpec spec) (publicationFor publish (.ofSpec spec))).trace := by
    intro immediate next composite hadds
    refine ⟨⟨h.staging.stage hspec publish, h.once.stage h.staging _ publish,
      h.visibility.stage _ publish, h.fate.stage _ publish,
      hadds.staged ▸ Nat.le_succ_of_le h.later, hadds.failed.trans h.failed⟩, ?_⟩
    rw [hadds.trace]
    exact h.trace.staged (hids spec.id) hspec h.later
      (fun hkind hcrosses => hplace.forward spec hspec hkind hcrosses hsource) _
  rcases router.stage_cases (.ofSpec spec) (publicationFor publish (.ofSpec spec)) with
    ⟨hleaves, hadds⟩ | ⟨_, _, hadds⟩ | ⟨_, _, hadds⟩
  · refine ⟨(hrouter hadds).1, (hrouter hadds).2, hadds.active.trans h.active, ?_⟩
    -- only a composite region is active with its own components
    have hactive : spec.source ∈ place.active ∧ spec.target ∉ place.active := by
      rw [← h.active]
      simp only [leavesComposite, Bool.and_eq_true, decide_eq_true_eq] at hleaves
      exact ⟨hleaves.1.2, hleaves.2⟩
    rw [hadds.composite]
    intro s hs
    rcases List.mem_append.mp hs with hs | hs
    · exact h.composite s hs
    · rw [List.mem_singleton.mp hs]
      cases hkind : place.region.kind with
      | component => exact absurd hactive.1 (hplace.inactive hkind _ hsource)
      | compositeLoop =>
          rw [hplace.active hkind] at hactive
          exact Or.inr ⟨rfl, spec, hspec, rfl, hactive.2⟩
  all_goals
    refine ⟨(hrouter hadds).1, (hrouter hadds).2, hadds.active.trans h.active, ?_⟩
    rw [hadds.composite]
    exact h.composite

/-- Publishing through a port without a dot uses the edges of the component. -/
theorem Inside.publish (h : frame.Inside place router) (hplace : frame.PlaceOk place)
    (hids : frame.DistinctEdges) {componentId port : String}
    (hcomponent : componentId ∈ place.region.components) (hport : '.' ∉ port.toList)
    (payload : Option RuntimePayload) (metadata : InvocationMetadata)
    (eventTimestamp : Option EventTimestamp) :
    frame.Inside place (router.publishSharedFromWithMetadata (endpointOf componentId port)
      payload metadata eventTimestamp).2 := by
  refine publish_invariant (fun edges publish hedges r r' edge hedge hadmission hr => ?_)
    (fun r r' hrefused hr => hr.refused hrefused) h
  rw [h.staging.sources] at hedges
  rcases mem_edgesOfSource hedges hedge with ⟨spec, hspec, hfrom, rfl⟩
  rcases hadmission.thinned with ⟨dropped, hthinned⟩
  refine (hr.thinned hthinned).stage hplace hids hspec ?_ publish
  rw [EdgeSpec.source, hfrom, componentIdFromEndpoint_endpointOf hport]
  exact hcomponent

theorem Inside.read (h : frame.Inside place router) (read : BusRead) :
    frame.Inside place (router.useBus clock read.1) :=
  ⟨h.toRouterInv.read read, h.trace, h.active, h.composite⟩

theorem AtComponent.read (h : frame.AtComponent place router) (read : BusRead) :
    frame.AtComponent place (router.useBus clock read.1) :=
  ⟨h.toInside.read read, h.immediate⟩

/-- After an accepted commit the component has left nothing immediate behind. -/
theorem Inside.commitImmediate (h : frame.Inside place router)
    (haccepted : (router.commitImmediate clock).1.accepted = true) :
    frame.AtComponent place (router.commitImmediate clock).2 := by
  rcases router.commitImmediate_moves clock with ⟨events, hevents, hmoves⟩
  refine ⟨⟨h.toRouterInv.commitImmediate haccepted, ?_, hmoves.active.trans h.active, ?_⟩, ?_⟩
  · rw [hmoves.trace]
    exact h.trace.quiet (quiet_handsOver hevents (by simp))
  · rw [hmoves.composite]
    exact h.composite
  · rw [hmoves.immediate]
    intro p hp
    cases hp

/-- Nothing waits for a component that is about to collect its triggers. -/
theorem AtComponent.settled (h : frame.AtComponent place router) (hids : frame.DistinctEdges)
    {spec : EdgeSpec} (hspec : spec ∈ frame.specs) (htarget : spec.target ∈ place.region.components)
    {tag : Nat} {composite : Bool} (hfirst : frame.first ≤ tag)
    (hstaged : .staged tag spec.id .immediate composite ∈ router.trace) :
    Settled router.trace tag spec.id .immediate := by
  rcases h.fate.fate tag spec.id .immediate composite hfirst hstaged with
    hsettled | ⟨p, hp, htag, hid, hkind⟩
  · exact hsettled
  · exfalso
    have hnew : ¬ IsOld frame.first p := fun hold => absurd (hold tag htag) (Nat.not_lt.mpr hfirst)
    rcases mem_held.mp hp with hp | hp | hp | ⟨s, hs, rfl⟩
    · exact h.staging.ready p hp hkind
    · exact h.staging.next p hp hkind
    · exact hnew (h.immediate p hp)
    · -- an output of the active region has its target outside
      rcases h.composite s hs with hold | ⟨_, spec', hspec', hid', hnot⟩
      · exact hnew hold
      · rw [hids spec.id spec' hspec' spec hspec (hid'.symm.trans hid) rfl] at hnot
        exact hnot htarget

/-- The collection for a component is where the run moves on to it. -/
theorem AtComponent.collect {s : RunState} (h : frame.AtComponent place s.router)
    (hplace : frame.PlaceOk place) (hids : frame.DistinctEdges) {componentId : String}
    (hcomponent : componentId ∈ place.region.components) :
    frame.AtComponent place (s.reach (.collect place.iteration componentId)).router := by
  have hok : frame.EventOk s.router.trace
      (.reached (.collect place.iteration componentId) s.router.channels) := by
    refine ⟨h.fate.entered, h.trace.begun, h.trace.settled, ?_⟩
    rintro spec hspec rfl tag composite hfirst hstaged
    exact h.settled hids hspec hcomponent hfirst hstaged
  refine ⟨⟨h.toRouterInv.reach _, ?_, h.active, h.composite⟩, h.immediate⟩
  refine h.trace.reached hok (by simp) fun iteration id heq => ?_
  cases heq
  exact hplace.named hcomponent

/-! ## Between regions and between iterations -/

/-- No composite region is active, or one of the plan that an earlier run left
active. -/
def ActiveOk (frame : RunFrame) (active : List String) : Prop :=
  active = [] ∨ ∃ region ∈ frame.plan.regions, region.kind = .compositeLoop ∧
    active = region.components

structure BetweenRegions (frame : RunFrame) (iteration : Nat) (names : List String)
    (router : RuntimePublicationRouter) : Prop extends frame.RouterInv router where
  trace : frame.TraceInv iteration names router.trace
  immediate : ∀ p ∈ router.immediateStage, IsOld frame.first p
  composite : ∀ s ∈ router.compositeExternalStage, IsOld frame.first s.publication
  active : frame.ActiveOk router.activeCompositeComponents

structure BetweenIterations (frame : RunFrame) (iteration : Nat)
    (router : RuntimePublicationRouter) : Prop extends frame.RunInv router where
  begun : begun router.trace = iteration
  immediate : ∀ p ∈ router.immediateStage, IsOld frame.first p
  next : ∀ p ∈ router.deferredNextEpoch, IsOld frame.first p
  composite : ∀ s ∈ router.compositeExternalStage, IsOld frame.first s.publication
  active : frame.ActiveOk router.activeCompositeComponents

variable {iteration : Nat} {names : List String}

/-- Between two regions the invariant of the run holds. -/
theorem BetweenRegions.runInv (h : frame.BetweenRegions iteration names router) :
    frame.RunInv router :=
  ⟨h.toRouterInv, h.trace.events⟩

/-- The run goes on into a region of one component. -/
theorem BetweenRegions.enterComponent (h : frame.BetweenRegions iteration names router)
    {names' : List String} (hsub : names ⊆ names') (region : CompiledGraphRegion) :
    frame.AtComponent ⟨iteration, names', region, router.activeCompositeComponents⟩ router :=
  ⟨⟨h.toRouterInv, h.trace.mono hsub, rfl, fun s hs => Or.inl (h.composite s hs)⟩, h.immediate⟩

/-- The run goes on into a composite region, whose components become active. -/
theorem BetweenRegions.enterComposite (h : frame.BetweenRegions iteration names router)
    {names' : List String} (hsub : names ⊆ names') (region : CompiledGraphRegion) :
    frame.AtComponent ⟨iteration, names', region, region.components⟩
      (router.beginCompositeRegion region.components) := by
  have hmoves := router.beginCompositeRegion_moves region.components
  refine ⟨⟨h.toRouterInv.beginCompositeRegion _, ?_, hmoves.active, ?_⟩, ?_⟩
  · rw [hmoves.trace]
    exact (h.trace.mono hsub).quiet (quiet_clearEvents _ _)
  · rw [hmoves.composite]
    intro s hs
    cases hs
  · rw [hmoves.immediate]
    exact h.immediate

/-- A region of a single component leaves nothing in the composite stage. -/
theorem AtComponent.leaveComponent (h : frame.AtComponent place router)
    (hkind : place.region.kind = .component) (hactive : frame.ActiveOk place.active) :
    frame.BetweenRegions place.iteration place.names router := by
  refine ⟨h.toRouterInv, h.trace, h.immediate, fun s hs => ?_, h.active ▸ hactive⟩
  rcases h.composite s hs with hold | ⟨hcomposite, _⟩
  · exact hold
  · rw [hkind] at hcomposite
    cases hcomposite

/-- The router after the outputs of a composite region are committed or discarded. -/
theorem AtComponent.leaveComposite {next : List RuntimeChannelPublication}
    {events : List TraceEvent} (h : frame.AtComponent place router)
    (hrouter : frame.RouterInv router')
    (hmoves : Moves router router' router.immediateStage next router.deferredReady [] [] events)
    (hevents : Quiet events) : frame.BetweenRegions place.iteration place.names router' := by
  refine ⟨hrouter, ?_, ?_, ?_, Or.inl hmoves.active⟩
  · rw [hmoves.trace]
    exact h.trace.quiet hevents
  · rw [hmoves.immediate]
    exact h.immediate
  · rw [hmoves.composite]
    intro s hs
    cases hs

/-- The region is left with its outputs committed. -/
theorem AtComponent.commitCompositeRegionOutputs (h : frame.AtComponent place router)
    (haccepted : (router.commitCompositeRegionOutputs clock).1.accepted = true) :
    frame.BetweenRegions place.iteration place.names
      (router.commitCompositeRegionOutputs clock).2 := by
  rcases router.commitCompositeRegionOutputs_moves clock with ⟨events, hevents, hmoves⟩
  exact h.leaveComposite (h.toRouterInv.commitCompositeRegionOutputs haccepted) hmoves
    (quiet_handsOver hevents (by simp))

/-- The region is left with its outputs discarded. -/
theorem AtComponent.discardCompositeRegionOutputs (h : frame.AtComponent place router) :
    frame.BetweenRegions place.iteration place.names router.discardCompositeRegionOutputs :=
  h.leaveComposite h.toRouterInv.discardCompositeRegionOutputs
    router.discardCompositeRegionOutputs_moves (quiet_clearEvents _ _)

/-- The iteration ends, and what was deferred waits for the next. -/
theorem BetweenRegions.endEpoch (h : frame.BetweenRegions iteration names router) :
    frame.BetweenIterations (iteration + 1) router.endEpoch := by
  have hquiet : Quiet [.returned .endEpoch] := by simp [Quiet, TraceEvent.isQuiet]
  have htrace := h.trace.quiet hquiet
  exact ⟨⟨h.toRouterInv.endEpoch, htrace.events⟩, htrace.begun, h.immediate,
    fun p hp => absurd hp List.not_mem_nil, h.composite, h.active⟩

/-! ## The epoch boundary -/

/-- What `begin_epoch` hands over was staged before this iteration. -/
theorem eventOk_beginEpoch {trace pre : List TraceEvent} {channels : Option RuntimeChannelBus}
    (hstaged : ∀ tag channelId kind composite, .staged tag channelId kind composite ∉ pre)
    (tag : Nat) (channelId : String) (call : RouterCall) :
    frame.EventOk (trace ++ [.reached (.iterationBegin iteration) channels] ++ pre)
      (.handed tag channelId call) := by
  intro _ before tag' channelId' kind composite since hsplit _
  rw [List.append_assoc] at hsplit
  rcases History.append_split hsplit with ⟨rest, _, rfl⟩ | ⟨rest, _, hnew⟩
  · rw [begun_append]
    exact Nat.add_pos_right _ (by simp [TopoExec.begun, TraceEvent.isIterationBegin])
  · -- it would have been staged after the iteration began
    exfalso
    cases rest with
    | nil => simp at hnew
    | cons e rest =>
        rw [List.singleton_append, List.cons_append, List.cons.injEq] at hnew
        refine hstaged tag' channelId' kind composite ?_
        rw [hnew.2]
        exact List.mem_append_right _ (List.mem_cons_self ..)

/-- The trace when an iteration has begun and its epoch has not. -/
theorem BetweenIterations.iterationBegin {s : RunState}
    (h : frame.BetweenIterations iteration s.router) :
    History.Each frame.EventOk (s.reach (.iterationBegin iteration)).router.trace ∧
      TopoExec.begun (s.reach (.iterationBegin iteration)).router.trace = iteration + 1 ∧
      CollectedIn [] (s.reach (.iterationBegin iteration)).router.trace := by
  have hone : TopoExec.begun [.reached (.iterationBegin iteration) s.router.channels] = 1 := rfl
  refine ⟨h.events.append_one ⟨h.fate.entered, h.begun⟩, ?_, ?_⟩
  · rw [(reach_moves s _).trace, begun_append, h.begun, hone]
  · intro componentId _ pre iteration' channels since hsplit
    rcases History.append_split hsplit with ⟨rest, _, rfl⟩ | ⟨rest, _, hnew⟩
    · rw [begun_append, hone]
      exact Nat.succ_pos _
    · -- the new event is not a collection
      rcases List.singleton_eq_append_iff.mp hnew with ⟨_, hcons⟩ | ⟨_, hcons⟩
      · cases hcons
      · cases hcons

/-- The events of `begin_epoch` in an iteration that has begun. -/
theorem events_beginEpoch {trace events : List TraceEvent} {channels : Option RuntimeChannelBus}
    {publications : List RuntimeChannelPublication}
    (h : History.Each frame.EventOk (trace ++ [.reached (.iterationBegin iteration) channels]))
    (hevents : HandsOver .beginEpoch publications events) :
    History.Each frame.EventOk (trace ++ [.reached (.iterationBegin iteration) channels] ++
      (events ++ [.returned .beginEpoch])) := by
  have hkind : ∀ e ∈ events ++ [.returned .beginEpoch],
      e = .returned .beginEpoch ∨ ∃ tag channelId call, e = .handed tag channelId call := by
    intro e he
    rcases List.mem_append.mp he with he | he
    · rcases hevents with rfl | rfl
      · cases he
      · rcases mem_handedEvents.mp he with ⟨p, _, tag, _, rfl⟩
        exact Or.inr ⟨tag, p.id, .beginEpoch, rfl⟩
    · exact Or.inl (List.mem_singleton.mp he)
  refine h.append fun pre e post hsplit => ?_
  rw [hsplit] at hkind
  rcases hkind e (List.mem_append_right _ (List.mem_cons_self ..)) with
    rfl | ⟨tag, channelId, call, rfl⟩
  · trivial
  · refine eventOk_beginEpoch (fun tag channelId kind composite hmem => ?_) tag channelId call
    rcases hkind _ (List.mem_append_left _ hmem) with heq | ⟨_, _, _, heq⟩
    · cases heq
    · cases heq

/-- What a commit hands over is no point of the run. -/
theorem not_reached_handsOver {call : RouterCall} {events : List TraceEvent}
    {publications : List RuntimeChannelPublication} (h : HandsOver call publications events)
    (point : RunPoint) (channels : Option RuntimeChannelBus) :
    .reached point channels ∉ events ++ [.returned call] := by
  intro hmem
  rcases List.mem_append.mp hmem with hmem | hmem
  · rcases h with rfl | rfl
    · cases hmem
    · rcases mem_handedEvents.mp hmem with ⟨_, _, _, _, heq⟩
      cases heq
  · simp at hmem

/-- What a commit hands over begins no iteration. -/
theorem begun_handsOver {call : RouterCall} {events : List TraceEvent}
    {publications : List RuntimeChannelPublication} (h : HandsOver call publications events) :
    TopoExec.begun (events ++ [.returned call]) = 0 := by
  refine List.countP_eq_zero.mpr fun e he => ?_
  cases e with
  | reached point channels => exact absurd he (not_reached_handsOver h point channels)
  | _ => simp [TraceEvent.isIterationBegin]

/-- When only old publications wait, everything staged in the run is settled. -/
theorem RouterInv.oldSettled (h : frame.RouterInv router)
    (hold : ∀ p ∈ router.held, IsOld frame.first p) : OldSettled frame.first router.trace := by
  intro pre tag channelId kind composite since hsplit hfirst _
  have hmem : .staged tag channelId kind composite ∈ router.trace := by
    rw [hsplit]
    exact List.mem_append_right _ (List.mem_cons_self ..)
  rcases h.fate.fate tag channelId kind composite hfirst hmem with hsettled | ⟨p, hp, htag, _, _⟩
  · exact hsettled
  · exact absurd (hold p hp tag htag) (Nat.not_lt.mpr hfirst)

/-- The epoch begins with what was ready handed over. -/
theorem BetweenIterations.beginEpoch {s : RunState}
    (h : frame.BetweenIterations iteration s.router)
    (haccepted :
      ((s.reach (.iterationBegin iteration)).router.beginEpoch clock).1.accepted = true) :
    frame.BetweenRegions iteration []
      ((s.reach (.iterationBegin iteration)).router.beginEpoch clock).2 := by
  rcases h.iterationBegin with ⟨hok, hbegun, hcollected⟩
  have hrouter := (h.toRouterInv.reach (.iterationBegin iteration)).beginEpoch haccepted
  rcases (s.reach (.iterationBegin iteration)).router.beginEpoch_moves clock with
    ⟨events, hevents, hmoves⟩
  refine ⟨hrouter, ⟨?_, ?_, ?_, hrouter.oldSettled ?_⟩, ?_, ?_, ?_⟩
  · rw [hmoves.trace]
    exact events_beginEpoch hok hevents
  · rw [hmoves.trace, begun_append, begun_handsOver hevents, hbegun]
  · intro componentId hnot
    rw [hmoves.trace]
    exact (hcollected componentId hnot).append fun iteration channels =>
      not_reached_handsOver hevents _ channels
  · -- the ready list has been handed over
    intro p hp
    rw [mem_held, hmoves.ready, hmoves.next, hmoves.immediate, hmoves.composite] at hp
    rcases hp with hp | hp | hp | ⟨staged, hstaged, rfl⟩
    · cases hp
    · exact h.next p hp
    · exact h.immediate p hp
    · exact h.composite staged hstaged
  · rw [hmoves.immediate]
    exact h.immediate
  · rw [hmoves.composite]
    exact h.composite
  · rw [hmoves.active]
    exact h.active

/-- The point behind the start of an epoch is between regions. -/
theorem BetweenRegions.epochBegun {s : RunState}
    (h : frame.BetweenRegions iteration names s.router) :
    frame.BetweenRegions iteration names (s.reach (.epochBegun iteration)).router := by
  have hok : frame.EventOk s.router.trace (.reached (.epochBegun iteration) s.router.channels) :=
    ⟨h.fate.entered, h.trace.begun, h.trace.settled⟩
  exact ⟨h.toRouterInv.reach _, h.trace.reached hok (by simp) (by simp), h.immediate, h.composite,
    h.active⟩

end RunFrame

end TopoExec
