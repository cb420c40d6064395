import TopoExec.Router.Admission
import TopoExec.Channel.Batch

/-! # The async in-flight gauge

`async_in_flight_count` is written in four places: an admission writes the count
of its own channel, a refusal, a completed epoch and a discard write the count of
all channels. A failed `begin_epoch` and a restarted composite region take async
publications away and do not write it.

`GaugeSafe` names the steps that keep the gauge right, on the state before the
step. Over any run of such steps the gauge is the number of async publications
pending and the high-water mark is the largest number so far.
-/

namespace TopoExec

/-! ## The steps that keep the gauge -/

/-- Every async publication in flight counts against the bound of the edge. -/
def RoutedEdge.countsAll (edge : RoutedEdge) (ids : List String) : Bool :=
  ids.all fun id => edge.channelId = "" || id = edge.channelId

/-- The edges of a publish call admit with nothing of another channel in flight,
up to the first one that refuses. -/
def admitsAlone : List String → List RoutedEdge → Bool
  | _, [] => true
  | ids, edge :: rest =>
      edge.refusesWith ids ||
        ((edge.kind ≠ .async || edge.countsAll ids) && admitsAlone (edge.admitId ids) rest)

/-- The step keeps the gauge: async admissions happen with no other channel's
publication in flight, an epoch with async publications begins only when the bus
takes them, and a composite region begins only when the stage has none. -/
def GaugeSafe (clock : Nat → Int) (router : RuntimePublicationRouter) : RouterOp → Prop
  | .publish sourceEndpoint payload _ _ =>
      payload.isSome → ∀ edges, router.sourceToEdges sourceEndpoint = some edges →
        admitsAlone router.pendingIds edges = true
  | .beginEpoch =>
      (∀ p ∈ router.deferredReady, p.kind ≠ .async) ∨
        ∃ bus, router.channels = some bus ∧
          (RuntimeChannelBus.preflightBatch clock router.deferredReady
            { bus := bus.advanceEpoch }).1.accepted = true
  | .beginCompositeRegion _ => ∀ s ∈ router.compositeExternalStage, s.kind ≠ .async
  | _ => True

/-- Every step of the run is safe. -/
def GaugeSafeRun (clock : Nat → Int) : RuntimePublicationRouter → List RouterOp → Prop
  | _, [] => True
  | router, op :: ops => GaugeSafe clock router op ∧ GaugeSafeRun clock (op.exec clock router) ops

/-- The largest number of async publications pending in the states of a run. -/
def pendingPeak (clock : Nat → Int) : RuntimePublicationRouter → List RouterOp → Nat
  | router, [] => router.pendingAsyncCount
  | router, op :: ops => max router.pendingAsyncCount (pendingPeak clock (op.exec clock router) ops)

namespace RuntimePublicationRouter

variable {router router' : RuntimePublicationRouter} {specs : List EdgeSpec} {clock : Nat → Int}

/-- The gauge is the number of async publications pending, and the high-water
mark is `peak`. -/
structure Gauges (router : RuntimePublicationRouter) (peak : Nat) : Prop where
  inFlight : router.metrics.asyncInFlightCount = router.pendingAsyncCount
  maximum : router.metrics.asyncMaxInFlightCount = peak

/-! ## Counting over all channels -/

/-- All that is pending, whatever its channel. -/
theorem pendingAsyncCount_length (router : RuntimePublicationRouter) :
    router.pendingAsyncCount = router.pendingIds.length := by
  rw [pendingAsyncCount_pendingIds]
  simp [inFlight]

/-- Where no other channel has anything pending, the count of the edge is the whole count. -/
theorem inFlight_of_countsAll {edge : RoutedEdge} {ids : List String}
    (h : edge.countsAll ids = true) : inFlight edge.channelId ids = ids.length := by
  unfold inFlight
  rw [List.countP_eq_length]
  intro id hid
  exact List.all_eq_true.mp h id hid

/-- The number of async publications in a list. -/
def asyncIn (publications : List RuntimeChannelPublication) : Nat :=
  publications.countP fun publication => publication.kind = .async

/-- The async publications stand in three of the four lists. -/
theorem pendingAsyncCount_lists (router : RuntimePublicationRouter) :
    router.pendingAsyncCount = asyncIn router.deferredNextEpoch + asyncIn router.deferredReady +
      router.compositeExternalStage.countP fun staged => staged.kind = .async := by
  unfold pendingAsyncCount isPendingAsync asyncIn
  simp

/-- Whoever moves publications changes the count as the lists say. -/
theorem Moves.pendingAsyncCount {immediate next ready : List RuntimeChannelPublication}
    {composite : List StagedRoutedPublication} {active : List String} {events : List TraceEvent}
    (h : Moves router router' immediate next ready composite active events) :
    router'.pendingAsyncCount = asyncIn next + asyncIn ready +
      composite.countP fun staged => staged.kind = .async := by
  rw [pendingAsyncCount_lists, h.next, h.ready, h.composite]

/-! ## Publishing -/

/-- Staging does not touch the gauges; the admission has set them. -/
theorem stage_gauges (router : RuntimePublicationRouter) (edge : RoutedEdge)
    (publication : RuntimeChannelPublication) :
    (router.stage edge publication).metrics.asyncInFlightCount =
        router.metrics.asyncInFlightCount ∧
      (router.stage edge publication).metrics.asyncMaxInFlightCount =
        router.metrics.asyncMaxInFlightCount := by
  unfold stage
  split_ifs
  all_goals cases edge.kind <;> exact ⟨rfl, rfl⟩

/-- A refusal writes the count of all channels. -/
theorem admitAsync_refused_gauges {edge : RoutedEdge}
    (h : (router.admitAsync edge).1.accepted = false) :
    (router.admitAsync edge).2.metrics.asyncInFlightCount = router.pendingAsyncCount ∧
      (router.admitAsync edge).2.metrics.asyncMaxInFlightCount =
        router.metrics.asyncMaxInFlightCount := by
  revert h
  unfold admitAsync
  dsimp only
  split_ifs
  all_goals simp [admitted]

/-- An admission with nothing of another channel in flight. -/
theorem Admission.gauges {edge : RoutedEdge} (h : Admission edge router router')
    (hstaging : StagingInv specs router)
    (hall : edge.kind ≠ .async ∨ edge.countsAll router.pendingIds = true) {peak : Nat}
    (hgauges : Gauges router peak) (hpeak : router.pendingAsyncCount ≤ peak) (publish : Publish) :
    router.pendingAsyncCount ≤
        (router'.stage edge (publicationFor publish edge)).pendingAsyncCount ∧
      Gauges (router'.stage edge (publicationFor publish edge))
        (max peak (router'.stage edge (publicationFor publish edge)).pendingAsyncCount) := by
  rcases router'.stage_gauges edge (publicationFor publish edge) with ⟨hinFlight, hmaximum⟩
  have hlength := (router'.pendingIds_stage edge publish).length_eq
  rw [← pendingAsyncCount_length] at hlength
  suffices hafter : router.pendingAsyncCount ≤
        (router'.stage edge (publicationFor publish edge)).pendingAsyncCount ∧
      router'.metrics.asyncInFlightCount =
        (router'.stage edge (publicationFor publish edge)).pendingAsyncCount ∧
      router'.metrics.asyncMaxInFlightCount =
        max peak (router'.stage edge (publicationFor publish edge)).pendingAsyncCount by
    exact ⟨hafter.1, hinFlight.trans hafter.2.1, hmaximum.trans hafter.2.2⟩
  cases h with
  | plain hkind =>
      rw [if_neg hkind, ← pendingAsyncCount_length] at hlength
      rw [hlength]
      exact ⟨le_refl _, hgauges.inFlight, by rw [hgauges.maximum, max_eq_left hpeak]⟩
  | room hkind _ | nothing hkind _ _ _ _ =>
      -- the count of the channel is the count of all channels
      have hcount : router.pendingAsyncCount edge.channelId = router.pendingAsyncCount := by
        rw [pendingAsyncCount_pendingIds,
          inFlight_of_countsAll (hall.resolve_left (not_not.mpr hkind)), pendingAsyncCount_length]
      rw [if_pos hkind, List.length_cons] at hlength
      change _ = router.pendingIds.length + 1 at hlength
      rw [← pendingAsyncCount_length] at hlength
      rw [hlength]
      refine ⟨Nat.le_succ _, ?_, ?_⟩
      · show router.pendingAsyncCount edge.channelId + 1 = _
        rw [hcount]
      · show max router.metrics.asyncMaxInFlightCount (_ + 1) = _
        rw [hcount, hgauges.maximum]
  | dropped hkind _ hdrops =>
      have hcount : router.pendingAsyncCount edge.channelId = router.pendingAsyncCount := by
        rw [pendingAsyncCount_pendingIds,
          inFlight_of_countsAll (hall.resolve_left (not_not.mpr hkind)), pendingAsyncCount_length]
      -- one publication leaves and one comes
      have hone := (hdrops.cons_pendingIds hstaging).length_eq
      rw [List.length_cons, ← pendingAsyncCount_length router] at hone
      rw [if_pos hkind, List.length_cons] at hlength
      change _ = List.length (RuntimePublicationRouter.pendingIds _) + 1 at hlength
      have hsame := hlength.trans hone
      rw [hsame]
      have hpos : router.pendingAsyncCount edge.channelId - 1 + 1 = router.pendingAsyncCount := by
        omega
      refine ⟨le_refl _, hpos, ?_⟩
      show max _ (router.pendingAsyncCount edge.channelId - 1 + 1) = _
      rw [hpos, ← hgauges.maximum]
      cases hdrops <;> rfl

/-- The condition is about the ids and not about their order. -/
theorem admitsAlone_perm {edges : List RoutedEdge} {ids ids' : List String} (h : ids.Perm ids') :
    admitsAlone ids edges = admitsAlone ids' edges := by
  induction edges generalizing ids ids' with
  | nil => rfl
  | cons edge rest ih =>
      have hrefuses : edge.refusesWith ids = edge.refusesWith ids' := by
        unfold RoutedEdge.refusesWith
        rw [inFlight_perm h]
      have hcounts : edge.countsAll ids = edge.countsAll ids' := by
        unfold RoutedEdge.countsAll
        exact h.all_eq
      unfold admitsAlone
      rw [hrefuses, hcounts, ih (edge.admitId_perm h)]

/-- The loop over the edges: the number pending does not fall, and the gauges
follow it. -/
theorem publishEdges_gauges {publish : Publish} {edges : List RoutedEdge}
    (hedges : ∀ edge ∈ edges, ∃ spec ∈ specs, edge = .ofSpec spec)
    (hstaging : StagingInv specs router) {peak : Nat} (hgauges : Gauges router peak)
    (hpeak : router.pendingAsyncCount ≤ peak)
    (hsafe : admitsAlone router.pendingIds edges = true) :
    router.pendingAsyncCount ≤ (publishEdges publish edges router).2.pendingAsyncCount ∧
      Gauges (publishEdges publish edges router).2
        (max peak (publishEdges publish edges router).2.pendingAsyncCount) := by
  induction edges generalizing router peak with
  | nil =>
      refine ⟨le_refl _, ?_⟩
      show Gauges router (max peak router.pendingAsyncCount)
      rw [max_eq_left hpeak]
      exact hgauges
  | cons edge rest ih =>
      unfold publishEdges
      dsimp only
      rcases router.admitAsync_cases edge with
        ⟨haccepted, hrefuses, hadmission⟩ | ⟨hrejected, _, hrefused⟩
      · rw [if_pos haccepted]
        rw [refuses_eq_refusesWith] at hrefuses
        simp only [admitsAlone, hrefuses, Bool.false_or, Bool.and_eq_true, Bool.or_eq_true,
          decide_eq_true_eq] at hsafe
        rcases hadmission.gauges hstaging hsafe.1 hgauges hpeak publish with ⟨hle, hnext⟩
        rcases hedges edge (List.mem_cons_self ..) with ⟨spec, hspec, rfl⟩
        rcases hadmission.thinned with ⟨dropped, hthinned⟩
        -- the rest starts from the number pending after this edge
        rcases ih (fun e he => hedges e (List.mem_cons_of_mem _ he))
          ((hstaging.thinned hthinned).stage hspec publish) hnext (le_max_right _ _)
          ((admitsAlone_perm (hadmission.pendingIds_stage hstaging publish)).trans hsafe.2)
          with ⟨hrest, hfinal⟩
        rw [max_assoc, max_eq_right hrest] at hfinal
        exact ⟨le_trans hle hrest, hfinal⟩
      · rw [if_neg (by simp [hrejected])]
        rcases admitAsync_refused_gauges hrejected with ⟨hinFlight, hmaximum⟩
        have hcount : (router.admitAsync edge).2.pendingAsyncCount = router.pendingAsyncCount := by
          unfold pendingAsyncCount
          rw [hrefused.next, hrefused.ready, hrefused.composite]
        rw [hcount, max_eq_left hpeak]
        exact ⟨le_refl _, hinFlight.trans hcount.symm, hmaximum.trans hgauges.maximum⟩

/-- A safe publish leaves both gauges right, also where it is refused half-way. -/
theorem publish_gauges (hstaging : StagingInv specs router) {peak : Nat}
    (hgauges : Gauges router peak) (hpeak : router.pendingAsyncCount ≤ peak)
    {sourceEndpoint : String} {payload : Option RuntimePayload} {metadata : InvocationMetadata}
    {eventTimestamp : Option EventTimestamp}
    (hsafe : GaugeSafe clock router (.publish sourceEndpoint payload metadata eventTimestamp)) :
    Gauges (router.publishSharedFromWithMetadata sourceEndpoint payload metadata eventTimestamp).2
      (max peak (router.publishSharedFromWithMetadata sourceEndpoint payload metadata
        eventTimestamp).2.pendingAsyncCount) := by
  have hsame : Gauges router (max peak router.pendingAsyncCount) := by
    rw [max_eq_left hpeak]
    exact hgauges
  unfold publishSharedFromWithMetadata
  cases payload with
  | none => exact hsame
  | some payload =>
      dsimp only
      cases hedges : router.sourceToEdges sourceEndpoint with
      | none => exact hsame
      | some edges =>
          have hspecs : ∀ edge ∈ edges, ∃ spec ∈ specs, edge = .ofSpec spec := by
            intro edge hedge
            rw [hstaging.sources] at hedges
            rcases mem_edgesOfSource hedges hedge with ⟨spec, hspec, _, heq⟩
            exact ⟨spec, hspec, heq⟩
          exact (publishEdges_gauges hspecs hstaging hgauges hpeak (hsafe rfl edges hedges)).2

/-! ## The other operations -/

/-- A commit writes neither gauge. -/
theorem Commits.gauges {call : RouterCall} {publications : List RuntimeChannelPublication}
    {accepted : Bool} (h : Commits clock call publications router accepted router') :
    router'.metrics.asyncInFlightCount = router.metrics.asyncInFlightCount ∧
      router'.metrics.asyncMaxInFlightCount = router.metrics.asyncMaxInFlightCount := by
  cases h <;> exact ⟨rfl, rfl⟩

/-- The bus takes a batch that passes its preflight. -/
theorem Commits.accepted_of_preflight {call : RouterCall}
    {publications : List RuntimeChannelPublication} {accepted : Bool} {bus : RuntimeChannelBus}
    (h : Commits clock call publications router accepted router')
    (hbus : router.channels = some bus)
    (hpreflight : (RuntimeChannelBus.preflightBatch clock publications
      { bus := bus }).1.accepted = true) : accepted = true := by
  cases h with
  | empty _ => rfl
  | noBus hnone =>
      rw [hbus] at hnone
      cases hnone
  | accepted _ _ => rfl
  | rejected hsome hrejected =>
      rw [hbus] at hsome
      cases hsome
      rw [(RuntimeChannelBus.publishBatch_allOrNothing clock bus publications).1, hpreflight]
        at hrejected
      exact hrejected.symm

/-- Completing `asyncReadyCount` publications writes the gauge unless there are
none. -/
theorem completeAsync_gauges (router : RuntimePublicationRouter) (accepted : Bool)
    (asyncReadyCount : Nat) :
    (router.completeAsync accepted asyncReadyCount).metrics.asyncMaxInFlightCount =
        router.metrics.asyncMaxInFlightCount ∧
      (asyncReadyCount = 0 →
        (router.completeAsync accepted asyncReadyCount).metrics.asyncInFlightCount =
          router.metrics.asyncInFlightCount) ∧
      (accepted = true → 0 < asyncReadyCount →
        (router.completeAsync accepted asyncReadyCount).metrics.asyncInFlightCount =
          (router.completeAsync accepted asyncReadyCount).pendingAsyncCount) := by
  unfold completeAsync
  split_ifs with h
  · refine ⟨rfl, fun hzero => ?_, fun _ _ => rfl⟩
    simp [hzero] at h
  · refine ⟨rfl, fun _ => rfl, fun haccepted hpos => ?_⟩
    exact absurd (by simp [haccepted, hpos]) h

/-- A `begin_epoch` that commits async publications sets the gauge anew, and any other changes
neither the gauge nor the count. -/
theorem beginEpoch_gauges {peak : Nat} (hgauges : Gauges router peak)
    (hsafe : GaugeSafe clock router .beginEpoch) : Gauges (router.beginEpoch clock).2 peak := by
  rcases router.beginEpoch_moves clock with ⟨events, _, hmoves⟩
  have hcommits := commitBatch_commits clock
    { router with
      channels := router.channels.map RuntimeChannelBus.advanceEpoch
      deferredReady := [] } .beginEpoch router.deferredReady
  rcases hcommits.gauges with ⟨hinFlight, hmaximum⟩
  rcases completeAsync_gauges
    (commitBatch clock { router with
      channels := router.channels.map RuntimeChannelBus.advanceEpoch
      deferredReady := [] } .beginEpoch router.deferredReady).2 _
    (asyncIn router.deferredReady) with ⟨hmax, hzero, hpos⟩
  refine ⟨?_, (hmax.trans hmaximum).trans hgauges.maximum⟩
  rcases Nat.eq_zero_or_pos (asyncIn router.deferredReady) with hnone | hsome
  · -- nothing async was ready: neither the gauge nor the count changes
    rw [hmoves.pendingAsyncCount]
    refine (hzero hnone).trans (hinFlight.trans (hgauges.inFlight.trans ?_))
    rw [pendingAsyncCount_lists, hnone]
    rfl
  · refine hpos ?_ hsome
    rcases hsafe with hsafe | ⟨bus, hbus, hpreflight⟩
    · rcases List.countP_pos_iff.mp hsome with ⟨p, hp, hkind⟩
      exact absurd (of_decide_eq_true hkind) (hsafe p hp)
    · exact hcommits.accepted_of_preflight (by simp [hbus]) hpreflight

/-- Where nothing async is discarded the gauge stays right. -/
theorem beginCompositeRegion_gauges {peak : Nat} (hgauges : Gauges router peak)
    {components : List String} (hsafe : GaugeSafe clock router (.beginCompositeRegion components)) :
    Gauges (router.beginCompositeRegion components) peak := by
  have hnone : router.compositeExternalStage.countP
      (fun staged : StagedRoutedPublication => decide (staged.kind = .async)) = 0 := by
    rw [List.countP_eq_zero]
    intro s hs
    simpa using hsafe s hs
  refine ⟨hgauges.inFlight.trans ?_, hgauges.maximum⟩
  rw [(router.beginCompositeRegion_moves components).pendingAsyncCount, pendingAsyncCount_lists,
    hnone]
  rfl

/-- Where something async is discarded the gauge is set anew. -/
theorem discardCompositeRegionOutputs_gauges {peak : Nat} (hgauges : Gauges router peak) :
    Gauges router.discardCompositeRegionOutputs peak := by
  have hafter := router.discardCompositeRegionOutputs_moves.pendingAsyncCount
  rcases Nat.eq_zero_or_pos (router.compositeExternalStage.countP
    fun staged : StagedRoutedPublication => decide (staged.kind = .async)) with hnone | hsome
  · -- the gauge is not written, and nothing async is discarded
    refine ⟨?_, ?_⟩
    · rw [hafter]
      have hgauge : router.discardCompositeRegionOutputs.metrics.asyncInFlightCount =
          router.metrics.asyncInFlightCount := by
        simp [discardCompositeRegionOutputs, cancelAsync, close, hnone]
      rw [hgauge, hgauges.inFlight, pendingAsyncCount_lists, hnone]
      rfl
    · rw [← hgauges.maximum]
      simp [discardCompositeRegionOutputs, cancelAsync, close, hnone]
  · have heq : router.discardCompositeRegionOutputs = _ :=
      congrArg (fun r => close r .discardComposite) (if_pos hsome)
    rw [heq]
    exact ⟨rfl, hgauges.maximum⟩

theorem asyncIn_compositeOf (hstaging : StagingInv specs router) :
    asyncIn (router.compositeOf false) =
      router.compositeExternalStage.countP fun staged => staged.kind = .async := by
  unfold asyncIn compositeOf
  rw [List.countP_map, List.countP_filter]
  refine List.countP_congr fun s hs => ?_
  rw [Function.comp_apply, ← hstaging.composite s hs]
  cases s.kind <;> simp

theorem asyncIn_append (l l' : List RuntimeChannelPublication) :
    asyncIn (l ++ l') = asyncIn l + asyncIn l' :=
  List.countP_append

/-- The async outputs of the region are deferred, so their number stays. -/
theorem commitCompositeRegionOutputs_gauges (hstaging : StagingInv specs router) {peak : Nat}
    (hgauges : Gauges router peak) :
    Gauges (router.commitCompositeRegionOutputs clock).2 peak := by
  rcases router.commitCompositeRegionOutputs_moves clock with ⟨events, _, hmoves⟩
  have hcommitted : (router.commitCompositeRegionOutputs clock).2.metrics.asyncInFlightCount =
        router.metrics.asyncInFlightCount ∧
      (router.commitCompositeRegionOutputs clock).2.metrics.asyncMaxInFlightCount =
        router.metrics.asyncMaxInFlightCount :=
    (commitBatch_commits clock _ .commitComposite _).gauges
  refine ⟨?_, hcommitted.2.trans hgauges.maximum⟩
  rw [hcommitted.1, hgauges.inFlight, hmoves.pendingAsyncCount, pendingAsyncCount_lists,
    asyncIn_append, asyncIn_compositeOf hstaging, List.countP_nil]
  omega

/-- Immediate publications are not counted. -/
theorem commitImmediate_gauges {peak : Nat} (hgauges : Gauges router peak) :
    Gauges (router.commitImmediate clock).2 peak := by
  rcases router.commitImmediate_moves clock with ⟨events, _, hmoves⟩
  have hcommitted : (router.commitImmediate clock).2.metrics.asyncInFlightCount =
        router.metrics.asyncInFlightCount ∧
      (router.commitImmediate clock).2.metrics.asyncMaxInFlightCount =
        router.metrics.asyncMaxInFlightCount :=
    (commitBatch_commits clock _ .commitImmediate _).gauges
  refine ⟨?_, hcommitted.2.trans hgauges.maximum⟩
  rw [hcommitted.1, hgauges.inFlight, hmoves.pendingAsyncCount, pendingAsyncCount_lists]

/-- Deferred publications that become ready are still pending. -/
theorem endEpoch_gauges {peak : Nat} (hgauges : Gauges router peak) :
    Gauges router.endEpoch peak := by
  refine ⟨hgauges.inFlight.trans ?_, hgauges.maximum⟩
  rw [router.endEpoch_moves.pendingAsyncCount, pendingAsyncCount_lists, asyncIn_append]
  show _ = 0 + _ + _
  omega

/-! ## Runs -/

/-- One safe step: the gauge follows the number pending, and the high-water mark
takes the new number in. -/
theorem exec_gauges {op : RouterOp} (hsafe : GaugeSafe clock router op)
    (hstaging : StagingInv specs router) {peak : Nat} (hgauges : Gauges router peak)
    (hpeak : router.pendingAsyncCount ≤ peak) :
    Gauges (op.exec clock router) (max peak (op.exec clock router).pendingAsyncCount) := by
  -- apart from publishing, no operation adds a pending publication
  have hfalls : ∀ {router' : RuntimePublicationRouter}, Gauges router' peak →
      router'.pendingAsyncCount ≤ router.pendingAsyncCount →
        Gauges router' (max peak router'.pendingAsyncCount) := by
    intro router' h hle
    rw [max_eq_left (le_trans hle hpeak)]
    exact h
  cases op with
  | publish sourceEndpoint payload metadata eventTimestamp =>
      exact publish_gauges hstaging hgauges hpeak hsafe
  | beginEpoch =>
      rcases router.beginEpoch_moves clock with ⟨events, _, hmoves⟩
      refine hfalls (beginEpoch_gauges hgauges hsafe) ?_
      show pendingAsyncCount (router.beginEpoch clock).2 ≤ _
      rw [hmoves.pendingAsyncCount, pendingAsyncCount_lists]
      simp [asyncIn]
  | commitImmediate =>
      rcases router.commitImmediate_moves clock with ⟨events, _, hmoves⟩
      refine hfalls (commitImmediate_gauges hgauges) ?_
      show pendingAsyncCount (router.commitImmediate clock).2 ≤ _
      rw [hmoves.pendingAsyncCount, pendingAsyncCount_lists]
  | endEpoch =>
      refine hfalls (endEpoch_gauges hgauges) ?_
      show pendingAsyncCount router.endEpoch ≤ _
      rw [router.endEpoch_moves.pendingAsyncCount, pendingAsyncCount_lists, asyncIn_append]
      simp only [asyncIn, List.countP_nil]
      omega
  | beginCompositeRegion components =>
      refine hfalls (beginCompositeRegion_gauges hgauges hsafe) ?_
      show pendingAsyncCount (router.beginCompositeRegion components) ≤ _
      rw [(router.beginCompositeRegion_moves components).pendingAsyncCount, pendingAsyncCount_lists]
      simp
  | commitCompositeRegionOutputs =>
      rcases router.commitCompositeRegionOutputs_moves clock with ⟨events, _, hmoves⟩
      refine hfalls (commitCompositeRegionOutputs_gauges hstaging hgauges) ?_
      show pendingAsyncCount (router.commitCompositeRegionOutputs clock).2 ≤ _
      rw [hmoves.pendingAsyncCount, pendingAsyncCount_lists, asyncIn_append,
        asyncIn_compositeOf hstaging, List.countP_nil]
      omega
  | discardCompositeRegionOutputs =>
      refine hfalls (discardCompositeRegionOutputs_gauges hgauges) ?_
      show pendingAsyncCount router.discardCompositeRegionOutputs ≤ _
      rw [router.discardCompositeRegionOutputs_moves.pendingAsyncCount, pendingAsyncCount_lists]
      simp
  | useBus op => exact hfalls ⟨hgauges.inFlight, hgauges.maximum⟩ (le_refl _)

/-- The peak of a run is at least what is pending at its start. -/
theorem pendingAsyncCount_le_pendingPeak (clock : Nat → Int) (router : RuntimePublicationRouter)
    (ops : List RouterOp) : router.pendingAsyncCount ≤ pendingPeak clock router ops := by
  cases ops with
  | nil => exact le_refl _
  | cons op ops => exact le_max_left _ _

/-- Over a safe run the first gauge is what is pending and the second its peak. -/
theorem run_gauges {ops : List RouterOp} (hsafe : GaugeSafeRun clock router ops)
    (hstaging : StagingInv specs router) {peak : Nat} (hgauges : Gauges router peak)
    (hpeak : router.pendingAsyncCount ≤ peak) :
    Gauges (ops.foldl (RouterOp.exec clock) router) (max peak (pendingPeak clock router ops)) := by
  induction ops generalizing router peak with
  | nil =>
      show Gauges router (max peak router.pendingAsyncCount)
      rw [max_eq_left hpeak]
      exact hgauges
  | cons op ops ih =>
      rcases hsafe with ⟨hstep, hrest⟩
      have hnext := ih hrest (hstaging.exec op) (exec_gauges hstep hstaging hgauges hpeak)
        (le_max_right _ _)
      -- the state before the step is below the peak, the state after it is in the rest
      have hafter := pendingAsyncCount_le_pendingPeak clock (op.exec clock router) ops
      have hsame : max peak (pendingPeak clock router (op :: ops)) =
          max (max peak (op.exec clock router).pendingAsyncCount)
            (pendingPeak clock (op.exec clock router) ops) := by
        show max peak (max router.pendingAsyncCount _) = _
        omega
      rw [hsame]
      exact hnext

end RuntimePublicationRouter

open RuntimePublicationRouter

/-- After every run of safe steps, `async_in_flight_count` is the number of async
publications pending over all channels, and `async_max_in_flight_count` is the
largest such number in the states of the run. -/
theorem async_gauges_of_safe_run {clock : Nat → Int} {channels : Option RuntimeChannelBus}
    {specs : List EdgeSpec} {ops : List RouterOp}
    (hsafe : GaugeSafeRun clock (.ofEdges channels specs) ops) :
    let router := ops.foldl (RouterOp.exec clock) (.ofEdges channels specs)
    router.metrics.asyncInFlightCount = router.pendingAsyncCount ∧
      router.metrics.asyncMaxInFlightCount = pendingPeak clock (.ofEdges channels specs) ops := by
  have hstart : Gauges (.ofEdges channels specs) 0 := ⟨rfl, rfl⟩
  have hrun := run_gauges hsafe (ofEdges_stagingInv channels specs) hstart (le_refl _)
  rw [Nat.zero_max] at hrun
  exact ⟨hrun.inFlight, hrun.maximum⟩

/-- Three requests, and the epochs that hand the last two over. -/
def requestOps : List RouterOp :=
  [.publish "sensor.out" (some {}) {} none, .publish "sensor.out" (some {}) {} none,
    .publish "sensor.out" (some {}) {} none, .endEpoch, .beginEpoch]

theorem requestOps_gauges :
    let router := requestOps.foldl (RouterOp.exec fun n => n)
      (.ofEdges (some (.ofEdges [requestQueue])) [requestQueue])
    router.metrics.asyncInFlightCount = 0 ∧ router.metrics.asyncMaxInFlightCount = 2 := by
  have hedges : edgesOfSource [requestQueue] "sensor.out" = some [.ofSpec requestQueue] := by
    decide
  have hsafe : GaugeSafeRun (fun n => n)
      (.ofEdges (some (.ofEdges [requestQueue])) [requestQueue]) requestOps := by
    refine ⟨?_, ?_, ?_, trivial, ?_, trivial⟩
    -- the edge is alone, also when it is full
    · exact fun _ edges h => by cases hedges.symm.trans h; decide
    · exact fun _ edges h => by cases hedges.symm.trans h; decide
    · exact fun _ edges h => by cases hedges.symm.trans h; decide
    -- the bus takes both requests
    · exact Or.inr ⟨_, rfl, by decide⟩
  exact async_gauges_of_safe_run hsafe

/-- A second async edge of the same sensor. -/
def alarmEdge : EdgeSpec where
  id := "alarms"
  fromEndpoint := "sensor.alarm"
  toEndpoint := "operator.in"
  kind := .async

def requestAndAlarm : RuntimePublicationRouter :=
  [RouterOp.publish "sensor.out" (some {}) {} none,
    .publish "sensor.alarm" (some {}) {} none].foldl (RouterOp.exec fun n => n)
    (.ofEdges (some (.ofEdges [requestQueue, alarmEdge])) [requestQueue, alarmEdge])

/-- With a publication of each edge pending, the gauges read one. -/
theorem requestAndAlarm_miscounted :
    ¬ (requestAndAlarm.metrics.asyncInFlightCount = requestAndAlarm.pendingAsyncCount ∧
      requestAndAlarm.metrics.asyncMaxInFlightCount =
        pendingPeak (fun n => n)
          (.ofEdges (some (.ofEdges [requestQueue, alarmEdge])) [requestQueue, alarmEdge])
          [RouterOp.publish "sensor.out" (some {}) {} none,
            .publish "sensor.alarm" (some {}) {} none]) := by
  decide

end TopoExec
