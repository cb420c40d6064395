import TopoExec.Router.Staging

/-! # Conservation of publications

Every publication that the router stages is committed, discarded with its
composite region, overwritten, or still in one of the four lists. The async ones
are counted a second time, from admission to completion.

A failed commit loses its batch, and `begin_composite_region` clears the stage of
the region before it without counting, so both laws are about runs without
either.
-/

namespace TopoExec

namespace RuntimePublicationRouter

/-- The two balance equations. -/
structure Conserves (router : RuntimePublicationRouter) : Prop where
  staged : router.metrics.stagedCount =
    router.metrics.committedCount + router.metrics.compositeDiscardedCount +
      router.metrics.asyncAdmissionOverwriteCount + router.immediateStage.length +
      router.deferredNextEpoch.length + router.deferredReady.length +
      router.compositeExternalStage.length
  async : router.metrics.asyncAdmissionAcceptedCount =
    router.metrics.asyncCompletionCount + router.metrics.asyncAdmissionOverwriteCount +
      router.metrics.asyncCancelledCount + router.pendingAsyncCount

/-- The equations hold as long as no commit has failed. -/
def Accounted (router : RuntimePublicationRouter) : Prop :=
  router.metrics.failedCommitCount = 0 → router.Conserves

variable {router router' : RuntimePublicationRouter} {specs : List EdgeSpec}

/-! ## Counting pending publications -/

/-- The empty id stands for all channels. -/
theorem isPendingAsync_empty (publication : RuntimeChannelPublication) :
    isPendingAsync "" publication = decide (publication.kind = .async) := by
  simp [isPendingAsync]

/-- The async publications of three of the lists. -/
theorem pendingAsyncCount_eq (router : RuntimePublicationRouter) :
    router.pendingAsyncCount =
      router.deferredNextEpoch.countP (fun p => decide (p.kind = .async)) +
        router.deferredReady.countP (fun p => decide (p.kind = .async)) +
        router.compositeExternalStage.countP (fun s => decide (s.kind = .async)) := by
  have hpending : isPendingAsync "" = fun p => decide (p.kind = .async) :=
    funext isPendingAsync_empty
  unfold pendingAsyncCount
  rw [hpending]
  simp

/-! ## Admission and staging -/

/-- A drop takes one async publication out of the lists. -/
theorem Drops.lengths {channelId : String} (h : Drops channelId router router')
    (hstaging : StagingInv specs router) :
    router'.metrics = router.metrics ∧
      router'.immediateStage = router.immediateStage ∧
      router'.deferredNextEpoch.length + router'.deferredReady.length +
          router'.compositeExternalStage.length + 1 =
        router.deferredNextEpoch.length + router.deferredReady.length +
          router.compositeExternalStage.length ∧
      router'.pendingAsyncCount + 1 = router.pendingAsyncCount := by
  simp only [pendingAsyncCount_eq]
  -- whichever list it waits in, the dropped publication is one that is async
  cases h with
  | ready hlist hdropped _ =>
      have hkind := kind_of_isAsyncOf hdropped
      refine ⟨rfl, rfl, ?_, ?_⟩
      · simp [hlist]
        omega
      · simp [hlist, hkind]
        omega
  | next _ hlist hdropped _ =>
      have hkind := kind_of_isAsyncOf hdropped
      refine ⟨rfl, rfl, ?_, ?_⟩
      · simp [hlist]
        omega
      · simp [hlist, hkind]
        omega
  | composite _ _ hlist hdropped _ =>
      have hkind := hstaging.composite _ (hlist ▸ List.mem_append_right _ (List.mem_cons_self ..))
      rw [kind_of_isAsyncOf hdropped] at hkind
      refine ⟨rfl, rfl, ?_, ?_⟩
      · simp [hlist]
        omega
      · simp [hlist, hkind]
        omega

/-- Between the admission and the staging of an async publication, the accepted
counter is one ahead. -/
structure Admitted (edge : RoutedEdge) (router : RuntimePublicationRouter) : Prop where
  staged : router.metrics.failedCommitCount = 0 →
    router.metrics.stagedCount =
      router.metrics.committedCount + router.metrics.compositeDiscardedCount +
        router.metrics.asyncAdmissionOverwriteCount + router.immediateStage.length +
        router.deferredNextEpoch.length + router.deferredReady.length +
        router.compositeExternalStage.length
  async : router.metrics.failedCommitCount = 0 →
    router.metrics.asyncAdmissionAcceptedCount =
      router.metrics.asyncCompletionCount + router.metrics.asyncAdmissionOverwriteCount +
        router.metrics.asyncCancelledCount + router.pendingAsyncCount +
        if edge.kind = .async then 1 else 0

/-- The admission has counted the publication that is now to be staged. -/
theorem Admission.admitted {edge : RoutedEdge} (h : Admission edge router router')
    (hstaging : StagingInv specs router) (hinv : router.Accounted) : Admitted edge router' := by
  cases h with
  | plain hkind =>
      refine ⟨fun hfailed => (hinv hfailed).staged, fun hfailed => ?_⟩
      rw [if_neg hkind]
      exact (hinv hfailed).async
  | room hkind _ | nothing hkind _ _ _ _ =>
      refine ⟨fun hfailed => (hinv hfailed).staged, fun hfailed => ?_⟩
      rw [if_pos hkind]
      exact congrArg (· + 1) (hinv hfailed).async
  | @dropped dropped hkind _ hdrops =>
      -- the overwrite counter takes over what the drop removes
      rcases hdrops.lengths hstaging with ⟨hmetrics, himmediate, hlengths, hpending⟩
      refine ⟨fun hfailed => ?_, fun hfailed => ?_⟩
      · have hfailed : router.metrics.failedCommitCount = 0 := hmetrics ▸ hfailed
        have hstaged := (hinv hfailed).staged
        show dropped.metrics.stagedCount =
          dropped.metrics.committedCount + dropped.metrics.compositeDiscardedCount +
            (dropped.metrics.asyncAdmissionOverwriteCount + 1) + dropped.immediateStage.length +
            dropped.deferredNextEpoch.length + dropped.deferredReady.length +
            dropped.compositeExternalStage.length
        rw [hmetrics, himmediate]
        omega
      · have hfailed : router.metrics.failedCommitCount = 0 := hmetrics ▸ hfailed
        have hasync := (hinv hfailed).async
        rw [if_pos hkind]
        show dropped.metrics.asyncAdmissionAcceptedCount + 1 =
          dropped.metrics.asyncCompletionCount +
            (dropped.metrics.asyncAdmissionOverwriteCount + 1) +
            dropped.metrics.asyncCancelledCount + dropped.pendingAsyncCount + 1
        rw [hmetrics]
        omega

/-- Staging counts once in all, and once for its kind. -/
theorem countStaged_eq (metrics : RuntimePublicationRouterMetrics) (kind : EdgeKind) :
    (countStaged metrics kind).stagedCount = metrics.stagedCount + 1 ∧
      (countStaged metrics kind).committedCount = metrics.committedCount ∧
      (countStaged metrics kind).compositeDiscardedCount = metrics.compositeDiscardedCount ∧
      (countStaged metrics kind).failedCommitCount = metrics.failedCommitCount ∧
      (countStaged metrics kind).asyncAdmissionAcceptedCount =
        metrics.asyncAdmissionAcceptedCount ∧
      (countStaged metrics kind).asyncAdmissionOverwriteCount =
        metrics.asyncAdmissionOverwriteCount ∧
      (countStaged metrics kind).asyncCompletionCount = metrics.asyncCompletionCount ∧
      (countStaged metrics kind).asyncCancelledCount = metrics.asyncCancelledCount := by
  cases kind <;> exact ⟨rfl, rfl, rfl, rfl, rfl, rfl, rfl, rfl⟩

/-- With the staging of what was admitted the accounts are even again. -/
theorem Admitted.stage {edge : RoutedEdge} (h : Admitted edge router) (publish : Publish) :
    (router.stage edge (publicationFor publish edge)).Accounted := by
  rcases countStaged_eq router.metrics edge.kind with
    ⟨hstaged, hcommitted, hdiscarded, hfailed, haccepted, hoverwrite, hcompletion, hcancelled⟩
  have hcount := h.staged
  have hasync := h.async
  simp only [pendingAsyncCount_eq] at hasync
  unfold RuntimePublicationRouter.stage
  -- one of the three lists grows by one, with the count of what was staged
  split_ifs with hleaves himmediate
  · -- the publication leaves the active composite region
    refine fun hzero => ⟨?_, ?_⟩
    · simp only [hstaged, hcommitted, hdiscarded, hoverwrite, List.length_append,
        List.length_singleton]
      have := hcount (hfailed ▸ hzero)
      omega
    · simp only [pendingAsyncCount_eq, haccepted, hoverwrite, hcompletion, hcancelled,
        List.countP_append, List.countP_singleton]
      have := hasync (hfailed ▸ hzero)
      simp only [decide_eq_true_eq]
      omega
  · refine fun hzero => ⟨?_, ?_⟩
    · simp only [hstaged, hcommitted, hdiscarded, hoverwrite, List.length_append,
        List.length_singleton]
      have := hcount (hfailed ▸ hzero)
      omega
    · simp only [pendingAsyncCount_eq, haccepted, hoverwrite, hcompletion, hcancelled]
      have := hasync (hfailed ▸ hzero)
      simpa [himmediate] using this
  · refine fun hzero => ⟨?_, ?_⟩
    · simp only [hstaged, hcommitted, hdiscarded, hoverwrite, List.length_append,
        List.length_singleton]
      have := hcount (hfailed ▸ hzero)
      omega
    · simp only [pendingAsyncCount_eq, haccepted, hoverwrite, hcompletion, hcancelled,
        List.countP_append, List.countP_singleton, publicationFor]
      have := hasync (hfailed ▸ hzero)
      simp only [decide_eq_true_eq]
      omega

/-- A refusal counts on the one side only where it does on the other. -/
theorem Refused.accounted (h : Refused router router') (hinv : router.Accounted) :
    router'.Accounted := by
  refine fun hfailed => ⟨?_, ?_⟩
  · rw [h.staged, h.committed, h.discarded, h.overwrite, h.immediate, h.next, h.ready, h.composite]
    exact (hinv (h.failed ▸ hfailed)).staged
  · rw [pendingAsyncCount_eq, h.accepted, h.completion, h.overwrite, h.cancelled, h.next, h.ready,
      h.composite, ← pendingAsyncCount_eq]
    exact (hinv (h.failed ▸ hfailed)).async

/-! ## Commit points -/

section

variable {clock : Nat → Int} {call : RouterCall} {publications : List RuntimeChannelPublication}

/-- A commit that does not fail moves its batch into the committed counter. -/
theorem Commits.counts {accepted : Bool}
    (h : Commits clock call publications router accepted router')
    (hfailed : router'.metrics.failedCommitCount = 0) :
    accepted = true ∧ router.metrics.failedCommitCount = 0 ∧
      router'.metrics.committedCount = router.metrics.committedCount + publications.length ∧
      router'.metrics.stagedCount = router.metrics.stagedCount ∧
      router'.metrics.compositeDiscardedCount = router.metrics.compositeDiscardedCount ∧
      router'.metrics.asyncAdmissionAcceptedCount = router.metrics.asyncAdmissionAcceptedCount ∧
      router'.metrics.asyncAdmissionOverwriteCount = router.metrics.asyncAdmissionOverwriteCount ∧
      router'.metrics.asyncCompletionCount = router.metrics.asyncCompletionCount ∧
      router'.metrics.asyncCancelledCount = router.metrics.asyncCancelledCount := by
  cases h with
  | empty hempty => exact ⟨rfl, hfailed, by simp [hempty], rfl, rfl, rfl, rfl, rfl, rfl⟩
  | noBus _ | rejected _ _ => simp at hfailed
  | accepted _ _ => exact ⟨rfl, hfailed, rfl, rfl, rfl, rfl, rfl, rfl, rfl⟩

/-- The trace is not counted. -/
theorem Accounted.close (h : router.Accounted) (call : RouterCall) :
    (router.close call).Accounted := by
  intro hfailed
  rcases h hfailed with ⟨hstaged, hasync⟩
  exact ⟨hstaged, hasync⟩

/-- What leaves the immediate list is counted as committed. -/
theorem commitImmediate_accounted (hinv : router.Accounted) :
    (router.commitImmediate clock).2.Accounted := by
  have hcommits := commitBatch_commits clock { router with immediateStage := [] } .commitImmediate
    router.immediateStage
  rcases hcommits.lists with ⟨hcomposite, himmediate, hnext, hready, _, _⟩
  refine Accounted.close ?_ _
  intro hfailed
  rcases hcommits.counts hfailed with
    ⟨_, hzero, hcommitted, hstaged, hdiscarded, haccepted, hoverwrite, hcompletion, hcancelled⟩
  rcases hinv hzero with ⟨hbalance, hasync⟩
  rw [pendingAsyncCount_eq] at hasync
  refine ⟨?_, ?_⟩
  · rw [hstaged, hcommitted, hdiscarded, hoverwrite, himmediate, hnext, hready, hcomposite]
    simp only [List.length_nil]
    omega
  · rw [pendingAsyncCount_eq]
    rw [haccepted, hcompletion, hoverwrite, hcancelled, hnext, hready, hcomposite]
    exact hasync

/-- What was ready is counted as committed and its async part as completed. -/
theorem beginEpoch_accounted (hinv : router.Accounted) :
    (router.beginEpoch clock).2.Accounted := by
  have hcommits := commitBatch_commits clock
    { router with
      channels := router.channels.map RuntimeChannelBus.advanceEpoch
      deferredReady := [] } .beginEpoch router.deferredReady
  rcases hcommits.lists with ⟨hcomposite, himmediate, hnext, hready, _, _⟩
  refine Accounted.close ?_ _
  generalize commitBatch clock _ RouterCall.beginEpoch router.deferredReady = result at *
  rcases result.2.completeAsync_eq result.1.accepted (router.deferredReady.countP
    fun p : RuntimeChannelPublication => decide (p.kind = .async)) with ⟨inFlight, heq⟩
  rw [heq]
  intro hfailed
  rcases hcommits.counts hfailed with
    ⟨haccept, hzero, hcommitted, hstaged, hdiscarded, haccepted, hoverwrite, hcompletion,
      hcancelled⟩
  rcases hinv hzero with ⟨hbalance, hasync⟩
  rw [pendingAsyncCount_eq] at hasync
  refine ⟨?_, ?_⟩
  · dsimp only
    rw [hstaged, hcommitted, hdiscarded, hoverwrite, himmediate, hnext, hready, hcomposite]
    simp only [List.length_nil]
    omega
  · -- what became visible moves from pending to completed
    rw [pendingAsyncCount_eq]
    dsimp only
    rw [haccepted, hcompletion, hoverwrite, hcancelled, hnext, hready, hcomposite, if_pos haccept]
    simp only [List.countP_nil]
    omega

/-- Publications change their list and nothing is counted. -/
theorem endEpoch_accounted (hinv : router.Accounted) :
    router.endEpoch.Accounted := by
  intro hfailed
  rcases hinv hfailed with ⟨hbalance, hasync⟩
  rw [pendingAsyncCount_eq] at hasync
  refine ⟨?_, ?_⟩
  · simp only [endEpoch, close, List.length_append, List.length_nil]
    omega
  · simp only [endEpoch, close, pendingAsyncCount_eq, List.countP_append, List.countP_nil]
    omega

/-- What is handed over is counted as committed, and what is deferred stays in flight. -/
theorem commitCompositeRegionOutputs_accounted (hstaging : StagingInv specs router)
    (hinv : router.Accounted) :
    (router.commitCompositeRegionOutputs clock).2.Accounted := by
  unfold commitCompositeRegionOutputs
  refine Accounted.close ?_ _
  generalize himm : (router.compositeExternalStage.filter fun staged =>
    decide (staged.kind = .immediate)) = immediate
  generalize hdef : (router.compositeExternalStage.filter fun staged =>
    !decide (staged.kind = .immediate)) = deferred
  -- the stage splits into the immediate batch and the deferred rest
  have hlength : immediate.length + deferred.length = router.compositeExternalStage.length := by
    rw [← himm, ← hdef, ← List.countP_eq_length_filter, ← List.countP_eq_length_filter,
      List.length_eq_countP_add_countP fun staged : StagedRoutedPublication =>
        decide (staged.kind = .immediate)]
    simp
  have hcount : (deferred.map StagedRoutedPublication.publication).countP
      (fun p => decide (p.kind = .async)) =
        router.compositeExternalStage.countP fun s => decide (s.kind = .async) := by
    rw [List.countP_map, ← hdef, List.countP_filter]
    refine List.countP_congr fun staged hmem => ?_
    simp only [Function.comp_apply, ← hstaging.composite staged hmem]
    cases staged.kind <;> simp
  have hcommits := commitBatch_commits clock
    { router with
      deferredNextEpoch :=
        router.deferredNextEpoch ++ deferred.map StagedRoutedPublication.publication
      compositeExternalStage := []
      activeCompositeComponents := [] } .commitComposite
    (immediate.map StagedRoutedPublication.publication)
  rcases hcommits.lists with ⟨hcomposite, himmediate, hnext, hready, _, _⟩
  generalize commitBatch clock _ RouterCall.commitComposite _ = result at *
  intro hfailed
  rcases hcommits.counts hfailed with
    ⟨_, hzero, hcommitted, hstaged, hdiscarded, haccepted, hoverwrite, hcompletion, hcancelled⟩
  rcases hinv hzero with ⟨hbalance, hasync⟩
  rw [pendingAsyncCount_eq] at hasync
  refine ⟨?_, ?_⟩
  · rw [hstaged, hcommitted, hdiscarded, hoverwrite, himmediate, hnext, hready, hcomposite]
    simp only [List.length_nil, List.length_append, List.length_map]
    omega
  · rw [pendingAsyncCount_eq]
    rw [haccepted, hcompletion, hoverwrite, hcancelled, hnext, hready, hcomposite]
    simp only [List.countP_append, List.countP_nil, hcount]
    omega

/-- What is discarded is counted so, and its async part as cancelled. -/
theorem discardCompositeRegionOutputs_accounted (hinv : router.Accounted) :
    router.discardCompositeRegionOutputs.Accounted := by
  refine Accounted.close ?_ _
  rcases cancelAsync_eq
    { router with
      metrics.compositeDiscardedCount :=
        router.metrics.compositeDiscardedCount + router.compositeExternalStage.length
      compositeExternalStage := []
      activeCompositeComponents := []
      trace := router.trace ++
        tagEvents .discarded
          (router.compositeExternalStage.map StagedRoutedPublication.publication) }
    (router.compositeExternalStage.countP fun staged : StagedRoutedPublication =>
      decide (staged.kind = .async)) with ⟨inFlight, heq⟩
  dsimp only
  rw [heq]
  intro hfailed
  rcases hinv hfailed with ⟨hbalance, hasync⟩
  rw [pendingAsyncCount_eq] at hasync
  refine ⟨?_, ?_⟩
  · simp only [List.length_nil]
    omega
  · simp only [pendingAsyncCount_eq, List.countP_nil]
    omega

/-- Nothing is lost where no output was left behind. -/
theorem beginCompositeRegion_accounted (hinv : router.Accounted)
    (hstage : router.compositeExternalStage = []) (components : List String) :
    (router.beginCompositeRegion components).Accounted := by
  unfold beginCompositeRegion close
  intro hfailed
  rcases hinv hfailed with ⟨hbalance, hasync⟩
  rw [pendingAsyncCount_eq] at hasync
  rw [hstage] at hbalance hasync
  exact ⟨hbalance, by rw [pendingAsyncCount_eq]; exact hasync⟩

/-! ## Runs -/

/-- `begin_composite_region` is called only while the stage of the region before
it is empty. -/
def StageEmptyAtBegin (router : RuntimePublicationRouter) : RouterOp → Prop
  | .beginCompositeRegion _ => router.compositeExternalStage = []
  | _ => True

/-- One operation keeps the accounts. -/
theorem exec_accounted (op : RouterOp) (hop : StageEmptyAtBegin router op)
    (hstaging : StagingInv specs router) (hinv : router.Accounted) :
    (op.exec clock router).Accounted := by
  cases op with
  | publish sourceEndpoint payload metadata eventTimestamp =>
      -- the loop keeps the staging invariant along with the equations
      refine (publish_invariant (P := fun r => StagingInv specs r ∧ r.Accounted)
        (fun edges publish hedges r r' edge hedge hadmission h => ?_)
        (fun r r' hrefused h => ⟨h.1.refused hrefused, hrefused.accounted h.2⟩)
        ⟨hstaging, hinv⟩).2
      rw [hstaging.sources] at hedges
      rcases mem_edgesOfSource hedges hedge with ⟨spec, hspec, _, rfl⟩
      rcases hadmission.thinned with ⟨dropped, hthinned⟩
      exact ⟨(h.1.thinned hthinned).stage hspec publish,
        (hadmission.admitted h.1 h.2).stage publish⟩
  | beginEpoch => exact beginEpoch_accounted hinv
  | commitImmediate => exact commitImmediate_accounted hinv
  | endEpoch => exact endEpoch_accounted hinv
  | beginCompositeRegion components => exact beginCompositeRegion_accounted hinv hop components
  | commitCompositeRegionOutputs => exact commitCompositeRegionOutputs_accounted hstaging hinv
  | discardCompositeRegionOutputs => exact discardCompositeRegionOutputs_accounted hinv
  | useBus op =>
      intro hfailed
      rcases hinv hfailed with ⟨hstaged, hasync⟩
      exact ⟨hstaged, hasync⟩

theorem reachable_accounted {channels : Option RuntimeChannelBus}
    (hreach : RouterReachable clock StageEmptyAtBegin channels specs router) :
    router.Accounted := by
  induction hreach with
  | init => exact fun _ => ⟨rfl, rfl⟩
  | step op hreach hop ih => exact exec_accounted op hop (reachable_stagingInv hreach) ih

end

end RuntimePublicationRouter

open RuntimePublicationRouter

/-- The conservation laws of the router, in every state that operations reach
without a failed commit. -/
theorem router_conserves {clock : Nat → Int} {channels : Option RuntimeChannelBus}
    {specs : List EdgeSpec} {router : RuntimePublicationRouter}
    (hreach : RouterReachable clock StageEmptyAtBegin channels specs router)
    (hfailed : router.metrics.failedCommitCount = 0) :
    router.metrics.stagedCount =
        router.metrics.committedCount + router.metrics.compositeDiscardedCount +
          router.metrics.asyncAdmissionOverwriteCount + router.immediateStage.length +
          router.deferredNextEpoch.length + router.deferredReady.length +
          router.compositeExternalStage.length ∧
      router.metrics.asyncAdmissionAcceptedCount =
        router.metrics.asyncCompletionCount + router.metrics.asyncAdmissionOverwriteCount +
          router.metrics.asyncCancelledCount + router.pendingAsyncCount := by
  rcases reachable_accounted hreach hfailed with ⟨hstaged, hasync⟩
  exact ⟨hstaged, hasync⟩

/-- A sensor with one request in flight at a time; a newer request overwrites
the older one. -/
def newestRequest : List EdgeSpec :=
  [{ id := "frames", fromEndpoint := "sensor.out", toEndpoint := "viewer.in" },
   { id := "requests", fromEndpoint := "sensor.out", toEndpoint := "solver.in", kind := .async
     policy := { maxInflight := 1, overflow := "drop_oldest" } }]

/-- Two publish calls, of which the second overwrites, and an epoch boundary. -/
def newestRequestRun : RuntimePublicationRouter :=
  [RouterOp.publish "sensor.out" (some {}) {} none, .publish "sensor.out" (some {}) {} none,
    .commitImmediate, .endEpoch, .beginEpoch].foldl (RouterOp.exec fun n => n)
    (.ofEdges (some (.ofEdges newestRequest)) newestRequest)

theorem newestRequestRun_conserves :
    newestRequestRun.metrics.failedCommitCount = 0 ∧
      newestRequestRun.metrics.asyncAdmissionOverwriteCount = 1 ∧
      newestRequestRun.metrics.stagedCount = 4 ∧
      newestRequestRun.metrics.asyncAdmissionAcceptedCount =
        newestRequestRun.metrics.asyncCompletionCount +
          newestRequestRun.metrics.asyncAdmissionOverwriteCount +
          newestRequestRun.metrics.asyncCancelledCount + newestRequestRun.pendingAsyncCount := by
  have hfailed : newestRequestRun.metrics.failedCommitCount = 0 := by decide
  have hreach : RouterReachable (fun n => n) StageEmptyAtBegin (some (.ofEdges newestRequest))
      newestRequest newestRequestRun :=
    .step .beginEpoch (.step .endEpoch (.step .commitImmediate
      (.step (.publish "sensor.out" (some {}) {} none)
        (.step (.publish "sensor.out" (some {}) {} none) .init trivial) trivial) trivial) trivial)
      trivial
  exact ⟨hfailed, by decide, by decide, (router_conserves hreach hfailed).2⟩

end TopoExec
