import TopoExec.Router.FanOut

/-! # Async admission: bound and fairness

What waits for delivery in a later epoch is in three lists, and
`drop_oldest_pending_async_locked` takes the first publication of its channel in
their concatenation. That is the oldest one because of two facts about any run:
the publications of one edge are in publish order in the concatenation, and an
edge that stages outside the active composite region has nothing in the composite
stage (`LeavesInv`).
-/

namespace TopoExec

/-- The first publication was staged before the second one. -/
def PublishedBefore (p q : RuntimeChannelPublication) : Prop :=
  ∃ i j, p.tag = some i ∧ q.tag = some j ∧ i < j

namespace RuntimePublicationRouter

variable {router router' : RuntimePublicationRouter} {specs : List EdgeSpec} {clock : Nat → Int}

/-- What waits in the three lists, in the order in which they are searched. -/
def waiting (router : RuntimePublicationRouter) : List RuntimeChannelPublication :=
  router.deferredReady ++ router.deferredNextEpoch ++
    router.compositeExternalStage.map StagedRoutedPublication.publication

/-- The pending async publications of a channel. -/
def pendingOn (channelId : String) (router : RuntimePublicationRouter) :
    List RuntimeChannelPublication :=
  router.waiting.filter (isAsyncOf channelId)

/-! ## The composite stage belongs to the active region -/

/-- The publications of the composite stage are on edges that leave the active
region. -/
def LeavesInv (specs : List EdgeSpec) (router : RuntimePublicationRouter) : Prop :=
  ∀ s ∈ router.compositeExternalStage, ∃ spec ∈ specs, s.publication.id = spec.id ∧
    router.leavesComposite (.ofSpec spec) = true

/-- Fewer outputs of the same region. -/
theorem LeavesInv.of_subset (h : LeavesInv specs router)
    (hactive : router'.activeCompositeComponents = router.activeCompositeComponents)
    (hcomposite : router'.compositeExternalStage ⊆ router.compositeExternalStage) :
    LeavesInv specs router' := by
  intro s hs
  simp only [leavesComposite_congr hactive]
  exact h s (hcomposite hs)

/-- Without an output held back there is nothing to say. -/
theorem LeavesInv.of_empty (hcomposite : router.compositeExternalStage = []) :
    LeavesInv specs router := by
  intro s hs
  rw [hcomposite] at hs
  cases hs

/-- An output is held back only if its edge leaves the region. -/
theorem LeavesInv.stage (h : LeavesInv specs router) {spec : EdgeSpec} (hspec : spec ∈ specs)
    (publish : Publish) :
    LeavesInv specs (router.stage (.ofSpec spec) (publicationFor publish (.ofSpec spec))) := by
  rcases router.stage_cases (.ofSpec spec) (publicationFor publish (.ofSpec spec)) with
    ⟨hleaving, hadds⟩ | ⟨_, _, hadds⟩ | ⟨_, _, hadds⟩
  · intro s hs
    simp only [leavesComposite_congr hadds.active]
    rw [hadds.composite] at hs
    rcases List.mem_append.mp hs with hs | hs
    · exact h s hs
    · rw [List.mem_singleton.mp hs]
      exact ⟨spec, hspec, rfl, hleaving⟩
  · exact h.of_subset hadds.active (by rw [hadds.composite]; exact List.Subset.refl _)
  · exact h.of_subset hadds.active (by rw [hadds.composite]; exact List.Subset.refl _)

/-- Dropping leaves fewer outputs. -/
theorem LeavesInv.thinned {dropped : List RuntimeChannelPublication} (h : LeavesInv specs router)
    (hthinned : Thinned router router' dropped) : LeavesInv specs router' :=
  h.of_subset hthinned.active hthinned.composite.subset

theorem LeavesInv.refused (h : LeavesInv specs router) (hrefused : Refused router router') :
    LeavesInv specs router' :=
  h.of_subset hrefused.active (by rw [hrefused.composite]; exact List.Subset.refl _)

/-! ## What the operations do to the waiting publications -/

/-- No operation but publishing puts anything new into the three lists, or
changes the order in them. -/
theorem Moves.waiting_eq {immediate next ready : List RuntimeChannelPublication}
    {composite : List StagedRoutedPublication} {active : List String} {events : List TraceEvent}
    (h : Moves router router' immediate next ready composite active events) :
    router'.waiting = ready ++ next ++ composite.map StagedRoutedPublication.publication := by
  unfold waiting
  rw [h.ready, h.next, h.composite]

/-- What is refused does not wait. -/
theorem Refused.waiting (h : Refused router router') : router'.waiting = router.waiting := by
  unfold RuntimePublicationRouter.waiting
  rw [h.ready, h.next, h.composite]

/-- A drop takes the first publication of the channel out. -/
theorem Drops.waiting {channelId : String} (h : Drops channelId router router') :
    ∃ before dropped after, router.waiting = before ++ dropped :: after ∧
      router'.waiting = before ++ after ∧ isAsyncOf channelId dropped = true ∧
      ∀ p ∈ before, isAsyncOf channelId p = false := by
  unfold RuntimePublicationRouter.waiting
  -- the lists are searched in the order of `waiting`, and the earlier ones hold none of the channel
  cases h with
  | @ready before after dropped hlist hdropped hfirst =>
      refine ⟨before, dropped, after ++ router.deferredNextEpoch ++
        router.compositeExternalStage.map StagedRoutedPublication.publication, ?_, ?_, hdropped,
        hfirst⟩
      · rw [hlist]
        simp
      · simp
  | @next before after dropped hready hlist hdropped hfirst =>
      refine ⟨router.deferredReady ++ before, dropped, after ++
        router.compositeExternalStage.map StagedRoutedPublication.publication, ?_, ?_, hdropped,
        ?_⟩
      · rw [hlist]
        simp
      · simp
      · intro p hp
        rcases List.mem_append.mp hp with hp | hp
        · exact hready p hp
        · exact hfirst p hp
  | @composite before after dropped hready hnext hlist hdropped hfirst =>
      refine ⟨router.deferredReady ++ router.deferredNextEpoch ++
        before.map StagedRoutedPublication.publication, dropped.publication,
        after.map StagedRoutedPublication.publication, ?_, ?_, hdropped, ?_⟩
      · rw [hlist]
        simp
      · simp
      · intro p hp
        simp only [List.mem_append, List.mem_map] at hp
        rcases hp with (hp | hp) | ⟨s, hs, rfl⟩
        · exact hready p hp
        · exact hnext p hp
        · exact hfirst s hs

/-- What an overwriting admission does: the first pending publication of the
channel goes and everything else stays in its place. -/
structure DropsFirst (channelId : String) (router router' : RuntimePublicationRouter) : Prop where
  channel : pendingOn channelId router' = (pendingOn channelId router).tail
  rest : router'.waiting.filter (fun p => !isAsyncOf channelId p) =
    router.waiting.filter fun p => !isAsyncOf channelId p
  immediate : router'.immediateStage = router.immediateStage

/-- The publication dropped is the first that is pending on the channel. -/
theorem Drops.dropsFirst {channelId : String} (h : Drops channelId router router') :
    DropsFirst channelId router router' := by
  rcases h.waiting with ⟨before, dropped, after, hold, hnew, hdropped, hbefore⟩
  have hnone : before.filter (isAsyncOf channelId) = [] := by
    rw [List.filter_eq_nil_iff]
    intro p hp
    simp [hbefore p hp]
  refine ⟨?_, ?_, by cases h <;> rfl⟩
  · simp [pendingOn, hold, hnew, hnone, hdropped]
  · simp [hold, hnew, hdropped]

/-- The other channels keep all that they have pending. -/
theorem DropsFirst.others {channelId other : String} (h : DropsFirst channelId router router')
    (hne : other ≠ channelId) : pendingOn other router' = pendingOn other router := by
  have hfilter : ∀ l : List RuntimeChannelPublication, l.filter (isAsyncOf other) =
      (l.filter fun p => !isAsyncOf channelId p).filter (isAsyncOf other) := by
    intro l
    rw [List.filter_filter]
    refine List.filter_congr fun p _ => ?_
    by_cases hid : p.id = other
    · simp [isAsyncOf, hid, hne]
    · simp [isAsyncOf, hid]
  unfold pendingOn
  rw [hfilter router'.waiting, h.rest, ← hfilter]

/-! ## Order and bound -/

/-- No two edges of the specification share this id. -/
def OneEdge (specs : List EdgeSpec) (channelId : String) : Prop :=
  ∀ spec ∈ specs, ∀ spec' ∈ specs, spec.id = channelId → spec'.id = channelId → spec = spec'

/-- The waiting publications of a channel. -/
def waitingOn (channelId : String) (router : RuntimePublicationRouter) :
    List RuntimeChannelPublication :=
  router.waiting.filter fun p => p.id = channelId

/-- What is pending on a channel is the async part of what waits on it. -/
theorem pendingOn_eq (channelId : String) (router : RuntimePublicationRouter) :
    pendingOn channelId router = (waitingOn channelId router).filter fun p => p.kind = .async := by
  unfold pendingOn waitingOn
  rw [List.filter_filter]
  rfl

structure AdmissionInv (specs : List EdgeSpec) (router : RuntimePublicationRouter) : Prop where
  staging : StagingInv specs router
  leaves : LeavesInv specs router
  sorted : ∀ channelId, OneEdge specs channelId →
    (waitingOn channelId router).Pairwise PublishedBefore
  bounded : ∀ spec ∈ specs, OneEdge specs spec.id → 0 < spec.policy.maxInflight →
    spec.kind = .async → ((pendingOn spec.id router).length : Int) ≤ spec.policy.maxInflight

/-- With fewer publications waiting in the same order the bounds hold still. -/
theorem AdmissionInv.of_sublist (h : AdmissionInv specs router)
    (hstaging : StagingInv specs router') (hleaves : LeavesInv specs router')
    (hsub : router'.waiting.Sublist router.waiting) : AdmissionInv specs router' := by
  refine ⟨hstaging, hleaves, fun channelId hone => ?_, fun spec hspec hone hmax hkind => ?_⟩
  · exact (h.sorted channelId hone).sublist (hsub.filter _)
  · have hlength := (hsub.filter (isAsyncOf spec.id)).length_le
    have hbound := h.bounded spec hspec hone hmax hkind
    unfold pendingOn at hbound ⊢
    omega

/-- Staging puts the new publication behind the others of its channel. -/
theorem stage_waitingOn (hleaves : LeavesInv specs router) {spec : EdgeSpec}
    (hspec : spec ∈ specs) {channelId : String} (hone : OneEdge specs channelId)
    (publish : Publish) :
    waitingOn channelId (router.stage (.ofSpec spec) (publicationFor publish (.ofSpec spec))) =
        waitingOn channelId router ∨
      (spec.id = channelId ∧
        waitingOn channelId (router.stage (.ofSpec spec) (publicationFor publish (.ofSpec spec))) =
          waitingOn channelId router ++
            [router.numbered (publicationFor publish (.ofSpec spec))]) := by
  have hid : (router.numbered (publicationFor publish (.ofSpec spec))).id = spec.id := rfl
  unfold waitingOn waiting
  rcases router.stage_cases (.ofSpec spec) (publicationFor publish (.ofSpec spec)) with
    ⟨_, hadds⟩ | ⟨_, _, hadds⟩ | ⟨hstaying, _, hadds⟩
  all_goals rw [hadds.ready, hadds.next, hadds.composite]
  · by_cases hsame : spec.id = channelId
    · right
      refine ⟨hsame, ?_⟩
      simp [hid, hsame]
    · left
      simp [hid, hsame]
  · exact Or.inl rfl
  · by_cases hsame : spec.id = channelId
    · right
      refine ⟨hsame, ?_⟩
      -- the edge stays in the region, so the stage has nothing of its channel
      have hnone : (router.compositeExternalStage.map StagedRoutedPublication.publication).filter
          (fun p => decide (p.id = channelId)) = [] := by
        rw [List.filter_eq_nil_iff]
        intro p hp hpid
        rcases List.mem_map.mp hp with ⟨s, hs, rfl⟩
        rcases hleaves s hs with ⟨spec', hspec', hsid, hleaving⟩
        have hspecs : spec' = spec :=
          hone spec' hspec' spec hspec (hsid.symm.trans (of_decide_eq_true hpid)) hsame
        rw [hspecs, hstaying] at hleaving
        cases hleaving
      simp only [List.filter_append, hnone]
      simp [hid, hsame]
    · left
      simp [hid, hsame]

/-- One publication more, where the admission has left room for it. -/
theorem AdmissionInv.stage (h : AdmissionInv specs router) {spec : EdgeSpec} (hspec : spec ∈ specs)
    (hroom : OneEdge specs spec.id → 0 < spec.policy.maxInflight → spec.kind = .async →
      ((pendingOn spec.id router).length : Int) < spec.policy.maxInflight) (publish : Publish) :
    AdmissionInv specs (router.stage (.ofSpec spec) (publicationFor publish (.ofSpec spec))) := by
  refine ⟨h.staging.stage hspec publish, h.leaves.stage hspec publish, fun channelId hone => ?_,
    fun spec' hspec' hone hmax hkind => ?_⟩
  · rcases stage_waitingOn h.leaves hspec hone publish with heq | ⟨_, heq⟩
    · rw [heq]
      exact h.sorted channelId hone
    · rw [heq, List.pairwise_append]
      refine ⟨h.sorted channelId hone, List.pairwise_singleton _ _, fun p hp q hq => ?_⟩
      -- the new number is above every number in use
      have hheld : p ∈ router.held := by
        have hp := List.mem_of_mem_filter hp
        unfold waiting at hp
        rw [mem_held]
        simp only [List.mem_append, List.mem_map] at hp
        tauto
      rcases (h.staging.numbered p hheld).tag with ⟨i, hi, hlt⟩
      rw [List.mem_singleton.mp hq]
      exact ⟨i, router.metrics.stagedCount, hi, rfl, hlt⟩
  · have hbound := h.bounded spec' hspec' hone hmax hkind
    rcases stage_waitingOn h.leaves hspec hone publish with heq | ⟨hid, heq⟩
    · rw [pendingOn_eq, heq, ← pendingOn_eq]
      exact hbound
    · have hsame : spec = spec' := hone spec hspec spec' hspec' hid rfl
      subst hsame
      have hlt := hroom hone hmax hkind
      rw [pendingOn_eq, heq, List.filter_append, ← pendingOn_eq, List.length_append]
      have hlast := List.length_filter_le (fun p : RuntimeChannelPublication =>
        decide (p.kind = .async)) [router.numbered (publicationFor publish (.ofSpec spec))]
      rw [List.length_singleton] at hlast
      omega

/-- What is pending in publish order is what the router counts. -/
theorem length_pendingOn_le (hstaging : StagingInv specs router) (channelId : String) :
    (pendingOn channelId router).length ≤ router.pendingAsyncCount channelId := by
  unfold pendingOn waiting pendingAsyncCount
  rw [← List.countP_eq_length_filter, List.countP_append, List.countP_append, List.countP_map]
  have hweaker : ∀ p : RuntimeChannelPublication, isAsyncOf channelId p = true →
      isPendingAsync channelId p = true := by
    intro p hp
    rcases isAsyncOf_iff.mp hp with ⟨hkind, hid⟩
    simp [isPendingAsync, hkind, hid]
  have hready := List.countP_mono_left (l := router.deferredReady) fun p _ => hweaker p
  have hnext := List.countP_mono_left (l := router.deferredNextEpoch) fun p _ => hweaker p
  have hcomposite : router.compositeExternalStage.countP
        (isAsyncOf channelId ∘ StagedRoutedPublication.publication) ≤
      router.compositeExternalStage.countP fun staged =>
        staged.kind = .async && (channelId = "" || staged.publication.id = channelId) := by
    refine List.countP_mono_left fun s hs hasync => ?_
    rcases isAsyncOf_iff.mp hasync with ⟨hkind, hid⟩
    simp [hstaging.composite s hs, hkind, hid]
  omega

theorem Thinned.waiting {dropped : List RuntimeChannelPublication}
    (h : Thinned router router' dropped) : router'.waiting.Sublist router.waiting :=
  (h.ready.append h.next).append (h.composite.map _)

/-- Nothing to drop means that nothing is pending. -/
theorem pendingOn_eq_nil {channelId : String}
    (hready : ∀ p ∈ router.deferredReady, isAsyncOf channelId p = false)
    (hnext : ∀ p ∈ router.deferredNextEpoch, isAsyncOf channelId p = false)
    (hstage : ∀ p ∈ router.compositeExternalStage, isAsyncOf channelId p.publication = false) :
    pendingOn channelId router = [] := by
  unfold pendingOn waiting
  rw [List.filter_eq_nil_iff]
  intro p hp
  simp only [List.mem_append, List.mem_map] at hp
  rcases hp with (hp | hp) | ⟨s, hs, rfl⟩
  · simp [hready p hp]
  · simp [hnext p hp]
  · simp [hstage s hs]

/-- After an admission the channel has room for the publication. -/
theorem Admission.room_left {spec : EdgeSpec} (h : Admission (.ofSpec spec) router router')
    (hinv : AdmissionInv specs router) (hspec : spec ∈ specs) (hone : OneEdge specs spec.id)
    (hmax : 0 < spec.policy.maxInflight) (hkind : spec.kind = .async) :
    ((pendingOn spec.id router').length : Int) < spec.policy.maxInflight := by
  cases h with
  | plain hplain => exact absurd hkind hplain
  | room _ hroom =>
      have hle := length_pendingOn_le hinv.staging spec.id
      have hlt : (router.pendingAsyncCount spec.id : Int) < spec.policy.maxInflight := by
        simp only [RoutedEdge.full, RoutedEdge.ofSpec, hmax, decide_true, Bool.true_and] at hroom
        have hnot := of_decide_eq_false hroom
        omega
      show ((pendingOn spec.id router).length : Int) < spec.policy.maxInflight
      omega
  | @dropped router' _ _ hdrops =>
      have htail := congrArg List.length hdrops.dropsFirst.channel
      have hbound := hinv.bounded spec hspec hone hmax hkind
      rw [List.length_tail] at htail
      change (pendingOn spec.id router').length = (pendingOn spec.id router).length - 1 at htail
      show ((pendingOn spec.id router').length : Int) < spec.policy.maxInflight
      omega
  | nothing _ _ hready hnext hstage =>
      have hempty := congrArg List.length (pendingOn_eq_nil hready hnext hstage)
      show ((pendingOn spec.id router).length : Int) < spec.policy.maxInflight
      change (pendingOn spec.id router).length = 0 at hempty
      omega

/-- An admission leaves room on its channel, by its bound or by dropping the first. -/
theorem AdmissionInv.admission (h : AdmissionInv specs router) {spec : EdgeSpec}
    (hspec : spec ∈ specs) (hadmission : Admission (.ofSpec spec) router router')
    (publish : Publish) :
    AdmissionInv specs (router'.stage (.ofSpec spec) (publicationFor publish (.ofSpec spec))) := by
  rcases hadmission.thinned with ⟨dropped, hthinned⟩
  have hinv := h.of_sublist (h.staging.thinned hthinned) (h.leaves.thinned hthinned)
    hthinned.waiting
  exact hinv.stage hspec (hadmission.room_left h hspec) publish

theorem AdmissionInv.refused (h : AdmissionInv specs router) (hrefused : Refused router router') :
    AdmissionInv specs router' :=
  h.of_sublist (h.staging.refused hrefused) (h.leaves.refused hrefused)
    (hrefused.waiting ▸ List.Sublist.refl _)

/-- Edge by edge the bounds hold, also where a later edge refuses. -/
theorem AdmissionInv.publishEdges (h : AdmissionInv specs router) (publish : Publish)
    {edges : List RoutedEdge} (hedges : ∀ edge ∈ edges, ∃ spec ∈ specs, edge = .ofSpec spec) :
    AdmissionInv specs (publishEdges publish edges router).2 := by
  refine publishEdges_invariant (fun r r' edge hedge hadmission hr => ?_)
    (fun r r' hrefused hr => hr.refused hrefused) h
  rcases hedges edge hedge with ⟨spec, hspec, rfl⟩
  exact hr.admission hspec hadmission publish

/-- A publish keeps every channel within its bound. -/
theorem AdmissionInv.publish (h : AdmissionInv specs router) (sourceEndpoint : String)
    (payload : Option RuntimePayload) (metadata : InvocationMetadata)
    (eventTimestamp : Option EventTimestamp) :
    AdmissionInv specs
      (router.publishSharedFromWithMetadata sourceEndpoint payload metadata eventTimestamp).2 := by
  refine publish_invariant (fun edges publish hedges r r' edge hedge hadmission hr => ?_)
    (fun r r' hrefused hr => hr.refused hrefused) h
  rw [h.staging.sources] at hedges
  rcases mem_edgesOfSource hedges hedge with ⟨spec, hspec, _, rfl⟩
  exact hr.admission hspec hadmission publish

theorem LeavesInv.exec (h : LeavesInv specs router) (hstaging : StagingInv specs router)
    (op : RouterOp) : LeavesInv specs (op.exec clock router) := by
  cases op with
  | publish sourceEndpoint payload metadata eventTimestamp =>
      refine publish_invariant (fun edges publish hedges r r' edge hedge hadmission hr => ?_)
        (fun r r' hrefused hr => hr.refused hrefused) h
      rw [hstaging.sources] at hedges
      rcases mem_edgesOfSource hedges hedge with ⟨spec, hspec, _, rfl⟩
      rcases hadmission.thinned with ⟨dropped, hthinned⟩
      exact (hr.thinned hthinned).stage hspec publish
  | beginEpoch =>
      rcases router.beginEpoch_moves clock with ⟨events, _, hmoves⟩
      exact h.of_subset hmoves.active (by rw [← hmoves.composite]; exact List.Subset.refl _)
  | commitImmediate =>
      rcases router.commitImmediate_moves clock with ⟨events, _, hmoves⟩
      exact h.of_subset hmoves.active (by rw [← hmoves.composite]; exact List.Subset.refl _)
  | endEpoch => exact h.of_subset rfl (List.Subset.refl _)
  | beginCompositeRegion components =>
      exact .of_empty (router.beginCompositeRegion_moves components).composite
  | commitCompositeRegionOutputs =>
      rcases router.commitCompositeRegionOutputs_moves clock with ⟨events, _, hmoves⟩
      exact .of_empty hmoves.composite
  | discardCompositeRegionOutputs =>
      exact .of_empty router.discardCompositeRegionOutputs_moves.composite
  | useBus op => exact h.of_subset rfl (List.Subset.refl _)

/-- No operation puts more in flight than the edges allow. -/
theorem AdmissionInv.exec (h : AdmissionInv specs router) (op : RouterOp) :
    AdmissionInv specs (op.exec clock router) := by
  have hkeep : (op.exec clock router).waiting.Sublist router.waiting →
      AdmissionInv specs (op.exec clock router) :=
    h.of_sublist (h.staging.exec op) (h.leaves.exec h.staging op)
  cases op with
  | publish sourceEndpoint payload metadata eventTimestamp =>
      exact h.publish sourceEndpoint payload metadata eventTimestamp
  | beginEpoch =>
      rcases router.beginEpoch_moves clock with ⟨events, _, hmoves⟩
      refine hkeep ?_
      show List.Sublist (waiting (router.beginEpoch clock).2) _
      rw [hmoves.waiting_eq]
      exact ((List.nil_sublist _).append (List.Sublist.refl _)).append (List.Sublist.refl _)
  | commitImmediate =>
      rcases router.commitImmediate_moves clock with ⟨events, _, hmoves⟩
      refine hkeep ?_
      show List.Sublist (waiting (router.commitImmediate clock).2) _
      rw [hmoves.waiting_eq]
      exact List.Sublist.refl _
  | endEpoch =>
      refine hkeep ?_
      show List.Sublist (waiting router.endEpoch) _
      rw [router.endEpoch_moves.waiting_eq, List.append_nil]
      exact List.Sublist.refl _
  | beginCompositeRegion components =>
      refine hkeep ?_
      show List.Sublist (waiting (router.beginCompositeRegion components)) _
      rw [(router.beginCompositeRegion_moves components).waiting_eq]
      exact (List.Sublist.refl _).append (List.nil_sublist _)
  | commitCompositeRegionOutputs =>
      rcases router.commitCompositeRegionOutputs_moves clock with ⟨events, _, hmoves⟩
      refine hkeep ?_
      show List.Sublist (waiting (router.commitCompositeRegionOutputs clock).2) _
      rw [hmoves.waiting_eq, List.map_nil, List.append_nil, ← List.append_assoc]
      -- the deferred part of the stage moves to the end of the next list
      exact (List.Sublist.refl _).append (List.filter_sublist.map _)
  | discardCompositeRegionOutputs =>
      refine hkeep ?_
      show List.Sublist (waiting router.discardCompositeRegionOutputs) _
      rw [router.discardCompositeRegionOutputs_moves.waiting_eq]
      exact (List.Sublist.refl _).append (List.nil_sublist _)
  | useBus op => exact hkeep (List.Sublist.refl _)

theorem reachable_admissionInv {allowed : RuntimePublicationRouter → RouterOp → Prop}
    {channels : Option RuntimeChannelBus}
    (hreach : RouterReachable clock allowed channels specs router) :
    AdmissionInv specs router := by
  induction hreach with
  | init =>
      refine ⟨ofEdges_stagingInv channels specs, .of_empty rfl, fun _ _ => List.Pairwise.nil, ?_⟩
      intro spec _ _ hmax _
      exact le_of_lt hmax
  | step op _ _ ih => exact ih.exec op

/-- A full edge that overwrites drops the first pending publication of its
channel. -/
theorem admitAsync_dropsFirst {edge : RoutedEdge} (hkind : edge.kind = .async)
    (hfull : edge.full (router.pendingAsyncCount edge.channelId) = true)
    (hover : edge.overwrites = true) :
    (router.admitAsync edge).1.accepted = true ∧
      DropsFirst edge.channelId router (router.admitAsync edge).2 := by
  rcases router.admitAsync_cases edge with ⟨haccepted, _, hadmission⟩ | ⟨_, hrefuses, _⟩
  · refine ⟨haccepted, ?_⟩
    generalize (router.admitAsync edge).2 = router' at hadmission
    cases hadmission with
    | plain hplain => exact absurd hkind hplain
    | room _ hroom =>
        rw [hroom] at hfull
        cases hfull
    | dropped _ _ hdrops =>
        exact ⟨hdrops.dropsFirst.channel, hdrops.dropsFirst.rest, hdrops.dropsFirst.immediate⟩
    | nothing _ _ hready hnext hstage =>
        refine ⟨?_, rfl, rfl⟩
        show pendingOn edge.channelId router = _
        rw [pendingOn_eq_nil hready hnext hstage]
        rfl
  · simp [refuses, hover] at hrefuses

end RuntimePublicationRouter

open RuntimePublicationRouter

/-- Async admission in every state that router operations reach, on edges with
distinct ids: a bounded async channel never has more publications pending than its
bound, the pending ones are in publish order, and an overwriting admission, in
whatever state the loop over the edges has brought the router to, drops the
earliest of its channel and nothing else. -/
theorem async_admission_fair {clock : Nat → Int}
    {allowed : RuntimePublicationRouter → RouterOp → Prop} {channels : Option RuntimeChannelBus}
    {specs : List EdgeSpec} {router : RuntimePublicationRouter}
    (hreach : RouterReachable clock allowed channels specs router)
    (hdistinct : (specs.map EdgeSpec.id).Nodup) :
    (∀ spec ∈ specs, spec.kind = .async →
      (0 < spec.policy.maxInflight →
          ((pendingOn spec.id router).length : Int) ≤ spec.policy.maxInflight) ∧
        (pendingOn spec.id router).Pairwise PublishedBefore) ∧
      ∀ (publish : Publish) (before after : List RoutedEdge) (edge : RoutedEdge),
        router.sourceToEdges publish.sourceEndpoint = some (before ++ edge :: after) →
        (publishEdges publish before router).1.accepted = true →
        let current := (publishEdges publish before router).2
        edge.kind = .async → edge.full (current.pendingAsyncCount edge.channelId) = true →
        edge.overwrites = true →
          (current.admitAsync edge).1.accepted = true ∧
            DropsFirst edge.channelId current (current.admitAsync edge).2 ∧
            (∀ other, other ≠ edge.channelId →
              pendingOn other (current.admitAsync edge).2 = pendingOn other current) ∧
            ∀ dropped rest, pendingOn edge.channelId current = dropped :: rest →
              ∀ p ∈ rest, PublishedBefore dropped p := by
  have hone : ∀ channelId, OneEdge specs channelId := by
    intro channelId spec hspec spec' hspec' hid hid'
    exact List.inj_on_of_nodup_map hdistinct hspec hspec' (hid.trans hid'.symm)
  have hinv := reachable_admissionInv hreach
  -- with distinct ids the publications of a channel wait in the order of their numbers
  have hsorted : ∀ {r : RuntimePublicationRouter}, AdmissionInv specs r → ∀ channelId,
      (pendingOn channelId r).Pairwise PublishedBefore := by
    intro r hr channelId
    rw [pendingOn_eq]
    exact (hr.sorted channelId (hone channelId)).sublist List.filter_sublist
  constructor
  · intro spec hspec hkind
    exact ⟨fun hmax => hinv.bounded spec hspec (hone _) hmax hkind, hsorted hinv _⟩
  · intro publish before after edge hedges _ current hkind hfull hover
    rw [hinv.staging.sources] at hedges
    have hspecs : ∀ e ∈ before, ∃ spec ∈ specs, e = .ofSpec spec := by
      intro e he
      rcases mem_edgesOfSource hedges (List.mem_append_left _ he) with ⟨spec, hspec, _, heq⟩
      exact ⟨spec, hspec, heq⟩
    rcases admitAsync_dropsFirst hkind hfull hover with ⟨haccepted, hdrops⟩
    refine ⟨haccepted, hdrops, fun other hne => hdrops.others hne, fun dropped rest hlist => ?_⟩
    have hpairs := hsorted (hinv.publishEdges publish hspecs) edge.channelId
    change (pendingOn edge.channelId current).Pairwise PublishedBefore at hpairs
    rw [hlist, List.pairwise_cons] at hpairs
    exact hpairs.1

/-- Two requests at a time, the oldest of which gives way to a third. -/
def requestQueue : EdgeSpec where
  id := "requests"
  fromEndpoint := "sensor.out"
  toEndpoint := "solver.in"
  kind := .async
  policy := { maxInflight := 2, overflow := "drop_oldest" }

/-- A request of the last epoch and one of this epoch. -/
def twoRequests : RuntimePublicationRouter :=
  [RouterOp.publish "sensor.out" (some {}) {} none, .endEpoch,
    .publish "sensor.out" (some {}) {} none].foldl (RouterOp.exec fun n => n)
    (.ofEdges (some (.ofEdges [requestQueue])) [requestQueue])

/-- The third request takes the place of the first one. -/
theorem twoRequests_drops_first :
    (pendingOn "requests" twoRequests).map RuntimeChannelPublication.tag = [some 0, some 1] ∧
      DropsFirst "requests" twoRequests (twoRequests.admitAsync (.ofSpec requestQueue)).2 := by
  have hreach : RouterReachable (fun n => n) (fun _ _ => True)
      (some (.ofEdges [requestQueue])) [requestQueue] twoRequests :=
    .step (.publish "sensor.out" (some {}) {} none) (.step .endEpoch
      (.step (.publish "sensor.out" (some {}) {} none) .init trivial) trivial) trivial
  have hedges : twoRequests.sourceToEdges "sensor.out" = some [.ofSpec requestQueue] := by
    decide
  refine ⟨by decide, ?_⟩
  exact ((async_admission_fair hreach (by decide)).2
    { sourceEndpoint := "sensor.out", payload := {} }
    [] [] (.ofSpec requestQueue) hedges rfl rfl (by decide) (by decide)).2.1

end TopoExec
