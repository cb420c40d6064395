import TopoExec.Router.Feed
import TopoExec.Router.Handover
import TopoExec.Router.Admission

/-! # Publications of a channel keep their order

While a composite region is active, the edges that leave it go to the composite
stage and the others do not, so the publications of one edge are never split over
the stage and a list that overtakes it. This needs `begin_composite_region` to be
called with nothing staged for immediate commit.
-/

namespace TopoExec

namespace RuntimePublicationRouter

variable {router router' : RuntimePublicationRouter} {specs : List EdgeSpec} {clock : Nat → Int}

/-! ## Composite outputs and the others -/

/-- The publications of the composite stage are on edges that leave the active
region, those of the immediate stage are not. -/
structure RegionInv (specs : List EdgeSpec) (router : RuntimePublicationRouter) : Prop where
  leaves : ∀ s ∈ router.compositeExternalStage, ∃ spec ∈ specs, s.publication.id = spec.id ∧
    router.leavesComposite (.ofSpec spec) = true
  stays : ∀ p ∈ router.immediateStage, ∃ spec ∈ specs, p.id = spec.id ∧
    router.leavesComposite (.ofSpec spec) = false

/-- `begin_composite_region` is called only while nothing is staged for immediate
commit and the stage of the region before is empty. -/
def QuietAtBegin (router : RuntimePublicationRouter) : RouterOp → Prop
  | .beginCompositeRegion _ => router.immediateStage = [] ∧ router.compositeExternalStage = []
  | _ => True

/-- Without an active region no edge leaves one. -/
theorem leavesComposite_of_inactive (h : router.activeCompositeComponents = [])
    (edge : RoutedEdge) : router.leavesComposite edge = false := by
  simp [leavesComposite, h]

/-- The outputs of a region are still those of the active one. -/
theorem RegionInv.moves {immediate next ready : List RuntimeChannelPublication}
    {composite : List StagedRoutedPublication} {events : List TraceEvent}
    (h : RegionInv specs router)
    (hmoves : Moves router router' immediate next ready composite
      router.activeCompositeComponents events)
    (himmediate : immediate ⊆ router.immediateStage)
    (hcomposite : composite ⊆ router.compositeExternalStage) : RegionInv specs router' := by
  refine ⟨LeavesInv.of_subset h.leaves hmoves.active (hmoves.composite ▸ hcomposite), ?_⟩
  rw [hmoves.immediate]
  intro p hp
  simp only [leavesComposite_congr hmoves.active]
  exact h.stays p (himmediate hp)

/-- Without an active region and with an empty stage. -/
theorem RegionInv.inactive {next ready : List RuntimeChannelPublication}
    {events : List TraceEvent} (hstaging : StagingInv specs router)
    (hmoves : Moves router router' router.immediateStage next ready [] [] events) :
    RegionInv specs router' := by
  refine ⟨LeavesInv.of_empty hmoves.composite, ?_⟩
  rw [hmoves.immediate]
  intro p hp
  have hheld : p ∈ router.held := mem_held.mpr (Or.inr (Or.inr (Or.inl hp)))
  rcases (hstaging.numbered p hheld).edge with ⟨spec, hspec, hid, _⟩
  exact ⟨spec, hspec, hid, leavesComposite_of_inactive hmoves.active _⟩

theorem RegionInv.thinned {dropped : List RuntimeChannelPublication} (h : RegionInv specs router)
    (hthinned : Thinned router router' dropped) : RegionInv specs router' := by
  refine ⟨LeavesInv.thinned h.leaves hthinned, ?_⟩
  rw [hthinned.immediate]
  intro p hp
  simp only [leavesComposite_congr hthinned.active]
  exact h.stays p hp

/-- An output that is held back is one of the active region. -/
theorem RegionInv.stage (h : RegionInv specs router) {spec : EdgeSpec} (hspec : spec ∈ specs)
    (publish : Publish) :
    RegionInv specs (router.stage (.ofSpec spec) (publicationFor publish (.ofSpec spec))) := by
  refine ⟨LeavesInv.stage h.leaves hspec publish, ?_⟩
  rcases router.stage_cases (.ofSpec spec) (publicationFor publish (.ofSpec spec)) with
    ⟨_, hadds⟩ | ⟨hstaying, _, hadds⟩ | ⟨_, _, hadds⟩
  all_goals simp only [leavesComposite_congr hadds.active, hadds.immediate]
  · exact h.stays
  · intro p hp
    rcases List.mem_append.mp hp with hp | hp
    · exact h.stays p hp
    · rw [List.mem_singleton.mp hp]
      exact ⟨spec, hspec, rfl, hstaying⟩
  · exact h.stays

theorem RegionInv.refused (h : RegionInv specs router) (hrefused : Refused router router') :
    RegionInv specs router' := by
  refine ⟨LeavesInv.refused h.leaves hrefused, ?_⟩
  simp only [leavesComposite_congr hrefused.active, hrefused.immediate]
  exact h.stays

theorem RegionInv.publish (h : RegionInv specs router) (hstaging : StagingInv specs router)
    (sourceEndpoint : String) (payload : Option RuntimePayload) (metadata : InvocationMetadata)
    (eventTimestamp : Option EventTimestamp) :
    RegionInv specs
      (router.publishSharedFromWithMetadata sourceEndpoint payload metadata eventTimestamp).2 := by
  refine publish_invariant (fun edges publish hedges r r' edge hedge hadmission hr => ?_)
    (fun r r' hrefused hr => hr.refused hrefused) h
  rw [hstaging.sources] at hedges
  rcases mem_edgesOfSource hedges hedge with ⟨spec, hspec, _, rfl⟩
  rcases hadmission.thinned with ⟨dropped, hthinned⟩
  exact (hr.thinned hthinned).stage hspec publish

/-- Every operation keeps the regions apart. -/
theorem RegionInv.exec (h : RegionInv specs router) (hstaging : StagingInv specs router)
    (op : RouterOp) (hop : QuietAtBegin router op) : RegionInv specs (op.exec clock router) := by
  cases op with
  | publish sourceEndpoint payload metadata eventTimestamp =>
      exact h.publish hstaging sourceEndpoint payload metadata eventTimestamp
  | beginEpoch =>
      rcases router.beginEpoch_moves clock with ⟨events, _, hmoves⟩
      exact h.moves hmoves (by simp) (by simp)
  | commitImmediate =>
      rcases router.commitImmediate_moves clock with ⟨events, _, hmoves⟩
      exact h.moves hmoves (by simp) (by simp)
  | endEpoch => exact h.moves router.endEpoch_moves (by simp) (by simp)
  | beginCompositeRegion components =>
      -- both lists are empty here
      have hmoves := router.beginCompositeRegion_moves components
      refine ⟨LeavesInv.of_empty hmoves.composite, ?_⟩
      intro p hp
      rw [show RouterOp.exec clock router (.beginCompositeRegion components) =
        router.beginCompositeRegion components from rfl, hmoves.immediate, hop.1] at hp
      cases hp
  | commitCompositeRegionOutputs =>
      rcases router.commitCompositeRegionOutputs_moves clock with ⟨events, _, hmoves⟩
      exact RegionInv.inactive hstaging hmoves
  | discardCompositeRegionOutputs =>
      exact RegionInv.inactive hstaging router.discardCompositeRegionOutputs_moves
  | useBus op => exact h.moves (router.useBus_moves op) (by simp) (by simp)

/-! ## Order on one channel -/

/-- The channel, as a filter. -/
def on (channelId : String) : String → Bool := fun id => id = channelId

/-- The numbers of a channel: those handed over, then those that wait. -/
def numbersOn (channelId : String) (router : RuntimePublicationRouter) : List Nat :=
  handedTags (on channelId) router.trace ++ waitingTags (on channelId) router.held

/-- Nothing waits for a channel that no publication is for. -/
theorem waitingTags_eq_nil {channelId : String} {publications : List RuntimeChannelPublication}
    (h : ∀ p ∈ publications, p.id ≠ channelId) : waitingTags (on channelId) publications = [] := by
  refine List.filterMap_eq_nil_iff.mpr fun p hp => ?_
  simp [waitingTag, on, h p hp]

/-- The waiting publications of a channel are those of its edge. -/
structure Lanes (channelId : String) (spec : EdgeSpec) (router : RuntimePublicationRouter) :
    Prop where
  immediate : spec.kind = .immediate →
    waitingTags (on channelId) router.deferredReady = [] ∧
      waitingTags (on channelId) router.deferredNextEpoch = [] ∧
      waitingTags (on channelId) (router.compositeOf false) = [] ∧
      waitingTags (on channelId) (router.compositeOf true) = waitingTags (on channelId)
        (router.compositeExternalStage.map StagedRoutedPublication.publication)
  deferred : spec.kind ≠ .immediate →
    waitingTags (on channelId) router.immediateStage = [] ∧
      waitingTags (on channelId) (router.compositeOf true) = [] ∧
      waitingTags (on channelId) (router.compositeOf false) = waitingTags (on channelId)
        (router.compositeExternalStage.map StagedRoutedPublication.publication)
  leaving : router.leavesComposite (.ofSpec spec) = true →
    waitingTags (on channelId) router.immediateStage = []
  staying : router.leavesComposite (.ofSpec spec) = false →
    waitingTags (on channelId)
      (router.compositeExternalStage.map StagedRoutedPublication.publication) = []

/-- The outputs for one channel go all to the bus or are all deferred. -/
theorem waitingTags_compositeOf {channelId : String} {immediate : Bool}
    (h : ∀ s ∈ router.compositeExternalStage, s.publication.id = channelId →
      decide (s.kind = .immediate) = immediate) :
    waitingTags (on channelId) (router.compositeOf immediate) =
      waitingTags (on channelId)
        (router.compositeExternalStage.map StagedRoutedPublication.publication) := by
  unfold waitingTags compositeOf
  rw [List.filterMap_map, List.filterMap_map, List.filterMap_filter]
  refine List.filterMap_congr fun s hs => ?_
  simp only [Function.comp_apply, waitingTag, on]
  by_cases hid : s.publication.id = channelId
  · simp [hid, h s hs hid]
  · simp [hid]

/-- A channel with one edge uses the immediate list or the deferred ones, not both. -/
theorem lanes {channelId : String} {spec : EdgeSpec} (hone : OneEdge specs channelId)
    (hspec : spec ∈ specs) (hid : spec.id = channelId) (hstaging : StagingInv specs router)
    (hregion : RegionInv specs router) : Lanes channelId spec router := by
  -- a waiting publication with this id belongs to `spec`
  have hkind : ∀ p ∈ router.held, p.id = channelId → p.kind = spec.kind := by
    intro p hp hpid
    rcases (hstaging.numbered p hp).edge with ⟨spec', hspec', hpid', hkind⟩
    rw [hkind, hone spec' hspec' spec hspec (hpid'.symm.trans hpid) hid]
  have hcomposite : ∀ s ∈ router.compositeExternalStage, s.publication.id = channelId →
      s.kind = spec.kind := by
    intro s hs hsid
    rw [hstaging.composite s hs]
    exact hkind _ (mem_held.mpr (Or.inr (Or.inr (Or.inr ⟨s, hs, rfl⟩)))) hsid
  refine ⟨fun himm => ⟨?_, ?_, ?_, ?_⟩, fun hdef => ⟨?_, ?_, ?_⟩, fun hleaving => ?_,
    fun hstaying => ?_⟩
  · refine waitingTags_eq_nil fun p hp hpid => hstaging.ready p hp ?_
    exact (hkind p (mem_held.mpr (Or.inl hp)) hpid).trans himm
  · refine waitingTags_eq_nil fun p hp hpid => hstaging.next p hp ?_
    exact (hkind p (mem_held.mpr (Or.inr (Or.inl hp))) hpid).trans himm
  · refine waitingTags_eq_nil fun p hp hpid => ?_
    rcases mem_compositeOf.mp hp with ⟨s, hs, hk, rfl⟩
    simp [hcomposite s hs hpid, himm] at hk
  · exact waitingTags_compositeOf fun s hs hsid => by simp [hcomposite s hs hsid, himm]
  · refine waitingTags_eq_nil fun p hp hpid => hdef ?_
    rw [← hkind p (mem_held.mpr (Or.inr (Or.inr (Or.inl hp)))) hpid]
    exact hstaging.immediate p hp
  · refine waitingTags_eq_nil fun p hp hpid => ?_
    rcases mem_compositeOf.mp hp with ⟨s, hs, hk, rfl⟩
    simp [hcomposite s hs hpid, hdef] at hk
  · exact waitingTags_compositeOf fun s hs hsid => by simp [hcomposite s hs hsid, hdef]
  · refine waitingTags_eq_nil fun p hp hpid => ?_
    rcases hregion.stays p hp with ⟨spec', hspec', hpid', hstays⟩
    rw [hone spec' hspec' spec hspec (hpid'.symm.trans hpid) hid, hleaving] at hstays
    cases hstays
  · refine waitingTags_eq_nil fun p hp hpid => ?_
    rcases List.mem_map.mp hp with ⟨s, hs, rfl⟩
    rcases hregion.leaves s hs with ⟨spec', hspec', hsid', hleaves⟩
    rw [hone spec' hspec' spec hspec (hsid'.symm.trans hpid) hid, hstaying] at hleaves
    cases hleaves

/-- A channel with at most one edge has its lanes, also when it has none. -/
theorem exists_lanes {channelId : String} (hone : OneEdge specs channelId)
    (hstaging : StagingInv specs router) (hregion : RegionInv specs router) :
    ∃ spec, (∀ spec' ∈ specs, spec'.id = channelId → spec' = spec) ∧
      Lanes channelId spec router := by
  by_cases hexists : ∃ spec ∈ specs, spec.id = channelId
  · rcases hexists with ⟨spec, hspec, hid⟩
    exact ⟨spec, fun spec' hspec' hid' => hone spec' hspec' spec hspec hid' hid,
      lanes hone hspec hid hstaging hregion⟩
  · -- nothing waits for a channel without an edge
    have hnone : ∀ publications : List RuntimeChannelPublication, publications ⊆ router.held →
        waitingTags (on channelId) publications = [] := by
      intro publications hsub
      refine waitingTags_eq_nil fun p hp hpid => hexists ?_
      rcases (hstaging.numbered p (hsub hp)).edge with ⟨spec, hspec, hid, _⟩
      exact ⟨spec, hspec, hid.symm.trans hpid⟩
    have hready := hnone router.deferredReady fun p hp => mem_held.mpr (Or.inl hp)
    have hnext := hnone router.deferredNextEpoch fun p hp => mem_held.mpr (Or.inr (Or.inl hp))
    have himmediate := hnone router.immediateStage fun p hp =>
      mem_held.mpr (Or.inr (Or.inr (Or.inl hp)))
    have hcomposite := hnone
      (router.compositeExternalStage.map StagedRoutedPublication.publication) fun p hp =>
        mem_held.mpr (Or.inr (Or.inr (Or.inr (List.mem_map.mp hp))))
    have hpart : ∀ immediate, waitingTags (on channelId) (router.compositeOf immediate) = [] := by
      intro immediate
      refine hnone _ fun p hp => mem_held.mpr (Or.inr (Or.inr (Or.inr ?_)))
      rcases mem_compositeOf.mp hp with ⟨s, hs, _, rfl⟩
      exact ⟨s, hs, rfl⟩
    refine ⟨{ id := channelId, fromEndpoint := "", toEndpoint := "" }, fun spec hspec hid => ?_, ?_⟩
    · exact absurd ⟨spec, hspec, hid⟩ hexists
    · refine ⟨fun _ => ⟨hready, hnext, hpart false, ?_⟩, fun _ => ⟨himmediate, hpart true, ?_⟩,
        fun _ => himmediate, fun _ => hcomposite⟩
      · rw [hpart, hcomposite]
      · rw [hpart, hcomposite]

/-- The numbers of a channel in the order in which they are handed over: those that were, then the
lists. -/
theorem numbersOn_eq (channelId : String) (router : RuntimePublicationRouter) :
    numbersOn channelId router = handedTags (on channelId) router.trace ++
      (waitingTags (on channelId) router.deferredReady ++
        waitingTags (on channelId) router.deferredNextEpoch ++
        waitingTags (on channelId) router.immediateStage ++
        waitingTags (on channelId)
          (router.compositeExternalStage.map StagedRoutedPublication.publication)) := by
  unfold numbersOn held
  simp only [waitingTags_append]

/-- The operation hands over from the front of the waiting numbers and keeps the
order of the others. -/
theorem Moves.numbersOn_sublist {immediate next ready : List RuntimeChannelPublication}
    {composite : List StagedRoutedPublication} {active : List String} {events : List TraceEvent}
    (hmoves : Moves router router' immediate next ready composite active events)
    {channelId : String}
    (hsub : (handedTags (on channelId) events ++
      (waitingTags (on channelId) ready ++ waitingTags (on channelId) next ++
        waitingTags (on channelId) immediate ++ waitingTags (on channelId)
          (composite.map StagedRoutedPublication.publication))).Sublist
      (waitingTags (on channelId) router.deferredReady ++
        waitingTags (on channelId) router.deferredNextEpoch ++
        waitingTags (on channelId) router.immediateStage ++
        waitingTags (on channelId)
          (router.compositeExternalStage.map StagedRoutedPublication.publication))) :
    (numbersOn channelId router').Sublist (numbersOn channelId router) := by
  rw [numbersOn_eq, numbersOn_eq, hmoves.trace, hmoves.ready, hmoves.next, hmoves.immediate,
    hmoves.composite, handedTags_append, List.append_assoc]
  exact hsub.append_left _

/-- The first list goes over to those that were handed over. -/
theorem commitImmediate_numbersOn {channelId : String} {spec : EdgeSpec}
    (hlanes : Lanes channelId spec router) :
    (numbersOn channelId (router.commitImmediate clock).2).Sublist
      (numbersOn channelId router) := by
  rcases router.commitImmediate_moves clock with ⟨events, hevents, hmoves⟩
  refine hmoves.numbersOn_sublist ?_
  have hhanded := hevents.handedTags (on channelId)
  by_cases hkind : spec.kind = .immediate
  · rcases hlanes.immediate hkind with ⟨hready, hnext, _, _⟩
    rw [hready, hnext]
    exact hhanded.append (List.Sublist.refl _)
  · rw [(hlanes.deferred hkind).1] at hhanded ⊢
    rw [List.sublist_nil.mp hhanded]
    exact List.Sublist.refl _

/-- What was ready comes before all that is deferred, so the order stays. -/
theorem beginEpoch_numbersOn (channelId : String) :
    (numbersOn channelId (router.beginEpoch clock).2).Sublist (numbersOn channelId router) := by
  rcases router.beginEpoch_moves clock with ⟨events, hevents, hmoves⟩
  refine hmoves.numbersOn_sublist ?_
  simp only [List.append_assoc]
  exact (hevents.handedTags (on channelId)).append (List.Sublist.refl _)

/-- What is deferred joins the end of what is ready. -/
theorem endEpoch_numbersOn (channelId : String) :
    (numbersOn channelId router.endEpoch).Sublist (numbersOn channelId router) := by
  refine router.endEpoch_moves.numbersOn_sublist ?_
  rw [waitingTags_append]
  simp [handedTags, handedTag, waitingTags]

/-- The outputs of the region were held back behind all the others of their channel. -/
theorem commitCompositeRegionOutputs_numbersOn {channelId : String} {spec : EdgeSpec}
    (hlanes : Lanes channelId spec router) :
    (numbersOn channelId (router.commitCompositeRegionOutputs clock).2).Sublist
      (numbersOn channelId router) := by
  rcases router.commitCompositeRegionOutputs_moves clock with ⟨events, hevents, hmoves⟩
  refine hmoves.numbersOn_sublist ?_
  have hhanded := hevents.handedTags (on channelId)
  rw [waitingTags_append]
  by_cases hkind : spec.kind = .immediate
  · rcases hlanes.immediate hkind with ⟨hready, hnext, hdeferred, hall⟩
    rw [hall] at hhanded
    rw [hready, hnext, hdeferred]
    -- either nothing is staged for immediate commit or the composite stage is empty
    cases hleaves : router.leavesComposite (.ofSpec spec) with
    | true =>
        rw [hlanes.leaving hleaves]
        simpa [waitingTags] using hhanded
    | false =>
        rw [hlanes.staying hleaves] at hhanded ⊢
        rw [List.sublist_nil.mp hhanded]
        simp [waitingTags]
  · rcases hlanes.deferred hkind with ⟨himmediate, htrue, hall⟩
    rw [htrue] at hhanded
    rw [List.sublist_nil.mp hhanded, himmediate, hall]
    simp [waitingTags]

/-- Clearing the composite stage takes numbers from the end. -/
theorem Moves.numbersOn_clear {active : List String} {call : RouterCall}
    {publications : List RuntimeChannelPublication}
    (hmoves : Moves router router' router.immediateStage router.deferredNextEpoch
      router.deferredReady [] active (clearEvents call publications)) (channelId : String) :
    (numbersOn channelId router').Sublist (numbersOn channelId router) := by
  refine hmoves.numbersOn_sublist ?_
  rw [handedTags_clearEvents, List.nil_append]
  exact (List.Sublist.refl _).append (List.nil_sublist _)

/-- Dropping some leaves the others in their order. -/
theorem Thinned.numbersOn_sublist {dropped : List RuntimeChannelPublication}
    (hthinned : Thinned router router' dropped) (channelId : String) :
    (numbersOn channelId router').Sublist (numbersOn channelId router) := by
  rw [numbersOn_eq, numbersOn_eq, hthinned.trace, handedTags_append,
    handedTags_tagEvents _ (fun _ => rfl), List.append_nil, hthinned.immediate]
  refine List.Sublist.append_left (List.Sublist.append (List.Sublist.append
    (List.Sublist.append ?_ ?_) (List.Sublist.refl _)) ?_) _
  · exact hthinned.ready.filterMap _
  · exact hthinned.next.filterMap _
  · exact (hthinned.composite.map _).filterMap _

/-- Staging adds the new number at the end, if it is on this channel. -/
theorem stage_numbersOn {channelId : String} {spec spec' : EdgeSpec}
    (hlanes : Lanes channelId spec router) (hsame : spec'.id = channelId → spec' = spec)
    (publish : Publish) :
    (numbersOn channelId (router.stage (.ofSpec spec')
        (publicationFor publish (.ofSpec spec')))).Sublist
      (numbersOn channelId router ++ [router.metrics.stagedCount]) := by
  have hnew : waitingTags (on channelId)
      [router.numbered (publicationFor publish (.ofSpec spec'))] =
        if spec'.id = channelId then [router.metrics.stagedCount] else [] := by
    by_cases hid : spec'.id = channelId
    · simp [waitingTags, waitingTag, on, numbered, publicationFor, RoutedEdge.ofSpec, hid]
    · simp [waitingTags, waitingTag, on, numbered, publicationFor, RoutedEdge.ofSpec, hid]
  have hlast : (if spec'.id = channelId then [router.metrics.stagedCount] else []).Sublist
      [router.metrics.stagedCount] := by
    split_ifs
    · exact List.Sublist.refl _
    · exact List.nil_sublist _
  rw [numbersOn_eq, numbersOn_eq]
  rcases router.stage_cases (.ofSpec spec') (publicationFor publish (.ofSpec spec')) with
    ⟨_, hadds⟩ | ⟨hstaying, himmediate, hadds⟩ | ⟨hstaying, hdeferred, hadds⟩
  all_goals
    rw [hadds.trace, hadds.ready, hadds.next, hadds.immediate, hadds.composite, handedTags_append]
    rw [show handedTags (on channelId) [TraceEvent.staged router.metrics.stagedCount
      (RoutedEdge.ofSpec spec').channelId (RoutedEdge.ofSpec spec').kind
      (router.leavesComposite (.ofSpec spec'))] = [] from rfl, List.append_nil]
  -- the composite list comes last in any case
  · rw [List.map_append, waitingTags_append, List.map_singleton, hnew]
    -- so the new number is the last one
    simp only [← List.append_assoc]
    exact (List.Sublist.refl _).append hlast
  · rw [waitingTags_append, hnew]
    by_cases hid : spec'.id = channelId
    · rw [hsame hid] at hstaying
      rw [hlanes.staying hstaying, if_pos hid]
      simp
    · rw [if_neg hid, List.append_nil]
      exact List.sublist_append_left _ _
  · rw [waitingTags_append, hnew]
    by_cases hid : spec'.id = channelId
    · rw [hsame hid] at hstaying hdeferred
      rw [hlanes.staying hstaying, (hlanes.deferred hdeferred).1, if_pos hid]
      simp
    · rw [if_neg hid, List.append_nil]
      exact List.sublist_append_left _ _

/-- The invariant of the runs that begin composite regions with nothing staged. -/
structure OrderInv (specs : List EdgeSpec) (router : RuntimePublicationRouter) : Prop where
  staging : StagingInv specs router
  once : OnceInv router
  region : RegionInv specs router
  sorted : ∀ channelId, OneEdge specs channelId → (numbersOn channelId router).Pairwise (· < ·)

/-- The numbers on a channel were all given before. -/
theorem OrderInv.numbersOn_lt (h : OrderInv specs router) (channelId : String) :
    ∀ tag ∈ numbersOn channelId router, tag < router.metrics.stagedCount := by
  intro tag htag
  rcases List.mem_append.mp htag with htag | htag
  · refine h.once.bounded tag ?_
    -- the numbers of one channel are among all numbers
    unfold handedTags at htag ⊢
    rcases List.mem_filterMap.mp htag with ⟨event, hevent, heq⟩
    refine List.mem_filterMap.mpr ⟨event, hevent, ?_⟩
    cases event <;> simp_all [handedTag]
  · exact h.staging.waiting_lt _ tag htag

/-- A publish puts its number behind all the others. -/
theorem OrderInv.publish (h : OrderInv specs router) (sourceEndpoint : String)
    (payload : Option RuntimePayload) (metadata : InvocationMetadata)
    (eventTimestamp : Option EventTimestamp) :
    OrderInv specs
      (router.publishSharedFromWithMetadata sourceEndpoint payload metadata eventTimestamp).2 := by
  refine publish_invariant (fun edges publish hedges r r' edge hedge hadmission hr => ?_)
    (fun r r' hrefused hr => ?_) h
  · rw [h.staging.sources] at hedges
    rcases mem_edgesOfSource hedges hedge with ⟨spec, hspec, _, rfl⟩
    rcases hadmission.thinned with ⟨dropped, hthinned⟩
    have hstaging := hr.staging.thinned hthinned
    have hregion := hr.region.thinned hthinned
    refine ⟨hstaging.stage hspec publish, (hr.once.thinned hthinned).stage hstaging _ publish,
      hregion.stage hspec publish, fun channelId hone => ?_⟩
    rcases exists_lanes hone hstaging hregion with ⟨spec', hunique, hlanes⟩
    refine List.Pairwise.sublist (stage_numbersOn hlanes (hunique spec hspec) publish) ?_
    rw [List.pairwise_append]
    refine ⟨(hr.sorted channelId hone).sublist (hthinned.numbersOn_sublist channelId),
      List.pairwise_singleton _ _, fun a ha b hb => ?_⟩
    rw [List.mem_singleton.mp hb, hthinned.staged]
    exact hr.numbersOn_lt channelId a ((hthinned.numbersOn_sublist channelId).subset ha)
  · refine ⟨hr.staging.refused hrefused, hr.once.refused hrefused, hr.region.refused hrefused,
      fun channelId hone => ?_⟩
    have hsame : numbersOn channelId r' = numbersOn channelId r := by
      rw [numbersOn_eq, numbersOn_eq, hrefused.trace, hrefused.ready, hrefused.next,
        hrefused.immediate, hrefused.composite]
    rw [hsame]
    exact hr.sorted channelId hone

/-- No operation changes the order of what waits for a channel. -/
theorem OrderInv.exec (h : OrderInv specs router) (op : RouterOp) (hop : QuietAtBegin router op) :
    OrderInv specs (op.exec clock router) := by
  cases op with
  | publish sourceEndpoint payload metadata eventTimestamp =>
      exact h.publish sourceEndpoint payload metadata eventTimestamp
  | beginEpoch =>
      exact ⟨h.staging.exec _, h.once.exec h.staging _, h.region.exec h.staging _ hop,
        fun channelId hone => (h.sorted channelId hone).sublist (beginEpoch_numbersOn channelId)⟩
  | commitImmediate =>
      refine ⟨h.staging.exec _, h.once.exec h.staging _, h.region.exec h.staging _ hop,
        fun channelId hone => ?_⟩
      rcases exists_lanes hone h.staging h.region with ⟨spec, _, hlanes⟩
      exact (h.sorted channelId hone).sublist (commitImmediate_numbersOn hlanes)
  | endEpoch =>
      exact ⟨h.staging.exec _, h.once.exec h.staging _, h.region.exec h.staging _ hop,
        fun channelId hone => (h.sorted channelId hone).sublist (endEpoch_numbersOn channelId)⟩
  | beginCompositeRegion components =>
      exact ⟨h.staging.exec _, h.once.exec h.staging _, h.region.exec h.staging _ hop,
        fun channelId hone => (h.sorted channelId hone).sublist
          ((router.beginCompositeRegion_moves components).numbersOn_clear channelId)⟩
  | commitCompositeRegionOutputs =>
      refine ⟨h.staging.exec _, h.once.exec h.staging _, h.region.exec h.staging _ hop,
        fun channelId hone => ?_⟩
      rcases exists_lanes hone h.staging h.region with ⟨spec, _, hlanes⟩
      exact (h.sorted channelId hone).sublist (commitCompositeRegionOutputs_numbersOn hlanes)
  | discardCompositeRegionOutputs =>
      exact ⟨h.staging.exec _, h.once.exec h.staging _, h.region.exec h.staging _ hop,
        fun channelId hone => (h.sorted channelId hone).sublist
          (router.discardCompositeRegionOutputs_moves.numbersOn_clear channelId)⟩
  | useBus op =>
      exact ⟨h.staging.exec _, h.once.exec h.staging _, h.region.exec h.staging _ hop, h.sorted⟩

end RuntimePublicationRouter

open RuntimePublicationRouter

end TopoExec
