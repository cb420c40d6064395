import TopoExec.Channel.Stored
import TopoExec.Router.Order

/-! # The fate of a publication

While no commit fails, every publication that is staged waits in a list, was
handed to the bus, was overwritten by a newer async publication, or was discarded
with its composite region; and the publications that enter the channels are
exactly those that are handed over. This is what the trace says about the
channels. The numbers below `first` were staged earlier, when a commit may have
failed.
-/

namespace TopoExec

namespace RuntimePublicationRouter

/-- The publication has left the router. -/
def Settled (trace : List TraceEvent) (tag : Nat) (channelId : String) (kind : EdgeKind) : Prop :=
  (∃ call, .handed tag channelId call ∈ trace) ∨
    (kind = .async ∧ .overwritten tag ∈ trace) ∨ .discarded tag ∈ trace

/-- What was decided about a publication is not taken back. -/
theorem Settled.append {trace : List TraceEvent} {tag : Nat} {channelId : String}
    {kind : EdgeKind} (h : Settled trace tag channelId kind) (events : List TraceEvent) :
    Settled (trace ++ events) tag channelId kind := by
  rcases h with ⟨call, hmem⟩ | ⟨hkind, hmem⟩ | hmem
  · exact Or.inl ⟨call, List.mem_append_left _ hmem⟩
  · exact Or.inr (Or.inl ⟨hkind, List.mem_append_left _ hmem⟩)
  · exact Or.inr (Or.inr (List.mem_append_left _ hmem))

/-- The channels hold what the trace hands over. -/
def Tracks (first : Nat) (bus : RuntimeChannelBus) (trace : List TraceEvent) : Prop :=
  ∀ channelId tag, first ≤ tag →
    (EnteredAs bus channelId tag ↔ ∃ call, .handed tag channelId call ∈ trace)

structure FateInv (first : Nat) (router : RuntimePublicationRouter) : Prop where
  fate : ∀ tag channelId kind composite, first ≤ tag →
    .staged tag channelId kind composite ∈ router.trace →
      Settled router.trace tag channelId kind ∨
        ∃ p ∈ router.held, p.tag = some tag ∧ p.id = channelId ∧ p.kind = kind
  entered : ∃ bus, router.channels = some bus ∧ Tracks first bus router.trace

variable {router router' : RuntimePublicationRouter} {specs : List EdgeSpec} {clock : Nat → Int}
  {first : Nat}

/-! ## Events that hand nothing over -/

/-- Nothing is handed over, and nothing enters a channel. -/
theorem Tracks.quiet {bus bus' : RuntimeChannelBus} {trace events : List TraceEvent}
    (h : Tracks first bus trace) (hsame : SameStored bus bus')
    (hevents : ∀ tag channelId call, .handed tag channelId call ∉ events) :
    Tracks first bus' (trace ++ events) := by
  intro channelId tag hfirst
  rw [hsame.enteredAs_iff, h channelId tag hfirst]
  refine exists_congr fun call => ?_
  rw [List.mem_append, or_iff_left (hevents tag channelId call)]

/-- No publication is staged, and each one that waited waits on or is settled. -/
theorem FateInv.fate_extend {events : List TraceEvent} (h : FateInv first router)
    (htrace : router'.trace = router.trace ++ events)
    (hstaged : ∀ tag channelId kind composite, .staged tag channelId kind composite ∉ events)
    (hheld : ∀ p ∈ router.held, ∀ tag, p.tag = some tag →
      p ∈ router'.held ∨ Settled router'.trace tag p.id p.kind) :
    ∀ tag channelId kind composite, first ≤ tag →
      .staged tag channelId kind composite ∈ router'.trace →
        Settled router'.trace tag channelId kind ∨
          ∃ p ∈ router'.held, p.tag = some tag ∧ p.id = channelId ∧ p.kind = kind := by
  intro tag channelId kind composite hfirst hmem
  rw [htrace] at hmem
  rcases List.mem_append.mp hmem with hmem | hmem
  · rcases h.fate tag channelId kind composite hfirst hmem with hsettled | ⟨p, hp, htag, rfl, rfl⟩
    · rw [htrace]
      exact Or.inl (hsettled.append events)
    · rcases hheld p hp tag htag with hp | hsettled
      · exact Or.inr ⟨p, hp, htag, rfl, rfl⟩
      · exact Or.inl hsettled
  · exact absurd hmem (hstaged tag channelId kind composite)

/-! ## Commits that do not fail -/

/-- What a commit point that does not fail does to the trace and to the bus. -/
structure CommitsAt (call : RouterCall) (publications : List RuntimeChannelPublication)
    (router router' : RuntimePublicationRouter) : Prop where
  failed : router'.metrics.failedCommitCount = router.metrics.failedCommitCount
  trace : router'.trace = router.trace ++ (handedEvents call publications ++ [.returned call])
  channels : (∀ p ∈ publications, p.target = .channel) → ∀ bus, router.channels = some bus →
    ∃ bus', router'.channels = some bus' ∧ ∀ channelId tag, EnteredAs bus' channelId tag ↔
      EnteredAs bus channelId tag ∨ ∃ p ∈ publications, p.id = channelId ∧ p.tag = some tag

theorem Commits.commitsAt {call : RouterCall} {publications : List RuntimeChannelPublication}
    (h : Commits clock call publications router true router') :
    CommitsAt call publications router (router'.close call) := by
  cases h with
  | empty hempty =>
      refine ⟨rfl, ?_, fun _ bus hbus => ⟨bus, hbus, fun channelId tag => ?_⟩⟩
      · simp [hempty, handedEvents, RuntimePublicationRouter.close]
      · simp [hempty]
  | @accepted bus hbus haccepted =>
      refine ⟨rfl, List.append_assoc .., fun htarget bus' hbus' => ⟨_, rfl, ?_⟩⟩
      rw [hbus] at hbus'
      cases hbus'
      exact RuntimeChannelBus.publishBatch_enteredAs_iff clock bus htarget haccepted

/-- A rejected commit is counted. -/
theorem Commits.failed {call : RouterCall} {publications : List RuntimeChannelPublication}
    (h : Commits clock call publications router false router') :
    router'.metrics.failedCommitCount = router.metrics.failedCommitCount + 1 := by
  cases h with
  | noBus _ => rfl
  | rejected _ _ => rfl

/-- A commit that the bus accepts hands over exactly what enters the channels. -/
theorem Tracks.delivered {call : RouterCall} {publications : List RuntimeChannelPublication}
    {bus bus' : RuntimeChannelBus} {trace : List TraceEvent} (h : Tracks first bus trace)
    (hnew : ∀ channelId tag, EnteredAs bus' channelId tag ↔
      EnteredAs bus channelId tag ∨ ∃ p ∈ publications, p.id = channelId ∧ p.tag = some tag) :
    Tracks first bus' (trace ++ (handedEvents call publications ++ [.returned call])) := by
  intro channelId tag hfirst
  rw [hnew channelId tag, h channelId tag hfirst]
  simp only [List.mem_append, exists_or]
  refine or_congr_right ?_
  constructor
  · rintro ⟨p, hp, rfl, htag⟩
    exact Or.inl ⟨call, mem_handedEvents.mpr ⟨p, hp, tag, htag, rfl⟩⟩
  · rintro (⟨call', hmem⟩ | ⟨call', hmem⟩)
    · rcases mem_handedEvents.mp hmem with ⟨p, hp, tag', htag, heq⟩
      cases heq
      exact ⟨p, hp, rfl, htag⟩
    · simp at hmem

/-- A publication that is handed over is settled. -/
theorem Settled.handed {call : RouterCall} {publications : List RuntimeChannelPublication}
    {trace : List TraceEvent} {p : RuntimeChannelPublication} (hp : p ∈ publications) {tag : Nat}
    (htag : p.tag = some tag) (kind : EdgeKind) :
    Settled (trace ++ (handedEvents call publications ++ [.returned call])) tag p.id kind := by
  refine Or.inl ⟨call, List.mem_append_right _ (List.mem_append_left _ ?_)⟩
  exact mem_handedEvents.mpr ⟨p, hp, tag, htag, rfl⟩

/-- A commit stages nothing. -/
theorem not_staged_handedEvents (call : RouterCall)
    (publications : List RuntimeChannelPublication) (tag : Nat) (channelId : String)
    (kind : EdgeKind) (composite : Bool) :
    .staged tag channelId kind composite ∉ handedEvents call publications ++ [.returned call] := by
  intro hmem
  rcases List.mem_append.mp hmem with hmem | hmem
  · rcases mem_handedEvents.mp hmem with ⟨_, _, _, _, heq⟩
    cases heq
  · simp at hmem

/-- A commit point keeps the invariant when it hands over what it takes out of
the lists. -/
theorem FateInv.commitsAt {call : RouterCall} {publications : List RuntimeChannelPublication}
    (h : FateInv first router) (hstaging : StagingInv specs router)
    (hcommit : CommitsAt call publications router router')
    (hsub : ∀ p ∈ publications, p ∈ router.held)
    (hheld : ∀ p ∈ router.held, p ∈ router'.held ∨ p ∈ publications) : FateInv first router' := by
  refine ⟨h.fate_extend hcommit.trace (not_staged_handedEvents _ _) ?_, ?_⟩
  · intro p hp tag htag
    refine (hheld p hp).imp_right fun hp => ?_
    rw [hcommit.trace]
    exact Settled.handed hp htag _
  · rcases h.entered with ⟨bus, hbus, htracks⟩
    have htarget : ∀ p ∈ publications, p.target = .channel := fun p hp =>
      (hstaging.numbered p (hsub p hp)).target
    rcases hcommit.channels htarget bus hbus with ⟨bus', hbus', hnew⟩
    refine ⟨bus', hbus', ?_⟩
    rw [hcommit.trace]
    exact htracks.delivered hnew

theorem commitImmediate_commitsAt
    (haccepted : (router.commitImmediate clock).1.accepted = true) :
    CommitsAt .commitImmediate router.immediateStage router (router.commitImmediate clock).2 := by
  have hcommits := commitBatch_commits clock { router with immediateStage := [] } .commitImmediate
    router.immediateStage
  unfold commitImmediate at haccepted
  rw [haccepted] at hcommits
  rcases hcommits.commitsAt with ⟨hfailed, htrace, hchannels⟩
  exact ⟨hfailed, htrace, hchannels⟩

/-- A `commit_immediate` that the bus rejects is counted as failed. -/
theorem commitImmediate_failed
    (hrejected : (router.commitImmediate clock).1.accepted = false) :
    (router.commitImmediate clock).2.metrics.failedCommitCount =
      router.metrics.failedCommitCount + 1 := by
  have hcommits := commitBatch_commits clock { router with immediateStage := [] } .commitImmediate
    router.immediateStage
  unfold commitImmediate at hrejected
  rw [hrejected] at hcommits
  exact hcommits.failed

theorem beginEpoch_commitsAt (haccepted : (router.beginEpoch clock).1.accepted = true) :
    CommitsAt .beginEpoch router.deferredReady router (router.beginEpoch clock).2 := by
  rcases router.beginEpoch_commits clock with ⟨router', inFlight, completions, hcommits, heq⟩
  rw [haccepted] at hcommits
  rw [heq]
  rcases hcommits.commitsAt with ⟨hfailed, htrace, hchannels⟩
  refine ⟨hfailed, htrace, fun htarget bus hbus => ?_⟩
  -- advancing the channels stores nothing
  rcases hchannels htarget bus.advanceEpoch (by rw [hbus]; rfl) with ⟨bus', hbus', hnew⟩
  refine ⟨bus', hbus', fun channelId tag => ?_⟩
  rw [hnew channelId tag, (advanceEpoch_sameStored bus).enteredAs_iff]

/-- A `begin_epoch` that the bus rejects is counted as failed. -/
theorem beginEpoch_failed (hrejected : (router.beginEpoch clock).1.accepted = false) :
    (router.beginEpoch clock).2.metrics.failedCommitCount =
      router.metrics.failedCommitCount + 1 := by
  rcases router.beginEpoch_commits clock with ⟨router', inFlight, completions, hcommits, heq⟩
  rw [hrejected] at hcommits
  rw [heq]
  exact hcommits.failed

theorem commitCompositeRegionOutputs_commitsAt
    (haccepted : (router.commitCompositeRegionOutputs clock).1.accepted = true) :
    CommitsAt .commitComposite (router.compositeOf true) router
      (router.commitCompositeRegionOutputs clock).2 := by
  rcases router.commitCompositeRegionOutputs_commits clock with ⟨router', hcommits, heq⟩
  rw [haccepted] at hcommits
  rw [heq]
  rcases hcommits.commitsAt with ⟨hfailed, htrace, hchannels⟩
  exact ⟨hfailed, htrace, hchannels⟩

/-- A composite commit that the bus rejects is counted as failed. -/
theorem commitCompositeRegionOutputs_failed
    (hrejected : (router.commitCompositeRegionOutputs clock).1.accepted = false) :
    (router.commitCompositeRegionOutputs clock).2.metrics.failedCommitCount =
      router.metrics.failedCommitCount + 1 := by
  rcases router.commitCompositeRegionOutputs_commits clock with ⟨router', hcommits, heq⟩
  rw [hrejected] at hcommits
  rw [heq]
  exact hcommits.failed

/-! ## The operations -/

/-- An accepted `commit_immediate` settles every publication of the immediate list. -/
theorem FateInv.commitImmediate (h : FateInv first router) (hstaging : StagingInv specs router)
    (haccepted : (router.commitImmediate clock).1.accepted = true) :
    FateInv first (router.commitImmediate clock).2 := by
  rcases router.commitImmediate_moves clock with ⟨events, _, hmoves⟩
  refine h.commitsAt hstaging (commitImmediate_commitsAt haccepted)
    (fun p hp => mem_held.mpr (Or.inr (Or.inr (Or.inl hp)))) fun p hp => ?_
  rw [mem_held, hmoves.ready, hmoves.next, hmoves.composite]
  rcases mem_held.mp hp with hp | hp | hp | hp
  · exact Or.inl (Or.inl hp)
  · exact Or.inl (Or.inr (Or.inl hp))
  · exact Or.inr hp
  · exact Or.inl (Or.inr (Or.inr (Or.inr hp)))

/-- An accepted `begin_epoch` settles every publication that was ready. -/
theorem FateInv.beginEpoch (h : FateInv first router) (hstaging : StagingInv specs router)
    (haccepted : (router.beginEpoch clock).1.accepted = true) :
    FateInv first (router.beginEpoch clock).2 := by
  rcases router.beginEpoch_moves clock with ⟨events, _, hmoves⟩
  refine h.commitsAt hstaging (beginEpoch_commitsAt haccepted)
    (fun p hp => mem_held.mpr (Or.inl hp)) fun p hp => ?_
  rw [mem_held, hmoves.next, hmoves.immediate, hmoves.composite]
  rcases mem_held.mp hp with hp | hp
  · exact Or.inr hp
  · exact Or.inl (Or.inr hp)

/-- An accepted composite commit settles the immediate outputs and defers the others. -/
theorem FateInv.commitCompositeRegionOutputs (h : FateInv first router)
    (hstaging : StagingInv specs router)
    (haccepted : (router.commitCompositeRegionOutputs clock).1.accepted = true) :
    FateInv first (router.commitCompositeRegionOutputs clock).2 := by
  rcases router.commitCompositeRegionOutputs_moves clock with ⟨events, _, hmoves⟩
  refine h.commitsAt hstaging (commitCompositeRegionOutputs_commitsAt haccepted) ?_ fun p hp => ?_
  · intro p hp
    rcases mem_compositeOf.mp hp with ⟨s, hs, _, rfl⟩
    exact mem_held.mpr (Or.inr (Or.inr (Or.inr ⟨s, hs, rfl⟩)))
  · rw [mem_held, hmoves.ready, hmoves.next, hmoves.immediate]
    rcases mem_held.mp hp with hp | hp | hp | ⟨s, hs, rfl⟩
    · exact Or.inl (Or.inl hp)
    · exact Or.inl (Or.inr (Or.inl (List.mem_append_left _ hp)))
    · exact Or.inl (Or.inr (Or.inr (Or.inl hp)))
    · -- a composite output is handed over now or waits for the next epoch
      cases hkind : decide (s.kind = .immediate) with
      | true => exact Or.inr (mem_compositeOf.mpr ⟨s, hs, hkind, rfl⟩)
      | false =>
          exact Or.inl (Or.inr (Or.inl (List.mem_append_right _
            (mem_compositeOf.mpr ⟨s, hs, hkind, rfl⟩))))

/-- At the end of an epoch the deferred publications only change their list. -/
theorem FateInv.endEpoch (h : FateInv first router) : FateInv first router.endEpoch := by
  have hmoves := router.endEpoch_moves
  refine ⟨h.fate_extend hmoves.trace (by simp) ?_, ?_⟩
  · intro p hp _ _
    rw [mem_held, hmoves.ready, hmoves.immediate, hmoves.composite]
    rcases mem_held.mp hp with hp | hp | hp
    · exact Or.inl (Or.inl (List.mem_append_left _ hp))
    · exact Or.inl (Or.inl (List.mem_append_right _ hp))
    · exact Or.inl (Or.inr (Or.inr hp))
  · rcases h.entered with ⟨bus, hbus, htracks⟩
    exact ⟨bus, hbus, htracks.quiet (fun _ => rfl) (by simp)⟩

/-- Clearing the composite stage discards what it holds. -/
theorem FateInv.clear {active : List String} {call : RouterCall} (h : FateInv first router)
    (hmoves : Moves router router' router.immediateStage router.deferredNextEpoch
      router.deferredReady [] active
      (clearEvents call (router.compositeExternalStage.map StagedRoutedPublication.publication)))
    (hchannels : router'.channels = router.channels) : FateInv first router' := by
  refine ⟨h.fate_extend hmoves.trace ?_ ?_, ?_⟩
  · intro tag channelId kind composite hmem
    rcases List.mem_append.mp hmem with hmem | hmem
    · exact not_mem_tagEvents (by simp) _ hmem
    · simp at hmem
  · intro p hp tag htag
    rw [mem_held, hmoves.ready, hmoves.next, hmoves.immediate]
    rcases mem_held.mp hp with hp | hp | hp | ⟨s, hs, rfl⟩
    · exact Or.inl (Or.inl hp)
    · exact Or.inl (Or.inr (Or.inl hp))
    · exact Or.inl (Or.inr (Or.inr (Or.inl hp)))
    · right
      rw [hmoves.trace]
      refine Or.inr (Or.inr (List.mem_append_right _ (List.mem_append_left _ ?_)))
      exact List.mem_filterMap.mpr
        ⟨s.publication, List.mem_map.mpr ⟨s, hs, rfl⟩, by rw [htag]; rfl⟩
  · rcases h.entered with ⟨bus, hbus, htracks⟩
    refine ⟨bus, hchannels.trans hbus, ?_⟩
    rw [hmoves.trace]
    exact htracks.quiet (fun _ => rfl) (not_handed_clearEvents _ _)

/-- A new region settles what an earlier one has left by discarding it. -/
theorem FateInv.beginCompositeRegion (h : FateInv first router) (components : List String) :
    FateInv first (router.beginCompositeRegion components) :=
  h.clear (router.beginCompositeRegion_moves components) rfl

theorem failed_discardCompositeRegionOutputs (router : RuntimePublicationRouter) :
    router.discardCompositeRegionOutputs.metrics.failedCommitCount =
      router.metrics.failedCommitCount := by
  unfold discardCompositeRegionOutputs close cancelAsync
  dsimp only
  split_ifs <;> rfl

/-- Discarding settles the outputs of the region. -/
theorem FateInv.discardCompositeRegionOutputs (h : FateInv first router) :
    FateInv first router.discardCompositeRegionOutputs :=
  h.clear router.discardCompositeRegionOutputs_moves (channels_discardCompositeRegionOutputs router)

/-- What a component reads from the bus decides nothing. -/
theorem FateInv.read (h : FateInv first router) (read : BusRead) :
    FateInv first (router.useBus clock read.1) := by
  refine ⟨h.fate, ?_⟩
  rcases h.entered with ⟨bus, hbus, htracks⟩
  refine ⟨(read.1.exec clock bus).2, ?_, fun channelId tag hfirst => ?_⟩
  · unfold useBus
    rw [hbus]
    rfl
  · exact ((read.sameStored clock bus).enteredAs_iff channelId tag).trans
      (htracks channelId tag hfirst)

/-- A publish that is refused stages nothing that would have to be settled. -/
theorem FateInv.refused (h : FateInv first router) (hrefused : Refused router router') :
    FateInv first router' := by
  refine ⟨?_, ?_⟩
  · rw [hrefused.trace]
    intro tag channelId kind composite hfirst hmem
    have hheld : router'.held = router.held := by
      unfold held
      rw [hrefused.ready, hrefused.next, hrefused.immediate, hrefused.composite]
    rw [hheld]
    exact h.fate tag channelId kind composite hfirst hmem
  · rw [hrefused.trace, hrefused.channels]
    exact h.entered

/-- What is dropped is settled, and the others are where they were. -/
theorem FateInv.thinned {dropped : List RuntimeChannelPublication} (h : FateInv first router)
    (hthinned : Thinned router router' dropped) : FateInv first router' := by
  refine ⟨h.fate_extend hthinned.trace (fun _ _ _ _ => not_mem_tagEvents (by simp) _) ?_, ?_⟩
  · intro p hp tag htag
    refine (hthinned.kept p hp).imp_right fun hp => ?_
    rw [hthinned.trace]
    refine Or.inr (Or.inl ⟨hthinned.async p hp, List.mem_append_right _ ?_⟩)
    exact List.mem_filterMap.mpr ⟨p, hp, by rw [htag]; rfl⟩
  · rcases h.entered with ⟨bus, hbus, htracks⟩
    refine ⟨bus, hthinned.channels.trans hbus, ?_⟩
    rw [hthinned.trace]
    exact htracks.quiet (fun _ => rfl) fun _ _ _ => not_mem_tagEvents (by simp) _

/-- What is staged is held from now on. -/
theorem FateInv.stage (h : FateInv first router) (edge : RoutedEdge) (publish : Publish) :
    FateInv first (router.stage edge (publicationFor publish edge)) := by
  rcases router.stage_adds edge (publicationFor publish edge) with
    ⟨immediate, next, composite, hadds⟩
  refine ⟨?_, ?_⟩
  · intro tag channelId kind composite hfirst hmem
    rw [hadds.trace] at hmem ⊢
    rcases List.mem_append.mp hmem with hmem | hmem
    · rcases h.fate tag channelId kind composite hfirst hmem with
        hsettled | ⟨p, hp, htag, hid, hkind⟩
      · exact Or.inl (hsettled.append _)
      · exact Or.inr ⟨p, mem_held_stage_iff.mpr (Or.inl hp), htag, hid, hkind⟩
    · -- the publication staged here
      rw [List.mem_singleton] at hmem
      cases hmem
      exact Or.inr ⟨_, mem_held_stage_iff.mpr (Or.inr rfl), rfl, rfl, rfl⟩
  · rcases h.entered with ⟨bus, hbus, htracks⟩
    refine ⟨bus, hadds.channels.trans hbus, ?_⟩
    rw [hadds.trace]
    exact htracks.quiet (fun _ => rfl) (by simp)

end RuntimePublicationRouter

end TopoExec
