import TopoExec.Channel.Stamps
import TopoExec.Router.Fate
import TopoExec.Runtime.History

/-! # Where a message comes from

Every publication that waits in the router, and every message that a channel has
stored, belongs to the publish call that took its number. On the way from the call to
the channel the correlation and the transaction stay what they are, if the call has
them: each place fills in what is still empty and nothing else.
-/

namespace TopoExec

open RuntimePublicationRouter

variable {clock : Nat → Int} {router router' : RuntimePublicationRouter}

/-! ## Calls that publish nothing -/

/-- Nothing new is staged, and what is new in a channel was staged before. -/
structure HandsOn (router router' : RuntimePublicationRouter) : Prop where
  staged : router'.metrics.stagedCount = router.metrics.stagedCount
  held : router'.held ⊆ router.held
  stored : (∀ p ∈ router.held, p.target = .channel) → ∀ bus' ∈ router'.channels, ∀ id,
    ∀ message ∈ (bus'.channels id).ledger.stored,
      (∃ bus ∈ router.channels, message ∈ (bus.channels id).ledger.stored) ∨
        ∃ p ∈ router.held, PublishedAs p message

/-- A commit takes from the publications that waited in `before`. -/
theorem RuntimePublicationRouter.Commits.stored {call : RouterCall}
    {publications : List RuntimeChannelPublication} {accepted : Bool}
    (h : Commits clock call publications router accepted router')
    {before : RuntimePublicationRouter} (hwaited : publications ⊆ before.held)
    (htarget : ∀ p ∈ before.held, p.target = .channel) :
    ∀ bus' ∈ router'.channels, ∀ id, ∀ message ∈ (bus'.channels id).ledger.stored,
      (∃ bus ∈ router.channels, message ∈ (bus.channels id).ledger.stored) ∨
        ∃ p ∈ before.held, PublishedAs p message := by
  intro bus' hbus' id message hmessage
  cases h with
  | empty _ => exact Or.inl ⟨bus', hbus', hmessage⟩
  | noBus _ => exact Or.inl ⟨bus', hbus', hmessage⟩
  | @accepted bus hbus _ | @rejected bus hbus _ =>
      cases hbus'
      rcases RuntimeChannelBus.publishBatch_stored clock (fun p hp => htarget p (hwaited hp))
          hmessage with hold | ⟨p, hp, hpublished⟩
      · exact Or.inl ⟨bus, hbus, hold⟩
      · exact Or.inr ⟨p, hwaited hp, hpublished⟩

/-- A bus that stores nothing hands nothing on. -/
theorem stored_of_sameStored {f : RuntimeChannelBus → RuntimeChannelBus}
    (hchannels : router'.channels = router.channels.map f)
    (hsame : ∀ bus, SameStored bus (f bus)) : ∀ bus' ∈ router'.channels, ∀ id,
    ∀ message ∈ (bus'.channels id).ledger.stored,
      ∃ bus ∈ router.channels, message ∈ (bus.channels id).ledger.stored := by
  intro bus' hbus' id message hmessage
  rw [hchannels, Option.mem_map] at hbus'
  obtain ⟨bus, hbus, rfl⟩ := hbus'
  rw [hsame bus id] at hmessage
  exact ⟨bus, hbus, hmessage⟩

/-- `commit_immediate` hands on what was staged. -/
theorem commitImmediate_handsOn (clock : Nat → Int) (router : RuntimePublicationRouter) :
    HandsOn router (router.commitImmediate clock).2 := by
  obtain ⟨events, -, hmoves⟩ := router.commitImmediate_moves clock
  refine ⟨hmoves.staged, hmoves.held_subset (by simp) (by simp) (by simp) (by simp), ?_⟩
  intro htarget bus' hbus' id message hmessage
  have hstage : router.immediateStage ⊆ router.held := fun p hp =>
    mem_held.mpr (Or.inr (Or.inr (Or.inl hp)))
  have hcommits := commitBatch_commits clock { router with immediateStage := [] } .commitImmediate
    router.immediateStage
  exact hcommits.stored hstage htarget bus' hbus' id message hmessage

/-- `begin_epoch` hands on what was ready. -/
theorem beginEpoch_handsOn (clock : Nat → Int) (router : RuntimePublicationRouter) :
    HandsOn router (router.beginEpoch clock).2 := by
  obtain ⟨events, -, hmoves⟩ := router.beginEpoch_moves clock
  refine ⟨hmoves.staged, hmoves.held_subset (by simp) (by simp) (by simp) (by simp), ?_⟩
  intro htarget bus' hbus' id message hmessage
  have hready : router.deferredReady ⊆ router.held := fun p hp => mem_held.mpr (Or.inl hp)
  obtain ⟨router', inFlight, completions, hcommits, heq⟩ := router.beginEpoch_commits clock
  rw [heq] at hbus'
  rcases hcommits.stored hready htarget bus' hbus' id message hmessage with
    ⟨bus, hbus, hold⟩ | hnew
  · -- the channels have advanced before the commit
    exact Or.inl (stored_of_sameStored rfl advanceEpoch_sameStored bus hbus id message hold)
  · exact Or.inr hnew

/-- The outputs of a region are handed on or deferred. -/
theorem commitCompositeRegionOutputs_handsOn (clock : Nat → Int)
    (router : RuntimePublicationRouter) :
    HandsOn router (router.commitCompositeRegionOutputs clock).2 := by
  obtain ⟨events, -, hmoves⟩ := router.commitCompositeRegionOutputs_moves clock
  refine ⟨hmoves.staged, hmoves.held_subset (by simp) (by simp) (by simp) (by simp), ?_⟩
  intro htarget bus' hbus' id message hmessage
  have hstage : router.compositeOf true ⊆ router.held := by
    intro p hp
    obtain ⟨s, hs, -, rfl⟩ := mem_compositeOf.mp hp
    exact mem_held.mpr (Or.inr (Or.inr (Or.inr ⟨s, hs, rfl⟩)))
  obtain ⟨router', hcommits, heq⟩ := router.commitCompositeRegionOutputs_commits clock
  rw [heq] at hbus'
  exact hcommits.stored hstage htarget bus' hbus' id message hmessage

/-- The publications move on and the bus stays as it is. -/
theorem HandsOn.sameBus (hstaged : router'.metrics.stagedCount = router.metrics.stagedCount)
    (hheld : router'.held ⊆ router.held) (hchannels : router'.channels = router.channels) :
    HandsOn router router' := by
  refine ⟨hstaged, hheld, ?_⟩
  intro _ bus' hbus' id message hmessage
  rw [hchannels] at hbus'
  exact Or.inl ⟨bus', hbus', hmessage⟩

/-- A call that publishes nothing hands on what was staged. -/
theorem RunCall.handsOn (clock : Nat → Int) (router : RuntimePublicationRouter) {call : RunCall}
    (hquiet : call.publisher = none) : HandsOn router (call.exec clock router) := by
  cases call with
  | publish call => cases hquiet
  | read op =>
      refine ⟨rfl, fun p hp => hp, ?_⟩
      intro _ bus' hbus' id message hmessage
      exact Or.inl (stored_of_sameStored rfl (fun bus => BusRead.sameStored clock bus op) bus' hbus'
        id message hmessage)
  | commitImmediate => exact commitImmediate_handsOn clock router
  | beginEpoch => exact beginEpoch_handsOn clock router
  | endEpoch =>
      have hmoves := router.endEpoch_moves
      exact .sameBus hmoves.staged
        (hmoves.held_subset (by simp) (by simp) (by simp) (by simp)) rfl
  | beginCompositeRegion components =>
      have hmoves := router.beginCompositeRegion_moves components
      exact .sameBus hmoves.staged
        (hmoves.held_subset (by simp) (by simp) (by simp) (by simp)) rfl
  | commitCompositeRegionOutputs => exact commitCompositeRegionOutputs_handsOn clock router
  | discardCompositeRegionOutputs =>
      have hmoves := router.discardCompositeRegionOutputs_moves
      exact .sameBus hmoves.staged
        (hmoves.held_subset (by simp) (by simp) (by simp) (by simp))
        (channels_discardCompositeRegionOutputs router)
  | reach point => exact .sameBus rfl (fun p hp => hp) rfl

/-! ## The call behind a number -/

/-- What the publication keeps of the call that staged it. -/
structure StagedFor (call : ComponentPublish) (publication : RuntimeChannelPublication) : Prop where
  target : publication.target = .channel
  payload : publication.payload = call.payload
  eventTimestamp : publication.eventTimestamp = call.eventTimestamp
  correlation : publication.metadata.correlationId = call.metadata.correlationId
  transaction : publication.metadata.transactionId =
    orElse call.metadata.transactionId call.metadata.correlationId

/-- What the message keeps of the call that it was stored for: it belongs to the
correlation and the transaction of the invocation, or begins its own. -/
structure StoredFor (call : ComponentPublish) (message : RuntimeChannelMessage) : Prop where
  payload : call.payload = some message.payload
  eventTimestamp : message.eventTimestamp = call.eventTimestamp
  correlation : message.metadata.correlationId =
    orElse call.metadata.correlationId message.ownId
  transaction : message.metadata.transactionId =
    orElse (orElse call.metadata.transactionId call.metadata.correlationId)
      message.metadata.correlationId

/-- What is stored for a publication is stored for its call. -/
theorem StagedFor.stored {call : ComponentPublish} {publication : RuntimeChannelPublication}
    {message : RuntimeChannelMessage} (h : StagedFor call publication)
    (hpublished : PublishedAs publication message) : StoredFor call message where
  payload := h.payload.symm.trans hpublished.payload
  eventTimestamp := hpublished.eventTimestamp.trans h.eventTimestamp
  correlation := by rw [hpublished.correlation, h.correlation]
  transaction := by rw [hpublished.transaction, h.transaction]

/-- Every publication that waits and every message that is stored has a number, and the
call behind it. -/
structure Traced (s : Played) : Prop where
  counted : s.publishers.length = s.router.metrics.stagedCount
  held : ∀ p ∈ s.router.held, ∃ tag call, p.tag = some tag ∧ s.publishers[tag]? = some call ∧
    StagedFor call p
  stored : ∀ bus ∈ s.router.channels, ∀ id, ∀ message ∈ (bus.channels id).ledger.stored,
    ∃ tag call, message.tag = some tag ∧ s.publishers[tag]? = some call ∧ StoredFor call message

variable {s : Played}

/-- Handing on keeps every message's call. -/
theorem Traced.handsOn (h : Traced s) (hrouter : HandsOn s.router router') :
    Traced { s with router := router' } := by
  have htarget : ∀ p ∈ s.router.held, p.target = .channel := by
    intro p hp
    obtain ⟨_, _, _, _, hstaged⟩ := h.held p hp
    exact hstaged.target
  refine ⟨h.counted.trans hrouter.staged.symm, fun p hp => h.held p (hrouter.held hp), ?_⟩
  intro bus' hbus' id message hmessage
  rcases hrouter.stored htarget bus' hbus' id message hmessage with
    ⟨bus, hbus, hold⟩ | ⟨p, hp, hpublished⟩
  · exact h.stored bus hbus id message hold
  · obtain ⟨tag, call, htag, hcall, hstaged⟩ := h.held p hp
    exact ⟨tag, call, hpublished.tag.trans htag, hcall, hstaged.stored hpublished⟩

/-- The numbers given out so far keep their calls. -/
theorem getElem?_of_concat {α : Type} {l : List α} {a b : α} {i : Nat} (h : l[i]? = some a) :
    (l ++ [b])[i]? = some a := by
  rw [List.getElem?_append_left (List.getElem?_eq_some_iff.mp h).1]
  exact h

/-- Staging for an edge gives the next number to the call. -/
theorem Traced.stage (h : Traced s) {edge : RoutedEdge} {call : ComponentPublish}
    {publication : RuntimeChannelPublication} (hcall : StagedFor call publication) :
    Traced { router := s.router.stage edge publication, publishers := s.publishers ++ [call] } := by
  have hnew : (s.publishers ++ [call])[s.router.metrics.stagedCount]? = some call := by
    rw [← h.counted, List.getElem?_concat_length]
  obtain ⟨immediate, next, composite, hadds⟩ := s.router.stage_adds edge publication
  refine ⟨?_, ?_, ?_⟩
  · rw [List.length_append, List.length_singleton, hadds.staged, h.counted]
  · intro p hp
    rcases mem_held_stage_iff.mp hp with hold | rfl
    · obtain ⟨tag, other, htag, hother, hstaged⟩ := h.held p hold
      exact ⟨tag, other, htag, getElem?_of_concat hother, hstaged⟩
    · exact ⟨_, call, rfl, hnew, ⟨hcall.target, hcall.payload, hcall.eventTimestamp,
        hcall.correlation, hcall.transaction⟩⟩
  · intro bus hbus id message hmessage
    rw [hadds.channels] at hbus
    obtain ⟨tag, other, htag, hother, hstored⟩ := h.stored bus hbus id message hmessage
    exact ⟨tag, other, htag, getElem?_of_concat hother, hstored⟩

/-- What an edge gets of a publish call. -/
theorem publicationFor_stagedFor (call : ComponentPublish) {value : RuntimePayload}
    (hvalue : call.payload = some value) (edge : RoutedEdge) :
    StagedFor call (publicationFor
      { sourceEndpoint := endpointOf call.componentId call.port
        payload := value
        metadata := publicationMetadataFor call.componentId call.port call.metadata
        eventTimestamp := call.eventTimestamp } edge) :=
  ⟨rfl, hvalue.symm, rfl, rfl, rfl⟩

/-- The numbers taken since `s` stand for the call. -/
def Played.taking (s : Played) (call : ComponentPublish) (router : RuntimePublicationRouter) :
    Played where
  router := router
  publishers := s.publishers ++
    List.replicate (router.metrics.stagedCount - s.router.metrics.stagedCount) call

variable {call : ComponentPublish}

/-- A step that stages nothing takes no number. -/
theorem Traced.taking_sameBus (h : Traced (s.taking call router))
    (hstaged : router'.metrics.stagedCount = router.metrics.stagedCount)
    (hheld : router'.held ⊆ router.held) (hchannels : router'.channels = router.channels) :
    Traced (s.taking call router') := by
  have hkept := h.handsOn (.sameBus hstaged hheld hchannels)
  simpa [Played.taking, hstaged] using hkept

/-- Each publication that is staged takes one. -/
theorem Traced.taking_stage (h : Traced (s.taking call router))
    (hcount : s.router.metrics.stagedCount ≤ router.metrics.stagedCount) {edge : RoutedEdge}
    {publication : RuntimeChannelPublication} (hcall : StagedFor call publication) :
    Traced (s.taking call (router.stage edge publication)) := by
  have hstaged : Traced
      { router := router.stage edge publication
        publishers := (s.taking call router).publishers ++ [call] } := h.stage hcall
  obtain ⟨immediate, next, composite, hadds⟩ := router.stage_adds edge publication
  have hone : router.metrics.stagedCount + 1 - s.router.metrics.stagedCount =
      (router.metrics.stagedCount - s.router.metrics.stagedCount) + 1 := by omega
  unfold Played.taking at hstaged ⊢
  rw [hadds.staged, hone, List.replicate_succ', ← List.append_assoc]
  exact hstaged

/-- A publish call is the origin of what it stages. -/
theorem Traced.publish (h : Traced s) (call : ComponentPublish) :
    Traced (s.taking call (call.exec s.router)) := by
  have hstart : Traced (s.taking call s.router) := by
    simpa [Played.taking] using h
  -- along the edges: no number is given back, and all those taken are the call's
  have hedges : s.router.metrics.stagedCount ≤ (call.exec s.router).metrics.stagedCount ∧
      Traced (s.taking call (call.exec s.router)) := by
    refine publish_rule (P := fun r => s.router.metrics.stagedCount ≤ r.metrics.stagedCount ∧
      Traced (s.taking call r)) ?_ ?_ ⟨Nat.le_refl _, hstart⟩
    · rintro edges value hvalue _ r r' edge _ hadmission ⟨hcount, hr⟩
      obtain ⟨dropped, hthinned⟩ := hadmission.thinned
      have hcount' : s.router.metrics.stagedCount ≤ r'.metrics.stagedCount := by
        rw [hthinned.staged]
        exact hcount
      generalize hpublication : publicationFor _ edge = publication
      have hfor : StagedFor call publication :=
        hpublication ▸ publicationFor_stagedFor call hvalue edge
      obtain ⟨immediate, next, composite, hadds⟩ := r'.stage_adds edge publication
      constructor
      · rw [hadds.staged]
        exact Nat.le_succ_of_le hcount'
      · exact (hr.taking_sameBus hthinned.staged hthinned.held_subset
          hthinned.channels).taking_stage hcount' hfor
    · rintro r r' hrefused ⟨hcount, hr⟩
      have hheld : r'.held ⊆ r.held := hrefused.held_eq ▸ List.Subset.refl _
      exact ⟨hrefused.staged.symm ▸ hcount,
        hr.taking_sameBus hrefused.staged hheld hrefused.channels⟩
  exact hedges.2

/-- Every call keeps the origins. -/
theorem Traced.after (h : Traced s) (clock : Nat → Int) (call : RunCall) :
    Traced (s.after clock call) := by
  cases hpublisher : call.publisher with
  | some made =>
      cases call with
      | publish call =>
          cases hpublisher
          simpa [Played.after, Played.taking, RunCall.publisher, RunCall.exec] using h.publish made
      | _ => cases hpublisher
  | none =>
      have hkept := h.handsOn (RunCall.handsOn clock s.router hpublisher)
      simpa [Played.after, hpublisher] using hkept

/-- In a new router and bus nothing waits and nothing is stored. -/
theorem traced_init (specs : List EdgeSpec) :
    Traced { router := .ofEdges (some (.ofEdges specs)) specs } := by
  refine ⟨rfl, ?_, ?_⟩
  · intro p hp
    cases hp
  · intro bus hbus id message hmessage
    cases hbus
    rw [channels_ofEdges] at hmessage
    cases hmessage

/-- By induction on the calls. -/
theorem play_traced (clock : Nat → Int) (calls : List RunCall) (specs : List EdgeSpec) :
    Traced (play clock calls (.ofEdges (some (.ofEdges specs)) specs)) :=
  play_invariant (traced_init specs) (fun _ call h => h.after clock call) calls

end TopoExec
