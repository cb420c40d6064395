import TopoExec.Channel.Batch
import TopoExec.Channel.Wiring
import TopoExec.Router.Staging

/-! # Why a commit fails

The router hands to the bus only what belongs there: publications with a payload, for
channels that the bus has. So a commit fails only where a channel refuses: its queue is
full and its policy does not make room, or it would have to copy a large payload.
-/

namespace TopoExec

/-- The channel may answer with this reason. -/
inductive ChannelConfig.Refuses (config : ChannelConfig) : String → Prop where
  | full {reason : String} {isDrop : Bool} (htype : config.type.isLatestStyle = false)
      (h : config.dropPolicy.refusal = some (reason, isDrop)) : config.Refuses reason
  | largePayload {payload : RuntimePayload} (hcopy : config.copyPolicy = .copy)
      (h : largePayloadCopyReason payload ≠ "") :
      config.Refuses (largePayloadCopyReason payload)

/-- A payload is refused only where the channel copies and it is too large for that. -/
theorem preflightPayload_refuses {config : ChannelConfig} {s : ChannelState}
    {payload : RuntimePayload}
    (h : (preflightPayloadForState config s payload).1.accepted = false) :
    config.Refuses (preflightPayloadForState config s payload).1.reason := by
  unfold preflightPayloadForState at h ⊢
  dsimp only at h ⊢
  split_ifs at h ⊢ with hcopy hreason
  exact .largePayload (not_not.mp hcopy) hreason

/-- A publication is refused only by a queue whose drop policy refuses. -/
theorem preflightPublish_refuses {config : ChannelConfig} {s : ChannelState} {planned : Nat}
    (h : (preflightPublishToState config s planned).1.accepted = false) :
    config.Refuses (preflightPublishToState config s planned).1.reason := by
  unfold preflightPublishToState at h ⊢
  split_ifs at h ⊢ with hroom
  rw [Bool.or_eq_true, not_or] at hroom
  cases hrefusal : config.dropPolicy.refusal with
  | none =>
      rw [hrefusal] at h
      cases h
  | some refusal => exact .full (Bool.eq_false_iff.mpr hroom.1) hrefusal

namespace RuntimeChannelBus

variable (clock : Nat → Int)

/-- The preflight of one publication refuses for a reason of its channel. -/
theorem preflightOne_refuses {s : Preflight} {payload : RuntimePayload} {id : String}
    (h : (preflightOne clock s payload id).1.accepted = false) :
    (s.bus.config id).Refuses (preflightOne clock s payload id).1.reason := by
  unfold preflightOne at h ⊢
  dsimp only at h ⊢
  split_ifs at h ⊢ with hpayload hcapacity
  · rw [Bool.not_eq_true'] at hpayload
    exact preflightPayload_refuses hpayload
  · rw [Bool.not_eq_true'] at hcapacity
    exact preflightPublish_refuses hcapacity

/-- The preflight of a list refuses for a reason of one of its channels. -/
theorem preflightAll_refuses {publications : List ExpandedPublication} {s : Preflight}
    (h : (preflightAll clock publications s).1.accepted = false) :
    ∃ publication ∈ publications,
      (s.bus.config publication.channelId).Refuses
        (preflightAll clock publications s).1.reason := by
  induction publications generalizing s with
  | nil => cases h
  | cons publication rest ih =>
      unfold preflightAll at h ⊢
      dsimp only at h ⊢
      split_ifs at h ⊢ with haccepted
      · obtain ⟨refused, hrefused, hreason⟩ := ih h
        have hevolves : Evolves anyStep s.bus _ :=
          preflightOne_evolves clock trivial s publication.payload publication.channelId
        rw [hevolves.config] at hreason
        exact ⟨refused, List.mem_cons_of_mem _ hrefused, hreason⟩
      · exact ⟨publication, List.mem_cons_self, preflightOne_refuses clock h⟩

/-- The publication goes to one of the channels. -/
structure Routable (bus : RuntimeChannelBus) (publication : RuntimeChannelPublication) : Prop where
  target : publication.target = .channel
  known : publication.id ∈ bus.channelIds
  payload : publication.payload ≠ none

/-- A publication that the router makes names a channel, so it stands for one. -/
theorem Routable.expand {bus : RuntimeChannelBus} {publication : RuntimeChannelPublication}
    (h : bus.Routable publication) : ∃ expanded, bus.expand publication = .ok [expanded] ∧
      expanded.channelId = publication.id := by
  unfold RuntimeChannelBus.expand
  cases hpayload : publication.payload with
  | none => exact absurd hpayload h.payload
  | some payload =>
      rw [h.target]
      dsimp only
      rw [if_neg (not_not.mpr h.known)]
      exact ⟨_, rfl, rfl⟩

/-- The preflight of a batch refuses for a reason of one of its channels. -/
theorem preflightBatch_refuses {publications : List RuntimeChannelPublication} {s : Preflight}
    (hroutable : ∀ publication ∈ publications, s.bus.Routable publication)
    (h : (preflightBatch clock publications s).1.accepted = false) :
    ∃ publication ∈ publications,
      (s.bus.config publication.id).Refuses (preflightBatch clock publications s).1.reason := by
  induction publications generalizing s with
  | nil => cases h
  | cons publication rest ih =>
      obtain ⟨expanded, hexpand, hid⟩ := (hroutable publication List.mem_cons_self).expand
      unfold preflightBatch at h ⊢
      rw [hexpand] at h ⊢
      dsimp only at h ⊢
      have hevolves : Evolves anyStep s.bus (preflightAll clock [expanded] s).2.bus :=
        preflightAll_evolves clock trivial [expanded] s
      split_ifs at h ⊢ with haccepted
      · have hrest : ∀ other ∈ rest, (preflightAll clock [expanded] s).2.bus.Routable other := by
          intro other hother
          obtain ⟨htarget, hknown, hpayload⟩ := hroutable other (List.mem_cons_of_mem _ hother)
          exact ⟨htarget, hevolves.channelIds ▸ hknown, hpayload⟩
        obtain ⟨refused, hrefused, hreason⟩ := ih hrest h
        rw [hevolves.config] at hreason
        exact ⟨refused, List.mem_cons_of_mem _ hrefused, hreason⟩
      · obtain ⟨refused, hrefused, hreason⟩ :=
          preflightAll_refuses clock (Bool.eq_false_iff.mpr haccepted)
        rw [List.mem_singleton] at hrefused
        rw [hrefused, hid] at hreason
        exact ⟨publication, List.mem_cons_self, hreason⟩

/-- It is the preflight that refuses. -/
theorem publishBatch_refuses {bus : RuntimeChannelBus}
    {publications : List RuntimeChannelPublication}
    (hroutable : ∀ publication ∈ publications, bus.Routable publication)
    (h : (bus.publishBatch clock publications).1.accepted = false) :
    ∃ publication ∈ publications,
      (bus.config publication.id).Refuses (bus.publishBatch clock publications).1.reason := by
  have hpreflight := (publishBatch_allOrNothing clock bus publications).1.symm.trans h
  have hreason : (bus.publishBatch clock publications).1 =
      (preflightBatch clock publications { bus := bus }).1 := by
    unfold publishBatch
    dsimp only
    rw [hpreflight, if_neg (by decide)]
  rw [hreason]
  exact preflightBatch_refuses clock hroutable hpreflight

end RuntimeChannelBus

/-! ## The router of a list of edges -/

variable {specs : List EdgeSpec}

/-- The channels of the bus are the edges of the specification. -/
theorem mem_channelIds_ofEdges {id : String} :
    id ∈ (RuntimeChannelBus.ofEdges specs).channelIds ↔ id ∈ specs.map EdgeSpec.id := by
  induction specs using List.reverseRecOn with
  | nil => rfl
  | append_singleton specs last ih =>
      rw [RuntimeChannelBus.ofEdges_concat, List.map_append, List.mem_append, ← ih]
      unfold RuntimeChannelBus.addEdge
      dsimp only
      split_ifs with hknown
      · constructor
        · exact Or.inl
        · rintro (hold | hnew)
          · exact hold
          · rw [List.mem_singleton.mp hnew]
            exact hknown
      · rw [List.mem_append]
        rfl

/-- Every channel has the configuration of an edge. -/
theorem exists_config_ofEdges {id : String} (hid : id ∈ specs.map EdgeSpec.id) :
    ∃ spec ∈ specs, (RuntimeChannelBus.ofEdges specs).config id = .ofEdge spec := by
  induction specs using List.reverseRecOn with
  | nil => cases hid
  | append_singleton specs last ih =>
      rw [RuntimeChannelBus.ofEdges_concat]
      by_cases hlast : id = last.id
      · refine ⟨last, List.mem_append_right _ (List.mem_singleton_self last), ?_⟩
        rw [hlast]
        exact Function.update_self last.id _ _
      · have hold : id ∈ specs.map EdgeSpec.id := by
          simpa [hlast] using hid
        obtain ⟨spec, hspec, hconfig⟩ := ih hold
        refine ⟨spec, List.mem_append_left _ hspec, ?_⟩
        rw [← hconfig]
        exact Function.update_of_ne hlast _ _

/-- One of the channels may answer with this reason. -/
def EdgeRefuses (specs : List EdgeSpec) (reason : String) : Prop :=
  ∃ spec ∈ specs, (ChannelConfig.ofEdge spec).Refuses reason

namespace RuntimePublicationRouter

variable {router : RuntimePublicationRouter} {clock : Nat → Int}

/-- What holds of whatever is staged holds of whatever waits. -/
theorem held_exec {Q : RuntimeChannelPublication → Prop}
    (hQ : ∀ (router : RuntimePublicationRouter) publish edge,
      Q (router.numbered (publicationFor publish edge)))
    (h : ∀ p ∈ router.held, Q p) (op : RouterOp) : ∀ p ∈ (op.exec clock router).held, Q p := by
  -- only a publish adds to the lists, and what it adds is numbered for an edge
  cases op with
  | publish sourceEndpoint payload metadata eventTimestamp =>
      refine publish_invariant (P := fun r => ∀ p ∈ r.held, Q p) ?_ ?_ h
      · intro edges publish _ r r' edge _ hadmission hr p hp
        obtain ⟨dropped, hthinned⟩ := hadmission.thinned
        rcases mem_held_stage_iff.mp hp with hold | rfl
        · exact hr p (hthinned.held_subset hold)
        · exact hQ r' publish edge
      · intro r r' hrefused hr
        rw [hrefused.held_eq]
        exact hr
  | beginEpoch =>
      obtain ⟨events, -, hmoves⟩ := router.beginEpoch_moves clock
      exact fun p hp => h p (hmoves.held_subset (by simp) (by simp) (by simp) (by simp) hp)
  | commitImmediate =>
      obtain ⟨events, -, hmoves⟩ := router.commitImmediate_moves clock
      exact fun p hp => h p (hmoves.held_subset (by simp) (by simp) (by simp) (by simp) hp)
  | endEpoch =>
      exact fun p hp =>
        h p (router.endEpoch_moves.held_subset (by simp) (by simp) (by simp) (by simp) hp)
  | beginCompositeRegion components =>
      exact fun p hp => h p ((router.beginCompositeRegion_moves components).held_subset (by simp)
        (by simp) (by simp) (by simp) hp)
  | commitCompositeRegionOutputs =>
      obtain ⟨events, -, hmoves⟩ := router.commitCompositeRegionOutputs_moves clock
      exact fun p hp => h p (hmoves.held_subset (by simp) (by simp) (by simp) (by simp) hp)
  | discardCompositeRegionOutputs =>
      exact fun p hp => h p (router.discardCompositeRegionOutputs_moves.held_subset (by simp)
        (by simp) (by simp) (by simp) hp)
  | useBus op =>
      exact fun p hp => h p ((router.useBus_moves op).held_subset (by simp) (by simp) (by simp)
        (by simp) hp)

/-- A router with the bus of its edges. -/
structure OfGraph (specs : List EdgeSpec) (router : RuntimePublicationRouter) : Prop where
  bus : ∃ bus, router.channels = some bus ∧ Evolves anyStep (.ofEdges specs) bus
  staging : StagingInv specs router
  payloads : ∀ p ∈ router.held, p.payload ≠ none

/-- A new router belongs to the graph. -/
theorem ofEdges_ofGraph (specs : List EdgeSpec) :
    OfGraph specs (.ofEdges (some (.ofEdges specs)) specs) := by
  refine ⟨⟨_, rfl, .refl _⟩, ofEdges_stagingInv _ specs, ?_⟩
  intro p hp
  exact absurd hp List.not_mem_nil

/-- What a router of the graph holds is for a channel of the bus. -/
theorem OfGraph.routable (h : OfGraph specs router) {bus : RuntimeChannelBus}
    (hevolves : Evolves anyStep (.ofEdges specs) bus) {p : RuntimeChannelPublication}
    (hp : p ∈ router.held) : bus.Routable p := by
  have hnumbered := h.staging.numbered p hp
  obtain ⟨spec, hspec, hid, -⟩ := hnumbered.edge
  refine ⟨hnumbered.target, ?_, h.payloads p hp⟩
  rw [hevolves.channelIds, mem_channelIds_ofEdges, hid]
  exact List.mem_map_of_mem hspec

/-- A commit of publications that waited in the router. -/
theorem OfGraph.commitBatch_refuses (h : OfGraph specs router)
    (committing : RuntimePublicationRouter) {bus : RuntimeChannelBus}
    (hbus : committing.channels = some bus) (hevolves : Evolves anyStep (.ofEdges specs) bus)
    {call : RouterCall} {publications : List RuntimeChannelPublication}
    (hheld : ∀ p ∈ publications, p ∈ router.held)
    (hrejected : (committing.commitBatch clock call publications).1.accepted = false) :
    EdgeRefuses specs (committing.commitBatch clock call publications).1.reason := by
  have hresult : publications ≠ [] ∧ (committing.commitBatch clock call publications).1 =
      (bus.publishBatch clock publications).1 := by
    unfold commitBatch at hrejected ⊢
    split_ifs at hrejected ⊢ with hempty
    rw [hbus]
    refine ⟨fun hnil => hempty (List.isEmpty_iff.mpr hnil), ?_⟩
    dsimp only
    split_ifs <;> rfl
  rw [hresult.2] at hrejected ⊢
  obtain ⟨p, hp, hreason⟩ := RuntimeChannelBus.publishBatch_refuses clock
    (fun p hp => h.routable hevolves (hheld p hp)) hrejected
  have hknown : p.id ∈ specs.map EdgeSpec.id := by
    rw [← mem_channelIds_ofEdges, ← hevolves.channelIds]
    exact (h.routable hevolves (hheld p hp)).known
  obtain ⟨spec, hspec, hconfig⟩ := exists_config_ofEdges hknown
  rw [hevolves.config, hconfig] at hreason
  exact ⟨spec, hspec, hreason⟩

/-- A failed `commit_immediate` has the reason of an edge. -/
theorem OfGraph.commitImmediate_refuses (h : OfGraph specs router)
    (hrejected : (router.commitImmediate clock).1.accepted = false) :
    EdgeRefuses specs (router.commitImmediate clock).1.reason := by
  obtain ⟨bus, hbus, hevolves⟩ := h.bus
  refine h.commitBatch_refuses { router with immediateStage := [] } hbus hevolves ?_ hrejected
  exact fun p hp => mem_held.mpr (Or.inr (Or.inr (Or.inl hp)))

/-- A failed `begin_epoch` has the reason of an edge. -/
theorem OfGraph.beginEpoch_refuses (h : OfGraph specs router)
    (hrejected : (router.beginEpoch clock).1.accepted = false) :
    EdgeRefuses specs (router.beginEpoch clock).1.reason := by
  obtain ⟨bus, hbus, hevolves⟩ := h.bus
  have hadvanced := hevolves.trans (RuntimeChannelBus.advanceEpoch_evolves trivial bus)
  refine h.commitBatch_refuses
    { router with
      channels := router.channels.map RuntimeChannelBus.advanceEpoch, deferredReady := [] }
    (by rw [hbus, Option.map_some]) hadvanced ?_ hrejected
  exact fun p hp => mem_held.mpr (Or.inl hp)

/-- A failed composite commit has the reason of an edge. -/
theorem OfGraph.commitCompositeRegionOutputs_refuses (h : OfGraph specs router)
    (hrejected : (router.commitCompositeRegionOutputs clock).1.accepted = false) :
    EdgeRefuses specs (router.commitCompositeRegionOutputs clock).1.reason := by
  obtain ⟨bus, hbus, hevolves⟩ := h.bus
  unfold commitCompositeRegionOutputs at hrejected ⊢
  dsimp only at hrejected ⊢
  refine h.commitBatch_refuses _ ?_ hevolves ?_ hrejected
  · exact hbus
  · intro p hp
    obtain ⟨staged, hstaged, rfl⟩ := List.mem_map.mp hp
    exact mem_held.mpr (Or.inr (Or.inr (Or.inr ⟨staged, List.mem_of_mem_filter hstaged, rfl⟩)))

end RuntimePublicationRouter

end TopoExec
