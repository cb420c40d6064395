import TopoExec.Channel.Step

/-! # Simulations of the bus

A relation between the states of one channel that no channel function can tell
apart (`ChannelSimulation`) lifts to the bus: two buses whose channels are related
answer every list of operations in the same way (`busOutputs_mirrors`).
-/

namespace TopoExec

/-- The same result, and related states. -/
def SameResult {α : Type} (R : ChannelState → ChannelState → Prop) (x y : α × ChannelState) :
    Prop :=
  y.1 = x.1 ∧ R x.2 y.2

/-- Related states of a channel give the same results and stay related. The
conditions on the type are those of `ChannelStep`. -/
structure ChannelSimulation (R : ChannelConfig → ChannelState → ChannelState → Prop) : Prop where
  preflightPayload : ∀ {config s t}, R config s t → ∀ payload, SameResult (R config)
    (preflightPayloadForState config s payload) (preflightPayloadForState config t payload)
  preflightPublish : ∀ {config s t}, R config s t → ∀ planned, SameResult (R config)
    (preflightPublishToState config s planned) (preflightPublishToState config t planned)
  preparePayload : ∀ {config s t}, R config s t → ∀ payload, SameResult (R config)
    (preparePayloadForState config s payload) (preparePayloadForState config t payload)
  publish : ∀ {config s t}, R config s t → ∀ now prepared, SameResult (R config)
    (publishToState config now s prepared) (publishToState config now t prepared)
  advance : ∀ {config s t}, R config s t →
    SameResult (R config) (advanceState config s) (advanceState config t)
  consumeLatest : ∀ {config s t}, config.type.isLatestStyle = true → R config s t →
    ∀ now readerId, SameResult (R config) (consumeLatestFromState config now readerId s)
      (consumeLatestFromState config now readerId t)
  snapshot : ∀ {config s t}, R config s t → ∀ now maxBatch, SameResult (R config)
    (snapshotFromState config now maxBatch s) (snapshotFromState config now maxBatch t)
  consume : ∀ {config s t}, config.type.isLatestStyle = false → R config s t →
    ∀ now readerId maxBatch, SameResult (R config)
      (consumeFromState config now readerId maxBatch s)
      (consumeFromState config now readerId maxBatch t)

namespace RuntimeChannelBus

/-- The bus with other channel states. -/
def withChannels (bus : RuntimeChannelBus) (channels : String → ChannelState) :
    RuntimeChannelBus :=
  { bus with channels := channels }

/-- The preflight of a bus with other channels. -/
def Preflight.withChannels (s : Preflight) (channels : String → ChannelState) : Preflight :=
  { s with bus := s.bus.withChannels channels }

variable {R : ChannelConfig → ChannelState → ChannelState → Prop}

/-- Channel by channel the states are related to those of the bus. -/
def RelatedTo (R : ChannelConfig → ChannelState → ChannelState → Prop) (bus : RuntimeChannelBus)
    (channels : String → ChannelState) : Prop :=
  ∀ id, R (bus.config id) (bus.channels id) (channels id)

/-- The same result, and the same bus up to related channels. -/
def Mirrors (R : ChannelConfig → ChannelState → ChannelState → Prop) {α : Type}
    (x y : α × RuntimeChannelBus) : Prop :=
  ∃ channels, y = (x.1, x.2.withChannels channels) ∧ RelatedTo R x.2 channels

theorem Mirrors.refl {α : Type} {bus : RuntimeChannelBus} {channels : String → ChannelState}
    (h : RelatedTo R bus channels) (result : α) :
    Mirrors R (result, bus) (result, bus.withChannels channels) :=
  ⟨channels, rfl, h⟩

/-- The results are mapped and the buses stay. -/
theorem Mirrors.map {α β : Type} {x y : α × RuntimeChannelBus} (h : Mirrors R x y) (f : α → β) :
    Mirrors R (f x.1, x.2) (f y.1, y.2) := by
  obtain ⟨channels, rfl, hrelated⟩ := h
  exact ⟨channels, rfl, hrelated⟩

variable (clock : Nat → Int)

/-- What is done to one channel is mirrored if that channel answers alike and stays related. -/
theorem onChannel_mirrors {α : Type} {bus : RuntimeChannelBus} {channels : String → ChannelState}
    (h : RelatedTo R bus channels) (id : String)
    {f : ChannelConfig → Int → ChannelState → α × ChannelState}
    (hf : ∀ now {s t}, R (bus.config id) s t →
      SameResult (R (bus.config id)) (f (bus.config id) now s) (f (bus.config id) now t)) :
    Mirrors R (bus.onChannel clock id f) ((bus.withChannels channels).onChannel clock id f) := by
  obtain ⟨hresult, hstate⟩ := hf (clock bus.moment) (h id)
  refine ⟨Function.update channels id
    (f (bus.config id) (clock bus.moment) (channels id)).2, Prod.ext hresult rfl, ?_⟩
  intro id'
  by_cases hid : id' = id
  · subst hid
    simp only [onChannel, Function.update_self]
    exact hstate
  · simp only [onChannel, Function.update_of_ne hid]
    exact h id'

/-! ## Publishing -/

section

variable (hR : ChannelSimulation R)

include hR

/-- A publication is accepted or refused on both sides. -/
theorem publishExpanded_mirrors {bus : RuntimeChannelBus} {channels : String → ChannelState}
    (h : RelatedTo R bus channels) (publication : ExpandedPublication) :
    Mirrors R (bus.publishExpanded clock publication)
      ((bus.withChannels channels).publishExpanded clock publication) := by
  obtain ⟨channels₁, hprepare, h₁⟩ := onChannel_mirrors clock h publication.channelId
    (f := fun config _ state => preparePayloadForState config state publication.payload)
    fun _ _ _ hs => hR.preparePayload hs publication.payload
  unfold publishExpanded
  rw [hprepare]
  dsimp only
  cases (bus.onChannel clock publication.channelId fun config _ state =>
      preparePayloadForState config state publication.payload).1 with
  | error reason => exact .refl h₁ _
  | ok prepared =>
      obtain ⟨channels₂, hpublish, h₂⟩ := onChannel_mirrors clock h₁ publication.channelId
        (f := fun config now state => publishToState config now state
          { payload := prepared.1
            payloadWasCopied := prepared.2
            eventTimestamp := publication.eventTimestamp
            metadata := publication.metadata
            tag := publication.tag })
        fun now _ _ hs => hR.publish hs now _
      dsimp only
      rw [hpublish]
      exact ⟨channels₂, rfl, h₂⟩

/-- The publications go in one after the other, on both sides. -/
theorem publishAll_mirrors (publications : List ExpandedPublication) {bus : RuntimeChannelBus}
    {channels : String → ChannelState} (h : RelatedTo R bus channels) :
    Mirrors R (publishAll clock publications bus)
      (publishAll clock publications (bus.withChannels channels)) := by
  induction publications generalizing bus channels with
  | nil => exact .refl h _
  | cons publication rest ih =>
      obtain ⟨channels₁, hone, h₁⟩ := publishExpanded_mirrors clock hR h publication
      unfold publishAll
      rw [hone]
      dsimp only
      split_ifs
      · exact ih h₁
      · exact .refl h₁ _

/-- A publish to one channel checks the payload and stores it. -/
theorem publishSharedWithMetadata_mirrors {bus : RuntimeChannelBus}
    {channels : String → ChannelState} (h : RelatedTo R bus channels) (channelId : String)
    (payload : Option RuntimePayload) (metadata : InvocationMetadata)
    (eventTimestamp : Option EventTimestamp) :
    Mirrors R (bus.publishSharedWithMetadata clock channelId payload metadata eventTimestamp)
      ((bus.withChannels channels).publishSharedWithMetadata clock channelId payload metadata
        eventTimestamp) := by
  have hids : (bus.withChannels channels).channelIds = bus.channelIds := rfl
  unfold publishSharedWithMetadata
  cases payload with
  | none => exact .refl h _
  | some payload =>
      dsimp only
      rw [hids]
      split_ifs
      · exact publishExpanded_mirrors clock hR h _
      · exact .refl h _

/-- The preflight of one publication counts on both sides the same. -/
theorem preflightOne_mirrors {s : Preflight} {channels : String → ChannelState}
    (h : RelatedTo R s.bus channels) (payload : RuntimePayload) (channelId : String) :
    ∃ channels', preflightOne clock (s.withChannels channels) payload channelId =
        ((preflightOne clock s payload channelId).1,
          (preflightOne clock s payload channelId).2.withChannels channels') ∧
      RelatedTo R (preflightOne clock s payload channelId).2.bus channels' := by
  obtain ⟨channels₁, hpayload, h₁⟩ := onChannel_mirrors clock h channelId
    (f := fun config _ state => preflightPayloadForState config state payload)
    fun _ _ _ hs => hR.preflightPayload hs payload
  obtain ⟨channels₂, hcapacity, h₂⟩ := onChannel_mirrors clock h₁ channelId
    (f := fun config _ state => preflightPublishToState config state (s.planned channelId))
    fun _ _ _ hs => hR.preflightPublish hs (s.planned channelId)
  have hbus : (s.withChannels channels).bus = s.bus.withChannels channels := rfl
  have hplanned : (s.withChannels channels).planned = s.planned := rfl
  unfold preflightOne
  rw [hbus, hplanned, hpayload]
  dsimp only
  rw [hcapacity]
  split_ifs
  · exact ⟨channels₁, rfl, h₁⟩
  · exact ⟨channels₂, rfl, h₂⟩
  · exact ⟨channels₂, rfl, h₂⟩

/-- The preflights of a list, in the order of the list. -/
theorem preflightAll_mirrors (publications : List ExpandedPublication) {s : Preflight}
    {channels : String → ChannelState} (h : RelatedTo R s.bus channels) :
    ∃ channels', preflightAll clock publications (s.withChannels channels) =
        ((preflightAll clock publications s).1,
          (preflightAll clock publications s).2.withChannels channels') ∧
      RelatedTo R (preflightAll clock publications s).2.bus channels' := by
  induction publications generalizing s channels with
  | nil => exact ⟨channels, rfl, h⟩
  | cons publication rest ih =>
      obtain ⟨channels₁, hone, h₁⟩ := preflightOne_mirrors clock hR h publication.payload
        publication.channelId
      unfold preflightAll
      rw [hone]
      dsimp only
      split_ifs
      · exact ih h₁
      · exact ⟨channels₁, rfl, h₁⟩

/-- A publish on an endpoint goes to its one channel, or is preflighted for all of them first. -/
theorem publishSharedFromWithMetadata_mirrors {bus : RuntimeChannelBus}
    {channels : String → ChannelState} (h : RelatedTo R bus channels) (sourceEndpoint : String)
    (payload : Option RuntimePayload) (metadata : InvocationMetadata)
    (eventTimestamp : Option EventTimestamp) :
    Mirrors R
      (bus.publishSharedFromWithMetadata clock sourceEndpoint payload metadata eventTimestamp)
      ((bus.withChannels channels).publishSharedFromWithMetadata clock sourceEndpoint payload
        metadata eventTimestamp) := by
  have hsources : (bus.withChannels channels).sourceToChannels = bus.sourceToChannels := rfl
  unfold publishSharedFromWithMetadata
  cases payload with
  | none => exact .refl h _
  | some payload =>
      dsimp only
      rw [hsources]
      cases bus.sourceToChannels sourceEndpoint with
      | none => exact .refl h _
      | some ids =>
          set publications := fanOut ids payload eventTimestamp
            (metadataForSourceEndpoint metadata sourceEndpoint) none
          obtain ⟨channels₁, hpreflight, h₁⟩ := preflightAll_mirrors clock hR publications
            (s := { bus := bus }) h
          have hstart : ({ bus := bus.withChannels channels } : Preflight) =
              ({ bus := bus } : Preflight).withChannels channels := rfl
          dsimp only
          rw [hstart, hpreflight]
          -- only a fan-out has a preflight
          by_cases hseveral : 1 < ids.length
          · simp only [if_pos hseveral]
            split_ifs
            · exact publishAll_mirrors clock hR publications h₁
            · exact .refl h₁ _
          · simp only [if_neg hseveral, if_true]
            exact publishAll_mirrors clock hR publications h

/-- The publications are expanded alike, for the expansion looks at no channel. -/
theorem preflightBatch_mirrors (publications : List RuntimeChannelPublication) {s : Preflight}
    {channels : String → ChannelState} (h : RelatedTo R s.bus channels) :
    ∃ channels', preflightBatch clock publications (s.withChannels channels) =
        ((preflightBatch clock publications s).1, (preflightBatch clock publications s).2.1,
          (preflightBatch clock publications s).2.2.withChannels channels') ∧
      RelatedTo R (preflightBatch clock publications s).2.2.bus channels' := by
  induction publications generalizing s channels with
  | nil => exact ⟨channels, rfl, h⟩
  | cons publication rest ih =>
      have hexpand : (s.withChannels channels).bus.expand publication =
          s.bus.expand publication := rfl
      unfold preflightBatch
      rw [hexpand]
      cases s.bus.expand publication with
      | error reason => exact ⟨channels, rfl, h⟩
      | ok expanded =>
          obtain ⟨channels₁, hone, h₁⟩ := preflightAll_mirrors clock hR expanded h
          dsimp only
          rw [hone]
          dsimp only
          split_ifs
          · obtain ⟨channels₂, hrest, h₂⟩ := ih h₁
            rw [hrest]
            exact ⟨channels₂, rfl, h₂⟩
          · exact ⟨channels₁, rfl, h₁⟩

/-- The second phase follows where both preflights accept. -/
theorem publishBatch_mirrors {bus : RuntimeChannelBus} {channels : String → ChannelState}
    (h : RelatedTo R bus channels) (publications : List RuntimeChannelPublication) :
    Mirrors R (bus.publishBatch clock publications)
      ((bus.withChannels channels).publishBatch clock publications) := by
  obtain ⟨channels₁, hpreflight, h₁⟩ := preflightBatch_mirrors clock hR publications
    (s := { bus := bus }) h
  have hstart : ({ bus := bus.withChannels channels } : Preflight) =
      ({ bus := bus } : Preflight).withChannels channels := rfl
  unfold publishBatch
  rw [hstart, hpreflight]
  dsimp only
  split_ifs
  · exact publishAll_mirrors clock hR _ h₁
  · exact .refl h₁ _

/-- The pending values become visible in every channel. -/
theorem advanceEpoch_mirrors {bus : RuntimeChannelBus} {channels : String → ChannelState}
    (h : RelatedTo R bus channels) : Mirrors R ((), bus.advanceEpoch)
      ((), (bus.withChannels channels).advanceEpoch) := by
  have hadvanced : ∀ id, (advanceState (bus.config id) (channels id)).1 =
      (advanceState (bus.config id) (bus.channels id)).1 := fun id => (hR.advance (h id)).1
  refine ⟨fun id => if id ∈ bus.channelIds then (advanceState (bus.config id) (channels id)).2
    else channels id, ?_, ?_⟩
  · simp only [advanceEpoch, withChannels, hadvanced]
    rfl
  · intro id
    simp only [advanceEpoch]
    split_ifs
    · exact (hR.advance (h id)).2
    · exact h id

/-! ## Reading -/

/-- A read of a latest-style channel. -/
theorem readLatest_mirrors {bus : RuntimeChannelBus} {channels : String → ChannelState}
    (h : RelatedTo R bus channels) (id readerId : String)
    (htype : (bus.config id).type.isLatestStyle = true) :
    Mirrors R
      (bus.onChannel clock id fun config now state =>
        consumeLatestFromState config now readerId state)
      ((bus.withChannels channels).onChannel clock id fun config now state =>
        consumeLatestFromState config now readerId state) :=
  onChannel_mirrors clock h id fun now _ _ hs => hR.consumeLatest htype hs now readerId

theorem readLatestForReader_mirrors {bus : RuntimeChannelBus} {channels : String → ChannelState}
    (h : RelatedTo R bus channels) (channelId readerId : String) :
    Mirrors R (bus.readLatestForReader clock channelId readerId)
      ((bus.withChannels channels).readLatestForReader clock channelId readerId) := by
  have hids : (bus.withChannels channels).channelIds = bus.channelIds := rfl
  have hconfig : (bus.withChannels channels).config = bus.config := rfl
  unfold readLatestForReader
  rw [hids, hconfig]
  split_ifs with hknown htype
  · exact .refl h _
  · have hread := readLatest_mirrors clock hR h channelId readerId (by simpa using htype)
    exact hread.map fun message =>
      ({ ok := true, message := message } : RuntimeChannelReadResult)
  · exact .refl h _

/-- The search stops at the same channel, for the answers are the same. -/
theorem firstUpdate_mirrors (readerId : String) (ids : List String) {bus : RuntimeChannelBus}
    {channels : String → ChannelState} (h : RelatedTo R bus channels) :
    Mirrors R (firstUpdate clock readerId ids bus)
      (firstUpdate clock readerId ids (bus.withChannels channels)) := by
  induction ids generalizing bus channels with
  | nil => exact .refl h _
  | cons id rest ih =>
      have hconfig : (bus.withChannels channels).config = bus.config := rfl
      unfold firstUpdate
      rw [hconfig]
      by_cases htype : (!(bus.config id).type.isLatestStyle) = true
      · rw [if_pos htype, if_pos htype]
        exact ih h
      · rw [if_neg htype, if_neg htype]
        obtain ⟨channels₁, hread, h₁⟩ := readLatest_mirrors clock hR h id readerId
          (by simpa using htype)
        dsimp only
        rw [hread]
        dsimp only
        split_ifs
        · exact .refl h₁ _
        · exact ih h₁

/-- A snapshot looks at no cursor. -/
theorem snapshot_mirrors {bus : RuntimeChannelBus} {channels : String → ChannelState}
    (h : RelatedTo R bus channels) (id : String) (maxBatch : Nat) :
    Mirrors R
      (bus.onChannel clock id fun config now state => snapshotFromState config now maxBatch state)
      ((bus.withChannels channels).onChannel clock id fun config now state =>
        snapshotFromState config now maxBatch state) :=
  onChannel_mirrors clock h id fun now _ _ hs => hR.snapshot hs now maxBatch

/-- The search for a value to peek at stops at the same channel. -/
theorem firstPeek_mirrors (ids : List String) {bus : RuntimeChannelBus}
    {channels : String → ChannelState} (h : RelatedTo R bus channels) :
    Mirrors R (firstPeek clock ids bus) (firstPeek clock ids (bus.withChannels channels)) := by
  induction ids generalizing bus channels with
  | nil => exact .refl h _
  | cons id rest ih =>
      obtain ⟨channels₁, hsnapshot, h₁⟩ := snapshot_mirrors clock hR h id 1
      unfold firstPeek
      rw [hsnapshot]
      dsimp only
      cases (bus.onChannel clock id fun config now state =>
          snapshotFromState config now 1 state).1 with
      | nil => exact ih h₁
      | cons message messages => exact .refl h₁ _

/-- A drain reads a latest-style channel and consumes any other. -/
theorem consumeChannel_mirrors {bus : RuntimeChannelBus} {channels : String → ChannelState}
    (h : RelatedTo R bus channels) (id readerId : String) (maxBatch : Nat) :
    Mirrors R (bus.consumeChannel clock id readerId maxBatch)
      ((bus.withChannels channels).consumeChannel clock id readerId maxBatch) := by
  refine onChannel_mirrors clock h id fun now s t hs => ?_
  split_ifs with htype
  · obtain ⟨hmessage, hstate⟩ := hR.consumeLatest htype hs now readerId
    exact ⟨congrArg Option.toList hmessage, hstate⟩
  · exact hR.consume (by simpa using htype) hs now readerId maxBatch

theorem drainForReader_mirrors {bus : RuntimeChannelBus} {channels : String → ChannelState}
    (h : RelatedTo R bus channels) (channelId readerId : String) (maxBatch : Nat) :
    Mirrors R (bus.drainForReader clock channelId readerId maxBatch)
      ((bus.withChannels channels).drainForReader clock channelId readerId maxBatch) := by
  have hids : (bus.withChannels channels).channelIds = bus.channelIds := rfl
  unfold drainForReader
  rw [hids]
  split_ifs
  · exact consumeChannel_mirrors clock hR h channelId readerId maxBatch
  · exact .refl h _

/-- Channel by channel, up to the batch size. -/
theorem snapshotChannels_mirrors (maxBatch : Nat) (ids : List String)
    (messages : List RuntimeChannelMessage) {bus : RuntimeChannelBus}
    {channels : String → ChannelState} (h : RelatedTo R bus channels) :
    Mirrors R (snapshotChannels clock maxBatch ids messages bus)
      (snapshotChannels clock maxBatch ids messages (bus.withChannels channels)) := by
  induction ids generalizing messages bus channels with
  | nil => exact .refl h _
  | cons id rest ih =>
      obtain ⟨channels₁, hsnapshot, h₁⟩ := snapshot_mirrors clock hR h id
        (maxBatch - messages.length)
      unfold snapshotChannels
      rw [hsnapshot]
      by_cases hfull : batchFull maxBatch messages.length = true
      · rw [if_pos hfull, if_pos hfull]
        exact .refl h _
      · rw [if_neg hfull, if_neg hfull]
        exact ih _ h₁

/-- Channel by channel, with what is left of the batch size. -/
theorem drainChannels_mirrors (readerId : String) (maxBatch : Nat) (ids : List String)
    (messages : List RuntimeChannelMessage) {bus : RuntimeChannelBus}
    {channels : String → ChannelState} (h : RelatedTo R bus channels) :
    Mirrors R (drainChannels clock readerId maxBatch ids messages bus)
      (drainChannels clock readerId maxBatch ids messages (bus.withChannels channels)) := by
  induction ids generalizing messages bus channels with
  | nil => exact .refl h _
  | cons id rest ih =>
      obtain ⟨channels₁, hdrained, h₁⟩ := consumeChannel_mirrors clock hR h id readerId
        (maxBatch - messages.length)
      unfold drainChannels
      rw [hdrained]
      by_cases hfull : batchFull maxBatch messages.length = true
      · rw [if_pos hfull, if_pos hfull]
        exact .refl h _
      · rw [if_neg hfull, if_neg hfull]
        exact ih _ h₁

end

end RuntimeChannelBus

/-! ## Runs -/

open RuntimeChannelBus

variable {R : ChannelConfig → ChannelState → ChannelState → Prop}

/-- Every operation has the same result on both sides, and leaves the channels related. -/
theorem exec_mirrors (clock : Nat → Int) (hR : ChannelSimulation R) {bus : RuntimeChannelBus}
    {channels : String → ChannelState} (h : RelatedTo R bus channels) (op : BusOp) :
    Mirrors R (op.exec clock bus) (op.exec clock (bus.withChannels channels)) := by
  cases op with
  | publishShared channelId payload metadata eventTimestamp =>
      exact (publishSharedWithMetadata_mirrors clock hR h channelId payload metadata
        eventTimestamp).map BusOutput.published
  | publishSharedFrom sourceEndpoint payload metadata eventTimestamp =>
      exact (publishSharedFromWithMetadata_mirrors clock hR h sourceEndpoint payload metadata
        eventTimestamp).map BusOutput.published
  | publishBatch publications =>
      exact (publishBatch_mirrors clock hR h publications).map BusOutput.published
  | advanceEpoch => exact (advanceEpoch_mirrors hR h).map fun _ => BusOutput.none
  | readLatestForReader channelId readerId =>
      exact (readLatestForReader_mirrors clock hR h channelId readerId).map BusOutput.read
  | readLatestUpdateForComponentPort componentId portName =>
      exact (firstUpdate_mirrors clock hR _ _ h).map fun message =>
        BusOutput.read { ok := true, message := message }
  | peekLatestForComponentPort componentId portName =>
      exact (firstPeek_mirrors clock hR _ h).map fun message =>
        BusOutput.read { ok := true, message := message }
  | drainForReader channelId readerId maxBatch =>
      exact (drainForReader_mirrors clock hR h channelId readerId maxBatch).map BusOutput.messages
  | snapshotForComponentPort componentId portName maxBatch =>
      exact (snapshotChannels_mirrors clock hR maxBatch _ [] h).map BusOutput.messages
  | drainForComponentPort componentId portName maxBatch =>
      exact (drainChannels_mirrors clock hR _ maxBatch _ [] h).map BusOutput.messages
  | consumeForComponent componentId =>
      exact (drainChannels_mirrors clock hR _ 0 _ [] h).map BusOutput.messages

/-- What a list of operations returns. -/
def busOutputs (clock : Nat → Int) : RuntimeChannelBus → List BusOp → List BusOutput
  | _, [] => []
  | bus, op :: ops =>
      let result := op.exec clock bus
      result.1 :: busOutputs clock result.2 ops

/-- Buses with related channels cannot be told apart. -/
theorem busOutputs_mirrors (clock : Nat → Int) (hR : ChannelSimulation R)
    {bus : RuntimeChannelBus} {channels : String → ChannelState} (h : RelatedTo R bus channels)
    (ops : List BusOp) :
    busOutputs clock (bus.withChannels channels) ops = busOutputs clock bus ops := by
  induction ops generalizing bus channels with
  | nil => rfl
  | cons op ops ih =>
      obtain ⟨channels₁, hexec, h₁⟩ := exec_mirrors clock hR h op
      have hrest := ih h₁
      simp only [busOutputs, hexec, hrest]

end TopoExec
