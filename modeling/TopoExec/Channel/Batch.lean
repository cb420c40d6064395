import TopoExec.Channel.Effect

/-! # Fan-outs and batches are all-or-nothing

The preflight of a fan-out does not run the second phase; it counts planned
publications per channel. `Fits` is what it checks, in terms of the load that
each channel would carry, and `publishAll_of_fits` says that the second phase
then stores everything, in order.
-/

namespace TopoExec

/-! ## What a rejected batch leaves alone -/

structure Untouched (s s' : ChannelState) : Prop where
  queue : s'.queue = s.queue
  latest : s'.latest = s.latest
  pending : s'.pendingPreviousTick = s.pendingPreviousTick
  nextSequence : s'.nextSequence = s.nextSequence
  latestCursors : s'.deliveredLatestSequences = s.deliveredLatestSequences
  queueCursors : s'.deliveredQueueSequences = s.deliveredQueueSequences
  published : s'.metrics.publishedCount = s.metrics.publishedCount
  overwrite : s'.metrics.overwriteCount = s.metrics.overwriteCount
  stored : s'.ledger.stored = s.ledger.stored

theorem Untouched.refl (s : ChannelState) : Untouched s s :=
  ⟨rfl, rfl, rfl, rfl, rfl, rfl, rfl, rfl, rfl⟩

theorem Untouched.trans {s₁ s₂ s₃ : ChannelState} (h : Untouched s₁ s₂) (h' : Untouched s₂ s₃) :
    Untouched s₁ s₃ where
  queue := h'.queue.trans h.queue
  latest := h'.latest.trans h.latest
  pending := h'.pending.trans h.pending
  nextSequence := h'.nextSequence.trans h.nextSequence
  latestCursors := h'.latestCursors.trans h.latestCursors
  queueCursors := h'.queueCursors.trans h.queueCursors
  published := h'.published.trans h.published
  overwrite := h'.overwrite.trans h.overwrite
  stored := h'.stored.trans h.stored

/-! ## What the preflight checks -/

/-- The channel takes the payload when its queue holds `load` messages. -/
structure Admits (config : ChannelConfig) (load : Nat) (payload : RuntimePayload) : Prop where
  payload_ok : config.copyPolicy ≠ .copy ∨ largePayloadCopyReason payload = ""
  room : config.type.isLatestStyle = true ∨ load < config.capacity ∨
    config.dropPolicy.refusal = none

/-- A channel with less to take takes it too. -/
theorem Admits.mono {config : ChannelConfig} {load load' : Nat} {payload : RuntimePayload}
    (h : Admits config load payload) (hle : load' ≤ load) : Admits config load' payload :=
  ⟨h.payload_ok, h.room.imp_right (Or.imp_left hle.trans_lt)⟩

/-- The preflight of a payload says whether the channel may store it, and stores nothing. -/
theorem preflightPayload_spec (config : ChannelConfig) (s : ChannelState)
    (payload : RuntimePayload) :
    Untouched s (preflightPayloadForState config s payload).2 ∧
      ((preflightPayloadForState config s payload).1.accepted = true ↔
        config.copyPolicy ≠ .copy ∨ largePayloadCopyReason payload = "") := by
  unfold preflightPayloadForState
  dsimp only
  split_ifs with hcopy hreason
  · exact ⟨.refl s, by simp [hcopy]⟩
  · refine ⟨⟨rfl, rfl, rfl, rfl, rfl, rfl, rfl, rfl, rfl⟩, ?_⟩
    rw [not_not] at hcopy
    simp [hcopy, hreason]
  · rw [not_not] at hreason
    exact ⟨.refl s, by simp [hreason]⟩

/-- The preflight of the room counts what the batch has planned already. -/
theorem preflightPublish_spec (config : ChannelConfig) (s : ChannelState) (planned : Nat) :
    Untouched s (preflightPublishToState config s planned).2 ∧
      ((preflightPublishToState config s planned).1.accepted = true ↔
        config.type.isLatestStyle = true ∨ s.queue.length + planned < config.capacity ∨
          config.dropPolicy.refusal = none) := by
  unfold preflightPublishToState
  split_ifs with hroom
  · refine ⟨.refl s, ?_⟩
    rcases Bool.or_eq_true_iff.mp hroom with hlatest | hload
    · simp [hlatest]
    · simp [of_decide_eq_true hload]
  · rw [Bool.or_eq_true, not_or, decide_eq_true_eq] at hroom
    cases hrefusal : config.dropPolicy.refusal with
    | none => exact ⟨.refl s, by simp⟩
    | some refusal =>
        refine ⟨⟨rfl, rfl, rfl, rfl, rfl, rfl, rfl, rfl, rfl⟩, ?_⟩
        simp [hroom.1, hroom.2]

namespace RuntimeChannelBus

/-- Every publication of the list fits when the earlier ones have been added to
the load. -/
def Fits (config : String → ChannelConfig) : (String → Nat) → List ExpandedPublication → Prop
  | _, [] => True
  | load, publication :: rest =>
      Admits (config publication.channelId) (load publication.channelId) publication.payload ∧
        Fits config
          (Function.update load publication.channelId (load publication.channelId + 1)) rest

/-- The load after the publications. -/
def loadAfter (load : String → Nat) (publications : List ExpandedPublication) : String → Nat :=
  publications.foldl
    (fun load publication =>
      Function.update load publication.channelId (load publication.channelId + 1)) load

/-- A list fits if its first part does, and the rest after that. -/
theorem Fits.append {config : String → ChannelConfig} {load : String → Nat}
    {l l' : List ExpandedPublication} (h : Fits config load l)
    (h' : Fits config (loadAfter load l) l') : Fits config load (l ++ l') := by
  induction l generalizing load with
  | nil => exact h'
  | cons publication rest ih => exact ⟨h.1, ih h.2 h'⟩

/-- The queue lengths plus the planned publications. -/
def Preflight.load (s : Preflight) (id : String) : Nat :=
  (s.bus.channels id).queue.length + s.planned id

variable (clock : Nat → Int)

/-- A channel function that leaves the message side alone. -/
theorem onChannel_untouched {α : Type} (bus : RuntimeChannelBus) (id : String)
    {f : ChannelConfig → Int → ChannelState → α × ChannelState}
    (hf : ∀ config now s, Untouched s (f config now s).2) (id' : String) :
    Untouched (bus.channels id') ((bus.onChannel clock id f).2.channels id') := by
  by_cases h : id' = id
  · subst h
    simp only [onChannel, Function.update_self]
    exact hf _ _ _
  · simp only [onChannel, Function.update_of_ne h]
    exact .refl _

/-- The preflight of one publication accepts exactly what the channel admits with its load. -/
theorem preflightOne_spec (s : Preflight) (payload : RuntimePayload) (id : String) :
    (∀ id', Untouched (s.bus.channels id')
        ((preflightOne clock s payload id).2.bus.channels id')) ∧
      ((preflightOne clock s payload id).1.accepted = true →
        Admits (s.bus.config id) (s.load id) payload ∧
          (preflightOne clock s payload id).2.load =
            Function.update s.load id (s.load id + 1)) := by
  have hfirst := onChannel_untouched clock s.bus id
    (f := fun config _ state => preflightPayloadForState config state payload)
    fun config _ s => (preflightPayload_spec config s payload).1
  have hsecond := fun bus => onChannel_untouched clock bus id
    (f := fun config _ state => preflightPublishToState config state (s.planned id))
    fun config _ s' => (preflightPublish_spec config s' (s.planned id)).1
  have hpayload := (preflightPayload_spec (s.bus.config id) (s.bus.channels id) payload).2
  have hcapacity := (preflightPublish_spec (s.bus.config id)
    (preflightPayloadForState (s.bus.config id) (s.bus.channels id) payload).2
    (s.planned id)).2
  have hqueue := (preflightPayload_spec (s.bus.config id) (s.bus.channels id) payload).1.queue
  unfold preflightOne
  dsimp only
  split_ifs with hrejected hrefused
  -- the payload is rejected
  · refine ⟨hfirst, ?_⟩
    intro haccepted
    rw [Bool.not_eq_true'] at hrejected
    exact absurd (haccepted.symm.trans hrejected) (by decide)
  -- the capacity check refuses
  · refine ⟨fun id' => (hfirst id').trans (hsecond _ id'), ?_⟩
    intro haccepted
    rw [Bool.not_eq_true'] at hrefused
    exact absurd (haccepted.symm.trans hrefused) (by decide)
  -- both checks pass, and one more is planned for the channel
  · refine ⟨fun id' => (hfirst id').trans (hsecond _ id'), fun _ => ?_⟩
    simp only [Bool.not_eq_true', Bool.not_eq_false] at hrejected hrefused
    simp only [onChannel, Function.update_self] at hrejected hrefused
    refine ⟨⟨hpayload.mp hrejected, ?_⟩, ?_⟩
    · have hroom := hcapacity.mp hrefused
      rw [hqueue] at hroom
      exact hroom
    · funext id'
      have hlength := ((hfirst id').trans (hsecond _ id')).queue
      by_cases h : id' = id
      · subst h
        simp only [Preflight.load, Function.update_self, hlength]
        omega
      · simp only [Preflight.load, Function.update_of_ne h, hlength]

/-- The preflight of a list accepts exactly if the list fits. -/
theorem preflightAll_spec (publications : List ExpandedPublication) (s : Preflight) :
    (∀ id, Untouched (s.bus.channels id)
        ((preflightAll clock publications s).2.bus.channels id)) ∧
      ((preflightAll clock publications s).1.accepted = true →
        Fits s.bus.config s.load publications ∧
          (preflightAll clock publications s).2.load = loadAfter s.load publications) := by
  induction publications generalizing s with
  | nil => exact ⟨fun _ => .refl _, fun _ => ⟨trivial, rfl⟩⟩
  | cons publication rest ih =>
      obtain ⟨huntouched, hadmits⟩ :=
        preflightOne_spec clock s publication.payload publication.channelId
      have hevolves : Evolves anyStep s.bus _ :=
        preflightOne_evolves clock trivial s publication.payload publication.channelId
      unfold preflightAll
      dsimp only
      split_ifs with haccepted
      · obtain ⟨hfirst, hload⟩ := hadmits haccepted
        obtain ⟨hrest, hfits⟩ :=
          ih (preflightOne clock s publication.payload publication.channelId).2
        refine ⟨fun id => (huntouched id).trans (hrest id), fun hall => ?_⟩
        obtain ⟨hfit, hafter⟩ := hfits hall
        rw [hload, hevolves.config] at hfit
        rw [hload] at hafter
        exact ⟨⟨hfirst, hfit⟩, hafter⟩
      · exact ⟨huntouched, fun hcontra => absurd hcontra haccepted⟩

/-- All the publications that a batch stands for. -/
def expandAll (bus : RuntimeChannelBus) :
    List RuntimeChannelPublication → Except String (List ExpandedPublication)
  | [] => .ok []
  | publication :: rest =>
      match bus.expand publication, bus.expandAll rest with
      | .ok expanded, .ok others => .ok (expanded ++ others)
      | .error reason, _ => .error reason
      | .ok _, .error reason => .error reason

/-- The expansion looks at the names only. -/
theorem expand_congr {bus bus' : RuntimeChannelBus} (hids : bus'.channelIds = bus.channelIds)
    (hsources : bus'.sourceToChannels = bus.sourceToChannels)
    (publication : RuntimeChannelPublication) :
    bus'.expand publication = bus.expand publication := by
  unfold expand
  rw [hids, hsources]

theorem expandAll_congr {bus bus' : RuntimeChannelBus} (hids : bus'.channelIds = bus.channelIds)
    (hsources : bus'.sourceToChannels = bus.sourceToChannels)
    (publications : List RuntimeChannelPublication) :
    bus'.expandAll publications = bus.expandAll publications := by
  induction publications with
  | nil => rfl
  | cons publication rest ih => rw [expandAll, expandAll, expand_congr hids hsources, ih]

/-- The preflight of a batch expands it and accepts exactly what fits. -/
theorem preflightBatch_spec (publications : List RuntimeChannelPublication) (s : Preflight) :
    (∀ id, Untouched (s.bus.channels id)
        ((preflightBatch clock publications s).2.2.bus.channels id)) ∧
      ((preflightBatch clock publications s).1.accepted = true →
        s.bus.expandAll publications = .ok (preflightBatch clock publications s).2.1 ∧
          Fits s.bus.config s.load (preflightBatch clock publications s).2.1) := by
  induction publications generalizing s with
  | nil => exact ⟨fun _ => .refl _, fun _ => ⟨rfl, trivial⟩⟩
  | cons publication rest ih =>
      unfold preflightBatch
      cases hexpand : s.bus.expand publication with
      | error reason => exact ⟨fun _ => .refl _, by simp⟩
      | ok expanded =>
          obtain ⟨huntouched, hfits⟩ := preflightAll_spec clock expanded s
          have hevolves : Evolves anyStep s.bus _ := preflightAll_evolves clock trivial expanded s
          dsimp only
          split_ifs with haccepted
          · obtain ⟨hfit, hload⟩ := hfits haccepted
            obtain ⟨hrest, hbatch⟩ := ih (preflightAll clock expanded s).2
            refine ⟨fun id => (huntouched id).trans (hrest id), fun hall => ?_⟩
            obtain ⟨hothers, hfit'⟩ := hbatch hall
            rw [expandAll_congr hevolves.channelIds hevolves.sources] at hothers
            rw [hload, hevolves.config] at hfit'
            exact ⟨by rw [expandAll, hexpand, hothers], hfit.append hfit'⟩
          · exact ⟨huntouched, fun hcontra => absurd hcontra haccepted⟩

/-! ## The second phase -/

/-- The message that a publication became. -/
structure StoredAs (config : ChannelConfig) (publication : ExpandedPublication)
    (message : RuntimeChannelMessage) : Prop where
  channelId : message.channelId = config.id
  payload : message.payload = publication.payload
  eventTimestamp : message.eventTimestamp = publication.eventTimestamp
  metadata : message.metadata = finalizeMessageMetadata publication.metadata config.id
    message.sequence config.fromEndpoint
  tag : message.tag = publication.tag

/-- A queue after messages have been put in one by one, where a full queue loses its front. -/
def enqueueAll (capacity : Nat) (queue new : List RuntimeChannelMessage) :
    List RuntimeChannelMessage :=
  new.foldl (fun queue message => (queue ++ [message]).drop (queue.length + 1 - capacity)) queue

/-- Of the waiting messages and the new ones, the last ones stay that the queue has room for. -/
theorem enqueueAll_eq (capacity : Nat) (queue : List RuntimeChannelMessage)
    {new : List RuntimeChannelMessage} (hnew : new ≠ []) :
    enqueueAll capacity queue new =
      (queue ++ new).drop (queue.length + new.length - capacity) := by
  unfold enqueueAll
  induction new generalizing queue with
  | nil => exact absurd rfl hnew
  | cons message new ih =>
      rw [List.foldl_cons]
      cases new with
      | nil => rfl
      | cons next new =>
          rw [ih _ (List.cons_ne_nil _ _), List.append_cons queue message (next :: new)]
          -- what one step drops is dropped by the next ones in any case
          have hwithin : queue.length + 1 - capacity ≤ (queue ++ [message]).length := by
            rw [List.length_append, List.length_singleton]
            omega
          have hdrop : (queue ++ [message]).drop (queue.length + 1 - capacity) ++ next :: new =
              (queue ++ [message] ++ next :: new).drop (queue.length + 1 - capacity) :=
            (List.drop_append_of_le_length hwithin).symm
          rw [hdrop, List.drop_drop]
          congr 1
          simp only [List.length_drop, List.length_append, List.length_cons, List.length_nil]
          omega

/-- What the channel holds after the messages have been stored: the queue has them behind the
waiting ones, the single value is the last of them, and on a previous-tick channel that value
still waits for the next epoch. -/
structure Holds (config : ChannelConfig) (new : List RuntimeChannelMessage)
    (s s' : ChannelState) : Prop where
  queue : config.type.isLatestStyle = false →
    s'.queue = enqueueAll config.capacity s.queue new
  latest : config.type ≠ .previousTick → s'.latest = new.getLast?.or s.latest
  pending : config.type = .previousTick →
    s'.pendingPreviousTick = new.getLast?.or s.pendingPreviousTick
  visible : config.type = .previousTick → s'.latest = s.latest
  unstaged : config.type ≠ .previousTick → s'.pendingPreviousTick = s.pendingPreviousTick

theorem Holds.nil {config : ChannelConfig} (s : ChannelState) : Holds config [] s s :=
  ⟨fun _ => rfl, fun _ => rfl, fun _ => rfl, fun _ => rfl, fun _ => rfl⟩

/-- One message after the other. -/
theorem Holds.cons {config : ChannelConfig} {message : RuntimeChannelMessage}
    {new : List RuntimeChannelMessage} {s₁ s₂ s₃ : ChannelState}
    (h : Holds config [message] s₁ s₂) (h' : Holds config new s₂ s₃) :
    Holds config (message :: new) s₁ s₃ := by
  have hlast : ∀ value : Option RuntimeChannelMessage,
      new.getLast?.or ([message].getLast?.or value) = (message :: new).getLast?.or value := by
    intro value
    cases hnew : new.getLast? with
    | none =>
        rw [List.getLast?_eq_none_iff] at hnew
        subst hnew
        rfl
    | some last => simp [List.getLast?_cons, hnew]
  constructor
  · intro htype
    rw [h'.queue htype, h.queue htype]
    rfl
  · intro htype
    rw [h'.latest htype, h.latest htype, hlast]
  · intro htype
    rw [h'.pending htype, h.pending htype, hlast]
  · intro htype
    rw [h'.visible htype, h.visible htype]
  · intro htype
    rw [h'.unstaged htype, h.unstaged htype]

/-- The preflight before the second phase changes nothing that counts. -/
theorem Holds.of_untouched {config : ChannelConfig} {new : List RuntimeChannelMessage}
    {s₁ s₂ s₃ : ChannelState} (h : Holds config new s₂ s₃) (hsame : Untouched s₁ s₂) :
    Holds config new s₁ s₃ := by
  obtain ⟨hqueue, hlatest, hpending, hvisible, hunstaged⟩ := h
  rw [hsame.queue] at hqueue
  rw [hsame.latest] at hlatest hvisible
  rw [hsame.pending] at hpending hunstaged
  exact ⟨hqueue, hlatest, hpending, hvisible, hunstaged⟩

/-- An accepted message is what the channel holds then. -/
theorem acceptMessage_holds (config : ChannelConfig) (htype : config.type.isLatestStyle = true)
    (s : ChannelState) (copied : Bool) (message : RuntimeChannelMessage) :
    Holds config [message] s (acceptMessage config (s.numbered copied) message) := by
  unfold acceptMessage
  split_ifs with hprevious
  · exact ⟨by simp [htype], by simp [hprevious], fun _ => rfl, fun _ => rfl, by simp [hprevious]⟩
  · have hwatermark : ∀ state, maybeEmitHighWatermark config state = state := fun state => by
      simp [maybeEmitHighWatermark, htype]
    unfold acceptLatest
    rw [hwatermark]
    exact ⟨by simp [htype], fun _ => rfl, by simp [hprevious], by simp [hprevious], fun _ => rfl⟩

/-- The publications were stored in list order, under consecutive sequence numbers, and are
what the channel holds then. -/
structure StoredInOrder (config : ChannelConfig) (publications : List ExpandedPublication)
    (s s' : ChannelState) : Prop where
  stored : ∃ new, s'.ledger.stored = s.ledger.stored ++ new ∧
    List.Forall₂ (StoredAs config) publications new ∧
    new.map RuntimeChannelMessage.sequence = List.range' s.nextSequence publications.length ∧
    Holds config new s s'
  nextSequence : s'.nextSequence = s.nextSequence + publications.length
  published : s'.metrics.publishedCount = s.metrics.publishedCount + publications.length

theorem StoredInOrder.nil {config : ChannelConfig} (s : ChannelState) :
    StoredInOrder config [] s s :=
  ⟨⟨[], by simp, .nil, rfl, .nil s⟩, rfl, rfl⟩

/-- The first publication and then the others. -/
theorem StoredInOrder.cons {config : ChannelConfig} {publication : ExpandedPublication}
    {publications : List ExpandedPublication} {s₁ s₂ s₃ : ChannelState}
    (h : StoredInOrder config [publication] s₁ s₂) (h' : StoredInOrder config publications s₂ s₃) :
    StoredInOrder config (publication :: publications) s₁ s₃ := by
  obtain ⟨new, hstored, hall, hseq, hholds⟩ := h.stored
  obtain ⟨new', hstored', hall', hseq', hholds'⟩ := h'.stored
  have hnext := h.nextSequence
  rw [List.length_singleton] at hnext
  cases hall with
  | cons hone hnil =>
      cases hnil
      refine ⟨⟨_ :: new', ?_, .cons hone hall', ?_, hholds.cons hholds'⟩, ?_, ?_⟩
      · rw [hstored', hstored, List.append_assoc, List.singleton_append]
      · rw [List.map_cons, hseq', hnext, List.length_cons, List.range'_succ]
        simpa using hseq
      · rw [h'.nextSequence, hnext, List.length_cons]
        omega
      · rw [h'.published, h.published]
        simp only [List.length_cons, List.length_nil]
        omega

/-- A publish that the channel admits stores its message. -/
theorem publishToState_of_admits {config : ChannelConfig} {s : ChannelState}
    {payload : RuntimePayload} (h : Admits config s.queue.length payload) (now : Int)
    (prepared : Prepared) :
    let r := publishToState config now s prepared
    r.1.accepted = true ∧
      r.2.ledger.stored = s.ledger.stored ++ [messageOf config s now prepared] ∧
      Holds config [messageOf config s now prepared] s r.2 ∧
      r.2.nextSequence = s.nextSequence + 1 ∧
      r.2.metrics.publishedCount = s.metrics.publishedCount + 1 ∧
      r.2.queue.length ≤ s.queue.length + 1 := by
  intro r
  cases htype : config.type.isLatestStyle with
  | true =>
      have hr : r = (⟨true, ""⟩, acceptMessage config (s.numbered prepared.payloadWasCopied)
          (messageOf config s now prepared)) := by
        simp [r, publishToState, htype]
      have hholds := acceptMessage_holds config htype s prepared.payloadWasCopied
        (messageOf config s now prepared)
      rw [hr]
      unfold acceptMessage at hholds ⊢
      split_ifs at hholds ⊢
      · exact ⟨rfl, rfl, hholds, rfl, rfl, Nat.le_succ _⟩
      · refine ⟨rfl, ?_, hholds, ?_, ?_, ?_⟩
        all_goals simp [acceptLatest, maybeEmitHighWatermark, htype, ChannelState.numbered]
  | false =>
      rcases publishToState_queue_cases config now s prepared htype with
        ⟨reason, isDrop, hrefusal, hfull, _⟩ | ⟨haccepted, _, he⟩
      -- a refusal would need a full queue without an eviction
      · rcases h.room with hlatest | hroom | hnone
        · rw [htype] at hlatest
          contradiction
        · omega
        · rw [hrefusal] at hnone
          contradiction
      · have hprevious : config.type ≠ .previousTick := by
          intro hprevious
          simp [hprevious, ChannelType.isLatestStyle] at htype
        refine ⟨by rw [haccepted], he.stored, ?_, he.nextSequence, he.published, ?_⟩
        · exact ⟨fun _ => he.queue, fun _ => he.latest, fun h => absurd h hprevious,
            fun h => absurd h hprevious, fun _ => he.pending⟩
        · rw [he.queue]
          simp

/-- A payload that the preflight accepts can be copied. -/
theorem preparePayload_of_ok {config : ChannelConfig} {payload : RuntimePayload}
    (h : config.copyPolicy ≠ .copy ∨ largePayloadCopyReason payload = "") (s : ChannelState) :
    ∃ copied, preparePayloadForState config s payload = (.ok (payload, copied), s) := by
  unfold preparePayloadForState
  by_cases hcopy : config.copyPolicy = .copy
  · have hreason := h.resolve_left (not_not.mpr hcopy)
    exact ⟨true, by simp [hcopy, hreason, copyTextPayload]⟩
  · exact ⟨false, by simp [hcopy]⟩

/-- Publishing what the channel admits: the publication is stored and the queue
grows by one message at most; the other channels stay as they are. -/
theorem publishExpanded_of_admits (bus : RuntimeChannelBus) (publication : ExpandedPublication)
    (h : Admits (bus.config publication.channelId)
      (bus.channels publication.channelId).queue.length publication.payload) :
    let r := bus.publishExpanded clock publication
    r.1.accepted = true ∧
      StoredInOrder (bus.config publication.channelId) [publication]
        (bus.channels publication.channelId) (r.2.channels publication.channelId) ∧
      (r.2.channels publication.channelId).queue.length ≤
        (bus.channels publication.channelId).queue.length + 1 ∧
      ∀ id, id ≠ publication.channelId → r.2.channels id = bus.channels id := by
  intro r
  obtain ⟨copied, hprepared⟩ := preparePayload_of_ok h.payload_ok
    (bus.channels publication.channelId)
  obtain ⟨haccepted, hstored, hholds, hnext, hpublished, hlength⟩ := publishToState_of_admits h
    (clock (bus.moment + 1))
    { payload := publication.payload
      payloadWasCopied := copied
      eventTimestamp := publication.eventTimestamp
      metadata := publication.metadata
      tag := publication.tag }
  have hr : r.1 = (publishToState (bus.config publication.channelId) (clock (bus.moment + 1))
        (bus.channels publication.channelId)
        { payload := publication.payload
          payloadWasCopied := copied
          eventTimestamp := publication.eventTimestamp
          metadata := publication.metadata
          tag := publication.tag }).1 ∧
      r.2.channels = Function.update bus.channels publication.channelId
        (publishToState (bus.config publication.channelId) (clock (bus.moment + 1))
          (bus.channels publication.channelId)
          { payload := publication.payload
            payloadWasCopied := copied
            eventTimestamp := publication.eventTimestamp
            metadata := publication.metadata
            tag := publication.tag }).2 := by
    simp [r, publishExpanded, onChannel, hprepared]
  rw [hr.1, hr.2]
  refine ⟨haccepted, ?_, ?_, ?_⟩
  · rw [Function.update_self]
    refine ⟨⟨_, hstored, ?_, rfl, hholds⟩, hnext, hpublished⟩
    exact .cons ⟨rfl, rfl, rfl, rfl, rfl⟩ .nil
  · rw [Function.update_self]
    exact hlength
  · exact fun id hid => Function.update_of_ne hid _ _

/-- After a successful preflight nothing is rejected any more. -/
theorem publishAll_of_fits (publications : List ExpandedPublication) (bus : RuntimeChannelBus)
    {load : String → Nat} (hfits : Fits bus.config load publications)
    (hload : ∀ id, (bus.channels id).queue.length ≤ load id) :
    (publishAll clock publications bus).1.accepted = true ∧
      ∀ id, StoredInOrder (bus.config id)
        (publications.filter fun publication => publication.channelId = id)
        (bus.channels id) ((publishAll clock publications bus).2.channels id) := by
  induction publications generalizing bus load with
  | nil => exact ⟨rfl, fun id => .nil _⟩
  | cons publication rest ih =>
      obtain ⟨haccepted, hstored, hlength, hothers⟩ := publishExpanded_of_admits clock bus
        publication (hfits.1.mono (hload _))
      have hevolves : Evolves anyStep bus _ := publishExpanded_evolves clock trivial bus publication
      -- the load that is counted stays above the real one
      have hload' : ∀ id, ((bus.publishExpanded clock publication).2.channels id).queue.length ≤
          Function.update load publication.channelId (load publication.channelId + 1) id := by
        intro id
        by_cases hid : id = publication.channelId
        · subst hid
          rw [Function.update_self]
          exact hlength.trans (Nat.succ_le_succ (hload _))
        · rw [Function.update_of_ne hid, hothers id hid]
          exact hload id
      have hfits' := hfits.2
      rw [← hevolves.config] at hfits'
      obtain ⟨hall, hrest⟩ := ih (bus.publishExpanded clock publication).2 hfits' hload'
      rw [publishAll, if_pos haccepted]
      refine ⟨hall, fun id => ?_⟩
      have htail := hrest id
      rw [hevolves.config] at htail
      -- the rest of the batch is stored behind it, on its own channel or another
      by_cases hid : publication.channelId = id
      · subst hid
        rw [List.filter_cons_of_pos (by simp)]
        exact hstored.cons htail
      · rw [List.filter_cons_of_neg (by simpa using hid)]
        rw [hothers id fun heq => hid heq.symm] at htail
        exact htail

/-! ## The two fan-out operations -/

/-- All or nothing: the channels after a batch of publications. -/
structure AllOrNothing (bus : RuntimeChannelBus) (result : RuntimeChannelPublishResult)
    (bus' : RuntimeChannelBus) (publications : Except String (List ExpandedPublication)) :
    Prop where
  rejected : result.accepted = false → ∀ id, Untouched (bus.channels id) (bus'.channels id)
  accepted : result.accepted = true → ∃ expanded, publications = .ok expanded ∧
    ∀ id, StoredInOrder (bus.config id)
      (expanded.filter fun publication => publication.channelId = id)
      (bus.channels id) (bus'.channels id)

/-- The first phase decides, and the second phase stores what it let through. -/
theorem allOrNothing_of_preflight {bus bus₁ : RuntimeChannelBus}
    {result : RuntimeChannelPublishResult} {expanded : List ExpandedPublication}
    {publications : Except String (List ExpandedPublication)} {load : String → Nat}
    (hconfig : bus₁.config = bus.config)
    (huntouched : ∀ id, Untouched (bus.channels id) (bus₁.channels id))
    (hok : result.accepted = true → publications = .ok expanded ∧ Fits bus.config load expanded)
    (hload : ∀ id, (bus.channels id).queue.length ≤ load id) :
    let r := if result.accepted then publishAll clock expanded bus₁ else (result, bus₁)
    r.1.accepted = result.accepted ∧ AllOrNothing bus r.1 r.2 publications := by
  intro r
  cases hresult : result.accepted with
  | false =>
      have hr : r = (result, bus₁) := by simp [r, hresult]
      rw [hr]
      refine ⟨hresult, ⟨fun _ => huntouched, ?_⟩⟩
      intro haccepted
      rw [hresult] at haccepted
      contradiction
  | true =>
      have hr : r = publishAll clock expanded bus₁ := by simp [r, hresult]
      obtain ⟨hexpanded, hfits⟩ := hok hresult
      rw [← hconfig] at hfits
      -- the preflight has touched no queue, so what fits before it fits after it
      have hload₁ : ∀ id, (bus₁.channels id).queue.length ≤ load id := by
        intro id
        rw [(huntouched id).queue]
        exact hload id
      obtain ⟨haccepted, hstored⟩ := publishAll_of_fits clock expanded bus₁ hfits hload₁
      rw [hr]
      refine ⟨haccepted, ⟨?_, fun _ => ⟨expanded, hexpanded, fun id => ?_⟩⟩⟩
      · intro hrejected
        rw [haccepted] at hrejected
        contradiction
      · have hid := hstored id
        obtain ⟨new, hnew, hall, hseq, hholds⟩ := hid.stored
        have hsame := huntouched id
        rw [hconfig] at hid hall hholds
        refine ⟨⟨new, by rw [hnew, hsame.stored], hall, by rw [hseq, hsame.nextSequence],
          hholds.of_untouched hsame⟩, ?_, ?_⟩
        · rw [hid.nextSequence, hsame.nextSequence]
        · rw [hid.published, hsame.published]

theorem queue_length_le_load (bus : RuntimeChannelBus) (id : String) :
    (bus.channels id).queue.length ≤ Preflight.load { bus := bus } id :=
  Nat.le_add_right _ _

/-- A batch is accepted exactly if its preflight is, and then all of it is stored. -/
theorem publishBatch_allOrNothing (bus : RuntimeChannelBus)
    (publications : List RuntimeChannelPublication) :
    (bus.publishBatch clock publications).1.accepted =
        (preflightBatch clock publications { bus := bus }).1.accepted ∧
      AllOrNothing bus (bus.publishBatch clock publications).1
        (bus.publishBatch clock publications).2 (bus.expandAll publications) := by
  rcases preflightBatch_spec clock publications { bus := bus } with ⟨huntouched, hok⟩
  have hevolves : Evolves anyStep bus _ :=
    preflightBatch_evolves clock trivial publications { bus := bus }
  exact allOrNothing_of_preflight clock hevolves.config huntouched hok
    (queue_length_le_load bus)

end RuntimeChannelBus

open RuntimeChannelBus in
/-- `publish_batch` and `publish_shared_from` on an endpoint with several
channels are all-or-nothing, for every state of the bus: a rejection leaves every
channel as it was, an acceptance stored everything in list order, and it is the
preflight alone that decides. -/
theorem fan_out_all_or_nothing (clock : Nat → Int) (bus : RuntimeChannelBus) :
    (∀ publications : List RuntimeChannelPublication,
      (bus.publishBatch clock publications).1.accepted =
          (preflightBatch clock publications { bus := bus }).1.accepted ∧
        AllOrNothing bus (bus.publishBatch clock publications).1
          (bus.publishBatch clock publications).2 (bus.expandAll publications)) ∧
      ∀ (endpoint : String) (ids : List String) (payload : RuntimePayload)
        (metadata : InvocationMetadata) (timestamp : Option EventTimestamp),
        bus.sourceToChannels endpoint = some ids → 2 ≤ ids.length →
        (bus.publishSharedFromWithMetadata clock endpoint (some payload) metadata
            timestamp).1.accepted =
          (preflightAll clock (fanOut ids payload timestamp
            (metadataForSourceEndpoint metadata endpoint) none) { bus := bus }).1.accepted ∧
        AllOrNothing bus
          (bus.publishSharedFromWithMetadata clock endpoint (some payload) metadata timestamp).1
          (bus.publishSharedFromWithMetadata clock endpoint (some payload) metadata timestamp).2
          (.ok (fanOut ids payload timestamp (metadataForSourceEndpoint metadata endpoint)
            none)) := by
  refine ⟨publishBatch_allOrNothing clock bus, ?_⟩
  intro endpoint ids payload metadata timestamp hids hmany
  set publications := fanOut ids payload timestamp
    (metadataForSourceEndpoint metadata endpoint) none with hpublications
  obtain ⟨huntouched, hok⟩ := preflightAll_spec clock publications { bus := bus }
  have hevolves : Evolves anyStep bus _ :=
    preflightAll_evolves clock trivial publications { bus := bus }
  have hmodel : bus.publishSharedFromWithMetadata clock endpoint (some payload) metadata
      timestamp =
      if (preflightAll clock publications { bus := bus }).1.accepted then
        publishAll clock publications (preflightAll clock publications { bus := bus }).2.bus
      else ((preflightAll clock publications { bus := bus }).1,
        (preflightAll clock publications { bus := bus }).2.bus) := by
    simp only [publishSharedFromWithMetadata, hids, if_pos (show 1 < ids.length from hmany),
      ← hpublications]
  rw [hmodel]
  exact allOrNothing_of_preflight clock hevolves.config huntouched
    (fun h => ⟨rfl, (hok h).1⟩) (queue_length_le_load bus)

/-- An endpoint that feeds a queue which takes everything and one which takes
text only. -/
def splitFeed : List EdgeSpec :=
  [{ id := "views", fromEndpoint := "camera.out", toEndpoint := "viewer.in"
     policy := { mode := "queue", capacity := 4, copyPolicy := "shared_view" } },
   { id := "texts", fromEndpoint := "camera.out", toEndpoint := "logger.in"
     policy := { mode := "queue", capacity := 4 } }]

open RuntimeChannelBus in
/-- A frame is too large for the second queue, so the first one does not get it either. A text
ends up in both, and a batch of texts in their order. -/
theorem splitFeed_all_or_nothing :
    (((RuntimeChannelBus.ofEdges splitFeed).publishSharedFromWithMetadata (fun n => n) "camera.out"
        (some { value := .frameView 0 })).1.accepted = false ∧
      Untouched ((RuntimeChannelBus.ofEdges splitFeed).channels "views")
        (((RuntimeChannelBus.ofEdges splitFeed).publishSharedFromWithMetadata (fun n => n)
          "camera.out" (some { value := .frameView 0 })).2.channels "views")) ∧
    ∃ expanded, (RuntimeChannelBus.ofEdges splitFeed).expandAll
          [{ target := .sourceEndpoint, id := "camera.out", payload := some {}, tag := some 1 },
           { target := .channel, id := "texts", payload := some {}, tag := some 2 }] =
        .ok expanded ∧
      ∀ id, StoredInOrder ((RuntimeChannelBus.ofEdges splitFeed).config id)
        (expanded.filter fun publication => publication.channelId = id)
        ((RuntimeChannelBus.ofEdges splitFeed).channels id)
        (((RuntimeChannelBus.ofEdges splitFeed).publishBatch (fun n => n)
          [{ target := .sourceEndpoint, id := "camera.out", payload := some {}, tag := some 1 },
           { target := .channel, id := "texts", payload := some {}, tag := some 2 }]).2.channels
          id) := by
  have hrejected : ((RuntimeChannelBus.ofEdges splitFeed).publishSharedFromWithMetadata
      (fun n => n) "camera.out" (some { value := .frameView 0 })).1.accepted = false := by
    decide
  obtain ⟨hbatch, hfanOut⟩ := fan_out_all_or_nothing (fun n => n) (.ofEdges splitFeed)
  refine ⟨⟨hrejected, ?_⟩, ?_⟩
  · exact (hfanOut "camera.out" ["views", "texts"] { value := .frameView 0 } {} none (by decide)
      (by decide)).2.rejected hrejected "views"
  · exact (hbatch _).2.accepted (by decide)

end TopoExec
