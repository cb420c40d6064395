import TopoExec.Channel.Effect

/-! # The slots of a channel

A channel shows its readers the value in its slot `latest`; a previous-tick channel has a
second slot, where a value waits for the next epoch. `SlotStep` says everything a step can
do to the two slots. It follows that a value that becomes visible is a new one, and that
`update_sequence` counts exactly the operations that make a value visible
(`exec_announces`).
-/

namespace TopoExec

variable {allowed : StepKind → Prop} {config : ChannelConfig} {s s' : ChannelState}

/-- The part of the record of a channel that goes with its slots. -/
structure SameRecord (s s' : ChannelState) : Prop where
  stored : s'.ledger.stored = s.ledger.stored
  delivered : s'.ledger.delivered = s.ledger.delivered
  cursors : s'.deliveredLatestSequences = s.deliveredLatestSequences

/-- What a step does to the slots. The record is followed on latest-style channels. -/
inductive SlotStep (allowed : StepKind → Prop) (config : ChannelConfig) (s s' : ChannelState) :
    Prop where
  | quiet (latest : s'.latest = s.latest) (pending : s'.pendingPreviousTick = s.pendingPreviousTick)
      (next : s.nextSequence ≤ s'.nextSequence)
      (record : config.type.isLatestStyle = true → SameRecord s s')
  | exposed (kind : allowed .publish) (type : config.type ≠ .previousTick)
      (message : RuntimeChannelMessage) (latest : s'.latest = some message)
      (pending : s'.pendingPreviousTick = s.pendingPreviousTick)
      (sequence : message.sequence = s.nextSequence) (next : s'.nextSequence = s.nextSequence + 1)
  | staged (kind : allowed .publish) (type : config.type = .previousTick)
      (message : RuntimeChannelMessage) (latest : s'.latest = s.latest)
      (pending : s'.pendingPreviousTick = some message)
      (sequence : message.sequence = s.nextSequence) (next : s'.nextSequence = s.nextSequence + 1)
      (stored : s'.ledger.stored = s.ledger.stored ++ [message])
      (delivered : s'.ledger.delivered = s.ledger.delivered)
      (cursors : s'.deliveredLatestSequences = s.deliveredLatestSequences)
  | advanced (kind : allowed .advance) (type : config.type = .previousTick)
      (message : RuntimeChannelMessage) (waiting : s.pendingPreviousTick = some message)
      (latest : s'.latest = some message) (pending : s'.pendingPreviousTick = none)
      (next : s'.nextSequence = s.nextSequence) (record : SameRecord s s')
  | expired (now : Int) (kind : allowed (.observe now)) (message : RuntimeChannelMessage)
      (visible : s.latest = some message) (late : messageExpired config message now = true)
      (latest : s'.latest = none) (pending : s'.pendingPreviousTick = s.pendingPreviousTick)
      (next : s'.nextSequence = s.nextSequence) (record : SameRecord s s')
  | delivered (now : Int) (kind : allowed (.observe now)) (readerId : String)
      (message : RuntimeChannelMessage)
      (visible : s.latest = some message)
      (unseen : s.deliveredLatestSequences[readerId]? ≠ some message.sequence)
      (latest : s'.latest = s.latest) (pending : s'.pendingPreviousTick = s.pendingPreviousTick)
      (next : s'.nextSequence = s.nextSequence) (stored : s'.ledger.stored = s.ledger.stored)
      (delivered : s'.ledger.delivered = s.ledger.delivered ++ [(readerId, message.sequence)])
      (cursors : s'.deliveredLatestSequences =
        moveCursor s.deliveredLatestSequences readerId message.sequence)

/-- Every step of a channel, as a step of its slots. -/
theorem ChannelStep.slots (hstep : ChannelStep allowed config s s') :
    SlotStep allowed config s s' := by
  have hqueue : config.type.isLatestStyle = false → config.type.isLatestStyle = true →
      SameRecord s s' := by
    intro hfalse htrue
    rw [hfalse] at htrue
    cases htrue
  cases hstep.effect with
  | unaffected hu =>
      exact .quiet hu.latest hu.pending hu.nextSequence fun _ =>
        ⟨hu.stored, hu.delivered, hu.latestCursors⟩
  | enqueued kind htype now prepared he =>
      exact .exposed kind (ne_previousTick htype) _ he.latest he.pending rfl he.nextSequence
  | replaced kind htype hother now prepared =>
      rw [acceptLatest_eq htype]
      exact .exposed kind hother _ rfl rfl rfl rfl
  | staged kind htype now prepared => exact .staged kind htype _ rfl rfl rfl rfl rfl rfl rfl
  | advanced kind htype message hwaiting =>
      exact .advanced kind htype message hwaiting rfl rfl rfl ⟨rfl, rfl, rfl⟩
  | expired now kind _ message hlatest hexpired =>
      exact .expired now kind message hlatest hexpired rfl rfl rfl ⟨rfl, rfl, rfl⟩
  | delivered now kind _ readerId message hlatest hunseen =>
      exact .delivered now kind readerId message hlatest hunseen rfl rfl rfl rfl rfl rfl
  | snapshotted now _ htype hc =>
      exact .quiet hc.frame.latest hc.frame.pending hc.frame.nextSequence.ge (hqueue htype)
  | consumed now _ htype readerId maxBatch hc =>
      exact .quiet hc.frame.latest hc.frame.pending hc.frame.nextSequence.ge (hqueue htype)

/-! ## What is in the slots -/

/-- The slots hold messages that were numbered before, the waiting one after the visible
one. Only previous-tick channels use the second slot. -/
structure Slots (config : ChannelConfig) (s : ChannelState) : Prop where
  latest : ∀ message ∈ s.latest, message.sequence < s.nextSequence
  pending : ∀ waiting ∈ s.pendingPreviousTick, waiting.sequence < s.nextSequence ∧
    ∀ message ∈ s.latest, message.sequence < waiting.sequence
  unused : config.type ≠ .previousTick → s.pendingPreviousTick = none

theorem slots_init (config : ChannelConfig) : Slots config {} :=
  ⟨by simp, by simp, fun _ => rfl⟩

/-- The slots empty themselves or stay as they are. -/
theorem Slots.kept (h : Slots config s) (hlatest : ∀ message ∈ s'.latest, message ∈ s.latest)
    (hpending : s'.pendingPreviousTick = s.pendingPreviousTick)
    (hnext : s.nextSequence ≤ s'.nextSequence) : Slots config s' where
  latest := fun message hm => (h.latest message (hlatest message hm)).trans_le hnext
  pending := by
    intro waiting hw
    rw [hpending] at hw
    obtain ⟨hbelow, hafter⟩ := h.pending waiting hw
    exact ⟨hbelow.trans_le hnext, fun message hm => hafter message (hlatest message hm)⟩
  unused := fun htype => hpending.trans (h.unused htype)

/-- Every step keeps the slots in order. -/
theorem slots_step (hstep : SlotStep allowed config s s') (h : Slots config s) :
    Slots config s' := by
  cases hstep with
  | quiet latest pending next => exact h.kept (fun m hm => latest ▸ hm) pending next
  | exposed _ type message latest pending sequence next =>
      -- only a previous-tick channel uses its second slot
      have hnone : s'.pendingPreviousTick = none := pending.trans (h.unused type)
      refine ⟨?_, by simp [hnone], fun _ => hnone⟩
      intro m hm
      rw [latest] at hm
      cases hm
      omega
  | staged _ type message latest pending sequence next =>
      refine ⟨?_, ?_, fun hother => absurd type hother⟩
      · intro m hm
        -- the staged value is newer than the visible one
        have hbelow := h.latest m (latest ▸ hm)
        omega
      · intro waiting hw
        rw [pending] at hw
        cases hw
        refine ⟨by omega, ?_⟩
        intro m hm
        rw [sequence]
        exact h.latest m (latest ▸ hm)
  | advanced _ type message waiting latest pending next =>
      refine ⟨?_, by simp [pending], fun hother => absurd type hother⟩
      intro m hm
      rw [latest] at hm
      cases hm
      rw [next]
      exact (h.pending message waiting).1
  | expired now _ message visible late latest pending next =>
      exact h.kept (by simp [latest]) pending next.ge
  | delivered now _ readerId message visible unseen latest pending next =>
      exact h.kept (fun m hm => latest ▸ hm) pending next.ge

theorem slots_run (clock : Nat → Int) (specs : List EdgeSpec) (ops : List BusOp) (id : String) :
    Slots ((runBus clock (.ofEdges specs) ops).config id)
      ((runBus clock (.ofEdges specs) ops).channels id) :=
  run_invariant slots_init (fun _ _ _ hstep h => slots_step hstep.slots h) clock specs ops id

/-! ## Announcements -/

/-- The value that a channel shows. -/
def RuntimeChannelBus.visible (bus : RuntimeChannelBus) (id : String) :
    Option RuntimeChannelMessage :=
  (bus.channels id).latest

/-- One of the channels shows a value that it did not show before. -/
def MadeVisible (bus bus' : RuntimeChannelBus) : Prop :=
  ∃ id ∈ bus.channelIds, ∃ message, bus'.visible id = some message ∧ bus.visible id ≠ some message

/-- What publishing does to the counter and to the visible values: no value is taken away,
and the counter moves iff a new value comes up. -/
structure Publishes (bus bus' : RuntimeChannelBus) : Prop where
  channelIds : bus'.channelIds = bus.channelIds
  moment : bus.moment ≤ bus'.moment
  le : bus.updateSequence ≤ bus'.updateSequence
  next : ∀ id, (bus.channels id).nextSequence ≤ (bus'.channels id).nextSequence
  kept : ∀ id message, bus.visible id = some message →
    ∃ message', bus'.visible id = some message' ∧
      (message' = message ∨ (bus.channels id).nextSequence ≤ message'.sequence)
  silent : bus'.updateSequence = bus.updateSequence →
    ∀ id ∈ bus.channelIds, bus'.visible id = bus.visible id
  loud : bus.updateSequence < bus'.updateSequence →
    ∃ id ∈ bus.channelIds, ∃ message, bus'.visible id = some message ∧
      (bus.channels id).nextSequence ≤ message.sequence

namespace Publishes

variable {bus bus₁ bus₂ : RuntimeChannelBus}

theorem refl (bus : RuntimeChannelBus) : Publishes bus bus :=
  ⟨rfl, Nat.le_refl _, Nat.le_refl _, fun _ => Nat.le_refl _, fun _ m h => ⟨m, h, .inl rfl⟩,
    fun _ _ _ => rfl, fun h => absurd h (Nat.lt_irrefl _)⟩

theorem trans (h : Publishes bus bus₁) (h' : Publishes bus₁ bus₂) : Publishes bus bus₂ where
  channelIds := h'.channelIds.trans h.channelIds
  moment := h.moment.trans h'.moment
  le := h.le.trans h'.le
  next := fun id => (h.next id).trans (h'.next id)
  kept := by
    intro id message hvisible
    obtain ⟨message₁, hvisible₁, hfirst⟩ := h.kept id message hvisible
    obtain ⟨message₂, hvisible₂, hsecond⟩ := h'.kept id message₁ hvisible₁
    refine ⟨message₂, hvisible₂, ?_⟩
    rcases hsecond with rfl | hfresh
    · exact hfirst
    · exact Or.inr ((h.next id).trans hfresh)
  silent := by
    intro hsame id hid
    have hle := h.le
    have hle' := h'.le
    rw [h'.silent (by omega) id (h.channelIds ▸ hid), h.silent (by omega) id hid]
  loud := by
    intro hmoved
    by_cases hfirst : bus.updateSequence < bus₁.updateSequence
    · -- what came up first is still there, or something newer is
      obtain ⟨id, hid, message, hvisible, hfresh⟩ := h.loud hfirst
      obtain ⟨message', hvisible', hsecond⟩ := h'.kept id message hvisible
      refine ⟨id, hid, message', hvisible', ?_⟩
      rcases hsecond with rfl | hfresh'
      · exact hfresh
      · exact (h.next id).trans hfresh'
    · obtain ⟨id, hid, message, hvisible, hfresh⟩ := h'.loud (by omega)
      exact ⟨id, h.channelIds ▸ hid, message, hvisible, (h.next id).trans hfresh⟩

/-- In a bus with its slots in order, the counter moves iff a value is made visible. -/
theorem lt_iff (h : Publishes bus bus₁)
    (hslots : ∀ id, Slots (bus.config id) (bus.channels id)) :
    bus.updateSequence < bus₁.updateSequence ↔ MadeVisible bus bus₁ := by
  constructor
  · intro hmoved
    obtain ⟨id, hid, message, hvisible, hfresh⟩ := h.loud hmoved
    refine ⟨id, hid, message, hvisible, ?_⟩
    intro hold
    have hbelow := (hslots id).latest message hold
    omega
  · rintro ⟨id, hid, message, hvisible, hnew⟩
    by_contra hstill
    have hle := h.le
    rw [h.silent (by omega) id hid] at hvisible
    exact hnew hvisible

end Publishes

/-- A publish shows its message iff it is accepted on a channel without a second slot. -/
theorem publishToState_visible (config : ChannelConfig) (now : Int) (s : ChannelState)
    (prepared : Prepared) :
    ((publishToState config now s prepared).1.accepted && config.type ≠ .previousTick) = true ∧
        (∃ message, (publishToState config now s prepared).2.latest = some message ∧
          s.nextSequence ≤ message.sequence) ∨
      ((publishToState config now s prepared).1.accepted && config.type ≠ .previousTick) = false ∧
        (publishToState config now s prepared).2.latest = s.latest := by
  cases htype : config.type.isLatestStyle with
  | true =>
      unfold publishToState
      dsimp only
      rw [if_neg (by simp [htype])]
      unfold acceptMessage
      by_cases hprevious : config.type = .previousTick
      · rw [if_pos hprevious]
        exact Or.inr ⟨by simp [hprevious], rfl⟩
      · rw [if_neg hprevious]
        simp only [acceptLatest, maybeEmitHighWatermark, htype, Bool.or_true, Bool.true_or,
          if_true]
        exact Or.inl ⟨by simp [hprevious], _, rfl, Nat.le_refl _⟩
  | false =>
      have hother := ne_previousTick htype
      rcases publishToState_queue_cases config now s prepared htype with
        ⟨reason, isDrop, _, _, heq⟩ | ⟨haccepted, _, he⟩
      · rw [heq]
        exact Or.inr ⟨rfl, rfl⟩
      · rw [haccepted]
        exact Or.inl ⟨by simp [hother], _, he.latest, Nat.le_refl _⟩

/-- Numbers are given and never taken back. -/
theorem publishToState_nextSequence (config : ChannelConfig) (now : Int) (s : ChannelState)
    (prepared : Prepared) :
    s.nextSequence ≤ (publishToState config now s prepared).2.nextSequence := by
  have hstep : SlotStep anyStep config s (publishToState config now s prepared).2 :=
    (ChannelStep.publish trivial now s prepared).slots
  cases hstep with
  | quiet latest pending next => exact next
  | exposed _ _ _ _ _ _ next => omega
  | staged _ _ _ _ _ _ next => omega
  | advanced _ _ _ _ _ _ next => exact next.ge
  | expired _ _ _ _ _ _ _ next => exact next.ge
  | delivered _ _ _ _ _ _ _ _ next => exact next.ge

namespace RuntimeChannelBus

variable (clock : Nat → Int)

/-- A step of one channel that leaves the visible value alone. -/
theorem onChannel_publishes {α : Type} (bus : RuntimeChannelBus) (id : String)
    {f : ChannelConfig → Int → ChannelState → α × ChannelState}
    (hnext : ∀ now s, s.nextSequence ≤ (f (bus.config id) now s).2.nextSequence)
    (hlatest : ∀ now s, (f (bus.config id) now s).2.latest = s.latest) :
    Publishes bus (bus.onChannel clock id f).2 := by
  have hvisible : ∀ other, (bus.onChannel clock id f).2.visible other = bus.visible other := by
    intro other
    by_cases hother : other = id
    · subst hother
      simp [visible, onChannel, hlatest]
    · simp [visible, onChannel, Function.update_of_ne hother]
  refine ⟨rfl, Nat.le_succ _, Nat.le_refl _, ?_, ?_, fun _ other _ => hvisible other,
    fun h => absurd h (Nat.lt_irrefl _)⟩
  · intro other
    by_cases hother : other = id
    · subst hother
      simp [onChannel, hnext]
    · simp [onChannel, Function.update_of_ne hother]
  · intro other message hmessage
    exact ⟨message, (hvisible other).trans hmessage, .inl rfl⟩

/-- The publish to one channel, with the counter. -/
theorem publishOne_publishes {bus : RuntimeChannelBus} {id : String} (hknown : id ∈ bus.channelIds)
    (prepared : Prepared) :
    let published := bus.onChannel clock id fun config now state =>
      publishToState config now state prepared
    Publishes bus
      { published.2 with
        updateSequence := published.2.updateSequence +
          (if published.1.accepted && (bus.config id).type ≠ .previousTick then 1 else 0) } := by
  intro published
  have hothers : ∀ other, other ≠ id → published.2.channels other = bus.channels other := by
    intro other hother
    simp [published, onChannel, Function.update_of_ne hother]
  have hown : published.2.channels id =
      (publishToState (bus.config id) (clock bus.moment) (bus.channels id) prepared).2 := by
    simp [published, onChannel]
  have hnext : ∀ other, (bus.channels other).nextSequence ≤
      (published.2.channels other).nextSequence := by
    intro other
    by_cases hother : other = id
    · subst hother
      rw [hown]
      exact publishToState_nextSequence ..
    · rw [hothers other hother]
  -- a publish shows a new message or leaves what is visible
  rcases publishToState_visible (bus.config id) (clock bus.moment) (bus.channels id) prepared with
    ⟨hshown, message, hmessage, hfresh⟩ | ⟨hhidden, hsame⟩
  · have hcount : (if published.1.accepted && (bus.config id).type ≠ .previousTick then 1 else 0) =
        1 := if_pos hshown
    rw [hcount]
    refine ⟨rfl, Nat.le_succ _, Nat.le_succ _, hnext, ?_, ?_, ?_⟩
    · intro other old hold
      by_cases hother : other = id
      · subst hother
        exact ⟨message, (congrArg ChannelState.latest hown).trans hmessage, .inr hfresh⟩
      · exact ⟨old, (congrArg ChannelState.latest (hothers other hother)).trans hold, .inl rfl⟩
    · intro hstill
      exact absurd hstill (Nat.succ_ne_self _)
    · intro _
      exact ⟨id, hknown, message, (congrArg ChannelState.latest hown).trans hmessage, hfresh⟩
  · have hcount : (if published.1.accepted && (bus.config id).type ≠ .previousTick then 1 else 0) =
        0 := if_neg (by rw [Bool.not_eq_true]; exact hhidden)
    rw [hcount]
    have hvisible : ∀ other, published.2.visible other = bus.visible other := by
      intro other
      by_cases hother : other = id
      · subst hother
        exact (congrArg ChannelState.latest hown).trans hsame
      · exact congrArg ChannelState.latest (hothers other hother)
    refine ⟨rfl, Nat.le_succ _, Nat.le_refl _, hnext, ?_, fun _ other _ => hvisible other,
      fun h => absurd h (Nat.lt_irrefl _)⟩
    intro other old hold
    exact ⟨old, (hvisible other).trans hold, .inl rfl⟩

/-- A publication for a channel that the bus knows. -/
theorem publishExpanded_publishes {bus : RuntimeChannelBus} {publication : ExpandedPublication}
    (hknown : publication.channelId ∈ bus.channelIds) :
    Publishes bus (bus.publishExpanded clock publication).2 := by
  have hprepare := onChannel_publishes clock bus publication.channelId
    (f := fun config _ state => preparePayloadForState config state publication.payload)
    (fun _ s => by unfold preparePayloadForState; dsimp only; split_ifs <;> exact Nat.le_refl _)
    (fun _ s => by unfold preparePayloadForState; dsimp only; split_ifs <;> rfl)
  unfold publishExpanded
  dsimp only
  split
  · exact hprepare
  · refine hprepare.trans ?_
    have hstill : publication.channelId ∈ (bus.onChannel clock publication.channelId
        fun config _ state =>
          preparePayloadForState config state publication.payload).2.channelIds :=
      hknown
    exact publishOne_publishes clock hstill _

/-- The publications of a batch, one after the other. -/
theorem publishAll_publishes (publications : List ExpandedPublication) (bus : RuntimeChannelBus)
    (hknown : ∀ publication ∈ publications, publication.channelId ∈ bus.channelIds) :
    Publishes bus (publishAll clock publications bus).2 := by
  induction publications generalizing bus with
  | nil => exact .refl bus
  | cons publication rest ih =>
      have hone := publishExpanded_publishes clock (hknown publication (List.mem_cons_self ..))
      unfold publishAll
      dsimp only
      split_ifs
      · refine hone.trans (ih _ ?_)
        intro other hother
        rw [hone.channelIds]
        exact hknown other (List.mem_cons_of_mem _ hother)
      · exact hone

/-- A preflight gives no number. -/
theorem preflightOne_publishes (s : Preflight) (payload : RuntimePayload) (channelId : String) :
    Publishes s.bus (preflightOne clock s payload channelId).2.bus := by
  have hpayload := onChannel_publishes clock s.bus channelId
    (f := fun config _ state => preflightPayloadForState config state payload)
    (fun _ s => by unfold preflightPayloadForState; dsimp only; split_ifs <;> exact Nat.le_refl _)
    (fun _ s => by unfold preflightPayloadForState; dsimp only; split_ifs <;> rfl)
  have hcapacity := onChannel_publishes clock (s.bus.onChannel clock channelId
      fun config _ state => preflightPayloadForState config state payload).2 channelId
    (f := fun config _ state => preflightPublishToState config state (s.planned channelId))
    (fun _ s => by
      unfold preflightPublishToState
      split_ifs
      · exact Nat.le_refl _
      · split <;> exact Nat.le_refl _)
    (fun _ s => by
      unfold preflightPublishToState
      split_ifs
      · rfl
      · split <;> rfl)
  unfold preflightOne
  dsimp only
  split_ifs
  · exact hpayload
  · exact hpayload.trans hcapacity
  · exact hpayload.trans hcapacity

theorem preflightAll_publishes (publications : List ExpandedPublication) (s : Preflight) :
    Publishes s.bus (preflightAll clock publications s).2.bus := by
  induction publications generalizing s with
  | nil => exact .refl _
  | cons publication rest ih =>
      have hone := preflightOne_publishes clock s publication.payload publication.channelId
      unfold preflightAll
      dsimp only
      split_ifs
      · exact hone.trans (ih _)
      · exact hone

theorem mem_fanOut_channelId {channelIds : List String} {payload : RuntimePayload}
    {eventTimestamp : Option EventTimestamp} {metadata : InvocationMetadata} {tag : Option Nat}
    {publication : ExpandedPublication}
    (h : publication ∈ fanOut channelIds payload eventTimestamp metadata tag) :
    publication.channelId ∈ channelIds := by
  obtain ⟨id, hid, rfl⟩ := List.mem_map.mp h
  exact hid

/-- A publication that is expanded is for channels of the bus. -/
theorem expand_known {bus : RuntimeChannelBus} {publication : RuntimeChannelPublication}
    {expanded : List ExpandedPublication} (h : bus.expand publication = .ok expanded) :
    ∀ one ∈ expanded, one.channelId ∈ bus.channelIds := by
  intro one hone
  unfold expand at h
  split at h
  · cases h
  · split at h
    · split_ifs at h with hknown
      cases h
      have hid := List.mem_singleton.mp (mem_fanOut_channelId hone)
      rw [hid]
      exact hknown
    · split at h
      · cases h
      · rename_i channelIds hsource
        cases h
        exact bus.source_known _ channelIds hsource _ (mem_fanOut_channelId hone)

/-- The preflight of a batch gives no number, and expands to known channels. -/
theorem preflightBatch_publishes (publications : List RuntimeChannelPublication) (s : Preflight) :
    Publishes s.bus (preflightBatch clock publications s).2.2.bus ∧
      ∀ one ∈ (preflightBatch clock publications s).2.1, one.channelId ∈ s.bus.channelIds := by
  induction publications generalizing s with
  | nil => exact ⟨.refl _, by simp [preflightBatch]⟩
  | cons publication rest ih =>
      unfold preflightBatch
      cases hexpand : s.bus.expand publication with
      | error reason => exact ⟨.refl _, by simp⟩
      | ok expanded =>
          have hall := preflightAll_publishes clock expanded s
          dsimp only
          split_ifs
          · obtain ⟨hrest, hknown⟩ := ih (preflightAll clock expanded s).2
            refine ⟨hall.trans hrest, ?_⟩
            intro one hone
            rcases List.mem_append.mp hone with hfirst | hlater
            · exact expand_known hexpand one hfirst
            · rw [← hall.channelIds]
              exact hknown one hlater
          · exact ⟨hall, by simp⟩

end RuntimeChannelBus

open RuntimeChannelBus in
/-- The three operations that publish. -/
theorem exec_publishes (clock : Nat → Int) (bus : RuntimeChannelBus) {op : BusOp}
    (hkind : op.kinds clock .publish) : Publishes bus (op.exec clock bus).2 := by
  cases op with
  | publishShared channelId payload metadata eventTimestamp =>
      simp only [BusOp.exec, publishSharedWithMetadata]
      cases payload with
      | none => exact .refl bus
      | some payload =>
          dsimp only
          split_ifs with hknown
          · exact publishExpanded_publishes clock hknown
          · exact .refl bus
  | publishSharedFrom sourceEndpoint payload metadata eventTimestamp =>
      simp only [BusOp.exec, publishSharedFromWithMetadata]
      cases payload with
      | none => exact .refl bus
      | some payload =>
          dsimp only
          cases hsource : bus.sourceToChannels sourceEndpoint with
          | none => exact .refl bus
          | some channelIds =>
              have hknown : ∀ one ∈ fanOut channelIds payload eventTimestamp
                  (metadataForSourceEndpoint metadata sourceEndpoint) none,
                  one.channelId ∈ bus.channelIds := fun one hone =>
                bus.source_known _ channelIds hsource _ (mem_fanOut_channelId hone)
              have hpreflight := preflightAll_publishes clock (fanOut channelIds payload
                eventTimestamp (metadataForSourceEndpoint metadata sourceEndpoint) none)
                { bus := bus }
              dsimp only
              split_ifs
              -- an accepted batch: the preflight shows nothing, and then each publication may
              · refine hpreflight.trans (publishAll_publishes clock _ _ ?_)
                intro one hone
                rw [hpreflight.channelIds]
                exact hknown one hone
              · exact hpreflight
              · exact publishAll_publishes clock _ bus hknown
              · exact .refl bus
  | publishBatch publications =>
      simp only [BusOp.exec, publishBatch]
      obtain ⟨hpreflight, hknown⟩ := preflightBatch_publishes clock publications { bus := bus }
      split_ifs
      · refine hpreflight.trans (publishAll_publishes clock _ _ ?_)
        intro one hone
        rw [hpreflight.channelIds]
        exact hknown one hone
      · exact hpreflight
  | advanceEpoch => cases hkind
  | drainForReader | drainForComponentPort | consumeForComponent =>
      rcases hkind with ⟨n, hkind | hkind⟩ <;> cases hkind
  | _ =>
      rcases hkind with ⟨n, hkind⟩
      cases hkind

/-- An epoch moves the counter iff it makes a waiting value visible. -/
theorem advanceEpoch_announces {bus : RuntimeChannelBus}
    (hslots : ∀ id, Slots (bus.config id) (bus.channels id)) :
    bus.updateSequence ≤ bus.advanceEpoch.updateSequence ∧
      (bus.updateSequence < bus.advanceEpoch.updateSequence ↔
        MadeVisible bus bus.advanceEpoch) := by
  have hvisible : ∀ id ∈ bus.channelIds, bus.advanceEpoch.visible id =
      (advanceState (bus.config id) (bus.channels id)).2.latest := by
    intro id hid
    simp [RuntimeChannelBus.visible, RuntimeChannelBus.advanceEpoch, hid]
  -- one channel: it is updated iff its visible value changes
  have hone : ∀ id ∈ bus.channelIds, (advanceState (bus.config id) (bus.channels id)).1 = true ↔
      ∃ message, bus.advanceEpoch.visible id = some message ∧ bus.visible id ≠ some message := by
    intro id hid
    rw [hvisible id hid]
    unfold advanceState
    split
    · rename_i waiting htype hwaiting
      refine iff_of_true rfl ⟨waiting, rfl, ?_⟩
      intro hold
      have hafter := ((hslots id).pending waiting hwaiting).2 waiting hold
      exact absurd hafter (Nat.lt_irrefl _)
    · refine iff_of_false Bool.false_ne_true ?_
      rintro ⟨message, hnew, hold⟩
      exact hold hnew
  have hany : (bus.channelIds.any fun id => (advanceState (bus.config id) (bus.channels id)).1) =
      true ↔ MadeVisible bus bus.advanceEpoch := by
    rw [List.any_eq_true]
    constructor
    · rintro ⟨id, hid, hupdated⟩
      exact ⟨id, hid, (hone id hid).mp hupdated⟩
    · rintro ⟨id, hid, hnew⟩
      exact ⟨id, hid, (hone id hid).mpr hnew⟩
  rw [← hany]
  simp only [RuntimeChannelBus.advanceEpoch]
  split_ifs with hupdated
  · exact ⟨Nat.le_succ _, iff_of_true (Nat.lt_succ_self _) hupdated⟩
  · exact ⟨Nat.le_refl _, iff_of_false (Nat.lt_irrefl _) hupdated⟩

end TopoExec
