import TopoExec.Channel.DeliveryLaw
import TopoExec.Channel.Slots
import TopoExec.Channel.Stored

/-! # What reads return

`ReadsAt` is about one latest-style channel of the bus and everything that a reading
operation returns and leaves behind: a message of the channel is the visible value, the
value stays unless it is found expired, the ledger records the deliveries, and the counter
of updates does not move. All the reading operations are of this kind (`exec_reads`).
-/

namespace TopoExec

/-- The messages as deliveries to a reader; a peek has none. -/
def handedTo (reader : Option String) (messages : List RuntimeChannelMessage) :
    List (String × RuntimeChannelMessage) :=
  match reader with
  | none => []
  | some readerId => messages.map fun message => (readerId, message)

theorem handedTo_append (reader : Option String) (l l' : List RuntimeChannelMessage) :
    handedTo reader (l ++ l') = handedTo reader l ++ handedTo reader l' := by
  cases reader with
  | none => rfl
  | some readerId => exact List.map_append

/-- The message is the value, perhaps marked as too late. -/
def Shows (value message : RuntimeChannelMessage) : Prop :=
  message = { value with deadlineMissed := message.deadlineMissed }

/-! ## One channel -/

/-- A read of a latest-style channel. -/
structure ReadsState (config : ChannelConfig) (now : Int) (reader : Option String)
    (s : ChannelState) (messages : List RuntimeChannelMessage) (s' : ChannelState) : Prop where
  latest : s'.latest = s.latest ∨
    s'.latest = none ∧ ∃ value, s.latest = some value ∧ messageExpired config value now = true
  shown : ∀ message ∈ messages, ∃ value, s.latest = some value ∧ Shows value message
  delivered : s'.ledger.delivered = s.ledger.delivered ++
    (handedTo reader messages).map fun delivery => (delivery.1, delivery.2.sequence)

/-- A read hands out the visible value once to each reader. -/
theorem consumeLatestFromState_reads (config : ChannelConfig) (now : Int) (readerId : String)
    (s : ChannelState) :
    ReadsState config now (some readerId) s (consumeLatestFromState config now readerId s).1.toList
      (consumeLatestFromState config now readerId s).2 := by
  unfold consumeLatestFromState
  cases hlatest : s.latest with
  | none => exact ⟨.inl rfl, by simp, by simp [handedTo]⟩
  | some latest =>
      dsimp only
      by_cases hexpired : messageExpired config latest now = true
      · rw [if_pos hexpired]
        exact ⟨.inr ⟨rfl, latest, hlatest, hexpired⟩, by simp,
          by simp [handedTo, ChannelState.dropLatest, ChannelState.markStaleDrop]⟩
      · rw [if_neg hexpired]
        by_cases hseen : s.deliveredLatestSequences[readerId]? = some latest.sequence
        · rw [if_pos hseen]
          exact ⟨.inl rfl, by simp, by simp [handedTo]⟩
        · rw [if_neg hseen]
          refine ⟨.inl hlatest.symm, ?_, rfl⟩
          intro message hmessage
          rw [Option.toList_some, List.mem_singleton] at hmessage
          refine ⟨latest, hlatest, ?_⟩
          rw [hmessage]
          rfl

/-- A snapshot hands out the visible value, however often it was read. -/
theorem snapshotFromState_reads {config : ChannelConfig}
    (htype : config.type.isLatestStyle = true) (now : Int) (maxBatch : Nat) (s : ChannelState) :
    ReadsState config now none s (snapshotFromState config now maxBatch s).1
      (snapshotFromState config now maxBatch s).2 := by
  unfold snapshotFromState
  rw [if_pos htype]
  cases hlatest : s.latest with
  | none => exact ⟨.inl rfl, by simp, by simp [handedTo]⟩
  | some latest =>
      dsimp only
      by_cases hexpired : messageExpired config latest now = true
      · rw [if_pos hexpired]
        exact ⟨.inr ⟨rfl, latest, hlatest, hexpired⟩, by simp,
          by simp [handedTo, ChannelState.dropLatest, ChannelState.markStaleDrop]⟩
      · rw [if_neg hexpired]
        refine ⟨.inl rfl, ?_, by simp [handedTo]⟩
        intro message hmessage
        rw [List.mem_singleton] at hmessage
        exact ⟨latest, hlatest, by rw [hmessage]; rfl⟩

/-- A snapshot shows messages of the channel. -/
theorem Tagged.snapshot {config : ChannelConfig} {s : ChannelState} (h : Tagged config s)
    (now : Int) (maxBatch : Nat) :
    ∀ message ∈ (snapshotFromState config now maxBatch s).1, message.channelId = config.id := by
  cases htype : config.type.isLatestStyle with
  | true =>
      intro message hmessage
      obtain ⟨value, hvalue, hshows⟩ :=
        (snapshotFromState_reads htype now maxBatch s).shown message hmessage
      rw [hshows]
      exact h.latest value hvalue
  | false =>
      -- what the walk hands out comes from the queue
      have hwalk : ∀ (queue : List RuntimeChannelMessage) (walked : DrainState),
          ∀ message ∈ (queue.foldl (snapshotStep config now maxBatch) walked).messages,
            message ∈ walked.messages ∨ message ∈ queue := by
        intro queue
        induction queue with
        | nil =>
            intro walked message hmessage
            exact Or.inl hmessage
        | cons first queue ih =>
            intro walked message hmessage
            rw [List.foldl_cons] at hmessage
            rcases ih _ message hmessage with hnow | hlater
            · unfold snapshotStep at hnow
              split_ifs at hnow
              · exact Or.inl hnow
              · rcases List.mem_append.mp hnow with hold | hnew
                · exact Or.inl hold
                · exact Or.inr (List.mem_cons.mpr (.inl (List.mem_singleton.mp hnew)))
              · exact Or.inl hnow
            · exact Or.inr (List.mem_cons_of_mem _ hlater)
      intro message hmessage
      unfold snapshotFromState at hmessage
      rw [if_neg (by simp [htype])] at hmessage
      rcases hwalk s.queue { state := s } message hmessage with hnone | hqueue
      · exact absurd hnone List.not_mem_nil
      · exact h.queue message hqueue

/-! ## The bus -/

/-- What a read leaves of the value a channel shows: it stays, or it is found expired at
one of the moments of the read. -/
def StaysVisible (clock : Nat → Int) (id : String) (bus bus' : RuntimeChannelBus) : Prop :=
  bus'.visible id = bus.visible id ∨
    bus'.visible id = none ∧ ∃ value, bus.visible id = some value ∧
      ∃ k, bus.moment ≤ k ∧ k < bus'.moment ∧
        messageExpired (bus.config id) value (clock k) = true

/-- A value that stays visible over two parts of a run. -/
theorem StaysVisible.trans {clock : Nat → Int} {id : String} {bus bus₁ bus₂ : RuntimeChannelBus}
    (h : StaysVisible clock id bus bus₁) (h' : StaysVisible clock id bus₁ bus₂)
    (hconfig : bus₁.config = bus.config) (hmoment : bus.moment ≤ bus₁.moment)
    (hmoment' : bus₁.moment ≤ bus₂.moment) : StaysVisible clock id bus bus₂ := by
  rcases h' with hsame | ⟨hnone, value, hvalue, k, hk, hk', hexpired⟩
  · rcases h with hfirst | ⟨hnone, value, hvalue, k, hk, hk', hexpired⟩
    · exact Or.inl (hsame.trans hfirst)
    · exact Or.inr ⟨hsame.trans hnone, value, hvalue, k, hk, by omega, hexpired⟩
  · rcases h with hfirst | ⟨hgone, -⟩
    · rw [hfirst] at hvalue
      rw [hconfig] at hexpired
      exact Or.inr ⟨hnone, value, hvalue, k, by omega, hk', hexpired⟩
    · rw [hgone] at hvalue
      cases hvalue

/-- A read by `reader` that returns `messages`, seen from one channel. -/
structure ReadsAt (clock : Nat → Int) (id : String) (reader : Option String)
    (bus : RuntimeChannelBus) (messages : List RuntimeChannelMessage) (bus' : RuntimeChannelBus) :
    Prop where
  evolves : Evolves anyStep bus bus'
  moment : bus.moment ≤ bus'.moment
  counter : bus'.updateSequence = bus.updateSequence
  visible : StaysVisible clock id bus bus'
  shown : ∀ message ∈ messages, message.channelId = id →
    ∃ value, bus.visible id = some value ∧ Shows value message
  delivered : (bus'.channels id).ledger.delivered =
    (bus.channels id).ledger.delivered ++ deliveriesOn id (handedTo reader messages)

namespace ReadsAt

variable {clock : Nat → Int} {id : String} {reader : Option String}
  {bus bus₁ bus₂ : RuntimeChannelBus} {messages messages' : List RuntimeChannelMessage}

theorem refl (clock : Nat → Int) (id : String) (reader : Option String) (bus : RuntimeChannelBus) :
    ReadsAt clock id reader bus [] bus where
  evolves := .refl bus
  moment := Nat.le_refl _
  counter := rfl
  visible := .inl rfl
  shown := by simp
  delivered := by cases reader <;> simp [handedTo, deliveriesOn]

/-- Two reads one after the other. -/
theorem trans (h : ReadsAt clock id reader bus messages bus₁)
    (h' : ReadsAt clock id reader bus₁ messages' bus₂) :
    ReadsAt clock id reader bus (messages ++ messages') bus₂ where
  evolves := h.evolves.trans h'.evolves
  moment := h.moment.trans h'.moment
  counter := h'.counter.trans h.counter
  visible := h.visible.trans h'.visible h.evolves.config h.moment h'.moment
  shown := by
    intro message hmessage hid
    rcases List.mem_append.mp hmessage with hfirst | hsecond
    · exact h.shown message hfirst hid
    · -- what is visible after the first read was visible before it
      obtain ⟨value, hvalue, hshows⟩ := h'.shown message hsecond hid
      rcases h.visible with hsame | ⟨hgone, -⟩
      · exact ⟨value, hsame ▸ hvalue, hshows⟩
      · rw [hgone] at hvalue
        cases hvalue
  delivered := by
    rw [h'.delivered, h.delivered, handedTo_append, deliveriesOn_append, List.append_assoc]

/-- A peek may show less than it looked at. -/
theorem subset (h : ReadsAt clock id none bus messages bus₁) (hsub : messages' ⊆ messages) :
    ReadsAt clock id none bus messages' bus₁ where
  evolves := h.evolves
  moment := h.moment
  counter := h.counter
  visible := h.visible
  shown := fun message hmessage => h.shown message (hsub hmessage)
  delivered := h.delivered

end ReadsAt

namespace RuntimeChannelBus

variable (clock : Nat → Int) (id : String)

/-- A read of one channel, its own or another one. -/
theorem onChannel_reads {α : Type} {bus : RuntimeChannelBus} {id' : String}
    {f : ChannelConfig → Int → ChannelState → α × ChannelState}
    (g : α → List RuntimeChannelMessage) (reader : Option String)
    (hstep : ∀ now s, ChannelStep anyStep (bus.config id') s (f (bus.config id') now s).2)
    (hown : id' = id → ∀ now s, ReadsState (bus.config id) now reader s
      (g (f (bus.config id) now s).1) (f (bus.config id) now s).2)
    (htags : ∀ message ∈ g (bus.onChannel clock id' f).1, message.channelId = id') :
    ReadsAt clock id reader bus (g (bus.onChannel clock id' f).1)
      (bus.onChannel clock id' f).2 := by
  have hevolves := onChannel_evolves clock bus id' fun n s => hstep (clock n) s
  by_cases hid : id' = id
  · subst hid
    have hread := hown rfl (clock bus.moment) (bus.channels id')
    have hstate : (bus.onChannel clock id' f).2.channels id' =
        (f (bus.config id') (clock bus.moment) (bus.channels id')).2 := by
      simp [onChannel]
    refine ⟨hevolves, Nat.le_succ _, rfl, ?_, ?_, ?_⟩
    · rcases hread.latest with hsame | ⟨hnone, value, hvalue, hexpired⟩
      · exact Or.inl ((congrArg ChannelState.latest hstate).trans hsame)
      · exact Or.inr ⟨(congrArg ChannelState.latest hstate).trans hnone, value, hvalue, bus.moment,
          Nat.le_refl _, Nat.lt_succ_self _, hexpired⟩
    · intro message hmessage _
      exact hread.shown message hmessage
    · rw [hstate, hread.delivered]
      congr 1
      cases reader with
      | none => rfl
      | some readerId =>
          rw [handedTo, handedTo, deliveriesOn_mine htags, List.map_map]
          rfl
  -- a call on another channel shows nothing of this one
  · have hother : id ≠ id' := fun heq => hid heq.symm
    have hstate : (bus.onChannel clock id' f).2.channels id = bus.channels id := by
      simp [onChannel, Function.update_of_ne hother]
    refine ⟨hevolves, Nat.le_succ _, rfl, Or.inl (congrArg ChannelState.latest hstate), ?_, ?_⟩
    · intro message hmessage hnamed
      exact absurd ((htags message hmessage).symm.trans hnamed) hid
    · rw [hstate]
      cases reader with
      | none => simp [handedTo, deliveriesOn]
      | some readerId => rw [handedTo, deliveriesOn_foreign hid htags, List.append_nil]

variable {bus : RuntimeChannelBus} (htags : AllTagged bus)

include htags

/-- A read of one channel; the others are not touched. -/
theorem readLatest_reads {id' : String} (hknown : id' ∈ bus.channelIds)
    (htype : (bus.config id').type.isLatestStyle = true) (readerId : String) :
    ReadsAt clock id (some readerId) bus
      (bus.onChannel clock id' fun config now state =>
        consumeLatestFromState config now readerId state).1.toList
      (bus.onChannel clock id' fun config now state =>
        consumeLatestFromState config now readerId state).2 := by
  refine onChannel_reads clock id Option.toList (some readerId)
    (fun now s => .consumeLatest _ trivial readerId s htype)
    (fun _ now s => consumeLatestFromState_reads _ now readerId s) ?_
  intro message hmessage
  rw [← bus.config_id id' hknown]
  exact (htags id').consumeLatest (clock bus.moment) readerId message
    (Option.mem_toList.mp hmessage)

/-- A snapshot of one channel; the others are not touched. -/
theorem snapshot_reads {id' : String} (hknown : id' ∈ bus.channelIds)
    (htype : (bus.config id).type.isLatestStyle = true) (maxBatch : Nat) :
    ReadsAt clock id none bus
      (bus.onChannel clock id' fun config now state =>
        snapshotFromState config now maxBatch state).1
      (bus.onChannel clock id' fun config now state =>
        snapshotFromState config now maxBatch state).2 := by
  refine onChannel_reads clock id (fun messages => messages) none
    (fun now s => .snapshot _ trivial maxBatch s)
    (fun _ now s => snapshotFromState_reads htype now maxBatch s) ?_
  intro message hmessage
  rw [← bus.config_id id' hknown]
  exact (htags id').snapshot (clock bus.moment) maxBatch message hmessage

/-- A drain of a latest-style channel is a read of it. -/
theorem consumeChannel_reads {id' : String} (hknown : id' ∈ bus.channelIds)
    (htype : (bus.config id).type.isLatestStyle = true) (readerId : String) (maxBatch : Nat) :
    ReadsAt clock id (some readerId) bus (bus.consumeChannel clock id' readerId maxBatch).1
      (bus.consumeChannel clock id' readerId maxBatch).2 := by
  refine onChannel_reads clock id (fun messages => messages) (some readerId) ?_ ?_
    (consumeChannel_messages clock htags hknown readerId maxBatch).1
  · intro now s
    split_ifs with hlatest
    · exact .consumeLatest _ trivial readerId s hlatest
    · exact .consume _ trivial readerId maxBatch s (by simpa using hlatest)
  · intro _ now s
    rw [if_pos htype]
    exact consumeLatestFromState_reads _ now readerId s

omit htags

/-- A search for news reads channel after channel, and stops at the first message. -/
theorem firstUpdate_reads (readerId : String) (ids : List String) (bus : RuntimeChannelBus)
    (htags : AllTagged bus) (hknown : ∀ id' ∈ ids, id' ∈ bus.channelIds) :
    ReadsAt clock id (some readerId) bus (firstUpdate clock readerId ids bus).1.toList
      (firstUpdate clock readerId ids bus).2 := by
  induction ids generalizing bus with
  | nil => exact .refl clock id _ bus
  | cons id' rest ih =>
      have hrest : ∀ other ∈ rest, other ∈ bus.channelIds := fun other hother =>
        hknown other (List.mem_cons_of_mem _ hother)
      unfold firstUpdate
      dsimp only
      by_cases hlatest : (bus.config id').type.isLatestStyle = true
      · have hone := readLatest_reads clock id htags (hknown id' (List.mem_cons_self ..))
          hlatest readerId
        rw [if_neg (by simp [hlatest])]
        generalize bus.onChannel clock id' (fun config now state =>
          consumeLatestFromState config now readerId state) = read at *
        split_ifs with hsome
        · exact hone
        · rw [Option.not_isSome_iff_eq_none] at hsome
          have hlater := ih read.2 (htags.evolves hone.evolves)
            (fun other hother => hone.evolves.channelIds ▸ hrest other hother)
          rw [hsome] at hone
          exact hone.trans hlater
      · rw [if_pos (by simpa using hlatest)]
        exact ih bus htags hrest

/-- A search for a value to peek at looks at channel after channel. -/
theorem firstPeek_reads (ids : List String) (bus : RuntimeChannelBus) (htags : AllTagged bus)
    (htype : (bus.config id).type.isLatestStyle = true)
    (hknown : ∀ id' ∈ ids, id' ∈ bus.channelIds) :
    ReadsAt clock id none bus (firstPeek clock ids bus).1.toList (firstPeek clock ids bus).2 := by
  induction ids generalizing bus with
  | nil => exact .refl clock id _ bus
  | cons id' rest ih =>
      have hone := snapshot_reads clock id htags (hknown id' (List.mem_cons_self ..)) htype 1
      unfold firstPeek
      dsimp only
      generalize bus.onChannel clock id' (fun config now state =>
        snapshotFromState config now 1 state) = snapshot at *
      cases hmessages : snapshot.1 with
      | nil =>
          have hlater := ih snapshot.2 (htags.evolves hone.evolves) (hone.evolves.config ▸ htype)
            (fun other hother =>
              hone.evolves.channelIds ▸ hknown other (List.mem_cons_of_mem _ hother))
          rw [hmessages] at hone
          exact hone.trans hlater
      | cons message messages =>
          refine hone.subset ?_
          rw [hmessages]
          simp

theorem snapshotChannels_reads (maxBatch : Nat) (ids : List String)
    (messages : List RuntimeChannelMessage) (bus : RuntimeChannelBus) (htags : AllTagged bus)
    (htype : (bus.config id).type.isLatestStyle = true)
    (hknown : ∀ id' ∈ ids, id' ∈ bus.channelIds) :
    ∃ new, (snapshotChannels clock maxBatch ids messages bus).1 = messages ++ new ∧
      ReadsAt clock id none bus new (snapshotChannels clock maxBatch ids messages bus).2 := by
  induction ids generalizing messages bus with
  | nil => exact ⟨[], (List.append_nil _).symm, .refl clock id _ bus⟩
  | cons id' rest ih =>
      rw [snapshotChannels]
      by_cases hfull : batchFull maxBatch messages.length = true
      · rw [if_pos hfull]
        exact ⟨[], (List.append_nil _).symm, .refl clock id _ bus⟩
      · rw [if_neg hfull]
        have hone := snapshot_reads clock id htags (hknown id' (List.mem_cons_self ..)) htype
          (maxBatch - messages.length)
        dsimp only
        generalize bus.onChannel clock id' (fun config now state =>
          snapshotFromState config now (maxBatch - messages.length) state) = snapshot at *
        generalize (if maxBatch = 0 then snapshot.1.length else maxBatch - messages.length) = room
        obtain ⟨new, hnew, hlater⟩ := ih (messages ++ snapshot.1.take room) snapshot.2
          (htags.evolves hone.evolves) (hone.evolves.config ▸ htype)
          (fun other hother =>
            hone.evolves.channelIds ▸ hknown other (List.mem_cons_of_mem _ hother))
        refine ⟨snapshot.1.take room ++ new, ?_, ?_⟩
        · rw [hnew, List.append_assoc]
        · exact (hone.subset (List.take_subset _ _)).trans hlater

/-- A drain of several channels reads each of them in turn. -/
theorem drainChannels_reads (readerId : String) (maxBatch : Nat) (ids : List String)
    (messages : List RuntimeChannelMessage) (bus : RuntimeChannelBus) (htags : AllTagged bus)
    (htype : (bus.config id).type.isLatestStyle = true)
    (hknown : ∀ id' ∈ ids, id' ∈ bus.channelIds) :
    ∃ new, (drainChannels clock readerId maxBatch ids messages bus).1 = messages ++ new ∧
      ReadsAt clock id (some readerId) bus new
        (drainChannels clock readerId maxBatch ids messages bus).2 := by
  induction ids generalizing messages bus with
  | nil => exact ⟨[], (List.append_nil _).symm, .refl clock id _ bus⟩
  | cons id' rest ih =>
      have hid' := hknown id' (List.mem_cons_self ..)
      rw [drainChannels]
      by_cases hfull : batchFull maxBatch messages.length = true
      · rw [if_pos hfull]
        exact ⟨[], (List.append_nil _).symm, .refl clock id _ bus⟩
      · rw [if_neg hfull]
        have hone := consumeChannel_reads clock id htags hid' htype readerId
          (maxBatch - messages.length)
        have hroom := consumeChannel_room clock htags hid' readerId (Bool.not_eq_true _ ▸ hfull)
        dsimp only
        rw [hroom]
        generalize bus.consumeChannel clock id' readerId (maxBatch - messages.length) = drained at *
        obtain ⟨new, hnew, hlater⟩ := ih (messages ++ drained.1) drained.2
          (htags.evolves hone.evolves) (hone.evolves.config ▸ htype)
          (fun other hother =>
            hone.evolves.channelIds ▸ hknown other (List.mem_cons_of_mem _ hother))
        refine ⟨drained.1 ++ new, ?_, hone.trans hlater⟩
        rw [hnew, List.append_assoc]

end RuntimeChannelBus

/-! ## The operations -/

/-- The messages in a result. -/
def BusOutput.handed : BusOutput → List RuntimeChannelMessage
  | .read result => result.message.toList
  | .messages drained => drained
  | .published _ | .none => []

/-- The reader of an operation; peeks and snapshots have none. -/
def BusOp.reader : BusOp → Option String
  | .readLatestForReader _ readerId | .drainForReader _ readerId _ => some readerId
  | .readLatestUpdateForComponentPort componentId portName
  | .drainForComponentPort componentId portName _ => some (endpointOf componentId portName)
  | .consumeForComponent componentId => some componentId
  | _ => none

open RuntimeChannelBus in
/-- Every operation that reads is one for its reader. -/
theorem exec_reads (clock : Nat → Int) {id : String} {bus : RuntimeChannelBus}
    (htags : AllTagged bus) (htype : (bus.config id).type.isLatestStyle = true) {op : BusOp}
    (hread : op.isRead = true) :
    ReadsAt clock id op.reader bus (op.exec clock bus).1.handed (op.exec clock bus).2 := by
  cases op with
  | publishShared | publishSharedFrom | publishBatch | advanceEpoch => cases hread
  | readLatestForReader channelId readerId =>
      simp only [BusOp.exec, BusOutput.handed, readLatestForReader]
      by_cases hknown : channelId ∈ bus.channelIds
      · by_cases hlatest : (bus.config channelId).type.isLatestStyle = true
        · rw [if_neg (not_not.mpr hknown), if_neg (by simp [hlatest])]
          exact readLatest_reads clock id htags hknown hlatest readerId
        · rw [if_neg (not_not.mpr hknown), if_pos (by simpa using hlatest)]
          exact .refl clock id _ bus
      · rw [if_pos hknown]
        exact .refl clock id _ bus
  | readLatestUpdateForComponentPort componentId portName =>
      exact firstUpdate_reads clock id _ _ bus htags
        (bus.channelIdsForComponentPort_known componentId portName)
  | peekLatestForComponentPort componentId portName =>
      exact firstPeek_reads clock id _ bus htags htype
        (bus.channelIdsForComponentPort_known componentId portName)
  | drainForReader channelId readerId maxBatch =>
      simp only [BusOp.exec, BusOutput.handed, drainForReader]
      split_ifs with hknown
      · exact consumeChannel_reads clock id htags hknown htype readerId maxBatch
      · exact .refl clock id _ bus
  | snapshotForComponentPort componentId portName maxBatch =>
      obtain ⟨new, hnew, hreads⟩ := snapshotChannels_reads clock id maxBatch _ [] bus htags htype
        (bus.channelIdsForComponentPort_known componentId portName)
      rw [List.nil_append] at hnew
      simp only [BusOp.exec, BusOutput.handed, snapshotForComponentPort, hnew]
      exact hreads
  | drainForComponentPort componentId portName maxBatch =>
      obtain ⟨new, hnew, hreads⟩ := drainChannels_reads clock id (endpointOf componentId portName)
        maxBatch _ [] bus htags htype
        (bus.channelIdsForComponentPort_known componentId portName)
      rw [List.nil_append] at hnew
      simp only [BusOp.exec, BusOutput.handed, drainForComponentPort, hnew]
      exact hreads
  | consumeForComponent componentId =>
      obtain ⟨new, hnew, hreads⟩ := drainChannels_reads clock id componentId 0 _ [] bus htags htype
        (bus.componentChannels_known componentId)
      rw [List.nil_append] at hnew
      simp only [BusOp.exec, BusOutput.handed, consumeForComponent, hnew]
      exact hreads

end TopoExec
