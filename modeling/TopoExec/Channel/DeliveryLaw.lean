import TopoExec.Channel.Delivery
import TopoExec.Channel.Whereabouts

/-! # The delivery law of the bus

The deliveries of a run are what its drains returned. Messages carry the id of
their channel (`Tagged`), so the ledger of each queue channel is the part of
those results that names it (`ledger_delivered`), and the invariants of the
ledger become a law about results.
-/

namespace TopoExec

/-! ## Messages name their channel -/

structure Tagged (config : ChannelConfig) (s : ChannelState) : Prop where
  queue : ∀ message ∈ s.queue, message.channelId = config.id
  latest : ∀ message ∈ s.latest, message.channelId = config.id
  pending : ∀ message ∈ s.pendingPreviousTick, message.channelId = config.id

theorem tagged_init (config : ChannelConfig) : Tagged config {} :=
  ⟨by simp, by simp, by simp⟩

/-- Taking messages out keeps the tags of the rest. -/
theorem Tagged.taken {config : ChannelConfig} {s s' : ChannelState} (h : Tagged config s)
    (hqueue : s'.queue.Sublist s.queue) (hlatest : ∀ message ∈ s'.latest, message ∈ s.latest)
    (hpending : s'.pendingPreviousTick = s.pendingPreviousTick) : Tagged config s' :=
  ⟨fun m hm => h.queue m (hqueue.mem hm), fun m hm => h.latest m (hlatest m hm),
    fun m hm => h.pending m (hpending ▸ hm)⟩

/-- Every step keeps the channel's name on its messages. -/
theorem tagged_step {allowed : StepKind → Prop} {config : ChannelConfig} {s s' : ChannelState}
    (hstep : ChannelStep allowed config s s') (h : Tagged config s) : Tagged config s' := by
  -- every new message is tagged with its channel, and no step changes a tag
  have hnew : ∀ now prepared, (messageOf config s now prepared).channelId = config.id :=
    fun _ _ => rfl
  cases hstep.effect with
  | unaffected hu => exact h.taken (hu.queue ▸ .refl _) (fun m hm => hu.latest ▸ hm) hu.pending
  | enqueued _ _ now prepared he =>
      refine ⟨?_, ?_, ?_⟩
      · intro m hm
        rw [he.queue] at hm
        rcases List.mem_append.mp (List.mem_of_mem_drop hm) with hold | hlast
        · exact h.queue m hold
        · rw [List.mem_singleton.mp hlast]
          exact hnew now prepared
      · intro m hm
        rw [he.latest] at hm
        rw [← Option.some.inj hm]
        exact hnew now prepared
      · rw [he.pending]
        exact h.pending
  | replaced _ hlatest _ now prepared =>
      rw [acceptLatest_eq hlatest]
      refine ⟨by simp, ?_, h.pending⟩
      intro m hm
      rw [← Option.some.inj hm]
      exact hnew now prepared
  | staged _ _ now prepared =>
      refine ⟨h.queue, h.latest, ?_⟩
      intro m hm
      rw [← Option.some.inj hm]
      exact hnew now prepared
  | advanced _ _ message hwaiting =>
      exact ⟨h.queue, fun m hm => h.pending m (hwaiting.trans hm), by simp⟩
  | expired now _ _ message =>
      exact ⟨h.queue, by simp [ChannelState.dropLatest, ChannelState.markStaleDrop], h.pending⟩
  | delivered => exact ⟨h.queue, h.latest, h.pending⟩
  | snapshotted now _ _ hc =>
      refine h.taken ?_ (fun m hm => hc.frame.latest ▸ hm) hc.frame.pending
      rw [hc.queue]
      exact List.filter_sublist
  | consumed now _ _ readerId maxBatch hc =>
      exact h.taken hc.queue_sublist (fun m hm => hc.frame.latest ▸ hm) hc.frame.pending

/-- All channels of the bus. -/
def AllTagged (bus : RuntimeChannelBus) : Prop := ∀ id, Tagged (bus.config id) (bus.channels id)

/-- However the bus evolves its messages carry the names of their channels. -/
theorem AllTagged.evolves {allowed : StepKind → Prop} {bus bus' : RuntimeChannelBus}
    (h : AllTagged bus) (he : Evolves allowed bus bus') : AllTagged bus' := by
  intro id
  rw [he.config]
  exact ChannelSteps.invariant (fun _ _ => tagged_step) (he.steps id) (h id)

theorem allTagged_run (clock : Nat → Int) (specs : List EdgeSpec) (ops : List BusOp) :
    AllTagged (runBus clock (.ofEdges specs) ops) := by
  have hinit : AllTagged (.ofEdges specs) := by
    intro id
    rw [channels_ofEdges]
    exact tagged_init _
  exact hinit.evolves (runBus_evolves clock (.ofEdges specs) ops)

/-! ## What the drains return -/

/-- The deliveries of one operation: a drain hands its result to its reader. -/
def BusOp.deliveries (op : BusOp) (output : BusOutput) : List (String × RuntimeChannelMessage) :=
  match op, output with
  | .drainForReader _ readerId _, .messages messages => messages.map fun m => (readerId, m)
  | .drainForComponentPort componentId portName _, .messages messages =>
      messages.map fun m => (endpointOf componentId portName, m)
  | .consumeForComponent componentId, .messages messages =>
      messages.map fun m => (componentId, m)
  | _, _ => []

/-- The deliveries of a run, in order. -/
def runDeliveries (clock : Nat → Int) : RuntimeChannelBus → List BusOp →
    List (String × RuntimeChannelMessage)
  | _, [] => []
  | bus, op :: ops =>
      op.deliveries (op.exec clock bus).1 ++ runDeliveries clock (op.exec clock bus).2 ops

/-- The deliveries on one channel: reader and sequence number. -/
def deliveriesOn (id : String) (deliveries : List (String × RuntimeChannelMessage)) :
    List (String × Nat) :=
  (deliveries.filter fun delivery => delivery.2.channelId = id).map fun delivery =>
    (delivery.1, delivery.2.sequence)

theorem deliveriesOn_append (id : String) (l l' : List (String × RuntimeChannelMessage)) :
    deliveriesOn id (l ++ l') = deliveriesOn id l ++ deliveriesOn id l' := by
  simp [deliveriesOn]

/-- Steps that do not drain deliver nothing on a queue channel. -/
theorem delivered_of_no_drain {allowed : StepKind → Prop} (hkind : ∀ now, ¬ allowed (.drain now))
    {config : ChannelConfig} (htype : config.type.isLatestStyle = false) {s s' : ChannelState}
    (hstep : ChannelStep allowed config s s') : s'.ledger.delivered = s.ledger.delivered := by
  cases hstep.queueEffect htype with
  | unaffected hu => exact hu.delivered
  | enqueued _ now prepared he => exact he.delivered
  | snapshotted now _ hc => exact hc.delivered
  | consumed now hdrain => exact absurd hdrain (hkind now)

/-- The deliveries of a channel to a reader. -/
theorem deliveriesOn_mine {id readerId : String} {messages : List RuntimeChannelMessage}
    (h : ∀ m ∈ messages, m.channelId = id) :
    deliveriesOn id (messages.map fun m => (readerId, m)) =
      messages.map fun m => (readerId, m.sequence) := by
  unfold deliveriesOn
  rw [List.filter_eq_self.mpr]
  · simp
  · intro d hd
    obtain ⟨m, hm, rfl⟩ := List.mem_map.mp hd
    simpa using h m hm

/-- The deliveries of another channel do not count. -/
theorem deliveriesOn_foreign {id id' readerId : String} (hne : id' ≠ id)
    {messages : List RuntimeChannelMessage} (h : ∀ m ∈ messages, m.channelId = id') :
    deliveriesOn id (messages.map fun m => (readerId, m)) = [] := by
  unfold deliveriesOn
  rw [List.filter_eq_nil_iff.mpr]
  · rfl
  · intro d hd
    obtain ⟨m, hm, rfl⟩ := List.mem_map.mp hd
    simp [h m hm, hne]

/-- A value that is read carries the name of its channel. -/
theorem Tagged.consumeLatest {config : ChannelConfig} {s : ChannelState} (h : Tagged config s)
    (now : Int) (readerId : String) :
    ∀ m ∈ (consumeLatestFromState config now readerId s).1, m.channelId = config.id := by
  intro m hm
  unfold consumeLatestFromState at hm
  cases hl : s.latest with
  | none => simp [hl] at hm
  | some latest =>
      have hlatest := h.latest latest hl
      rw [hl] at hm
      dsimp only at hm
      split_ifs at hm
      · simp at hm
      · simp at hm
      all_goals
        rw [← Option.some.inj hm]
        exact hlatest

/-- What is drained carries the name of its channel, and so does what is left. -/
theorem Tagged.consume {config : ChannelConfig} {s : ChannelState} (h : Tagged config s)
    (now : Int) (readerId : String) (maxBatch : Nat) :
    (∀ m ∈ (consumeFromState config now readerId maxBatch s).1, m.channelId = config.id) ∧
      (maxBatch ≠ 0 →
        (consumeFromState config now readerId maxBatch s).1.length ≤ maxBatch) := by
  rcases consumeFromState_spec config now readerId maxBatch s with ⟨_, heq⟩ | ⟨hout, _⟩
  · rw [heq]
    simp
  · rw [hout]
    refine ⟨?_, fun hmax => ?_⟩
    · intro m hm
      obtain ⟨m', hm', rfl⟩ := List.mem_map.mp hm
      have hfresh := (takeBatch_sublist _ _ _).mem hm'
      exact h.queue m' ((List.filter_sublist.trans List.filter_sublist).mem hfresh)
    · rw [List.length_map]
      exact (length_takeBatch_le hmax).trans (Nat.sub_le _ _)

namespace RuntimeChannelBus

variable (clock : Nat → Int)

/-- What one channel hands out names that channel and fits the batch. -/
theorem consumeChannel_messages {bus : RuntimeChannelBus} (htags : AllTagged bus)
    {id : String} (hid : id ∈ bus.channelIds) (readerId : String) (maxBatch : Nat) :
    (∀ m ∈ (bus.consumeChannel clock id readerId maxBatch).1, m.channelId = id) ∧
      (maxBatch ≠ 0 → (bus.consumeChannel clock id readerId maxBatch).1.length ≤ maxBatch) := by
  have hname := bus.config_id id hid
  simp only [consumeChannel, onChannel]
  split_ifs
  · refine ⟨fun m hm => ?_, fun hmax => ?_⟩
    · rw [(htags id).consumeLatest _ _ m (by simpa using hm), hname]
    · exact Option.length_toList_le.trans (Nat.one_le_iff_ne_zero.mpr hmax)
  · have hconsume := (htags id).consume (clock bus.moment) readerId maxBatch
    rw [hname] at hconsume
    exact hconsume

/-- A drain of one channel within a batch returns no more than there is room for. -/
theorem consumeChannel_room {bus : RuntimeChannelBus} (htags : AllTagged bus) {id : String}
    (hid : id ∈ bus.channelIds) (readerId : String) {maxBatch size : Nat}
    (hroom : batchFull maxBatch size = false) :
    (bus.consumeChannel clock id readerId (maxBatch - size)).1.take
        (if maxBatch = 0 then
          (bus.consumeChannel clock id readerId (maxBatch - size)).1.length
        else maxBatch - size) =
      (bus.consumeChannel clock id readerId (maxBatch - size)).1 := by
  apply List.take_of_length_le
  by_cases hmax : maxBatch = 0
  · rw [if_pos hmax]
  · rw [if_neg hmax]
    refine (consumeChannel_messages clock htags hid readerId _).2 ?_
    simp [batchFull, hmax] at hroom
    omega

/-- Draining one channel adds to the ledger of `id` what it returns for `id`. -/
theorem consumeChannel_delivered {bus : RuntimeChannelBus} (htags : AllTagged bus) {id : String}
    (htype : (bus.config id).type.isLatestStyle = false) {id' : String}
    (hid' : id' ∈ bus.channelIds) (readerId : String) (maxBatch : Nat) :
    ((bus.consumeChannel clock id' readerId maxBatch).2.channels id).ledger.delivered =
      (bus.channels id).ledger.delivered ++ deliveriesOn id
        ((bus.consumeChannel clock id' readerId maxBatch).1.map fun m => (readerId, m)) := by
  have hmessages := (consumeChannel_messages clock htags hid' readerId maxBatch).1
  by_cases hid : id' = id
  · subst hid
    rw [deliveriesOn_mine hmessages]
    simp only [consumeChannel, onChannel, htype, Bool.false_eq_true, if_false,
      Function.update_self]
    rcases consumeFromState_spec (bus.config id') (clock bus.moment) readerId maxBatch
      (bus.channels id') with ⟨_, heq⟩ | ⟨hout, hc⟩
    · rw [heq]
      simp
    · rw [hout, hc.delivered, List.map_map]
      rfl
  · rw [deliveriesOn_foreign hid hmessages, List.append_nil]
    have hne : id ≠ id' := fun heq => hid heq.symm
    simp [consumeChannel, onChannel, Function.update_of_ne hne]

/-- The drain loop adds to the ledger of `id` what it returns for `id`. -/
theorem drainChannels_delivered {id : String} (readerId : String) (maxBatch : Nat)
    (ids : List String) (messages : List RuntimeChannelMessage) (bus : RuntimeChannelBus)
    (htags : AllTagged bus) (htype : (bus.config id).type.isLatestStyle = false)
    (hids : ∀ id' ∈ ids, id' ∈ bus.channelIds) :
    ∃ new, (drainChannels clock readerId maxBatch ids messages bus).1 = messages ++ new ∧
      ((drainChannels clock readerId maxBatch ids messages bus).2.channels id).ledger.delivered =
        (bus.channels id).ledger.delivered ++
          deliveriesOn id (new.map fun m => (readerId, m)) := by
  induction ids generalizing messages bus with
  | nil => exact ⟨[], by simp [drainChannels], by simp [drainChannels, deliveriesOn]⟩
  | cons id' rest ih =>
      have hid' := hids id' (List.mem_cons_self ..)
      rw [drainChannels]
      by_cases hfull : batchFull maxBatch messages.length = true
      · rw [if_pos hfull]
        exact ⟨[], by simp, by simp [deliveriesOn]⟩
      · rw [if_neg hfull]
        set drained := bus.consumeChannel clock id' readerId (maxBatch - messages.length)
        have hevolves : Evolves anyStep bus drained.2 :=
          consumeChannel_evolves clock (fun _ => trivial) (fun _ => trivial) bus id' readerId _
        have hroom := consumeChannel_room clock htags hid' readerId (Bool.not_eq_true _ ▸ hfull)
        obtain ⟨new, hnew, hdelivered⟩ := ih (messages ++ drained.1) drained.2
          (htags.evolves hevolves) (hevolves.config ▸ htype)
          (fun id'' h => hevolves.channelIds ▸ hids id'' (List.mem_cons_of_mem _ h))
        refine ⟨drained.1 ++ new, ?_, ?_⟩
        · dsimp only
          rw [hroom, hnew, List.append_assoc]
        · dsimp only
          rw [hroom, hdelivered, List.map_append, deliveriesOn_append,
            consumeChannel_delivered clock htags htype hid' readerId _, List.append_assoc]

/-- A component reads channels of the bus only. -/
theorem componentChannels_known (bus : RuntimeChannelBus) (componentId : String) :
    ∀ id ∈ (bus.componentToChannels componentId).getD [], id ∈ bus.channelIds := by
  intro id hid
  cases hc : bus.componentToChannels componentId with
  | none => simp [hc] at hid
  | some ids => exact bus.component_known componentId ids hc id (by simpa [hc] using hid)

theorem channelIdsForComponentPort_known (bus : RuntimeChannelBus) (componentId portName : String) :
    ∀ id ∈ bus.channelIdsForComponentPort componentId portName, id ∈ bus.channelIds := by
  intro id hid
  exact bus.componentChannels_known componentId id (List.mem_filter.mp hid).1

end RuntimeChannelBus

open RuntimeChannelBus in
/-- One operation adds to the ledger of a queue channel what it returns for that
channel. -/
theorem exec_delivered (clock : Nat → Int) {bus : RuntimeChannelBus} (htags : AllTagged bus)
    {id : String} (htype : (bus.config id).type.isLatestStyle = false) (op : BusOp) :
    ((op.exec clock bus).2.channels id).ledger.delivered =
      (bus.channels id).ledger.delivered ++
        deliveriesOn id (op.deliveries (op.exec clock bus).1) := by
  -- only a drain delivers from a queue
  by_cases hdrain : ∃ now, op.kinds clock (.drain now)
  · cases op with
    | drainForReader channelId readerId maxBatch =>
        simp only [BusOp.exec, BusOp.deliveries, drainForReader]
        split_ifs with hknown
        · exact consumeChannel_delivered clock htags htype hknown readerId maxBatch
        · simp [deliveriesOn]
    | drainForComponentPort componentId portName maxBatch =>
        obtain ⟨new, hnew, hdelivered⟩ := drainChannels_delivered clock
          (endpointOf componentId portName) maxBatch
          (bus.channelIdsForComponentPort componentId portName) [] bus htags htype
          (bus.channelIdsForComponentPort_known componentId portName)
        rw [List.nil_append] at hnew
        simp only [BusOp.exec, BusOp.deliveries, drainForComponentPort, hnew, hdelivered]
    | consumeForComponent componentId =>
        obtain ⟨new, hnew, hdelivered⟩ := drainChannels_delivered clock componentId 0
          ((bus.componentToChannels componentId).getD []) [] bus htags htype
          (bus.componentChannels_known componentId)
        rw [List.nil_append] at hnew
        simp only [BusOp.exec, BusOp.deliveries, consumeForComponent, hnew, hdelivered]
    | _ => simp [BusOp.kinds] at hdrain
  · have hquiet : ((op.exec clock bus).2.channels id).ledger.delivered =
        (bus.channels id).ledger.delivered := by
      refine ChannelSteps.invariant (P := fun s => s.ledger.delivered =
        (bus.channels id).ledger.delivered) ?_ ((exec_evolves clock bus op).steps id) rfl
      intro s s' hstep h
      rw [delivered_of_no_drain (not_exists.mp hdrain) htype hstep, h]
    have hnone : op.deliveries (op.exec clock bus).1 = [] := by
      cases op with
      | drainForReader => simp [BusOp.kinds] at hdrain
      | drainForComponentPort => simp [BusOp.kinds] at hdrain
      | consumeForComponent => simp [BusOp.kinds] at hdrain
      | _ => rfl
    rw [hquiet, hnone]
    simp [deliveriesOn]

/-- The ledger of a queue channel is what the drains of the run returned for
it. -/
theorem ledger_delivered (clock : Nat → Int) {bus : RuntimeChannelBus} (htags : AllTagged bus)
    {id : String} (htype : (bus.config id).type.isLatestStyle = false) (ops : List BusOp) :
    ((runBus clock bus ops).channels id).ledger.delivered =
      (bus.channels id).ledger.delivered ++ deliveriesOn id (runDeliveries clock bus ops) := by
  induction ops generalizing bus with
  | nil => simp [runBus, runDeliveries, deliveriesOn]
  | cons op ops ih =>
      have hevolves := exec_evolves clock bus op
      have hrest := ih (htags.evolves hevolves) (hevolves.config ▸ htype)
      rw [runDeliveries, deliveriesOn_append, ← List.append_assoc,
        ← exec_delivered clock htags htype op, ← hrest]
      rfl

/-! ## The law -/

/-- What a queue has delivered, evicted and dropped over a whole run. -/
theorem queue_history (clock : Nat → Int) (specs : List EdgeSpec) (ops : List BusOp) (id : String)
    (htype : ((RuntimeChannelBus.ofEdges specs).config id).type.isLatestStyle = false) :
    QueueHistory ((RuntimeChannelBus.ofEdges specs).config id)
      ((runBus clock (.ofEdges specs) ops).channels id) := by
  have hrun := runBus_evolves clock (.ofEdges specs) ops
  refine ChannelSteps.invariant (fun _ _ => queueHistory_step htype) (hrun.steps id) ?_
  rw [channels_ofEdges]
  exact queueHistory_init _

/-- The deliveries of a run are those that the channel has noted. -/
theorem runDeliveries_eq_ledger (clock : Nat → Int) (specs : List EdgeSpec) (ops : List BusOp)
    (id : String)
    (htype : ((RuntimeChannelBus.ofEdges specs).config id).type.isLatestStyle = false) :
    deliveriesOn id (runDeliveries clock (.ofEdges specs) ops) =
      ((runBus clock (.ofEdges specs) ops).channels id).ledger.delivered := by
  have htags : AllTagged (.ofEdges specs) := allTagged_run clock specs []
  rw [ledger_delivered clock htags htype, channels_ofEdges]
  rfl

/-- What an unbounded drain of a channel with several readers hands out. -/
theorem unbounded_drain {config : ChannelConfig} {s : ChannelState} (h : QueueHistory config s)
    (htype : config.type = .everyMessage) (hmulti : isMultiReader config.readers = true)
    (hcard : (readersOf s.ledger.delivered).card ≤ kMaxTrackedReaders) (now : Int)
    (reader : String) :
    (consumeFromState config now reader 0 s).1 =
      (s.queue.filter fun message => !messageExpired config message now &&
        (deliveriesTo reader s.ledger.delivered).all (· < message.sequence)).map
          (deliveredMessage config now) := by
  rcases consumeFromState_spec config now reader 0 s with ⟨hbarrier, _⟩ | ⟨hout, _⟩
  · rw [htype] at hbarrier
    contradiction
  · rw [hout, takeBatch, if_pos rfl, freshFor, unexpired, List.filter_filter]
    obtain ⟨hcursor, hpair⟩ := h.multi hmulti hcard reader
    congr 1
    apply List.filter_congr
    intro message hmessage
    rw [Bool.and_comm]
    congr 1
    have hpos := h.numbered.queue_pos message hmessage
    rw [lastDelivered, if_pos hmulti, hcursor, hmulti, Bool.true_and, Bool.eq_iff_iff,
      List.all_eq_true]
    simp only [Bool.not_eq_true', decide_eq_false_iff_not, not_le, decide_eq_true_eq]
    -- the last delivery is the greatest one
    rcases List.eq_nil_or_concat' (deliveriesTo reader s.ledger.delivered) with
      hnil | ⟨init, final, hsplit⟩
    · simp [hnil, hpos]
    · rw [hsplit] at hpair ⊢
      rw [List.getLast?_concat, Option.getD_some]
      constructor
      · intro hfinal n hn
        rcases List.mem_append.mp hn with hinit | hlast
        · exact ((List.pairwise_append.mp hpair).2.2 n hinit final (by simp)).trans hfinal
        · rw [List.mem_singleton.mp hlast]
          exact hfinal
      · exact fun hall => hall final (by simp)

/-- A message of a queue channel that no reader got is in the queue, or was pushed out by as
many newer messages as the queue has room for, or was found to be older than its lifespan. -/
theorem Located.undelivered {clock : Nat → Int} {config : ChannelConfig} {s : ChannelState}
    (h : Located clock config s) (htype : config.type.isLatestStyle = false)
    {message : RuntimeChannelMessage} (hmem : message ∈ s.ledger.stored)
    (hnever : message.sequence ∉ s.ledger.delivered.map Prod.snd) :
    (message.sequence ∈ s.ledger.evicted ∧ config.capacity ≤ s.newerThan message) ∨
      (message.sequence ∈ s.ledger.expired ∧ Outlived clock config message) ∨
      message ∈ s.queue := by
  rcases h.whereabouts message hmem with hcontains | hgone
  · exact Or.inr (Or.inr ((contains_queue htype).mp hcontains))
  · cases hgone with
    | evicted _ recorded full => exact Or.inl ⟨recorded, full⟩
    | taken _ _ recorded => exact absurd recorded hnever
    | expired recorded old => exact Or.inr (Or.inl ⟨recorded, old⟩)
    | replaced hlatest =>
        rw [htype] at hlatest
        cases hlatest

/-- The delivery law of queue channels, for every list of operations and every
clock. With one reader, deliveries increase, and an accepted message that was
never delivered was evicted from a full queue, has outlived its lifespan or is
still queued. With several readers, of which at most `kMaxTrackedReaders` got
something, the deliveries to each reader increase, and an unbounded drain returns
the retained unexpired messages above everything that its reader got before. -/
theorem queue_delivery_law (clock : Nat → Int) (specs : List EdgeSpec) (ops : List BusOp)
    (id : String) (hid : id ∈ (RuntimeChannelBus.ofEdges specs).channelIds)
    (htype : ((RuntimeChannelBus.ofEdges specs).config id).type = .everyMessage) :
    let config := (RuntimeChannelBus.ofEdges specs).config id
    let bus := runBus clock (.ofEdges specs) ops
    let deliveries := deliveriesOn id (runDeliveries clock (.ofEdges specs) ops)
    (isMultiReader config.readers = false →
      (deliveries.map Prod.snd).Pairwise (· < ·) ∧
        ((bus.channels id).ledger.stored.map RuntimeChannelMessage.sequence).Pairwise (· < ·) ∧
        ∀ message ∈ (bus.channels id).ledger.stored,
          (deliveries.map Prod.snd).count message.sequence ≤ 1 ∧
            (message.sequence ∉ deliveries.map Prod.snd →
              (message.sequence ∈ (bus.channels id).ledger.evicted ∧
                  config.capacity ≤ (bus.channels id).newerThan message) ∨
                (message.sequence ∈ (bus.channels id).ledger.expired ∧
                  Outlived clock config message) ∨
                message ∈ (bus.channels id).queue)) ∧
      (isMultiReader config.readers = true →
        (readersOf deliveries).card ≤ kMaxTrackedReaders → ∀ reader,
          (deliveriesTo reader deliveries).Pairwise (· < ·) ∧
            (bus.drainForReader clock id reader 0).1 =
              ((bus.channels id).queue.filter fun message =>
                !messageExpired config message (clock bus.moment) &&
                  (deliveriesTo reader deliveries).all (· < message.sequence)).map
                (deliveredMessage config (clock bus.moment))) := by
  intro config bus deliveries
  have hqueue : config.type.isLatestStyle = false := by
    rw [show config.type = _ from htype]
    rfl
  have hhistory := queue_history clock specs ops id hqueue
  have hdeliveries : deliveries = (bus.channels id).ledger.delivered :=
    runDeliveries_eq_ledger clock specs ops id hqueue
  have hevolves := runBus_evolves clock (.ofEdges specs) ops
  have hlocated : Located clock config (bus.channels id) := by
    have hrun := allLocated_run clock specs ops id
    rw [hevolves.config] at hrun
    exact hrun
  -- the deliveries are those of the ledger, about which the history speaks
  rw [hdeliveries]
  refine ⟨fun hsingle => ?_, fun hmulti hcard reader => ?_⟩
  · have hs := hhistory.single hsingle
    refine ⟨hs.increasing, hhistory.numbered.stored_increasing, fun message hmessage => ?_⟩
    refine ⟨List.nodup_iff_count_le_one.mp (hs.increasing.imp Nat.ne_of_lt) _, fun hnever => ?_⟩
    exact hlocated.undelivered hqueue hmessage hnever
  -- a drain without a bound hands out all that the reader has not seen
  · refine ⟨(hhistory.multi hmulti hcard reader).2, ?_⟩
    have hknown : id ∈ bus.channelIds := by
      rw [hevolves.channelIds]
      exact hid
    have hconfig : bus.config id = config := by rw [hevolves.config]
    rw [RuntimeChannelBus.drainForReader, if_pos hknown]
    simp only [RuntimeChannelBus.consumeChannel, RuntimeChannelBus.onChannel, hconfig, hqueue,
      Bool.false_eq_true, if_false]
    exact unbounded_drain hhistory htype hmulti hcard _ reader

/-- A queue that one reader drains, with room for one message. -/
def privateQueue : List EdgeSpec :=
  [{ id := "q", fromEndpoint := "a.out", toEndpoint := "b.in"
     policy := { mode := "queue", capacity := 1, overflow := "drop_oldest" } }]

/-- Two messages are published before the reader drains, and one after it. -/
def privateQueueOps : List BusOp :=
  [.publishShared "q" (some {}) {} none, .publishShared "q" (some {}) {} none,
   .drainForReader "q" "reader" 0, .publishShared "q" (some {}) {} none]

/-- A queue that two readers drain. -/
def sharedQueue : List EdgeSpec :=
  [{ id := "q", fromEndpoint := "a.out", toEndpoint := "b.in"
     policy :=
       { mode := "queue", capacity := 2, readers := "multi", copyPolicy := "shared_view" } }]

def sharedQueueOps : List BusOp :=
  [.publishShared "q" (some {}) {} none, .drainForReader "q" "left" 0,
   .publishShared "q" (some {}) {} none, .drainForReader "q" "left" 1,
   .drainForReader "q" "right" 0]

/-- The private queue evicts the first message, delivers the second and keeps the third. -/
theorem queues_deliver_in_order :
    (deliveriesOn "q" (runDeliveries (fun n => n) (.ofEdges privateQueue) privateQueueOps) =
        [("reader", 2)] ∧
      let s := (runBus (fun n => n) (.ofEdges privateQueue) privateQueueOps).channels "q"
      s.ledger.stored.map RuntimeChannelMessage.sequence = [1, 2, 3] ∧
        ∀ message ∈ s.ledger.stored, message.sequence ∉ [2] →
          (message.sequence ∈ s.ledger.evicted ∧ 1 ≤ s.newerThan message) ∨
            (message.sequence ∈ s.ledger.expired ∧
              Outlived (fun n => n) ((RuntimeChannelBus.ofEdges privateQueue).config "q") message) ∨
            message ∈ s.queue) ∧
      deliveriesOn "q" (runDeliveries (fun n => n) (.ofEdges sharedQueue) sharedQueueOps) =
        [("left", 1), ("left", 2), ("right", 1), ("right", 2)] ∧
      (deliveriesTo "left" (deliveriesOn "q"
        (runDeliveries (fun n => n) (.ofEdges sharedQueue) sharedQueueOps))).Pairwise
          (· < ·) := by
  have hprivate : deliveriesOn "q"
      (runDeliveries (fun n => n) (.ofEdges privateQueue) privateQueueOps) = [("reader", 2)] := by
    decide
  have hsingle := (queue_delivery_law (fun n => n) privateQueue privateQueueOps "q" (by decide)
    (by decide)).1 (by decide)
  rw [hprivate] at hsingle
  refine ⟨⟨hprivate, by decide, fun message hmem => (hsingle.2.2 message hmem).2⟩, ?_⟩
  have hdeliveries : deliveriesOn "q"
      (runDeliveries (fun n => n) (.ofEdges sharedQueue) sharedQueueOps) =
        [("left", 1), ("left", 2), ("right", 1), ("right", 2)] := by
    decide
  refine ⟨hdeliveries, ?_⟩
  refine ((queue_delivery_law (fun n => n) sharedQueue sharedQueueOps "q" (by decide)
    (by decide)).2 (by decide) ?_ "left").1
  rw [hdeliveries]
  decide

end TopoExec
