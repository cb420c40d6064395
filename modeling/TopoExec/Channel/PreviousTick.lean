import TopoExec.Channel.Reading

/-! # Previous-tick channels

A value published on a previous-tick channel waits until the next `advance_epoch`, which
shows the last one that waits. So a read never returns what was published since the last
epoch began, and a reader gets a visible value once. `previous_tick_isolation` says this
for every run of operations on the bus, of any kind and on any of its channels.
-/

namespace TopoExec

variable {allowed : StepKind → Prop} {config : ChannelConfig} {s s' : ChannelState}

/-! ## Between two epochs -/

/-- Steps without `advance_epoch`: the values published are stored, the last of them waits,
and no value becomes visible. -/
def WithinEpoch (s s' : ChannelState) : Prop :=
  (∃ recent, s'.ledger.stored = s.ledger.stored ++ recent ∧
      s'.pendingPreviousTick = recent.getLast?.or s.pendingPreviousTick) ∧
    ∀ value, s'.latest = some value → s.latest = some value

theorem WithinEpoch.refl (s : ChannelState) : WithinEpoch s s :=
  ⟨⟨[], by simp, rfl⟩, fun _ h => h⟩

theorem WithinEpoch.trans {s₁ s₂ s₃ : ChannelState} (h : WithinEpoch s₁ s₂)
    (h' : WithinEpoch s₂ s₃) : WithinEpoch s₁ s₃ := by
  obtain ⟨⟨recent, hstored, hpending⟩, hlatest⟩ := h
  obtain ⟨⟨recent', hstored', hpending'⟩, hlatest'⟩ := h'
  refine ⟨⟨recent ++ recent', ?_, ?_⟩, fun value hvalue => hlatest value (hlatest' value hvalue)⟩
  · rw [hstored', hstored, List.append_assoc]
  · rw [hpending', hpending, List.getLast?_append, Option.or_assoc]

/-- Without an advance the visible value stays, or goes when it is stale. -/
theorem withinEpoch_step (htype : config.type = .previousTick) (hkind : ¬ allowed .advance)
    (hstep : SlotStep allowed config s s') : WithinEpoch s s' := by
  have hstyle : config.type.isLatestStyle = true := by rw [htype]; rfl
  have hquiet : SameRecord s s' → s'.pendingPreviousTick = s.pendingPreviousTick →
      ∃ recent, s'.ledger.stored = s.ledger.stored ++ recent ∧
        s'.pendingPreviousTick = recent.getLast?.or s.pendingPreviousTick := by
    intro hrecord hpending
    exact ⟨[], by simp [hrecord.stored], by simp [hpending]⟩
  cases hstep with
  | quiet latest pending next record =>
      exact ⟨hquiet (record hstyle) pending, fun value hvalue => latest ▸ hvalue⟩
  -- only the other channels show a value at once
  | exposed _ type => exact absurd htype type
  | staged _ type message latest pending sequence next stored =>
      exact ⟨⟨[message], stored, by simp [pending]⟩, fun value hvalue => latest ▸ hvalue⟩
  | advanced kind => exact absurd kind hkind
  | expired now _ message visible late latest pending next record =>
      refine ⟨hquiet record pending, ?_⟩
      intro value hvalue
      rw [latest] at hvalue
      cases hvalue
  | delivered now _ readerId message visible unseen latest pending next stored =>
      exact ⟨⟨[], by simp [stored], by simp [pending]⟩, fun value hvalue => latest ▸ hvalue⟩

/-- Operations other than `advance_epoch` have no step of its kind. -/
theorem BusOp.not_advance {op : BusOp} (h : op ≠ .advanceEpoch) : ¬ op.kinds clock .advance := by
  cases op with
  | advanceEpoch => exact absurd rfl h
  | drainForReader | drainForComponentPort | consumeForComponent => simp [BusOp.kinds]
  | _ => simp [BusOp.kinds]

/-- An operation that is not `advance_epoch` makes nothing visible. -/
theorem withinEpoch_exec (clock : Nat → Int) {bus : RuntimeChannelBus} {id : String}
    (htype : (bus.config id).type = .previousTick) {op : BusOp} (hop : op ≠ .advanceEpoch) :
    WithinEpoch (bus.channels id) ((op.exec clock bus).2.channels id) := by
  refine ChannelSteps.invariant (P := WithinEpoch (bus.channels id)) ?_
    ((exec_evolves clock bus op).steps id) (.refl _)
  intro s s' hstep h
  exact h.trans (withinEpoch_step htype (BusOp.not_advance hop) hstep.slots)

/-- A run without `advance_epoch`. -/
theorem withinEpoch_run (clock : Nat → Int) {bus : RuntimeChannelBus} {id : String}
    (htype : (bus.config id).type = .previousTick) {ops : List BusOp}
    (hops : BusOp.advanceEpoch ∉ ops) :
    WithinEpoch (bus.channels id) ((runBus clock bus ops).channels id) := by
  induction ops generalizing bus with
  | nil => exact .refl _
  | cons op ops ih =>
      obtain ⟨hfirst, hrest⟩ := not_or.mp (mt List.mem_cons.mpr hops)
      have hone := withinEpoch_exec clock htype (Ne.symm hfirst)
      have htype' : ((op.exec clock bus).2.config id).type = .previousTick := by
        rw [(exec_evolves clock bus op).config]
        exact htype
      exact hone.trans (ih htype' hrest)

/-! ## Every reader gets a value once -/

/-- What is kept about a previous-tick channel: values are numbered in order and the slots
hold some of them, the deliveries lie before what waits, and while the readers are not too
many every cursor stands at the last delivery to its reader. -/
structure TickHistory (config : ChannelConfig) (s : ChannelState) : Prop where
  slots : Slots config s
  stored_below : ∀ value ∈ s.ledger.stored, value.sequence < s.nextSequence
  stored_increasing : (s.ledger.stored.map RuntimeChannelMessage.sequence).Pairwise (· < ·)
  latest_stored : ∀ value ∈ s.latest, value ∈ s.ledger.stored
  pending_stored : ∀ value ∈ s.pendingPreviousTick, value ∈ s.ledger.stored
  delivered : ∀ delivery ∈ s.ledger.delivered, delivery.2 < s.nextSequence ∧
    (∀ value ∈ s.latest, delivery.2 ≤ value.sequence) ∧
    ∀ value ∈ s.pendingPreviousTick, delivery.2 < value.sequence
  cursors : (readersOf s.ledger.delivered).card ≤ kMaxTrackedReaders → ∀ reader,
    s.deliveredLatestSequences[reader]? = (deliveriesTo reader s.ledger.delivered).getLast? ∧
      (deliveriesTo reader s.ledger.delivered).Pairwise (· < ·)

theorem tickHistory_init (config : ChannelConfig) : TickHistory config {} where
  slots := slots_init config
  stored_below := by simp
  stored_increasing := .nil
  latest_stored := by simp
  pending_stored := by simp
  delivered := by simp
  cursors := by simp [deliveriesTo]

/-- Steps that neither store nor deliver. The slots may empty themselves, and what waits may
become visible. -/
theorem TickHistory.kept (h : TickHistory config s) (hslots : Slots config s')
    (hnext : s.nextSequence ≤ s'.nextSequence) (hrecord : SameRecord s s')
    (hlatest : ∀ value ∈ s'.latest, value ∈ s.latest ∨ value ∈ s.pendingPreviousTick)
    (hpending : ∀ value ∈ s'.pendingPreviousTick, value ∈ s.pendingPreviousTick) :
    TickHistory config s' where
  slots := hslots
  stored_below := by
    intro value hvalue
    rw [hrecord.stored] at hvalue
    exact (h.stored_below value hvalue).trans_le hnext
  stored_increasing := by
    rw [hrecord.stored]
    exact h.stored_increasing
  latest_stored := by
    intro value hvalue
    rw [hrecord.stored]
    -- the visible value was visible before, or was waiting for the epoch
    rcases hlatest value hvalue with hold | hwaited
    · exact h.latest_stored value hold
    · exact h.pending_stored value hwaited
  pending_stored := by
    intro value hvalue
    rw [hrecord.stored]
    exact h.pending_stored value (hpending value hvalue)
  delivered := by
    intro delivery hdelivery
    rw [hrecord.delivered] at hdelivery
    obtain ⟨hbelow, hshown, hwaiting⟩ := h.delivered delivery hdelivery
    refine ⟨hbelow.trans_le hnext, ?_, fun value hvalue => hwaiting value (hpending value hvalue)⟩
    intro value hvalue
    rcases hlatest value hvalue with hold | hwaited
    · exact hshown value hold
    · exact (hwaiting value hwaited).le
  cursors := by
    rw [hrecord.delivered, hrecord.cursors]
    exact h.cursors

/-- A publish writes the pending slot, and what is visible stays. -/
theorem TickHistory.staged (h : TickHistory config s) (hslots : Slots config s')
    {message : RuntimeChannelMessage} (hlatest : s'.latest = s.latest)
    (hpending : s'.pendingPreviousTick = some message)
    (hsequence : message.sequence = s.nextSequence) (hnext : s'.nextSequence = s.nextSequence + 1)
    (hstored : s'.ledger.stored = s.ledger.stored ++ [message])
    (hdelivered : s'.ledger.delivered = s.ledger.delivered)
    (hcursors : s'.deliveredLatestSequences = s.deliveredLatestSequences) :
    TickHistory config s' where
  slots := hslots
  stored_below := by
    intro value hvalue
    rw [hstored] at hvalue
    rw [hnext]
    rcases List.mem_append.mp hvalue with hold | hnew
    · exact (h.stored_below value hold).trans (Nat.lt_succ_self _)
    · rw [List.mem_singleton.mp hnew, hsequence]
      exact Nat.lt_succ_self _
  stored_increasing := by
    rw [hstored, List.map_append, List.pairwise_append]
    refine ⟨h.stored_increasing, by simp, ?_⟩
    intro n hn n' hn'
    obtain ⟨value, hvalue, rfl⟩ := List.mem_map.mp hn
    -- the new value has the next number, and all the others are below it
    obtain rfl : n' = message.sequence := by simpa using hn'
    rw [hsequence]
    exact h.stored_below value hvalue
  latest_stored := by
    intro value hvalue
    rw [hlatest] at hvalue
    rw [hstored]
    exact List.mem_append_left _ (h.latest_stored value hvalue)
  pending_stored := by
    intro value hvalue
    rw [hpending] at hvalue
    cases hvalue
    rw [hstored]
    exact List.mem_append_right _ (List.mem_singleton_self _)
  delivered := by
    intro delivery hdelivery
    rw [hdelivered] at hdelivery
    obtain ⟨hbelow, hshown, -⟩ := h.delivered delivery hdelivery
    refine ⟨by omega, fun value hvalue => hshown value (hlatest ▸ hvalue), ?_⟩
    intro value hvalue
    rw [hpending] at hvalue
    cases hvalue
    rw [hsequence]
    exact hbelow
  cursors := by
    rw [hdelivered, hcursors]
    exact h.cursors

/-- The cursors are not pruned while there is room for all the readers. -/
theorem moveCursor_of_le {cursors : Std.TreeMap String Nat} {readerId : String} {sequence : Nat}
    (h : (cursors.insert readerId sequence).size ≤ kMaxTrackedReaders) :
    moveCursor cursors readerId sequence = cursors.insert readerId sequence :=
  if_neg (Nat.not_lt.mpr h)

/-- A read hands out the visible value to a reader who has not had it. -/
theorem TickHistory.handed (h : TickHistory config s) (hslots : Slots config s')
    {readerId : String} {message : RuntimeChannelMessage} (hvisible : s.latest = some message)
    (hunseen : s.deliveredLatestSequences[readerId]? ≠ some message.sequence)
    (hlatest : s'.latest = s.latest) (hpending : s'.pendingPreviousTick = s.pendingPreviousTick)
    (hnext : s'.nextSequence = s.nextSequence) (hstored : s'.ledger.stored = s.ledger.stored)
    (hdelivered : s'.ledger.delivered = s.ledger.delivered ++ [(readerId, message.sequence)])
    (hcursors : s'.deliveredLatestSequences =
      moveCursor s.deliveredLatestSequences readerId message.sequence) :
    TickHistory config s' where
  slots := hslots
  stored_below := by
    rw [hstored, hnext]
    exact h.stored_below
  stored_increasing := by
    rw [hstored]
    exact h.stored_increasing
  latest_stored := by
    rw [hstored, hlatest]
    exact h.latest_stored
  pending_stored := by
    rw [hstored, hpending]
    exact h.pending_stored
  delivered := by
    intro delivery hdelivery
    rw [hlatest, hpending, hnext]
    rw [hdelivered] at hdelivery
    rcases List.mem_append.mp hdelivery with hold | hnew
    · exact h.delivered delivery hold
    · rw [List.mem_singleton.mp hnew]
      refine ⟨h.slots.latest message hvisible, ?_, ?_⟩
      · intro value hvalue
        rw [hvisible] at hvalue
        cases hvalue
        exact Nat.le_refl _
      · intro value hvalue
        exact (h.slots.pending value hvalue).2 message hvisible
  cursors := by
    intro hcard
    rw [hdelivered] at hcard
    have hold := h.cursors ((Finset.card_le_card readersOf_mono).trans hcard)
    -- the cursor that moves is that of the reader, to the value that it has got
    have hinserted : ∀ reader,
        (s.deliveredLatestSequences.insert readerId message.sequence)[reader]? =
          (deliveriesTo reader
            (s.ledger.delivered ++ [(readerId, message.sequence)])).getLast? := by
      intro reader
      rw [deliveriesTo_append, Std.TreeMap.getElem?_insert]
      by_cases hreader : readerId = reader
      · subst hreader
        simp [deliveriesTo]
      · simp [deliveriesTo, hreader, (hold reader).1]
    -- with room for all the readers no cursor was pruned
    have hroom := (size_le_card_readersOf hinserted).trans hcard
    intro reader
    rw [hdelivered, hcursors, moveCursor_of_le hroom]
    refine ⟨hinserted reader, ?_⟩
    rw [deliveriesTo_append, List.pairwise_append]
    refine ⟨(hold reader).2, ?_, ?_⟩
    · by_cases hreader : readerId = reader
      · simp [deliveriesTo, hreader]
      · simp [deliveriesTo, hreader]
    · intro n hn n' hn'
      by_cases hreader : readerId = reader
      · subst hreader
        obtain rfl : n' = message.sequence := by simpa [deliveriesTo] using hn'
        -- nothing newer was delivered, and the last delivery was another value
        have hle : ∀ m ∈ deliveriesTo readerId s.ledger.delivered, m ≤ message.sequence := by
          intro m hm
          obtain ⟨delivery, hdelivery, rfl⟩ := List.mem_map.mp hm
          exact (h.delivered delivery (List.mem_filter.mp hdelivery).1).2.1 message hvisible
        have hnil := List.ne_nil_of_mem hn
        have hlast : (deliveriesTo readerId s.ledger.delivered).getLast hnil ≠
            message.sequence := by
          intro heq
          rw [(hold readerId).1, List.getLast?_eq_some_getLast hnil, heq] at hunseen
          exact hunseen rfl
        have hn_le : n ≤ (deliveriesTo readerId s.ledger.delivered).getLast hnil :=
          ((hold readerId).2.imp Nat.le_of_lt).rel_getLast hn
        have hlast_le := hle _ (List.getLast_mem hnil)
        omega
      · simp [deliveriesTo, hreader] at hn'

/-- Every step of the channel keeps its history. -/
theorem tickHistory_step (htype : config.type = .previousTick)
    (hstep : SlotStep allowed config s s') (h : TickHistory config s) : TickHistory config s' := by
  have hstyle : config.type.isLatestStyle = true := by rw [htype]; rfl
  have hslots := slots_step hstep h.slots
  cases hstep with
  | quiet latest pending next record =>
      exact h.kept hslots next (record hstyle) (fun value hvalue => .inl (latest ▸ hvalue))
        (fun value hvalue => pending ▸ hvalue)
  | exposed _ type => exact absurd htype type
  | staged _ _ message latest pending sequence next stored delivered cursors =>
      exact h.staged hslots latest pending sequence next stored delivered cursors
  | advanced _ _ message waiting latest pending next record =>
      refine h.kept hslots next.ge record ?_ (by simp [pending])
      intro value hvalue
      rw [latest] at hvalue
      cases hvalue
      exact Or.inr waiting
  | expired now _ message visible late latest pending next record =>
      exact h.kept hslots next.ge record (by simp [latest]) (fun value hvalue => pending ▸ hvalue)
  | delivered now _ readerId message visible unseen latest pending next stored delivered cursors =>
      exact h.handed hslots visible unseen latest pending next stored delivered cursors

theorem tickHistory_run (clock : Nat → Int) (specs : List EdgeSpec) (ops : List BusOp)
    {id : String}
    (htype : ((RuntimeChannelBus.ofEdges specs).config id).type = .previousTick) :
    TickHistory ((RuntimeChannelBus.ofEdges specs).config id)
      ((runBus clock (.ofEdges specs) ops).channels id) := by
  have hrun := runBus_evolves clock (.ofEdges specs) ops
  refine ChannelSteps.invariant (fun _ _ hstep => tickHistory_step htype hstep.slots)
    (hrun.steps id) ?_
  rw [channels_ofEdges]
  exact tickHistory_init _

/-! ## The operations -/

/-- Every operation reads, starts an epoch or publishes. -/
theorem BusOp.reads_or_advances_or_publishes (clock : Nat → Int) (op : BusOp) :
    op.isRead = true ∨ op = .advanceEpoch ∨ op.isRead = false ∧
      (∀ bus, (op.exec clock bus).1.handed = []) ∧
      ∀ kind, op.kinds clock kind ↔ kind = .publish := by
  cases op with
  | publishShared | publishSharedFrom | publishBatch =>
      exact Or.inr (Or.inr ⟨rfl, fun _ => rfl, fun _ => Iff.rfl⟩)
  | advanceEpoch => exact Or.inr (Or.inl rfl)
  | _ => exact Or.inl rfl

/-- Publishing neither shows nor delivers anything on a previous-tick channel. -/
theorem hidden_of_publish (htype : config.type = .previousTick)
    (hkind : ∀ kind, allowed kind → kind = .publish) (hstep : SlotStep allowed config s s') :
    s'.latest = s.latest ∧ s'.ledger.delivered = s.ledger.delivered := by
  cases hstep with
  | quiet latest _ _ record => exact ⟨latest, (record (by rw [htype]; rfl)).delivered⟩
  | exposed _ type => exact absurd htype type
  | staged _ _ _ latest _ _ _ _ delivered => exact ⟨latest, delivered⟩
  | advanced kind => cases hkind _ kind
  | expired _ kind => cases hkind _ kind
  | delivered _ kind => cases hkind _ kind

/-- The kinds of steps that read. -/
def StepKind.isRead : StepKind → Prop
  | .observe _ | .drain _ => True
  | .publish | .advance => False

/-- A read looks or drains, and does nothing else. -/
theorem BusOp.kinds_of_isRead {clock : Nat → Int} {op : BusOp} (h : op.isRead = true)
    (kind : StepKind) (hkind : op.kinds clock kind) : kind.isRead := by
  cases op with
  | publishShared | publishSharedFrom | publishBatch | advanceEpoch => cases h
  | readLatestForReader | readLatestUpdateForComponentPort | peekLatestForComponentPort
  | snapshotForComponentPort =>
      rcases hkind with ⟨n, rfl⟩
      trivial
  | drainForReader | drainForComponentPort | consumeForComponent =>
      rcases hkind with ⟨n, rfl | rfl⟩
      · trivial
      · trivial

/-- Reading leaves what waits. -/
theorem pending_of_read (hkind : ∀ kind, allowed kind → kind.isRead)
    (hstep : SlotStep allowed config s s') :
    s'.pendingPreviousTick = s.pendingPreviousTick := by
  cases hstep with
  | quiet _ pending => exact pending
  | exposed kind | staged kind | advanced kind => cases hkind _ kind
  | expired _ _ _ _ _ _ pending => exact pending
  | delivered _ _ _ _ _ _ _ pending => exact pending

/-- Reading makes nothing visible. -/
theorem visible_of_read (hkind : ∀ kind, allowed kind → kind.isRead)
    (hstep : SlotStep allowed config s s') {value : RuntimeChannelMessage}
    (hvalue : s'.latest = some value) : s.latest = some value := by
  cases hstep with
  | quiet latest => rw [← latest, hvalue]
  | exposed kind | staged kind | advanced kind => cases hkind _ kind
  | expired _ _ _ _ _ latest =>
      rw [latest] at hvalue
      cases hvalue
  | delivered _ _ _ _ _ _ latest => rw [← latest, hvalue]

/-- What an epoch does to a previous-tick channel. -/
theorem advanceEpoch_shows {bus : RuntimeChannelBus} {id : String} (hknown : id ∈ bus.channelIds)
    (htype : (bus.config id).type = .previousTick) :
    bus.advanceEpoch.visible id =
        (bus.channels id).pendingPreviousTick.or (bus.visible id) ∧
      (bus.advanceEpoch.channels id).pendingPreviousTick = none := by
  simp only [RuntimeChannelBus.visible, RuntimeChannelBus.advanceEpoch, if_pos hknown,
    advanceState, htype]
  cases hpending : (bus.channels id).pendingPreviousTick with
  | none => exact ⟨rfl, hpending⟩
  | some waiting => exact ⟨rfl, rfl⟩

section Bus

variable (clock : Nat → Int) {bus : RuntimeChannelBus} {id : String}

/-- An operation that publishes, seen from a previous-tick channel. -/
theorem hidden_exec (htype : (bus.config id).type = .previousTick) {op : BusOp}
    (hkind : ∀ kind, op.kinds clock kind ↔ kind = .publish) :
    (op.exec clock bus).2.visible id = bus.visible id ∧
      ((op.exec clock bus).2.channels id).ledger.delivered =
        (bus.channels id).ledger.delivered := by
  refine ChannelSteps.invariant (P := fun s => s.latest = (bus.channels id).latest ∧
    s.ledger.delivered = (bus.channels id).ledger.delivered) ?_
    ((exec_evolves clock bus op).steps id) ⟨rfl, rfl⟩
  intro s s' hstep h
  obtain ⟨hlatest, hdelivered⟩ :=
    hidden_of_publish htype (fun kind => (hkind kind).mp) hstep.slots
  exact ⟨hlatest.trans h.1, hdelivered.trans h.2⟩

/-- The moments go on, and only an epoch shows another value. -/
theorem exec_staysVisible (htags : AllTagged bus) (htype : (bus.config id).type = .previousTick)
    {op : BusOp} (hop : op ≠ .advanceEpoch) :
    bus.moment ≤ (op.exec clock bus).2.moment ∧
      StaysVisible clock id bus (op.exec clock bus).2 := by
  rcases op.reads_or_advances_or_publishes clock with hread | hadvance | ⟨-, -, hkind⟩
  · have hreads : ReadsAt clock id _ bus _ _ :=
      exec_reads clock htags (by rw [htype]; rfl) hread
    exact ⟨hreads.moment, hreads.visible⟩
  · exact absurd hadvance hop
  · exact ⟨(exec_publishes clock bus ((hkind _).mpr rfl)).moment,
      Or.inl (hidden_exec clock htype hkind).1⟩

/-- Within an epoch the visible value is the one from its start. -/
theorem run_staysVisible (htags : AllTagged bus) (htype : (bus.config id).type = .previousTick)
    {ops : List BusOp} (hops : BusOp.advanceEpoch ∉ ops) :
    bus.moment ≤ (runBus clock bus ops).moment ∧
      StaysVisible clock id bus (runBus clock bus ops) := by
  induction ops generalizing bus with
  | nil => exact ⟨Nat.le_refl _, Or.inl rfl⟩
  | cons op ops ih =>
      obtain ⟨hfirst, hrest⟩ := not_or.mp (mt List.mem_cons.mpr hops)
      have hevolves := exec_evolves clock bus op
      obtain ⟨hmoment, hone⟩ := exec_staysVisible clock htags htype (Ne.symm hfirst)
      obtain ⟨hmoment', hlater⟩ := ih (htags.evolves hevolves)
        (by rw [hevolves.config]; exact htype) hrest
      exact ⟨hmoment.trans hmoment', hone.trans hlater hevolves.config hmoment hmoment'⟩

/-- The ledger of a previous-tick channel records what the readers got. -/
theorem exec_handed (htags : AllTagged bus) (htype : (bus.config id).type = .previousTick)
    (op : BusOp) :
    ((op.exec clock bus).2.channels id).ledger.delivered = (bus.channels id).ledger.delivered ++
      deliveriesOn id (handedTo op.reader (op.exec clock bus).1.handed) := by
  rcases op.reads_or_advances_or_publishes clock with hread | rfl | ⟨-, hnone, hkind⟩
  · exact (exec_reads clock htags (by rw [htype]; rfl) hread).delivered
  · have hsame : ∀ config s, (advanceState config s).2.ledger.delivered = s.ledger.delivered := by
      intro config s
      unfold advanceState
      split <;> rfl
    simp only [BusOp.exec, BusOp.reader, handedTo, RuntimeChannelBus.advanceEpoch]
    split_ifs
    · simp [hsame, deliveriesOn]
    · simp [deliveriesOn]
  · rw [(hidden_exec clock htype hkind).2, hnone]
    cases op.reader <;> simp [handedTo, deliveriesOn]

/-- Reads leave the visible values, or take them away. -/
theorem not_madeVisible_of_read {op : BusOp} (hread : op.isRead = true) :
    ¬ MadeVisible bus (op.exec clock bus).2 := by
  rintro ⟨other, -, value, hnew, hold⟩
  refine hold (ChannelSteps.invariant (P := fun s => s.latest = some value →
    bus.visible other = some value) ?_ ((exec_evolves clock bus op).steps other) (fun h => h) hnew)
  intro s s' hstep h hlatest
  exact h (visible_of_read (BusOp.kinds_of_isRead hread) hstep.slots hlatest)

/-- The counter of updates moves iff a value is made visible. -/
theorem exec_announces (htags : AllTagged bus) (htype : (bus.config id).type = .previousTick)
    (hslots : ∀ id, Slots (bus.config id) (bus.channels id)) (op : BusOp) :
    bus.updateSequence ≤ (op.exec clock bus).2.updateSequence ∧
      (bus.updateSequence < (op.exec clock bus).2.updateSequence ↔
        MadeVisible bus (op.exec clock bus).2) := by
  rcases op.reads_or_advances_or_publishes clock with hread | rfl | ⟨hwrite, -, hkind⟩
  · have hreads : ReadsAt clock id _ bus _ _ :=
      exec_reads clock htags (by rw [htype]; rfl) hread
    rw [hreads.counter]
    exact ⟨Nat.le_refl _, iff_of_false (Nat.lt_irrefl _) (not_madeVisible_of_read clock hread)⟩
  · exact advanceEpoch_announces hslots
  · have hpublishes := exec_publishes clock bus ((hkind _).mpr rfl)
    exact ⟨hpublishes.le, hpublishes.lt_iff hslots⟩

end Bus

/-! ## Runs -/

/-- What the readers of all the channels got in a run, in order. -/
def runHanded (clock : Nat → Int) : RuntimeChannelBus → List BusOp →
    List (String × RuntimeChannelMessage)
  | _, [] => []
  | bus, op :: ops =>
      handedTo op.reader (op.exec clock bus).1.handed ++ runHanded clock (op.exec clock bus).2 ops

/-- The values published on a channel so far, in order. -/
def RuntimeChannelBus.published (bus : RuntimeChannelBus) (id : String) :
    List RuntimeChannelMessage :=
  (bus.channels id).ledger.stored

/-- What a run hands out is what the channel has noted. -/
theorem run_handed (clock : Nat → Int) {bus : RuntimeChannelBus} {id : String}
    (htags : AllTagged bus) (htype : (bus.config id).type = .previousTick) (ops : List BusOp) :
    ((runBus clock bus ops).channels id).ledger.delivered =
      (bus.channels id).ledger.delivered ++ deliveriesOn id (runHanded clock bus ops) := by
  induction ops generalizing bus with
  | nil => simp [runBus, runHanded, deliveriesOn]
  | cons op ops ih =>
      have hevolves := exec_evolves clock bus op
      have hrest := ih (htags.evolves hevolves) (by rw [hevolves.config]; exact htype)
      rw [runHanded, deliveriesOn_append, ← List.append_assoc,
        ← exec_handed clock htags htype op, ← hrest]
      rfl

theorem runBus_append (clock : Nat → Int) (bus : RuntimeChannelBus) (ops ops' : List BusOp) :
    runBus clock bus (ops ++ ops') = runBus clock (runBus clock bus ops) ops' :=
  List.foldl_append

/-- A run has no epoch, or a last one. -/
theorem advanceEpoch_split (ops : List BusOp) :
    BusOp.advanceEpoch ∉ ops ∨
      ∃ earlier recent, ops = earlier ++ .advanceEpoch :: recent ∧ BusOp.advanceEpoch ∉ recent := by
  by_cases hmem : BusOp.advanceEpoch ∈ ops
  · -- the last one is the first from behind
    obtain ⟨recent, earlier, hops, hrecent⟩ :=
      List.eq_append_cons_of_mem (List.mem_reverse.mpr hmem)
    refine Or.inr ⟨earlier.reverse, recent.reverse, ?_, by simpa using hrecent⟩
    rw [← List.reverse_reverse ops, hops]
    simp
  · exact Or.inl hmem

section Runs

variable (clock : Nat → Int) (specs : List EdgeSpec) {id : String}
  (htype : ((RuntimeChannelBus.ofEdges specs).config id).type = .previousTick)

include htype

theorem type_run (ops : List BusOp) :
    ((runBus clock (.ofEdges specs) ops).config id).type = .previousTick := by
  rw [(runBus_evolves clock (.ofEdges specs) ops).config]
  exact htype

/-- What is visible was published before the last epoch began. -/
theorem visible_published {ops : List BusOp} {value : RuntimeChannelMessage}
    (hvisible : (runBus clock (.ofEdges specs) ops).visible id = some value) :
    ∃ earlier recent, ops = earlier ++ .advanceEpoch :: recent ∧ BusOp.advanceEpoch ∉ recent ∧
      value ∈ (runBus clock (.ofEdges specs) earlier).published id := by
  rcases advanceEpoch_split ops with hnone | ⟨earlier, recent, rfl, hrecent⟩
  · have hinit := (withinEpoch_run clock htype hnone).2 value hvisible
    rw [channels_ofEdges] at hinit
    cases hinit
  · refine ⟨earlier, recent, rfl, hrecent, ?_⟩
    rw [List.append_cons, runBus_append] at hvisible
    have hepoch := (withinEpoch_run clock (type_run clock specs htype _) hrecent).2 value hvisible
    have hstored := (tickHistory_run clock specs (earlier ++ [.advanceEpoch]) htype).latest_stored
      value hepoch
    rw [runBus_append] at hstored
    rw [RuntimeChannelBus.published, ← advanceEpoch_sameStored]
    exact hstored

/-- A message that an operation returns is the visible value. -/
theorem handed_visible {ops : List BusOp} {op : BusOp} {message : RuntimeChannelMessage}
    (hmessage : message ∈ (op.exec clock (runBus clock (.ofEdges specs) ops)).1.handed)
    (hid : message.channelId = id) :
    ∃ value, (runBus clock (.ofEdges specs) ops).visible id = some value ∧ Shows value message := by
  rcases op.reads_or_advances_or_publishes clock with hread | rfl | ⟨-, hnone, -⟩
  · exact (exec_reads clock (allTagged_run clock specs ops)
      (by rw [type_run clock specs htype]; rfl) hread).shown message hmessage hid
  · cases hmessage
  · rw [hnone] at hmessage
    cases hmessage

/-- Nothing waits at the start of an epoch. -/
theorem pending_none {earlier : List BusOp}
    (hid : id ∈ (RuntimeChannelBus.ofEdges specs).channelIds)
    (hearlier : earlier = [] ∨ earlier.getLast? = some .advanceEpoch) :
    ((runBus clock (.ofEdges specs) earlier).channels id).pendingPreviousTick = none := by
  rcases hearlier with rfl | hlast
  · show ((RuntimeChannelBus.ofEdges specs).channels id).pendingPreviousTick = none
    rw [channels_ofEdges]
  · obtain ⟨before, rfl⟩ := List.getLast?_eq_some_iff.mp hlast
    rw [runBus_append]
    have hknown : id ∈ (runBus clock (.ofEdges specs) before).channelIds := by
      rw [(runBus_evolves clock (.ofEdges specs) before).channelIds]
      exact hid
    exact (advanceEpoch_shows hknown (type_run clock specs htype before)).2

/-- An epoch shows the last value published since the one before it, else what was visible
and has not expired. -/
theorem epoch_shows {earlier recent : List BusOp}
    (hid : id ∈ (RuntimeChannelBus.ofEdges specs).channelIds)
    (hearlier : earlier = [] ∨ earlier.getLast? = some .advanceEpoch)
    (hrecent : BusOp.advanceEpoch ∉ recent) :
    ∃ values, (runBus clock (.ofEdges specs) (earlier ++ recent)).published id =
        (runBus clock (.ofEdges specs) earlier).published id ++ values ∧
      (runBus clock (.ofEdges specs) (earlier ++ recent ++ [.advanceEpoch])).visible id =
        values.getLast?.or ((runBus clock (.ofEdges specs) (earlier ++ recent)).visible id) ∧
      StaysVisible clock id (runBus clock (.ofEdges specs) earlier)
        (runBus clock (.ofEdges specs) (earlier ++ recent)) := by
  have htypes := type_run clock specs htype earlier
  obtain ⟨⟨values, hstored, hpending⟩, -⟩ := withinEpoch_run clock htypes hrecent
  rw [pending_none clock specs htype hid hearlier, Option.or_none] at hpending
  have hstays := (run_staysVisible clock (allTagged_run clock specs earlier) htypes hrecent).2
  rw [← runBus_append] at hstored hpending hstays
  have hknown : id ∈ (runBus clock (.ofEdges specs) (earlier ++ recent)).channelIds := by
    rw [(runBus_evolves clock (.ofEdges specs) _).channelIds]
    exact hid
  have hshows := (advanceEpoch_shows hknown (type_run clock specs htype _)).1
  rw [hpending] at hshows
  rw [runBus_append _ _ (earlier ++ recent)]
  exact ⟨values, hstored, hshows, hstays⟩

end Runs

/-- Isolation of previous-tick channels, for every clock, every bus and every list of
operations.

* A message that an operation returns shows the visible value, which was published before
  the last `advance_epoch`; numbers tell the published values apart.
* An `advance_epoch` shows the last value published since the one before it (or since the
  start); when there is none, the visible value stays, unless a read found it expired.
* While at most `kMaxTrackedReaders` readers got something, each of them gets a value once.
* `update_sequence` never decreases, and an operation increases it iff it makes a value
  visible, which no read does. -/
theorem previous_tick_isolation (clock : Nat → Int) (specs : List EdgeSpec) (id : String)
    (hid : id ∈ (RuntimeChannelBus.ofEdges specs).channelIds)
    (htype : ((RuntimeChannelBus.ofEdges specs).config id).type = .previousTick) :
    let after := runBus clock (.ofEdges specs)
    (∀ (ops : List BusOp) (op : BusOp), ∀ message ∈ (op.exec clock (after ops)).1.handed,
      message.channelId = id →
      (((after ops).published id).map RuntimeChannelMessage.sequence).Pairwise (· < ·) ∧
        ∃ earlier recent value, ops = earlier ++ .advanceEpoch :: recent ∧
          BusOp.advanceEpoch ∉ recent ∧ value ∈ (after earlier).published id ∧
          (after ops).visible id = some value ∧ Shows value message) ∧
      (∀ earlier recent, (earlier = [] ∨ earlier.getLast? = some .advanceEpoch) →
        BusOp.advanceEpoch ∉ recent →
        ∃ values, (after (earlier ++ recent)).published id =
            (after earlier).published id ++ values ∧
          (after (earlier ++ recent ++ [.advanceEpoch])).visible id =
            values.getLast?.or ((after (earlier ++ recent)).visible id) ∧
          StaysVisible clock id (after earlier) (after (earlier ++ recent))) ∧
      (∀ ops, let deliveries := deliveriesOn id (runHanded clock (.ofEdges specs) ops)
        (readersOf deliveries).card ≤ kMaxTrackedReaders →
          ∀ reader, (deliveriesTo reader deliveries).Pairwise (· < ·)) ∧
      ∀ (ops : List BusOp) (op : BusOp),
        (after ops).updateSequence ≤ (op.exec clock (after ops)).2.updateSequence ∧
        ((after ops).updateSequence < (op.exec clock (after ops)).2.updateSequence ↔
          MadeVisible (after ops) (op.exec clock (after ops)).2) ∧
        (MadeVisible (after ops) (op.exec clock (after ops)).2 → op.isRead = false) := by
  intro after
  refine ⟨?_, ?_, ?_, ?_⟩
  · intro ops op message hmessage hnamed
    refine ⟨(tickHistory_run clock specs ops htype).stored_increasing, ?_⟩
    obtain ⟨value, hvisible, hshows⟩ := handed_visible clock specs htype hmessage hnamed
    obtain ⟨earlier, recent, hops, hrecent, hpublished⟩ :=
      visible_published clock specs htype hvisible
    exact ⟨earlier, recent, value, hops, hrecent, hpublished, hvisible, hshows⟩
  · intro earlier recent hearlier hrecent
    exact epoch_shows clock specs htype hid hearlier hrecent
  · intro ops deliveries hcard reader
    -- what is handed out over the run is what the ledger says, from an empty one on
    have hledger := run_handed clock (allTagged_run clock specs []) htype ops
    have hempty : ((runBus clock (.ofEdges specs) []).channels id).ledger.delivered = [] := by
      show ((RuntimeChannelBus.ofEdges specs).channels id).ledger.delivered = []
      rw [channels_ofEdges]
    rw [hempty, List.nil_append] at hledger
    have hcursors := (tickHistory_run clock specs ops htype).cursors
    rw [show ((runBus clock (.ofEdges specs) ops).channels id).ledger.delivered = deliveries from
      hledger] at hcursors
    exact (hcursors hcard reader).2
  · intro ops op
    obtain ⟨hle, hiff⟩ := exec_announces clock (allTagged_run clock specs ops)
      (type_run clock specs htype ops) (slots_run clock specs ops) op
    refine ⟨hle, hiff, ?_⟩
    intro hvisible
    by_contra hread
    exact not_madeVisible_of_read clock (Bool.not_eq_false _ ▸ hread) hvisible

/-- A feedback edge. -/
def feedbackEdge : List EdgeSpec :=
  [{ id := "f", fromEndpoint := "b.out", toEndpoint := "a.in"
     policy := { mode := "previous_tick", copyPolicy := "shared_view" } }]

/-- Two values in one epoch and one in the next; the reader asks in between. -/
def feedbackOps : List BusOp :=
  [.publishShared "f" (some {}) {} none, .publishShared "f" (some {}) {} none,
   .readLatestForReader "f" "a", .advanceEpoch,
   .publishShared "f" (some {}) {} none, .readLatestForReader "f" "a",
   .readLatestForReader "f" "a", .advanceEpoch, .readLatestForReader "f" "a"]

theorem feedback_delivers_once :
    deliveriesOn "f" (runHanded (fun n => n) (.ofEdges feedbackEdge) feedbackOps) =
        [("a", 2), ("a", 3)] ∧
      (deliveriesTo "a" (deliveriesOn "f"
        (runHanded (fun n => n) (.ofEdges feedbackEdge) feedbackOps))).Pairwise (· < ·) := by
  have hdeliveries : deliveriesOn "f"
      (runHanded (fun n => n) (.ofEdges feedbackEdge) feedbackOps) = [("a", 2), ("a", 3)] := by
    decide
  refine ⟨hdeliveries, ?_⟩
  refine (previous_tick_isolation (fun n => n) feedbackEdge "f" (by decide) (by decide)).2.2.1
    feedbackOps ?_ "a"
  rw [hdeliveries]
  decide

end TopoExec
