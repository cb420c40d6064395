import TopoExec.Channel.Cursors
import TopoExec.Channel.Simulation
import TopoExec.Channel.PreviousTick

/-! # Pruning is invisible

`prune_latest_dedup` and `prune_queue_dedup` drop cursors that decide nothing: a
cursor of the latest value matters only at the visible value, a cursor of the
queue only from the front of the queue on. States that agree on those cursors
(`SameReads`) answer everything alike, whatever follows, since the numbers of the
messages only grow.
-/

namespace TopoExec

open RuntimeChannelBus

variable {config : ChannelConfig} {s t : ChannelState}

/-- Two states of a channel with the same cursors where it matters. -/
structure SameReads (config : ChannelConfig) (s t : ChannelState) : Prop where
  inv : ReadInv config s
  below : CursorsBelow t
  rest : t = s.withCursors t.deliveredLatestSequences t.deliveredQueueSequences
  latest : ∀ message ∈ s.latest, ∀ reader : String,
    t.deliveredLatestSequences[reader]? = some message.sequence ↔
      s.deliveredLatestSequences[reader]? = some message.sequence
  queue : config.type.isLatestStyle = false →
    ∀ front ∈ s.queue.head?, ∀ (reader : String) (n : Nat),
    front.sequence ≤ n →
      (t.deliveredQueueSequences[reader]? = some n ↔ s.deliveredQueueSequences[reader]? = some n)

theorem SameReads.refl (h : ReadInv config s) : SameReads config s s where
  inv := h
  below := h.cursors
  rest := rfl
  latest := fun _ _ _ => Iff.rfl
  queue := fun _ _ _ _ _ _ => Iff.rfl

/-! ## Steps that ignore the cursors -/

/-- What comes into a queue is a new message. -/
theorem ChannelStep.queue_new {allowed : StepKind → Prop} {s' : ChannelState}
    (htype : config.type.isLatestStyle = false) (hstep : ChannelStep allowed config s s') :
    ∀ message ∈ s'.queue, message ∈ s.queue ∨ s.nextSequence ≤ message.sequence := by
  intro message hm
  cases hstep.queueEffect htype with
  | unaffected hu => exact .inl (hu.queue ▸ hm)
  | enqueued _ now prepared he =>
      rw [he.queue] at hm
      rcases List.mem_append.mp (List.mem_of_mem_drop hm) with hold | hnew
      · exact .inl hold
      · rw [List.mem_singleton.mp hnew]
        exact .inr (Nat.le_refl _)
  | snapshotted now _ hc =>
      rw [hc.queue] at hm
      exact .inl (List.mem_of_mem_filter hm)
  | consumed now _ readerId maxBatch hc => exact .inl (hc.queue_sublist.mem hm)

/-- The front of a queue has the smallest number. -/
theorem QueueAccounts.front_le (h : QueueAccounts config s) {front message : RuntimeChannelMessage}
    (hfront : front ∈ s.queue.head?) (hm : message ∈ s.queue) :
    front.sequence ≤ message.sequence := by
  have hordered := h.ordered
  cases hqueue : s.queue with
  | nil => simp [hqueue] at hm
  | cons first rest =>
      rw [hqueue] at hfront hm hordered
      cases hfront
      rw [List.map_cons, List.pairwise_cons] at hordered
      rcases List.mem_cons.mp hm with rfl | hrest
      · exact Nat.le_refl _
      · exact (hordered.1 _ (List.mem_map_of_mem hrest)).le

/-- An operation that does not look at the cursors answers alike. -/
theorem SameReads.ignored {α : Type} {f : ChannelState → α × ChannelState}
    (hf : IgnoresCursors f) (h : SameReads config s t)
    (hstep : ChannelStep anyStep config s (f s).2) :
    SameResult (SameReads config) (f s) (f t) := by
  obtain ⟨hinv, hbelow, hrest, hlatest, hqueue⟩ := h
  set a := t.deliveredLatestSequences
  set b := t.deliveredQueueSequences
  obtain ⟨hnext, hpending⟩ := hstep.slots.pending_new
  obtain ⟨hkeptLatest, hkeptQueue⟩ := hf.kept s
  have hft : f t = ((f s).1, (f s).2.withCursors a b) := by
    rw [hrest]
    exact hf s a b
  have hbelow' : CursorsBelow (s.withCursors a b) := hrest ▸ hbelow
  rw [hft]
  refine ⟨rfl, readInv_step hstep hinv, hbelow'.kept rfl rfl hnext hpending, rfl, ?_, ?_⟩
  · intro message hm reader
    rw [hkeptLatest]
    rcases hstep.slots.latest_new message hm with hold | hnew
    · exact hlatest message hold reader
    · -- no cursor has got there in either state
      constructor
      · intro hn
        exact absurd (hbelow'.ahead hnew reader _ hn) (lt_irrefl _)
      · intro hn
        exact absurd (hinv.cursors.ahead hnew reader _ hn) (lt_irrefl _)
  · intro htype front hfront reader n hn
    rw [hkeptQueue]
    rcases hstep.queue_new htype front (List.mem_of_mem_head? hfront) with hold | hnew
    · -- the old front is not behind the new one
      cases hhead : s.queue.head? with
      | none => simp [List.head?_eq_none_iff.mp hhead] at hold
      | some first =>
          have hle := (hinv.history htype).accounts.front_le hhead hold
          exact hqueue htype first hhead reader n (hle.trans hn)
    · constructor
      · intro hcursor
        have hlt := hbelow'.queue reader n hcursor
        exact absurd (hnew.trans hn) (not_le.mpr hlt)
      · intro hcursor
        have hlt := hinv.cursors.queue reader n hcursor
        exact absurd (hnew.trans hn) (not_le.mpr hlt)

/-! ## Reads -/

/-- The slots do not depend on the cursors. -/
theorem Slots.withCursors (h : Slots config s) (latest queue : Std.TreeMap String Nat) :
    Slots config (s.withCursors latest queue) :=
  ⟨h.latest, h.pending, h.unused⟩

/-- Nor do the accounts. -/
theorem QueueAccounts.withCursors (h : QueueAccounts config s)
    (latest queue : Std.TreeMap String Nat) : QueueAccounts config (s.withCursors latest queue) :=
  ⟨h.bounded, h.ordered, h.below, h.depth, h.depth_le, h.maxDepth_le, h.watermark, h.balance⟩

/-- A pruned cursor was not at the value, so the reader gets it in both cases. -/
theorem SameReads.consumeLatest (htype : config.type.isLatestStyle = true)
    (h : SameReads config s t) (now : Int) (readerId : String) :
    SameResult (SameReads config) (consumeLatestFromState config now readerId s)
      (consumeLatestFromState config now readerId t) := by
  obtain ⟨hinv, hbelow, hrest, hlatest, -⟩ := h
  have hstep : ∀ s, ChannelStep anyStep config s
      (consumeLatestFromState config now readerId s).2 :=
    fun s => .consumeLatest now trivial readerId s htype
  have hinv' := readInv_step (hstep s) hinv
  have hslots : Slots config t := by
    rw [hrest]
    exact hinv.slots.withCursors _ _
  have hbelow' := hbelow.consumeLatest hslots (hstep t).slots
  have hsame : t.latest = s.latest := by
    rw [hrest]
    rfl
  have hqueue : config.type.isLatestStyle ≠ false := by simp [htype]
  revert hinv' hbelow'
  unfold consumeLatestFromState
  rw [hsame]
  cases hvisible : s.latest with
  | none =>
      intro hinv' hbelow'
      exact ⟨rfl, hinv', hbelow', hrest, fun m hm => hlatest m hm, fun h => absurd h hqueue⟩
  | some latest =>
      have hseen := hlatest latest hvisible readerId
      dsimp only
      by_cases hexpired : messageExpired config latest now = true
      · rw [if_pos hexpired, if_pos hexpired]
        intro hinv' hbelow'
        refine ⟨rfl, hinv', hbelow', ?_, ?_, fun h => absurd h hqueue⟩
        · rw [hrest]
          rfl
        · intro m hm
          cases hm
      · rw [if_neg hexpired, if_neg hexpired]
        -- whether the reader has the value is the same in both states
        by_cases hold : s.deliveredLatestSequences[readerId]? = some latest.sequence
        · rw [if_pos hold, if_pos (hseen.mpr hold)]
          intro hinv' hbelow'
          exact ⟨rfl, hinv', hbelow', hrest, fun m hm => hlatest m hm, fun h => absurd h hqueue⟩
        · rw [if_neg hold, if_neg (fun hnew => hold (hseen.mp hnew))]
          intro hinv' hbelow'
          refine ⟨rfl, hinv', hbelow', ?_, ?_, fun h => absurd h hqueue⟩
          · rw [hrest]
            rfl
          · -- both move the same cursor to the visible value
            intro message hm reader
            have hm' : some latest = some message := hm
            cases hm'
            have hreaders : readersAt t.deliveredLatestSequences latest.sequence =
                readersAt s.deliveredLatestSequences latest.sequence := by
              ext r
              rw [mem_readersAt, mem_readersAt]
              exact hlatest latest hvisible r
            have hmoved : readersAt (moveCursor t.deliveredLatestSequences readerId
                latest.sequence) latest.sequence =
                  readersAt (moveCursor s.deliveredLatestSequences readerId latest.sequence)
                    latest.sequence := by
              rw [readersAt_moveCursor, readersAt_moveCursor, hreaders]
            have hiff := Finset.ext_iff.mp hmoved reader
            rw [mem_readersAt, mem_readersAt] at hiff
            exact hiff

/-- The queue has the same messages that a reader has not had. -/
theorem SameReads.lastDelivered (htype : config.type.isLatestStyle = false)
    (h : SameReads config s t) (readerId : String) (hmulti : isMultiReader config.readers = true) :
    ∀ message ∈ s.queue, message.sequence ≤ lastDelivered config s readerId ↔
      message.sequence ≤ TopoExec.lastDelivered config t readerId := by
  intro message hm
  have hhistory := h.inv.history htype
  cases hhead : s.queue.head? with
  | none => simp [List.head?_eq_none_iff.mp hhead] at hm
  | some front =>
      have hfront := hhistory.accounts.front_le hhead hm
      have hpos := hhistory.numbered.queue_pos front (List.mem_of_mem_head? hhead)
      have hagree := h.queue htype front hhead readerId
      unfold TopoExec.lastDelivered
      rw [if_pos hmulti, if_pos hmulti]
      constructor
      · intro hle
        cases hcursor : s.deliveredQueueSequences[readerId]? with
        | none =>
            rw [hcursor, Option.getD_none] at hle
            omega
        | some n =>
            rw [hcursor, Option.getD_some] at hle
            rw [(hagree n (hfront.trans hle)).mpr hcursor, Option.getD_some]
            exact hle
      · intro hle
        cases hcursor : t.deliveredQueueSequences[readerId]? with
        | none =>
            rw [hcursor, Option.getD_none] at hle
            omega
        | some n =>
            rw [hcursor, Option.getD_some] at hle
            rw [(hagree n (hfront.trans hle)).mp hcursor, Option.getD_some]
            exact hle

/-- The batch a reader gets is the same. -/
theorem freshFor_congr {now : Int} {last last' : Nat} {queue : List RuntimeChannelMessage}
    (h : isMultiReader config.readers = true →
      ∀ message ∈ queue, message.sequence ≤ last ↔ message.sequence ≤ last') :
    freshFor config now last queue = freshFor config now last' queue := by
  unfold freshFor
  apply List.filter_congr
  intro message hm
  have hin : message ∈ queue := List.mem_of_mem_filter hm
  cases hmulti : isMultiReader config.readers with
  | false => rfl
  | true => simp [h hmulti message hin]

/-- A pruned cursor was behind the queue, so it holds nothing back. -/
theorem SameReads.consume (htype : config.type.isLatestStyle = false) (h : SameReads config s t)
    (now : Int) (readerId : String) (maxBatch : Nat) :
    SameResult (SameReads config) (consumeFromState config now readerId maxBatch s)
      (consumeFromState config now readerId maxBatch t) := by
  have hlast := h.lastDelivered htype readerId
  obtain ⟨hinv, hbelow, hrest, hlatest, hqueue⟩ := h
  have hhistory := hinv.history htype
  have hstep : ChannelStep anyStep config s (consumeFromState config now readerId maxBatch s).2 :=
    .consume now trivial readerId maxBatch s htype
  have hinv' := readInv_step hstep hinv
  have haccounts : QueueAccounts config t := by
    rw [hrest]
    exact hhistory.accounts.withCursors _ _
  have hbelow' := hbelow.consume haccounts now readerId maxBatch
  have hkept := consumeFromState_latestCursors config now readerId maxBatch s
  have hkept' := consumeFromState_latestCursors config now readerId maxBatch t
  have hslot : (consumeFromState config now readerId maxBatch s).2.latest = s.latest := by
    rcases consumeFromState_spec config now readerId maxBatch s with ⟨-, heq⟩ | ⟨-, hc⟩
    · rw [heq]
    · exact hc.frame.latest
  obtain ⟨queue', hsame⟩ := consumeFromState_withCursors config now readerId maxBatch s
    t.deliveredLatestSequences t.deliveredQueueSequences (hrest ▸ hlast)
  rw [← hrest] at hsame
  refine ⟨by rw [hsame], hinv', hbelow', ?_, ?_, ?_⟩
  · rw [hsame]
    rfl
  · intro message hm reader
    rw [hkept, hkept']
    exact hlatest message (hslot ▸ hm) reader
  · intro _ front hfront reader n hn
    have hqueueT : t.queue = s.queue := by
      rw [hrest]
      rfl
    have hqueue' : (consumeFromState config now readerId maxBatch t).2.queue =
        (consumeFromState config now readerId maxBatch s).2.queue := by
      rw [hsame]
      rfl
    by_cases hclosed : config.type = .barrier ∧ s.queue.length < config.capacity
    · have hstays : consumeFromState config now readerId maxBatch s = ([], s) := if_pos hclosed
      have hstays' : consumeFromState config now readerId maxBatch t = ([], t) :=
        if_pos (hqueueT ▸ hclosed)
      rw [hstays] at hfront ⊢
      rw [hstays']
      exact hqueue htype front hfront reader n hn
    · obtain ⟨moved, hmoved, hcap⟩ := consumeFromState_cursors now readerId maxBatch hclosed
      obtain ⟨moved', hmoved', hcap'⟩ := consumeFromState_cursors (s := t) now readerId maxBatch
        (hqueueT ▸ hclosed)
      rw [hqueueT, ← freshFor_congr hlast] at hmoved'
      have hpos := (hinv'.history htype).numbered.queue_pos front (List.mem_of_mem_head? hfront)
      -- the front that is left stood in the queue, not before its old front
      have hagree : ∀ (r : String) (m : Nat), front.sequence ≤ m →
          (t.deliveredQueueSequences[r]? = some m ↔ s.deliveredQueueSequences[r]? = some m) := by
        intro r m hm
        have hqueued : front ∈ s.queue := by
          rcases consumeFromState_spec config now readerId maxBatch s with ⟨-, heq⟩ | ⟨-, hc⟩
          · rw [heq] at hfront
            exact List.mem_of_mem_head? hfront
          · exact hc.queue_sublist.mem (List.mem_of_mem_head? hfront)
        cases hhead : s.queue.head? with
        | none => simp [List.head?_eq_none_iff.mp hhead] at hqueued
        | some first =>
            have hle := hhistory.accounts.front_le hhead hqueued
            exact hqueue htype first hhead r m (hle.trans hm)
      have hmovedIff : ∀ (r : String) (m : Nat), front.sequence ≤ m →
          (moved'[r]? = some m ↔ moved[r]? = some m) := by
        intro r m hm
        rw [hmoved, hmoved']
        split_ifs
        · rw [Option.or_eq_some_iff, Option.or_eq_some_iff, hagree r m hm]
        · exact hagree r m hm
      have hfrom : readersFrom moved' front.sequence = readersFrom moved front.sequence := by
        ext r
        rw [mem_readersFrom, mem_readersFrom]
        constructor
        · rintro ⟨m, hcursor, hm⟩
          exact ⟨m, (hmovedIff r m hm).mp hcursor, hm⟩
        · rintro ⟨m, hcursor, hm⟩
          exact ⟨m, (hmovedIff r m hm).mpr hcursor, hm⟩
      rw [hcap, hcap', hqueue', capQueueCursors_getElem? moved' hfront hpos.ne' hn,
        capQueueCursors_getElem? moved hfront hpos.ne' hn, hfrom, hmovedIff reader n hn]

/-- States with the same cursors where it matters answer alike. -/
theorem sameReads_simulation : ChannelSimulation SameReads where
  preflightPayload := fun {_ s _} h payload =>
    h.ignored (preflightPayload_ignores payload) (.preflightPayload trivial s payload)
  preflightPublish := fun {_ s _} h planned =>
    h.ignored (preflightPublish_ignores planned) (.preflightPublish trivial s planned)
  preparePayload := fun {_ s _} h payload =>
    h.ignored (preparePayload_ignores payload) (.preparePayload trivial s payload)
  publish := fun {_ s _} h now prepared =>
    h.ignored (publishToState_ignores now prepared) (.publish trivial now s prepared)
  advance := fun {_ s _} h => h.ignored advanceState_ignores (.advance trivial s)
  consumeLatest := fun htype h => h.consumeLatest htype
  snapshot := fun {_ s _} h now maxBatch =>
    h.ignored (snapshotFromState_ignores now maxBatch) (.snapshot now trivial maxBatch s)
  consume := fun htype h => h.consume htype

/-! ## Pruning -/

/-- The channel after `prune_latest_dedup`. -/
def ChannelState.pruneLatest (s : ChannelState) (latestSequence : Nat) : ChannelState :=
  s.withCursors (pruneLatestDedup s.deliveredLatestSequences latestSequence)
    s.deliveredQueueSequences

/-- The smallest number in the queue, 0 if it is empty. -/
def ChannelState.minRetainedSequence (s : ChannelState) : Nat :=
  ((s.queue.map RuntimeChannelMessage.sequence).min?).getD 0

/-- The channel after `prune_queue_dedup`. -/
def ChannelState.pruneQueue (s : ChannelState) : ChannelState :=
  s.withCursors s.deliveredLatestSequences
    (pruneQueueDedup s.deliveredQueueSequences s.minRetainedSequence)

/-- Fewer cursors are not ahead either. -/
theorem CursorsBelow.fewer (h : CursorsBelow s) {latest queue : Std.TreeMap String Nat}
    (hlatest : ∀ (reader : String) (n : Nat), latest[reader]? = some n →
      s.deliveredLatestSequences[reader]? = some n)
    (hqueue : ∀ (reader : String) (n : Nat), queue[reader]? = some n →
      s.deliveredQueueSequences[reader]? = some n) :
    CursorsBelow (s.withCursors latest queue) where
  next := fun reader n hn => h.next reader n (hlatest reader n hn)
  pending := fun reader n hn => h.pending reader n (hlatest reader n hn)
  queue := fun reader n hn => h.queue reader n (hqueue reader n hn)

/-- Pruning the cursors of a slot is not seen by a reader. -/
theorem pruneLatest_sameReads (h : ReadInv config s) {latest : RuntimeChannelMessage}
    (hlatest : latest ∈ s.latest) : SameReads config s (s.pruneLatest latest.sequence) where
  inv := h
  below := by
    apply h.cursors.fewer
    · intro reader n hn
      rw [pruneLatestDedup_getElem?] at hn
      split_ifs at hn with hat
      cases hn
      exact hat
    · exact fun _ _ hn => hn
  rest := rfl
  latest := by
    intro message hm reader
    have hsame : latest = message := Option.some.inj (hlatest.symm.trans hm)
    subst hsame
    rw [ChannelState.pruneLatest, ChannelState.withCursors, pruneLatestDedup_getElem?]
    split_ifs with hat
    · simp [hat]
    · simp [hat]
  queue := fun _ _ _ _ _ _ => Iff.rfl

/-- The smallest number is that of the front, which the code takes. -/
theorem QueueAccounts.minRetainedSequence (h : QueueAccounts config s)
    {front : RuntimeChannelMessage} (hfront : front ∈ s.queue.head?) :
    s.minRetainedSequence = front.sequence := by
  have hmin : (s.queue.map RuntimeChannelMessage.sequence).min? = some front.sequence := by
    rw [List.min?_eq_some_iff]
    constructor
    · exact List.mem_map_of_mem (List.mem_of_mem_head? hfront)
    · intro n hn
      obtain ⟨message, hm, rfl⟩ := List.mem_map.mp hn
      exact h.front_le hfront hm
  rw [ChannelState.minRetainedSequence, hmin, Option.getD_some]

/-- Pruning the cursors of a queue is not seen by a reader. -/
theorem pruneQueue_sameReads (h : ReadInv config s) : SameReads config s s.pruneQueue where
  inv := h
  below := by
    apply h.cursors.fewer
    · exact fun _ _ hn => hn
    · intro reader n hn
      rw [pruneQueueDedup, Std.TreeMap.getElem?_filter', Option.filter_eq_some_iff] at hn
      exact hn.1
  rest := rfl
  latest := fun _ _ _ => Iff.rfl
  queue := by
    intro htype front hfront reader n hn
    have hhistory := h.history htype
    have hpos := hhistory.numbered.queue_pos front (List.mem_of_mem_head? hfront)
    rw [ChannelState.pruneQueue, ChannelState.withCursors,
      hhistory.accounts.minRetainedSequence hfront, pruneQueueDedup_getElem? _ hpos.ne',
      Option.filter_eq_some_iff]
    simp [hn]

/-- One channel of the bus in another state. -/
def RuntimeChannelBus.withChannel (bus : RuntimeChannelBus) (id : String) (s : ChannelState) :
    RuntimeChannelBus :=
  bus.withChannels (Function.update bus.channels id s)

/-- A change of one channel that its reads cannot see. -/
theorem withChannel_invisible {clock : Nat → Int} {bus : RuntimeChannelBus} {id : String}
    (hinv : ∀ id, ReadInv (bus.config id) (bus.channels id))
    (h : SameReads (bus.config id) (bus.channels id) t) (later : List BusOp) :
    busOutputs clock (bus.withChannel id t) later = busOutputs clock bus later := by
  apply busOutputs_mirrors clock sameReads_simulation
  intro id'
  by_cases hid : id' = id
  · subst hid
    rw [Function.update_self]
    exact h
  · rw [Function.update_of_ne hid]
    exact .refl (hinv id')

/-- In every state of every run, pruning the cursors of a channel changes nothing
that later operations return. -/
theorem pruning_invisible (clock : Nat → Int) (specs : List EdgeSpec) (ops : List BusOp)
    (id : String) (later : List BusOp) :
    let bus := runBus clock (.ofEdges specs) ops
    (∀ latest ∈ bus.visible id,
        busOutputs clock
            (bus.withChannel id ((bus.channels id).pruneLatest latest.sequence)) later =
          busOutputs clock bus later) ∧
      busOutputs clock (bus.withChannel id (bus.channels id).pruneQueue) later =
        busOutputs clock bus later := by
  intro bus
  have hinv := readInv_run clock specs ops
  constructor
  · intro latest hlatest
    exact withChannel_invisible hinv (pruneLatest_sameReads (hinv id) hlatest) later
  · exact withChannel_invisible hinv (pruneQueue_sameReads (hinv id)) later

/-- The last of three messages to it, after one of them has been read. -/
def thirdShared : RuntimeChannelMessage :=
  { channelId := "q", payload := {}, publishedAt := 6, receivedAt := 6, sequence := 3
    metadata := finalizeMessageMetadata {} "q" 3 "a.out" }

theorem sharedQueue_pruned :
    let bus := runBus (fun n => n) (.ofEdges sharedQueue)
      [.publishShared "q" (some {}) {} none, .drainForReader "q" "x" 1,
        .publishShared "q" (some {}) {} none, .publishShared "q" (some {}) {} none]
    busOutputs (fun n => n)
          (bus.withChannel "q" ((bus.channels "q").pruneLatest thirdShared.sequence))
          [.drainForReader "q" "x" 0] =
        busOutputs (fun n => n) bus [.drainForReader "q" "x" 0] ∧
      busOutputs (fun n => n) (bus.withChannel "q" (bus.channels "q").pruneQueue)
          [.drainForReader "q" "x" 0] =
        busOutputs (fun n => n) bus [.drainForReader "q" "x" 0] := by
  obtain ⟨hlatest, hqueue⟩ := pruning_invisible (fun n => n) sharedQueue
    [.publishShared "q" (some {}) {} none, .drainForReader "q" "x" 1,
      .publishShared "q" (some {}) {} none, .publishShared "q" (some {}) {} none]
    "q" [.drainForReader "q" "x" 0]
  exact ⟨hlatest thirdShared (by decide), hqueue⟩

end TopoExec
