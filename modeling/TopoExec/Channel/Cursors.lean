import TopoExec.Lib.TopK
import TopoExec.Channel.DeliveryLaw
import TopoExec.Channel.Slots

/-! # Reader cursors

The two maps of reader cursors decide which reader gets which message. Here are
the facts about them that the rest rests on: the operations that do not read
leave them alone (`withCursors`), the cap keeps the readers with the greatest
ids (`enforceReaderCap_getElem?`), and no cursor is ahead of the messages
(`CursorsBelow`).
-/

namespace TopoExec

variable {config : ChannelConfig} {s s' : ChannelState}

/-! ## Operations that do not look at the cursors -/

/-- The state with other cursors. -/
def ChannelState.withCursors (s : ChannelState) (latest queue : Std.TreeMap String Nat) :
    ChannelState :=
  { s with deliveredLatestSequences := latest, deliveredQueueSequences := queue }

/-- A channel function that neither reads nor writes the cursors. -/
def IgnoresCursors {α : Type} (f : ChannelState → α × ChannelState) : Prop :=
  ∀ s latest queue,
    f (s.withCursors latest queue) = ((f s).1, (f s).2.withCursors latest queue)

/-- An operation that ignores the cursors leaves them as they are. -/
theorem IgnoresCursors.kept {α : Type} {f : ChannelState → α × ChannelState}
    (h : IgnoresCursors f) (s : ChannelState) :
    (f s).2.deliveredLatestSequences = s.deliveredLatestSequences ∧
      (f s).2.deliveredQueueSequences = s.deliveredQueueSequences := by
  have hself := congrArg Prod.snd (h s s.deliveredLatestSequences s.deliveredQueueSequences)
  have hsame : s.withCursors s.deliveredLatestSequences s.deliveredQueueSequences = s := rfl
  rw [hsame] at hself
  rw [hself]
  exact ⟨rfl, rfl⟩

/-- The checks of a payload do not look at the cursors. -/
theorem preflightPayload_ignores (payload : RuntimePayload) :
    IgnoresCursors fun s => preflightPayloadForState config s payload := by
  intro s latest queue
  unfold preflightPayloadForState
  dsimp only
  split_ifs <;> rfl

theorem preflightPublish_ignores (planned : Nat) :
    IgnoresCursors fun s => preflightPublishToState config s planned := by
  intro s latest queue
  have hqueue : (s.withCursors latest queue).queue = s.queue := rfl
  unfold preflightPublishToState
  dsimp only
  rw [hqueue]
  by_cases hroom : (config.type.isLatestStyle ||
      decide (s.queue.length + planned < config.capacity)) = true
  · rw [if_pos hroom, if_pos hroom]
  · rw [if_neg hroom, if_neg hroom]
    cases config.dropPolicy.refusal <;> rfl

theorem preparePayload_ignores (payload : RuntimePayload) :
    IgnoresCursors fun s => preparePayloadForState config s payload := by
  intro s latest queue
  unfold preparePayloadForState
  dsimp only
  split_ifs <;> rfl

theorem maybeRearmHighWatermark_withCursors (config : ChannelConfig)
    (latest queue : Std.TreeMap String Nat) (s : ChannelState) :
    maybeRearmHighWatermark config (s.withCursors latest queue) =
      (maybeRearmHighWatermark config s).withCursors latest queue := by
  unfold maybeRearmHighWatermark ChannelState.withCursors
  dsimp only
  split_ifs <;> rfl

theorem maybeEmitHighWatermark_eq (config : ChannelConfig) (s : ChannelState) :
    maybeEmitHighWatermark config s =
      { s with
        highWatermarkReported :=
          if s.highWatermarkReported || config.type.isLatestStyle || config.capacity = 0 ||
            s.metrics.depth < config.capacity then s.highWatermarkReported else true } := by
  unfold maybeEmitHighWatermark
  split_ifs <;> rfl

/-- Storing a message does not look at the cursors. -/
theorem acceptMessage_withCursors (config : ChannelConfig) (latest queue : Std.TreeMap String Nat)
    (s : ChannelState) (message : RuntimeChannelMessage) :
    acceptMessage config (s.withCursors latest queue) message =
      (acceptMessage config s message).withCursors latest queue := by
  unfold acceptMessage
  split_ifs
  · rfl
  · simp only [acceptLatest, maybeEmitHighWatermark_eq]
    rfl
  · simp only [acceptQueued, evictOverflow_eq, maybeEmitHighWatermark_eq]
    rfl

/-- A publish does not look at the cursors. -/
theorem publishToState_ignores (now : Int) (prepared : Prepared) :
    IgnoresCursors fun s => publishToState config now s prepared := by
  intro s latest queue
  have haccept := acceptMessage_withCursors config latest queue
    (s.numbered prepared.payloadWasCopied) (messageOf config s now prepared)
  have hqueue : ((s.withCursors latest queue).numbered prepared.payloadWasCopied).queue =
      (s.numbered prepared.payloadWasCopied).queue := rfl
  unfold publishToState
  dsimp only
  rw [hqueue]
  by_cases hfull : (!config.type.isLatestStyle &&
      decide (config.capacity ≤ (s.numbered prepared.payloadWasCopied).queue.length)) = true
  · rw [if_pos hfull, if_pos hfull]
    cases config.dropPolicy.refusal with
    | none => exact Prod.ext rfl haccept
    | some refusal => rfl
  · rw [if_neg hfull, if_neg hfull]
    exact Prod.ext rfl haccept

/-- The end of an epoch does not look at the cursors. -/
theorem advanceState_ignores : IgnoresCursors fun s => advanceState config s := by
  intro s latest queue
  have hpending : (s.withCursors latest queue).pendingPreviousTick = s.pendingPreviousTick := rfl
  unfold advanceState
  dsimp only
  rw [hpending]
  split <;> rfl

/-- The snapshot loop, on a state with other cursors. -/
theorem snapshotStep_foldl_withCursors (config : ChannelConfig) (now : Int) (maxBatch : Nat)
    (latest queue : Std.TreeMap String Nat) (messages : List RuntimeChannelMessage)
    (d : DrainState) :
    messages.foldl (snapshotStep config now maxBatch)
        { d with state := d.state.withCursors latest queue } =
      { messages.foldl (snapshotStep config now maxBatch) d with
        state := (messages.foldl (snapshotStep config now maxBatch) d).state.withCursors
          latest queue } := by
  induction messages generalizing d with
  | nil => rfl
  | cons message messages ih =>
      rw [List.foldl_cons, List.foldl_cons, ← ih]
      congr 1
      unfold snapshotStep
      split_ifs <;> rfl

/-- A snapshot does not look at the cursors. -/
theorem snapshotFromState_ignores (now : Int) (maxBatch : Nat) :
    IgnoresCursors fun s => snapshotFromState config now maxBatch s := by
  intro s latest queue
  have hlatest : (s.withCursors latest queue).latest = s.latest := rfl
  unfold snapshotFromState
  dsimp only
  by_cases htype : config.type.isLatestStyle = true
  · rw [if_pos htype, if_pos htype, hlatest]
    cases s.latest with
    | none => rfl
    | some message =>
        dsimp only
        split_ifs <;> rfl
  · rw [if_neg htype, if_neg htype, ← maybeRearmHighWatermark_withCursors]
    have hwalk := snapshotStep_foldl_withCursors config now maxBatch latest queue s.queue
      { state := s }
    have hmessages := congrArg DrainState.messages hwalk
    have hstate := congrArg (fun d : DrainState => maybeRearmHighWatermark config
      { d.state with queue := d.retained, metrics.depth := d.retained.length }) hwalk
    exact Prod.ext hmessages hstate

/-! ## Draining with other cursors -/

/-- The drain loop only asks which messages of the queue a reader has had. -/
theorem drainStep_foldl_withCursors (config : ChannelConfig) (now : Int) (readerId : String)
    (maxBatch : Nat) {last last' : Nat} (latest : Std.TreeMap String Nat)
    {messages : List RuntimeChannelMessage}
    (hsame : isMultiReader config.readers = true →
      ∀ message ∈ messages, (message.sequence ≤ last ↔ message.sequence ≤ last'))
    (d : DrainState) (queue : Std.TreeMap String Nat) :
    ∃ queue', messages.foldl (drainStep config now readerId last' maxBatch)
        { d with state := d.state.withCursors latest queue } =
      { messages.foldl (drainStep config now readerId last maxBatch) d with
        state := (messages.foldl (drainStep config now readerId last maxBatch) d).state.withCursors
          latest queue' } := by
  induction messages generalizing d queue with
  | nil => exact ⟨queue, rfl⟩
  | cons message messages ih =>
      have hmessage : (isMultiReader config.readers && decide (message.sequence ≤ last')) =
          (isMultiReader config.readers && decide (message.sequence ≤ last)) := by
        cases hmulti : isMultiReader config.readers with
        | false => rfl
        | true => simp [hsame hmulti message List.mem_cons_self]
      -- one message, on the state with other cursors
      obtain ⟨queue₁, hstep⟩ : ∃ queue₁, drainStep config now readerId last' maxBatch
          { d with state := d.state.withCursors latest queue } message =
            { drainStep config now readerId last maxBatch d message with
              state := (drainStep config now readerId last maxBatch d message).state.withCursors
                latest queue₁ } := by
        unfold drainStep
        dsimp only
        rw [hmessage]
        by_cases hexpired : messageExpired config message now = true
        · rw [if_pos hexpired, if_pos hexpired]
          exact ⟨queue, rfl⟩
        · rw [if_neg hexpired, if_neg hexpired]
          split_ifs with hkept
          · exact ⟨queue, rfl⟩
          · unfold deliverStep
            split_ifs with hmulti
            · exact ⟨queue.insert readerId message.sequence, rfl⟩
            · exact ⟨queue, rfl⟩
      rw [List.foldl_cons, List.foldl_cons, hstep]
      exact ih (fun hmulti m hm => hsame hmulti m (List.mem_cons_of_mem _ hm)) _ _

/-- The cursors after a drain that left `queue` behind. -/
def capQueueCursors (cursors : Std.TreeMap String Nat) (queue : List RuntimeChannelMessage) :
    Std.TreeMap String Nat :=
  if kMaxTrackedReaders < cursors.size then
    enforceReaderCap (pruneQueueDedup cursors
      ((queue.head?.map RuntimeChannelMessage.sequence).getD 0))
  else cursors

/-- The end of a drain caps the cursors of the queue. -/
theorem finishDrain_cursors (config : ChannelConfig) (maxBatch : Nat) (d : DrainState) :
    (finishDrain config maxBatch d).2.deliveredQueueSequences =
      capQueueCursors d.state.deliveredQueueSequences (finishDrain config maxBatch d).2.queue := by
  unfold finishDrain
  simp only [maybeRearmHighWatermark_eq]
  rfl

theorem finishDrain_withCursors (config : ChannelConfig) (maxBatch : Nat) (d : DrainState)
    (latest queue : Std.TreeMap String Nat) :
    ∃ queue', finishDrain config maxBatch { d with state := d.state.withCursors latest queue } =
      ((finishDrain config maxBatch d).1,
        (finishDrain config maxBatch d).2.withCursors latest queue') := by
  unfold finishDrain
  simp only [maybeRearmHighWatermark_eq]
  exact ⟨_, rfl⟩

/-- A drain of a channel with other cursors that tell the same about the queue. -/
theorem consumeFromState_withCursors (config : ChannelConfig) (now : Int) (readerId : String)
    (maxBatch : Nat) (s : ChannelState) (latest queue : Std.TreeMap String Nat)
    (hsame : isMultiReader config.readers = true → ∀ message ∈ s.queue,
      (message.sequence ≤ lastDelivered config s readerId ↔
        message.sequence ≤ lastDelivered config (s.withCursors latest queue) readerId)) :
    ∃ queue', consumeFromState config now readerId maxBatch (s.withCursors latest queue) =
      ((consumeFromState config now readerId maxBatch s).1,
        (consumeFromState config now readerId maxBatch s).2.withCursors latest queue') := by
  have hqueue : (s.withCursors latest queue).queue = s.queue := rfl
  unfold consumeFromState
  rw [hqueue]
  split_ifs with hbarrier
  · exact ⟨queue, rfl⟩
  · -- first the loop over the queue, then what follows it
    obtain ⟨queue₁, hfold⟩ := drainStep_foldl_withCursors config now readerId maxBatch latest hsame
      { state := s } queue
    obtain ⟨queue₂, hfinish⟩ := finishDrain_withCursors config maxBatch
      (s.queue.foldl (drainStep config now readerId (lastDelivered config s readerId) maxBatch)
        { state := s }) latest queue₁
    rw [← hfold] at hfinish
    exact ⟨queue₂, hfinish⟩

/-- Where a drain that a barrier does not stop puts the cursors. -/
theorem consumeFromState_cursors (now : Int) (readerId : String) (maxBatch : Nat)
    (hopen : ¬ (config.type = .barrier ∧ s.queue.length < config.capacity)) :
    ∃ moved, (∀ reader : String, moved[reader]? =
        if isMultiReader config.readers ∧ reader = readerId then
          ((takeBatch maxBatch 0 (freshFor config now (lastDelivered config s readerId)
            s.queue)).getLast?.map RuntimeChannelMessage.sequence).or
              s.deliveredQueueSequences[reader]?
        else s.deliveredQueueSequences[reader]?) ∧
      (consumeFromState config now readerId maxBatch s).2.deliveredQueueSequences =
        capQueueCursors moved (consumeFromState config now readerId maxBatch s).2.queue := by
  unfold consumeFromState
  rw [if_neg hopen]
  have hdrained := drained_foldl config now readerId (lastDelivered config s readerId) maxBatch
    s.queue { state := s }
  exact ⟨_, hdrained.cursors, finishDrain_cursors config maxBatch _⟩

/-! ## The cap -/

/-- The readers that have a cursor. -/
def trackedReaders (cursors : Std.TreeMap String Nat) : Finset String := cursors.keys.toFinset

/-- A reader is tracked if it has a cursor. -/
theorem mem_trackedReaders {cursors : Std.TreeMap String Nat} {reader : String} :
    reader ∈ trackedReaders cursors ↔ ∃ n, cursors[reader]? = some n := by
  rw [trackedReaders, List.mem_toFinset, Std.TreeMap.mem_keys,
    Std.TreeMap.mem_iff_isSome_getElem?, Option.isSome_iff_exists]

/-- The bound of 4096 is on the number of tracked readers. -/
theorem card_trackedReaders (cursors : Std.TreeMap String Nat) :
    (trackedReaders cursors).card = cursors.size := by
  rw [trackedReaders, List.toFinset_card_of_nodup Std.TreeMap.nodup_keys, Std.TreeMap.length_keys]

theorem getElem?_of_not_mem {cursors : Std.TreeMap String Nat} {reader : String}
    (h : reader ∉ trackedReaders cursors) : cursors[reader]? = none := by
  rw [Option.eq_none_iff_forall_ne_some]
  intro n hn
  exact h (mem_trackedReaders.mpr ⟨n, hn⟩)

/-- Erasing a cursor untracks its reader. -/
theorem trackedReaders_erase (cursors : Std.TreeMap String Nat) (reader : String) :
    trackedReaders (cursors.erase reader) = (trackedReaders cursors).erase reader := by
  ext r
  rw [Finset.mem_erase, mem_trackedReaders, mem_trackedReaders]
  by_cases hr : reader = r
  · simp [hr]
  · simp [Std.TreeMap.getElem?_erase, hr, Ne.symm hr]

/-- Erasing from the front leaves the readers with the greatest ids. -/
theorem eraseBegin_getElem? (n : Nat) (cursors : Std.TreeMap String Nat) (reader : String) :
    (eraseBegin n cursors)[reader]? =
      if reader ∈ topK (cursors.size - n) (trackedReaders cursors) then cursors[reader]?
      else none := by
  induction n generalizing cursors with
  | zero =>
      rw [eraseBegin, Nat.sub_zero, TopK.of_card_le (card_trackedReaders cursors).le]
      split_ifs with hin
      · rfl
      · exact getElem?_of_not_mem hin
  | succ n ih =>
      rw [eraseBegin]
      cases hmin : cursors.minKey? with
      | none =>
          -- there is nothing left to erase
          have hempty : trackedReaders cursors = ∅ := by
            have hnone := Std.TreeMap.minKey?_eq_none_iff.mp hmin
            rw [Std.TreeMap.isEmpty_eq_size_eq_zero, beq_iff_eq] at hnone
            rw [← Finset.card_eq_zero, card_trackedReaders, hnone]
          have hnone : cursors[reader]? = none := getElem?_of_not_mem (by simp [hempty])
          simp [hnone]
      | some first =>
          obtain ⟨hmem, hleast⟩ := Std.TreeMap.minKey?_eq_some_iff_mem_and_forall.mp hmin
          have hfirst : first ∈ trackedReaders cursors := by
            rwa [trackedReaders, List.mem_toFinset, Std.TreeMap.mem_keys]
          -- the first reader of the map is the least one
          have hall : ∀ r ∈ trackedReaders cursors, first ≤ r := by
            intro r hr
            rw [trackedReaders, List.mem_toFinset, Std.TreeMap.mem_keys] at hr
            exact Std.LawfulBCmp.isLE_iff_le.mp (hleast r hr)
          have hcard := card_trackedReaders cursors
          have hpos : 0 < (trackedReaders cursors).card := Finset.card_pos.mpr ⟨first, hfirst⟩
          have hsize : (cursors.erase first).size = cursors.size - 1 := by
            rw [← card_trackedReaders, trackedReaders_erase, Finset.card_erase_of_mem hfirst, hcard]
          dsimp only
          rw [ih, hsize, trackedReaders_erase,
            show cursors.size - 1 - n = cursors.size - (n + 1) by omega,
            TopK.erase_least hfirst hall (by omega)]
          by_cases hin : reader ∈ topK (cursors.size - (n + 1)) (trackedReaders cursors)
          · -- the first reader is not among those that stay
            have hne : first ≠ reader := by
              rintro rfl
              rw [← TopK.erase_least hfirst hall (by omega)] at hin
              exact Finset.notMem_erase _ _ (TopK.subset hin)
            rw [if_pos hin, if_pos hin, Std.TreeMap.getElem?_erase]
            simp [hne]
          · rw [if_neg hin, if_neg hin]

/-- The cap keeps the cursors of the readers with the greatest ids. -/
theorem enforceReaderCap_getElem? (cursors : Std.TreeMap String Nat) (reader : String) :
    (enforceReaderCap cursors)[reader]? =
      if reader ∈ topK kMaxTrackedReaders (trackedReaders cursors) then cursors[reader]?
      else none := by
  rw [enforceReaderCap, eraseBegin_getElem?]
  rcases Nat.le_total cursors.size kMaxTrackedReaders with hle | hle
  · have hcard := card_trackedReaders cursors
    rw [TopK.of_card_le (show (trackedReaders cursors).card ≤ kMaxTrackedReaders by omega),
      TopK.of_card_le (by omega)]
  · rw [Nat.sub_sub_self hle]

/-! ## The readers of the current value -/

/-- The readers whose cursor stands at a sequence number. -/
def readersAt (cursors : Std.TreeMap String Nat) (sequence : Nat) : Finset String :=
  (trackedReaders cursors).filter fun reader => cursors[reader]? = some sequence

/-- The readers whose cursor is at a number. -/
theorem mem_readersAt {cursors : Std.TreeMap String Nat} {sequence : Nat} {reader : String} :
    reader ∈ readersAt cursors sequence ↔ cursors[reader]? = some sequence := by
  rw [readersAt, Finset.mem_filter, mem_trackedReaders]
  constructor
  · exact And.right
  · exact fun h => ⟨⟨sequence, h⟩, h⟩

theorem readersAt_insert (cursors : Std.TreeMap String Nat) (reader : String) (sequence : Nat) :
    readersAt (cursors.insert reader sequence) sequence =
      insert reader (readersAt cursors sequence) := by
  ext r
  rw [mem_readersAt, Finset.mem_insert, mem_readersAt, Std.TreeMap.getElem?_insert]
  by_cases hr : reader = r
  · simp [hr]
  · simp [hr, Ne.symm hr]

/-- Pruning keeps the cursors at the number of the value. -/
theorem pruneLatestDedup_getElem? (cursors : Std.TreeMap String Nat) (sequence : Nat)
    (reader : String) :
    (pruneLatestDedup cursors sequence)[reader]? =
      if cursors[reader]? = some sequence then some sequence else none := by
  rw [pruneLatestDedup, Std.TreeMap.getElem?_filter']
  cases hcursor : cursors[reader]? with
  | none => simp
  | some n =>
      by_cases hn : n = sequence
      · simp [hn]
      · simp [hn]

/-- After a delivery the readers at the value are the greatest ones of those that
were there and the new one. -/
theorem readersAt_moveCursor (cursors : Std.TreeMap String Nat) (reader : String)
    (sequence : Nat) :
    readersAt (moveCursor cursors reader sequence) sequence =
      topK kMaxTrackedReaders (insert reader (readersAt cursors sequence)) := by
  rw [← readersAt_insert]
  set moved := cursors.insert reader sequence with hmoved
  unfold moveCursor
  rw [← hmoved]
  split_ifs with hover
  · -- the pruned map has exactly the readers at the value
    have htracked : trackedReaders (pruneLatestDedup moved sequence) =
        readersAt moved sequence := by
      ext r
      rw [mem_trackedReaders, mem_readersAt, pruneLatestDedup_getElem?]
      by_cases hr : moved[r]? = some sequence <;> simp [hr]
    ext r
    rw [mem_readersAt, enforceReaderCap_getElem?, htracked, pruneLatestDedup_getElem?]
    constructor
    · intro h
      by_contra hnot
      rw [if_neg hnot] at h
      exact absurd h (by simp)
    · intro hin
      have hr := mem_readersAt.mp (TopK.subset hin)
      rw [if_pos hin, if_pos hr]
  · -- below the cap nothing is pruned
    have hsub : readersAt moved sequence ⊆ trackedReaders moved := Finset.filter_subset _ _
    have hle := Finset.card_le_card hsub
    have hcard := card_trackedReaders moved
    rw [TopK.of_card_le (by omega)]

/-- A delivery leaves no cursor behind that was not there or is the new one. -/
theorem moveCursor_getElem? {cursors : Std.TreeMap String Nat} {reader r : String}
    {sequence n : Nat} (h : (moveCursor cursors reader sequence)[r]? = some n) :
    n = sequence ∨ cursors[r]? = some n := by
  have hinsert : ∀ {n}, (cursors.insert reader sequence)[r]? = some n →
      n = sequence ∨ cursors[r]? = some n := by
    intro n hn
    rw [Std.TreeMap.getElem?_insert] at hn
    split_ifs at hn with hr
    · exact Or.inl (Option.some.inj hn).symm
    · exact Or.inr hn
  unfold moveCursor at h
  split_ifs at h with hover
  · rw [enforceReaderCap_getElem?, pruneLatestDedup_getElem?] at h
    split_ifs at h with hin hat
    exact Or.inl (Option.some.inj h).symm
  · exact hinsert h

/-! ## Cursors of a queue -/

/-- Pruning keeps the cursors that are not behind the queue. -/
theorem pruneQueueDedup_getElem? (cursors : Std.TreeMap String Nat) {first : Nat}
    (hfirst : first ≠ 0) (reader : String) :
    (pruneQueueDedup cursors first)[reader]? = cursors[reader]?.filter (first ≤ ·) := by
  rw [pruneQueueDedup, Std.TreeMap.getElem?_filter']
  congr 1
  funext n
  rw [Bool.eq_iff_iff]
  simp [hfirst]

/-- The readers with a cursor at one of the messages from `first` on. -/
def readersFrom (cursors : Std.TreeMap String Nat) (first : Nat) : Finset String :=
  (trackedReaders cursors).filter fun reader => ∃ n ∈ cursors[reader]?, first ≤ n

theorem mem_readersFrom {cursors : Std.TreeMap String Nat} {first : Nat} {reader : String} :
    reader ∈ readersFrom cursors first ↔ ∃ n, cursors[reader]? = some n ∧ first ≤ n := by
  rw [readersFrom, Finset.mem_filter, mem_trackedReaders]
  constructor
  · rintro ⟨-, n, hn, hle⟩
    exact ⟨n, hn, hle⟩
  · rintro ⟨n, hn, hle⟩
    exact ⟨⟨n, hn⟩, n, hn, hle⟩

/-- What is left of a cursor that still tells something about the queue. -/
theorem capQueueCursors_getElem? (cursors : Std.TreeMap String Nat)
    {queue : List RuntimeChannelMessage} {message : RuntimeChannelMessage}
    (hhead : queue.head? = some message) (hpos : message.sequence ≠ 0) {n : Nat}
    (hn : message.sequence ≤ n) (reader : String) :
    (capQueueCursors cursors queue)[reader]? = some n ↔
      cursors[reader]? = some n ∧
        reader ∈ topK kMaxTrackedReaders (readersFrom cursors message.sequence) := by
  unfold capQueueCursors
  rw [hhead, Option.map_some, Option.getD_some]
  split_ifs with hover
  · have htracked : trackedReaders (pruneQueueDedup cursors message.sequence) =
        readersFrom cursors message.sequence := by
      ext r
      rw [mem_trackedReaders, mem_readersFrom]
      simp only [pruneQueueDedup_getElem? cursors hpos, Option.filter_eq_some_iff,
        decide_eq_true_eq]
    rw [enforceReaderCap_getElem?, htracked, pruneQueueDedup_getElem? cursors hpos]
    split_ifs with hin
    · simp [Option.filter_eq_some_iff, hin, hn]
    · simp [hin]
  · -- without a cap all of them stay
    have hsub : readersFrom cursors message.sequence ⊆ trackedReaders cursors :=
      Finset.filter_subset _ _
    have hle := Finset.card_le_card hsub
    have hcard := card_trackedReaders cursors
    rw [TopK.of_card_le (by omega)]
    constructor
    · intro h
      exact ⟨h, mem_readersFrom.mpr ⟨n, h, hn⟩⟩
    · exact And.left

/-- The cap only takes cursors away. -/
theorem capQueueCursors_sub {cursors : Std.TreeMap String Nat}
    {queue : List RuntimeChannelMessage} {reader : String} {n : Nat}
    (h : (capQueueCursors cursors queue)[reader]? = some n) : cursors[reader]? = some n := by
  unfold capQueueCursors at h
  split_ifs at h with hover
  · rw [enforceReaderCap_getElem?] at h
    split_ifs at h with hin
    rw [pruneQueueDedup, Std.TreeMap.getElem?_filter', Option.filter_eq_some_iff] at h
    exact h.1
  · exact h

/-! ## No cursor is ahead -/

/-- Every cursor stands at a message that was numbered before, and a cursor of the
latest value before the one that waits for the next epoch. -/
structure CursorsBelow (s : ChannelState) : Prop where
  next : ∀ (reader : String) (n : Nat),
    s.deliveredLatestSequences[reader]? = some n → n < s.nextSequence
  pending : ∀ (reader : String) (n : Nat), s.deliveredLatestSequences[reader]? = some n →
    ∀ waiting ∈ s.pendingPreviousTick, n < waiting.sequence
  queue : ∀ (reader : String) (n : Nat),
    s.deliveredQueueSequences[reader]? = some n → n < s.nextSequence

theorem cursorsBelow_init : CursorsBelow {} := ⟨by simp, by simp, by simp⟩

/-- The cursors are as they were, and no number was taken back. -/
theorem CursorsBelow.kept (h : CursorsBelow s)
    (hlatest : s'.deliveredLatestSequences = s.deliveredLatestSequences)
    (hqueue : s'.deliveredQueueSequences = s.deliveredQueueSequences)
    (hnext : s.nextSequence ≤ s'.nextSequence)
    (hpending : ∀ waiting ∈ s'.pendingPreviousTick,
      waiting ∈ s.pendingPreviousTick ∨ s.nextSequence ≤ waiting.sequence) : CursorsBelow s' where
  next := by
    intro reader n hn
    exact (h.next reader n (hlatest ▸ hn)).trans_le hnext
  pending := by
    intro reader n hn waiting hw
    rw [hlatest] at hn
    rcases hpending waiting hw with hold | hnew
    · exact h.pending reader n hn waiting hold
    · exact (h.next reader n hn).trans_le hnew
  queue := by
    intro reader n hn
    exact (h.queue reader n (hqueue ▸ hn)).trans_le hnext

/-- A value that comes to wait is a new one. -/
theorem SlotStep.pending_new {allowed : StepKind → Prop} (h : SlotStep allowed config s s') :
    s.nextSequence ≤ s'.nextSequence ∧ ∀ waiting ∈ s'.pendingPreviousTick,
      waiting ∈ s.pendingPreviousTick ∨ s.nextSequence ≤ waiting.sequence := by
  cases h with
  | quiet latest pending next => exact ⟨next, fun w hw => .inl (pending ▸ hw)⟩
  | exposed _ _ _ _ pending _ next => exact ⟨by omega, fun w hw => .inl (pending ▸ hw)⟩
  | staged _ _ message _ pending sequence next =>
      refine ⟨by omega, fun w hw => .inr ?_⟩
      rw [pending] at hw
      cases hw
      omega
  | advanced _ _ _ _ _ pending next => exact ⟨by omega, fun w hw => by simp [pending] at hw⟩
  | expired _ _ _ _ _ _ pending next => exact ⟨by omega, fun w hw => .inl (pending ▸ hw)⟩
  | delivered _ _ _ _ _ _ _ pending next => exact ⟨by omega, fun w hw => .inl (pending ▸ hw)⟩

/-- A value that comes to be visible is a new one or has waited. -/
theorem SlotStep.latest_new {allowed : StepKind → Prop} (h : SlotStep allowed config s s') :
    ∀ message ∈ s'.latest, message ∈ s.latest ∨ s.nextSequence ≤ message.sequence ∨
      message ∈ s.pendingPreviousTick := by
  intro message hm
  cases h with
  | quiet latest => exact .inl (latest ▸ hm)
  | exposed _ _ value latest _ sequence =>
      rw [latest] at hm
      cases hm
      exact .inr (.inl sequence.ge)
  | staged _ _ _ latest => exact .inl (latest ▸ hm)
  | advanced _ _ value waiting latest =>
      rw [latest] at hm
      cases hm
      exact .inr (.inr waiting)
  | expired _ _ _ _ _ latest => simp [latest] at hm
  | delivered _ _ _ _ _ _ latest => exact .inl (latest ▸ hm)

/-- Such a value is ahead of all cursors. -/
theorem CursorsBelow.ahead (h : CursorsBelow s) {message : RuntimeChannelMessage}
    (hnew : s.nextSequence ≤ message.sequence ∨ message ∈ s.pendingPreviousTick) (reader : String)
    (n : Nat) (hn : s.deliveredLatestSequences[reader]? = some n) : n < message.sequence := by
  rcases hnew with hnext | hwaits
  · exact (h.next reader n hn).trans_le hnext
  · exact h.pending reader n hn message hwaits

/-- Steps that do not look at the cursors leave them. -/
theorem CursorsBelow.ignored {α : Type} {allowed : StepKind → Prop}
    {f : ChannelState → α × ChannelState} (hf : IgnoresCursors f) (h : CursorsBelow s)
    (hslots : SlotStep allowed config s (f s).2) : CursorsBelow (f s).2 :=
  h.kept (hf.kept s).1 (hf.kept s).2 hslots.pending_new.1 hslots.pending_new.2

/-- A read of the latest value moves one cursor to it, or leaves them alone. -/
theorem consumeLatestFromState_cursors (config : ChannelConfig) (now : Int) (readerId : String)
    (s : ChannelState) :
    (consumeLatestFromState config now readerId s).2.deliveredQueueSequences =
        s.deliveredQueueSequences ∧
      ((consumeLatestFromState config now readerId s).2.deliveredLatestSequences =
          s.deliveredLatestSequences ∨
        ∃ message ∈ s.latest,
          (consumeLatestFromState config now readerId s).2.deliveredLatestSequences =
            moveCursor s.deliveredLatestSequences readerId message.sequence) := by
  unfold consumeLatestFromState
  cases hlatest : s.latest with
  | none => exact ⟨rfl, .inl rfl⟩
  | some latest =>
      dsimp only
      by_cases hexpired : messageExpired config latest now = true
      · rw [if_pos hexpired]
        exact ⟨rfl, .inl rfl⟩
      · rw [if_neg hexpired]
        by_cases hseen : s.deliveredLatestSequences[readerId]? = some latest.sequence
        · rw [if_pos hseen]
          exact ⟨rfl, .inl rfl⟩
        · rw [if_neg hseen]
          exact ⟨rfl, .inr ⟨latest, rfl, rfl⟩⟩

/-- A read sets one cursor, to the number of the value that it hands out. -/
theorem CursorsBelow.consumeLatest {allowed : StepKind → Prop} (h : CursorsBelow s)
    (hslots : Slots config s) {now : Int} {readerId : String}
    (hstep : SlotStep allowed config s (consumeLatestFromState config now readerId s).2) :
    CursorsBelow (consumeLatestFromState config now readerId s).2 := by
  obtain ⟨hqueue, hlatest⟩ := consumeLatestFromState_cursors config now readerId s
  obtain ⟨hnext, hpending⟩ := hstep.pending_new
  rcases hlatest with hsame | ⟨message, hmessage, hmoved⟩
  · exact h.kept hsame hqueue hnext hpending
  · -- the new cursor stands at the visible value
    have hvisible := hslots.latest message hmessage
    refine ⟨?_, ?_, fun r n hn => (h.queue r n (hqueue ▸ hn)).trans_le hnext⟩
    · intro r n hn
      rw [hmoved] at hn
      rcases moveCursor_getElem? hn with rfl | hold
      · exact hvisible.trans_le hnext
      · exact (h.next r n hold).trans_le hnext
    · intro r n hn waiting hw
      rw [hmoved] at hn
      rcases hpending waiting hw with hwaits | hnew
      · rcases moveCursor_getElem? hn with rfl | hold
        · exact (hslots.pending waiting hwaits).2 message hmessage
        · exact h.pending r n hold waiting hwaits
      · rcases moveCursor_getElem? hn with rfl | hold
        · exact hvisible.trans_le hnew
        · exact (h.next r n hold).trans_le hnew

/-- A drain of a queue does not touch the cursors of the latest value. -/
theorem consumeFromState_latestCursors (config : ChannelConfig) (now : Int) (readerId : String)
    (maxBatch : Nat) (s : ChannelState) :
    (consumeFromState config now readerId maxBatch s).2.deliveredLatestSequences =
      s.deliveredLatestSequences := by
  obtain ⟨queue', hkept⟩ := consumeFromState_withCursors config now readerId maxBatch s
    s.deliveredLatestSequences s.deliveredQueueSequences (fun _ _ _ => Iff.rfl)
  have hsame : s.withCursors s.deliveredLatestSequences s.deliveredQueueSequences = s := rfl
  rw [hsame] at hkept
  rw [hkept]
  rfl

/-- A drain sets one cursor, to the last number that it delivers. -/
theorem CursorsBelow.consume (h : CursorsBelow s) (haccounts : QueueAccounts config s) (now : Int)
    (readerId : String) (maxBatch : Nat) :
    CursorsBelow (consumeFromState config now readerId maxBatch s).2 := by
  have hlatest := consumeFromState_latestCursors config now readerId maxBatch s
  obtain ⟨hnext, hpending⟩ : (consumeFromState config now readerId maxBatch s).2.nextSequence =
      s.nextSequence ∧ (consumeFromState config now readerId maxBatch s).2.pendingPreviousTick =
        s.pendingPreviousTick := by
    rcases consumeFromState_spec config now readerId maxBatch s with ⟨_, heq⟩ | ⟨_, hc⟩
    · rw [heq]
      exact ⟨rfl, rfl⟩
    · exact ⟨hc.frame.nextSequence, hc.frame.pending⟩
  refine ⟨?_, ?_, ?_⟩
  · intro r n hn
    rw [hnext]
    exact h.next r n (hlatest ▸ hn)
  · intro r n hn waiting hw
    exact h.pending r n (hlatest ▸ hn) waiting (hpending ▸ hw)
  · intro r n hn
    rw [hnext]
    -- a barrier that is not full hands nothing out and moves no cursor
    by_cases hclosed : config.type = .barrier ∧ s.queue.length < config.capacity
    · rw [consumeFromState, if_pos hclosed] at hn
      exact h.queue r n hn
    · obtain ⟨moved, hmoved, hcap⟩ := consumeFromState_cursors now readerId maxBatch hclosed
      rw [hcap] at hn
      have hn' := capQueueCursors_sub hn
      rw [hmoved] at hn'
      split_ifs at hn' with hreader
      · rcases Option.or_eq_some_iff.mp hn' with hlast | ⟨-, hold⟩
        · -- the last message handed out was in the queue
          obtain ⟨message, hmessage, rfl⟩ := Option.map_eq_some_iff.mp hlast
          have hin := (takeBatch_sublist maxBatch 0 _).subset (List.mem_of_getLast? hmessage)
          have hqueue : message ∈ s.queue :=
            List.mem_of_mem_filter (List.mem_of_mem_filter hin)
          exact haccounts.below message hqueue
        · exact h.queue r n hold
      · exact h.queue r n hn'

/-- Every step of a channel keeps the cursors below the messages to come. -/
theorem cursorsBelow_step {allowed : StepKind → Prop} (hstep : ChannelStep allowed config s s')
    (hslots : Slots config s)
    (haccounts : config.type.isLatestStyle = false → QueueAccounts config s)
    (h : CursorsBelow s) : CursorsBelow s' := by
  have hslot := hstep.slots
  cases hstep with
  | preflightPayload _ _ payload => exact h.ignored (preflightPayload_ignores payload) hslot
  | preflightPublish _ _ planned => exact h.ignored (preflightPublish_ignores planned) hslot
  | preparePayload _ _ source => exact h.ignored (preparePayload_ignores source) hslot
  | publish _ now _ prepared => exact h.ignored (publishToState_ignores now prepared) hslot
  | advance _ _ => exact h.ignored advanceState_ignores hslot
  | consumeLatest now _ readerId _ htype => exact h.consumeLatest hslots hslot
  | snapshot now _ maxBatch _ => exact h.ignored (snapshotFromState_ignores now maxBatch) hslot
  | consume now _ readerId maxBatch _ htype =>
    exact h.consume (haccounts htype) now readerId maxBatch

/-- What reading a channel rests on: slots, queue and cursors in order. -/
structure ReadInv (config : ChannelConfig) (s : ChannelState) : Prop where
  slots : Slots config s
  history : config.type.isLatestStyle = false → QueueHistory config s
  cursors : CursorsBelow s

theorem readInv_init (config : ChannelConfig) : ReadInv config {} where
  slots := slots_init config
  history := fun _ => queueHistory_init config
  cursors := cursorsBelow_init

/-- Every step of a channel keeps what is known of its cursors. -/
theorem readInv_step {allowed : StepKind → Prop} (hstep : ChannelStep allowed config s s')
    (h : ReadInv config s) : ReadInv config s' where
  slots := slots_step hstep.slots h.slots
  history := fun htype => queueHistory_step htype hstep (h.history htype)
  cursors := cursorsBelow_step hstep h.slots (fun htype => (h.history htype).accounts) h.cursors

theorem readInv_run (clock : Nat → Int) (specs : List EdgeSpec) (ops : List BusOp) (id : String) :
    ReadInv ((runBus clock (.ofEdges specs) ops).config id)
      ((runBus clock (.ofEdges specs) ops).channels id) :=
  run_invariant readInv_init (fun _ _ _ => readInv_step) clock specs ops id

end TopoExec
