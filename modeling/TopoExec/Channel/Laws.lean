import Mathlib.Tactic
import TopoExec.Channel.State

/-! # Laws of the channel functions

Closed forms of the loops of `publish_to_state`, `consume_from_state` and
`snapshot_from_state`: which messages they evict, expire, hand out and keep.
-/

namespace TopoExec

variable {config : ChannelConfig}

/-! ## Eviction -/

/-- The loop drops the surplus at the front of the queue. -/
theorem evictOverflow_eq (state : ChannelState) (queue : List RuntimeChannelMessage) :
    evictOverflow config state queue =
      { state with
        queue := queue.drop (queue.length - config.capacity)
        metrics.overwriteCount :=
          state.metrics.overwriteCount + (queue.length - config.capacity)
        metrics.healthEventCount :=
          state.metrics.healthEventCount + (queue.length - config.capacity)
        ledger.evicted := state.ledger.evicted ++
          (queue.take (queue.length - config.capacity)).map RuntimeChannelMessage.sequence } := by
  induction queue generalizing state with
  | nil => simp [evictOverflow]
  | cons oldest rest ih =>
      rw [evictOverflow]
      split_ifs with hover
      · have hsurplus : (oldest :: rest).length - config.capacity =
            (rest.length - config.capacity) + 1 := by
          simp only [List.length_cons] at hover ⊢
          omega
        rw [ih, hsurplus]
        simp only [List.drop_succ_cons, List.take_succ_cons, List.map_cons, List.append_assoc,
          List.singleton_append]
        congr 2 <;> omega
      · have hsurplus : (oldest :: rest).length - config.capacity = 0 := by omega
        simp only [hsurplus, List.drop_zero, List.take_zero, List.map_nil, List.append_nil,
          Nat.add_zero]

/-! ## Batches -/

/-- What still fits into a batch that holds `size` messages. -/
def takeBatch {α : Type} (maxBatch size : Nat) (l : List α) : List α :=
  if maxBatch = 0 then l else l.take (maxBatch - size)

def dropBatch {α : Type} (maxBatch size : Nat) (l : List α) : List α :=
  if maxBatch = 0 then [] else l.drop (maxBatch - size)

section Batch

variable {α : Type} {maxBatch size : Nat} {a : α} {l : List α}

@[simp] theorem takeBatch_nil : takeBatch maxBatch size ([] : List α) = [] := by
  simp [takeBatch]

@[simp] theorem dropBatch_nil : dropBatch maxBatch size ([] : List α) = [] := by
  simp [dropBatch]

/-- What is taken and what is left make up the queue. -/
theorem takeBatch_append_dropBatch :
    takeBatch maxBatch size l ++ dropBatch maxBatch size l = l := by
  unfold takeBatch dropBatch
  split_ifs <;> simp

/-- A full batch takes nothing. -/
theorem takeBatch_of_full (h : batchFull maxBatch size = true) :
    takeBatch maxBatch size l = [] := by
  simp only [batchFull, Bool.and_eq_true, decide_eq_true_eq] at h
  simp [takeBatch, h.1, Nat.sub_eq_zero_of_le h.2]

theorem dropBatch_of_full (h : batchFull maxBatch size = true) : dropBatch maxBatch size l = l := by
  simp only [batchFull, Bool.and_eq_true, decide_eq_true_eq] at h
  simp [dropBatch, h.1, Nat.sub_eq_zero_of_le h.2]

theorem room_of_not_full (h : batchFull maxBatch size = false) (hne : maxBatch ≠ 0) :
    maxBatch - size = (maxBatch - (size + 1)) + 1 := by
  simp only [batchFull, Bool.and_eq_false_iff, decide_eq_false_iff_not] at h
  omega

theorem takeBatch_cons (h : batchFull maxBatch size = false) :
    takeBatch maxBatch size (a :: l) = a :: takeBatch maxBatch (size + 1) l := by
  unfold takeBatch
  split_ifs with h0
  · rfl
  · rw [room_of_not_full h h0, List.take_succ_cons]

theorem dropBatch_cons (h : batchFull maxBatch size = false) :
    dropBatch maxBatch size (a :: l) = dropBatch maxBatch (size + 1) l := by
  unfold dropBatch
  split_ifs with h0
  · rfl
  · rw [room_of_not_full h h0, List.drop_succ_cons]

/-- A bounded batch does not outgrow its bound. -/
theorem length_takeBatch_le (h : maxBatch ≠ 0) :
    (takeBatch maxBatch size l).length ≤ maxBatch - size := by
  simp [takeBatch, h]

end Batch

/-! ## The drain loop -/

/-- The messages of a queue that have not expired. -/
def unexpired (config : ChannelConfig) (now : Int) (queue : List RuntimeChannelMessage) :
    List RuntimeChannelMessage :=
  queue.filter fun message => !messageExpired config message now

/-- The expired ones. -/
def expiredIn (config : ChannelConfig) (now : Int) (queue : List RuntimeChannelMessage) :
    List RuntimeChannelMessage :=
  queue.filter fun message => messageExpired config message now

/-- The unexpired messages that a reader has not got yet. -/
def freshFor (config : ChannelConfig) (now : Int) (last : Nat)
    (queue : List RuntimeChannelMessage) : List RuntimeChannelMessage :=
  (unexpired config now queue).filter fun message =>
    !(isMultiReader config.readers && message.sequence ≤ last)

/-- A message is expired or not. -/
theorem length_expiredIn_add_unexpired (config : ChannelConfig) (now : Int)
    (queue : List RuntimeChannelMessage) :
    (expiredIn config now queue).length + (unexpired config now queue).length = queue.length :=
  (List.length_eq_length_filter_add fun message => messageExpired config message now).symm

/-- A single reader has no cursor, so all that is unexpired is fresh. -/
theorem freshFor_single {now : Int} {last : Nat} {queue : List RuntimeChannelMessage}
    (h : isMultiReader config.readers = false) :
    freshFor config now last queue = unexpired config now queue := by
  simp [freshFor, h]

/-- What the loops over a queue leave alone. -/
structure SameQueueSide (s s' : ChannelState) : Prop where
  nextSequence : s'.nextSequence = s.nextSequence
  latest : s'.latest = s.latest
  pending : s'.pendingPreviousTick = s.pendingPreviousTick
  published : s'.metrics.publishedCount = s.metrics.publishedCount
  overwrite : s'.metrics.overwriteCount = s.metrics.overwriteCount
  maxDepth : s'.metrics.maxDepth = s.metrics.maxDepth
  stored : s'.ledger.stored = s.ledger.stored
  evicted : s'.ledger.evicted = s.ledger.evicted
  refused : s'.ledger.refused = s.ledger.refused

theorem SameQueueSide.refl (s : ChannelState) : SameQueueSide s s :=
  ⟨rfl, rfl, rfl, rfl, rfl, rfl, rfl, rfl, rfl⟩

theorem SameQueueSide.trans {s₁ s₂ s₃ : ChannelState} (h : SameQueueSide s₁ s₂)
    (h' : SameQueueSide s₂ s₃) : SameQueueSide s₁ s₃ where
  nextSequence := h'.nextSequence.trans h.nextSequence
  latest := h'.latest.trans h.latest
  pending := h'.pending.trans h.pending
  published := h'.published.trans h.published
  overwrite := h'.overwrite.trans h.overwrite
  maxDepth := h'.maxDepth.trans h.maxDepth
  stored := h'.stored.trans h.stored
  evicted := h'.evicted.trans h.evicted
  refused := h'.refused.trans h.refused

/-- Counting a stale message leaves the queue alone. -/
theorem SameQueueSide.markStaleDrop (s : ChannelState) (message : RuntimeChannelMessage) :
    SameQueueSide s (s.markStaleDrop message) :=
  ⟨rfl, rfl, rfl, rfl, rfl, rfl, rfl, rfl, rfl⟩

/-- What the drain loop has done after the messages `l`. -/
structure Drained (config : ChannelConfig) (now : Int) (readerId : String) (last maxBatch : Nat)
    (l : List RuntimeChannelMessage) (s s' : DrainState) : Prop where
  frame : SameQueueSide s.state s'.state
  deliveredCount : s'.state.metrics.deliveredCount = s.state.metrics.deliveredCount
  watermark : s'.state.highWatermarkReported = s.state.highWatermarkReported
  messages : s'.messages = s.messages ++
    (takeBatch maxBatch s.messages.length (freshFor config now last l)).map
      (deliveredMessage config now)
  delivered : s'.state.ledger.delivered = s.state.ledger.delivered ++
    (takeBatch maxBatch s.messages.length (freshFor config now last l)).map
      fun message => (readerId, message.sequence)
  retained : s'.retained = s.retained ++
    if isMultiReader config.readers then unexpired config now l
    else dropBatch maxBatch s.messages.length (freshFor config now last l)
  expired : s'.state.ledger.expired = s.state.ledger.expired ++
    (expiredIn config now l).map RuntimeChannelMessage.sequence
  stale : s'.state.metrics.staleDropCount =
    s.state.metrics.staleDropCount + (expiredIn config now l).length
  drops : s'.state.metrics.dropCount =
    s.state.metrics.dropCount + (expiredIn config now l).length
  cursors : ∀ reader, s'.state.deliveredQueueSequences[reader]? =
    if isMultiReader config.readers ∧ reader = readerId then
      ((takeBatch maxBatch s.messages.length (freshFor config now last l)).getLast?.map
        RuntimeChannelMessage.sequence).or s.state.deliveredQueueSequences[reader]?
    else s.state.deliveredQueueSequences[reader]?

section Drain

variable {now : Int} {readerId : String} {last maxBatch : Nat}

theorem Drained.nil (s : DrainState) : Drained config now readerId last maxBatch [] s s where
  frame := .refl _
  deliveredCount := rfl
  watermark := rfl
  messages := by simp [freshFor, unexpired]
  delivered := by simp [freshFor, unexpired]
  retained := by simp [freshFor, unexpired]
  expired := by simp [expiredIn]
  stale := by simp [expiredIn]
  drops := by simp [expiredIn]
  cursors := by simp [freshFor, unexpired]

/-- An expired message is taken out. -/
theorem Drained.cons_expired {message : RuntimeChannelMessage} {l : List RuntimeChannelMessage}
    {s s' : DrainState} (hexp : messageExpired config message now = true)
    (h : Drained config now readerId last maxBatch l
      { s with state := s.state.markStaleDrop message } s') :
    Drained config now readerId last maxBatch (message :: l) s s' := by
  have hlive : unexpired config now (message :: l) = unexpired config now l := by
    simp [unexpired, hexp]
  have hfresh : freshFor config now last (message :: l) = freshFor config now last l := by
    simp [freshFor, hlive]
  have hstale : expiredIn config now (message :: l) = message :: expiredIn config now l := by
    simp [expiredIn, hexp]
  refine ⟨(SameQueueSide.markStaleDrop s.state message).trans h.frame, h.deliveredCount,
    h.watermark, ?_, ?_, ?_, ?_, ?_, ?_, ?_⟩
  · rw [hfresh, h.messages]
  · rw [hfresh, h.delivered]
    rfl
  · rw [hfresh, hlive, h.retained]
  · rw [hstale, h.expired]
    simp [ChannelState.markStaleDrop]
  · rw [hstale, h.stale]
    simp only [ChannelState.markStaleDrop, List.length_cons]
    omega
  · rw [hstale, h.drops]
    simp only [ChannelState.markStaleDrop, List.length_cons]
    omega
  · intro reader
    rw [hfresh, h.cursors]
    rfl

/-- A message that the reader has, or that does not fit, is kept. -/
theorem Drained.cons_kept {message : RuntimeChannelMessage} {l : List RuntimeChannelMessage}
    {s s' : DrainState} (hexp : messageExpired config message now = false)
    (hkeep : ((isMultiReader config.readers && message.sequence ≤ last) ||
      batchFull maxBatch s.messages.length) = true)
    (h : Drained config now readerId last maxBatch l
      { s with retained := s.retained ++ [message] } s') :
    Drained config now readerId last maxBatch (message :: l) s s' := by
  have hlive : unexpired config now (message :: l) = message :: unexpired config now l := by
    simp [unexpired, hexp]
  have hstale : expiredIn config now (message :: l) = expiredIn config now l := by
    simp [expiredIn, hexp]
  -- the message is kept because the reader has it already or the batch is full
  have htake : takeBatch maxBatch s.messages.length (freshFor config now last (message :: l)) =
      takeBatch maxBatch s.messages.length (freshFor config now last l) := by
    rcases Bool.or_eq_true_iff.mp hkeep with hgot | hfull
    · simp only [freshFor, hlive, List.filter_cons, hgot, Bool.not_true, Bool.false_eq_true,
        if_false]
    · rw [takeBatch_of_full hfull, takeBatch_of_full hfull]
  have hretained : (if isMultiReader config.readers then unexpired config now (message :: l)
      else dropBatch maxBatch s.messages.length (freshFor config now last (message :: l))) =
      message :: (if isMultiReader config.readers then unexpired config now l
        else dropBatch maxBatch s.messages.length (freshFor config now last l)) := by
    split_ifs with hmulti
    · exact hlive
    · have hsingle : isMultiReader config.readers = false := by simpa using hmulti
      have hfull : batchFull maxBatch s.messages.length = true := by
        simpa [hsingle] using hkeep
      rw [dropBatch_of_full hfull, dropBatch_of_full hfull, freshFor_single hsingle,
        freshFor_single hsingle, hlive]
  refine ⟨h.frame, h.deliveredCount, h.watermark, ?_, ?_, ?_, ?_, ?_, ?_, ?_⟩
  · rw [htake, h.messages]
  · rw [htake, h.delivered]
  · rw [hretained, h.retained]
    simp
  · rw [hstale, h.expired]
  · rw [hstale, h.stale]
  · rw [hstale, h.drops]
  · intro reader
    rw [htake, h.cursors]

/-- Handing out a message leaves the rest of the state alone. -/
theorem SameQueueSide.deliverStep (s : DrainState) (message : RuntimeChannelMessage) :
    SameQueueSide s.state (deliverStep config now readerId s message).state := by
  unfold TopoExec.deliverStep
  dsimp only
  split_ifs <;> exact ⟨rfl, rfl, rfl, rfl, rfl, rfl, rfl, rfl, rfl⟩

theorem deliverStep_messages (s : DrainState) (message : RuntimeChannelMessage) :
    (deliverStep config now readerId s message).messages =
      s.messages ++ [deliveredMessage config now message] := by
  unfold deliverStep
  dsimp only
  split_ifs <;> rfl

/-- With several readers a delivered message stays for the others. -/
theorem deliverStep_retained (s : DrainState) (message : RuntimeChannelMessage) :
    (deliverStep config now readerId s message).retained =
      s.retained ++ if isMultiReader config.readers then [message] else [] := by
  unfold deliverStep
  dsimp only
  split_ifs <;> simp

/-- The counters and lists that a delivery leaves alone, and the delivery. -/
theorem deliverStep_ledger (config : ChannelConfig) (now : Int) (readerId : String)
    (s : DrainState) (message : RuntimeChannelMessage) :
    let s' := (deliverStep config now readerId s message).state
    s'.ledger.delivered = s.state.ledger.delivered ++ [(readerId, message.sequence)] ∧
      s'.ledger.expired = s.state.ledger.expired ∧
      s'.metrics.staleDropCount = s.state.metrics.staleDropCount ∧
      s'.metrics.dropCount = s.state.metrics.dropCount ∧
      s'.metrics.deliveredCount = s.state.metrics.deliveredCount ∧
      s'.highWatermarkReported = s.state.highWatermarkReported := by
  unfold deliverStep
  dsimp only
  split_ifs <;> exact ⟨rfl, rfl, rfl, rfl, rfl, rfl⟩

/-- Only the cursor of the reader moves, to the message. -/
theorem deliverStep_cursors (s : DrainState) (message : RuntimeChannelMessage) (reader : String) :
    (deliverStep config now readerId s message).state.deliveredQueueSequences[reader]? =
      if isMultiReader config.readers ∧ reader = readerId then some message.sequence
      else s.state.deliveredQueueSequences[reader]? := by
  unfold deliverStep
  dsimp only
  by_cases hmulti : isMultiReader config.readers = true
  · by_cases hreader : reader = readerId
    · simp [hmulti, hreader]
    · have hne : readerId ≠ reader := fun h => hreader h.symm
      simp [hmulti, hreader, Std.TreeMap.getElem?_insert, hne, markDeliveryMetrics]
  · simp [hmulti, markDeliveryMetrics]

/-- A fresh message that fits goes to the reader. -/
theorem Drained.cons_delivered {message : RuntimeChannelMessage}
    {l : List RuntimeChannelMessage} {s s' : DrainState}
    (hexp : messageExpired config message now = false)
    (hkeep : ((isMultiReader config.readers && message.sequence ≤ last) ||
      batchFull maxBatch s.messages.length) = false)
    (h : Drained config now readerId last maxBatch l (deliverStep config now readerId s message)
      s') :
    Drained config now readerId last maxBatch (message :: l) s s' := by
  obtain ⟨hnew, hroom⟩ := Bool.or_eq_false_iff.mp hkeep
  obtain ⟨hdelivered, hexpired, hstale, hdrops, hcount, hwatermark⟩ :=
    deliverStep_ledger config now readerId s message
  have hlive : unexpired config now (message :: l) = message :: unexpired config now l := by
    simp [unexpired, hexp]
  have hnone : expiredIn config now (message :: l) = expiredIn config now l := by
    simp [expiredIn, hexp]
  have hfresh : freshFor config now last (message :: l) =
      message :: freshFor config now last l := by
    simp only [freshFor, hlive, List.filter_cons, hnew, Bool.not_false, if_true]
  have hlength : (deliverStep config now readerId s message).messages.length =
      s.messages.length + 1 := by
    simp [deliverStep_messages]
  have htake : takeBatch maxBatch s.messages.length (freshFor config now last (message :: l)) =
      message :: takeBatch maxBatch (s.messages.length + 1) (freshFor config now last l) := by
    rw [hfresh, takeBatch_cons hroom]
  refine ⟨(SameQueueSide.deliverStep s message).trans h.frame, h.deliveredCount.trans hcount,
    h.watermark.trans hwatermark, ?_, ?_, ?_, ?_, ?_, ?_, ?_⟩
  · rw [htake, h.messages, hlength, deliverStep_messages]
    simp
  · rw [htake, h.delivered, hlength, hdelivered]
    simp
  · rw [h.retained, hlength, deliverStep_retained, hfresh, dropBatch_cons hroom, hlive]
    split_ifs <;> simp
  · rw [hnone, h.expired, hexpired]
  · rw [hnone, h.stale, hstale]
  · rw [hnone, h.drops, hdrops]
  · intro reader
    rw [h.cursors, htake, hlength, deliverStep_cursors]
    -- the cursor ends at the last message of the batch
    split_ifs
    · rw [List.getLast?_cons, Option.map_some, Option.some_or]
      cases (takeBatch maxBatch (s.messages.length + 1) (freshFor config now last l)).getLast? <;>
        rfl
    · rfl

/-- What the loop of a drain has done once it has walked over the queue. -/
theorem drained_foldl (config : ChannelConfig) (now : Int) (readerId : String)
    (last maxBatch : Nat) (l : List RuntimeChannelMessage) (s : DrainState) :
    Drained config now readerId last maxBatch l s
      (l.foldl (drainStep config now readerId last maxBatch) s) := by
  induction l generalizing s with
  | nil => exact .nil s
  | cons message l ih =>
      rw [List.foldl_cons]
      have hrest := ih (drainStep config now readerId last maxBatch s message)
      by_cases hexp : messageExpired config message now = true
      · rw [drainStep, if_pos hexp] at hrest ⊢
        exact .cons_expired hexp hrest
      · rw [Bool.not_eq_true] at hexp
        by_cases hkeep : ((isMultiReader config.readers && message.sequence ≤ last) ||
            batchFull maxBatch s.messages.length) = true
        · have hstep : drainStep config now readerId last maxBatch s message =
              { s with retained := s.retained ++ [message] } := by
            rw [drainStep, if_neg (by simp [hexp]), if_pos hkeep]
          rw [hstep] at hrest ⊢
          exact .cons_kept hexp hkeep hrest
        · rw [Bool.not_eq_true] at hkeep
          have hstep : drainStep config now readerId last maxBatch s message =
              deliverStep config now readerId s message := by
            rw [drainStep, if_neg (by simp [hexp]), if_neg (by simp [hkeep])]
          rw [hstep] at hrest ⊢
          exact .cons_delivered hexp hkeep hrest

end Drain

/-! ## The snapshot loop -/

/-- What the snapshot loop has done to the channel after the messages `l`. -/
structure Walked (config : ChannelConfig) (now : Int) (l : List RuntimeChannelMessage)
    (s s' : DrainState) : Prop where
  frame : SameQueueSide s.state s'.state
  deliveredCount : s'.state.metrics.deliveredCount = s.state.metrics.deliveredCount
  watermark : s'.state.highWatermarkReported = s.state.highWatermarkReported
  delivered : s'.state.ledger.delivered = s.state.ledger.delivered
  cursors : s'.state.deliveredQueueSequences = s.state.deliveredQueueSequences
  retained : s'.retained = s.retained ++ unexpired config now l
  expired : s'.state.ledger.expired = s.state.ledger.expired ++
    (expiredIn config now l).map RuntimeChannelMessage.sequence
  stale : s'.state.metrics.staleDropCount =
    s.state.metrics.staleDropCount + (expiredIn config now l).length
  drops : s'.state.metrics.dropCount =
    s.state.metrics.dropCount + (expiredIn config now l).length

/-- What the loop of a snapshot has done once it has walked over the queue. -/
theorem walked_foldl (config : ChannelConfig) (now : Int) (maxBatch : Nat)
    (l : List RuntimeChannelMessage) (s : DrainState) :
    Walked config now l s (l.foldl (snapshotStep config now maxBatch) s) := by
  induction l generalizing s with
  | nil => exact ⟨.refl _, rfl, rfl, rfl, rfl, by simp [unexpired], by simp [expiredIn],
      by simp [expiredIn], by simp [expiredIn]⟩
  | cons message l ih =>
      rw [List.foldl_cons]
      have h := ih (snapshotStep config now maxBatch s message)
      -- an expired message is counted as stale, a live one kept
      by_cases hexp : messageExpired config message now = true
      · have hlive : unexpired config now (message :: l) = unexpired config now l := by
          simp [unexpired, hexp]
        have hstale : expiredIn config now (message :: l) = message :: expiredIn config now l := by
          simp [expiredIn, hexp]
        rw [snapshotStep, if_pos hexp] at h ⊢
        refine ⟨(SameQueueSide.markStaleDrop s.state message).trans h.frame, h.deliveredCount,
          h.watermark, h.delivered, h.cursors, ?_, ?_, ?_, ?_⟩
        · rw [hlive, h.retained]
        · rw [hstale, h.expired]
          simp [ChannelState.markStaleDrop]
        · rw [hstale, h.stale]
          simp only [ChannelState.markStaleDrop, List.length_cons]
          omega
        · rw [hstale, h.drops]
          simp only [ChannelState.markStaleDrop, List.length_cons]
          omega
      · rw [Bool.not_eq_true] at hexp
        have hlive : unexpired config now (message :: l) = message :: unexpired config now l := by
          simp [unexpired, hexp]
        have hstale : expiredIn config now (message :: l) = expiredIn config now l := by
          simp [expiredIn, hexp]
        rw [snapshotStep, if_neg (by simp [hexp])] at h ⊢
        refine ⟨h.frame, h.deliveredCount, h.watermark, h.delivered, h.cursors, ?_, ?_, ?_, ?_⟩
        · rw [hlive, h.retained]
          simp
        · rw [hstale, h.expired]
        · rw [hstale, h.stale]
        · rw [hstale, h.drops]

/-! ## The two functions on queue channels -/

/-- The signal is armed again below capacity. -/
def rearmed (config : ChannelConfig) (depth : Nat) (reported : Bool) : Bool :=
  if depth < config.capacity then false else reported

/-- The watermark is armed again below its level, and nothing else changes. -/
theorem maybeRearmHighWatermark_eq (s : ChannelState) :
    maybeRearmHighWatermark config s =
      { s with
        highWatermarkReported := rearmed config s.metrics.depth s.highWatermarkReported } := by
  unfold maybeRearmHighWatermark rearmed
  split_ifs <;> rfl

/-- What a drain does to the channel: `out` goes to the reader. The cursors move
to the last message of `out` as long as they are not too many. -/
structure Consumed (config : ChannelConfig) (now : Int) (readerId : String)
    (out : List RuntimeChannelMessage) (s s' : ChannelState) : Prop where
  frame : SameQueueSide s s'
  deliveredCount : s'.metrics.deliveredCount = s.metrics.deliveredCount + out.length
  depth : s'.metrics.depth = s'.queue.length
  watermark : s'.highWatermarkReported =
    rearmed config s'.queue.length s.highWatermarkReported
  delivered : s'.ledger.delivered =
    s.ledger.delivered ++ out.map fun message => (readerId, message.sequence)
  expired : s'.ledger.expired =
    s.ledger.expired ++ (expiredIn config now s.queue).map RuntimeChannelMessage.sequence
  stale : s'.metrics.staleDropCount =
    s.metrics.staleDropCount + (expiredIn config now s.queue).length
  drops : s'.metrics.dropCount = s.metrics.dropCount + (expiredIn config now s.queue).length
  queue : if isMultiReader config.readers then s'.queue = unexpired config now s.queue
    else out ++ s'.queue = unexpired config now s.queue
  cursors : ∃ moved : Std.TreeMap String Nat,
    (∀ reader, moved[reader]? =
      if isMultiReader config.readers ∧ reader = readerId then
        (out.getLast?.map RuntimeChannelMessage.sequence).or s.deliveredQueueSequences[reader]?
      else s.deliveredQueueSequences[reader]?) ∧
    (moved.size ≤ kMaxTrackedReaders → s'.deliveredQueueSequences = moved)

/-- A drain only takes messages out. -/
theorem Consumed.queue_sublist {now : Int} {readerId : String}
    {out : List RuntimeChannelMessage} {s s' : ChannelState}
    (h : Consumed config now readerId out s s') : s'.queue.Sublist s.queue := by
  have hlive : (unexpired config now s.queue).Sublist s.queue := List.filter_sublist
  have hqueue := h.queue
  split_ifs at hqueue
  · rw [hqueue]
    exact hlive
  · exact ((List.sublist_append_right out s'.queue).trans (hqueue ▸ List.Sublist.refl _)).trans
      hlive

/-- Clearing the queue when nothing was retained is no special case. -/
theorem ite_retained {α : Type} {multi : Bool} {maxBatch : Nat} {l : List α}
    (h : multi = true ∨ maxBatch ≠ 0 ∨ l = []) :
    (if multi || (maxBatch ≠ 0 && !l.isEmpty) then l else []) = l := by
  rcases h with hmulti | hmax | hnil
  · simp [hmulti]
  · cases l <;> simp [hmax]
  · simp [hnil]

/-- After the loop the retained messages are the queue. -/
theorem Drained.finish {now : Int} {readerId : String} {last maxBatch : Nat} {s : ChannelState}
    {d : DrainState} (h : Drained config now readerId last maxBatch s.queue { state := s } d) :
    let out := takeBatch maxBatch 0 (freshFor config now last s.queue)
    (finishDrain config maxBatch d).1 = out.map (deliveredMessage config now) ∧
      Consumed config now readerId out s (finishDrain config maxBatch d).2 := by
  -- the test of the source only saves an empty assignment
  have hqueue : (if isMultiReader config.readers || (maxBatch ≠ 0 && !d.retained.isEmpty) then
      d.retained else []) = d.retained := by
    apply ite_retained
    by_cases hmulti : isMultiReader config.readers = true
    · exact Or.inl hmulti
    · by_cases hmax : maxBatch = 0
      · exact Or.inr (Or.inr (by rw [h.retained]; simp [hmulti, hmax, dropBatch]))
      · exact Or.inr (Or.inl hmax)
  have hcount : d.messages.length =
      (takeBatch maxBatch 0 (freshFor config now last s.queue)).length := by
    rw [h.messages]
    simp
  unfold finishDrain
  dsimp only
  rw [hqueue, maybeRearmHighWatermark_eq]
  refine ⟨by simpa using h.messages, ?_⟩
  refine ⟨?_, ?_, rfl, ?_, by simpa using h.delivered, h.expired, h.stale, h.drops, ?_, ?_⟩
  · exact ⟨h.frame.nextSequence, h.frame.latest, h.frame.pending, h.frame.published,
      h.frame.overwrite, h.frame.maxDepth, h.frame.stored, h.frame.evicted, h.frame.refused⟩
  · simp only [hcount, h.deliveredCount]
  · simp only [h.watermark]
  · by_cases hmulti : isMultiReader config.readers = true
    · rw [if_pos hmulti]
      simpa [hmulti] using h.retained
    · have hsingle : isMultiReader config.readers = false := by simpa using hmulti
      have hretained : d.retained =
          dropBatch maxBatch 0 (freshFor config now last s.queue) := by
        simpa [hsingle] using h.retained
      rw [if_neg hmulti, hretained, freshFor_single hsingle]
      exact takeBatch_append_dropBatch
  · refine ⟨d.state.deliveredQueueSequences, by simpa using h.cursors, fun hsize => ?_⟩
    exact if_neg (not_lt.mpr hsize)

/-- A drain does nothing to a barrier that is not full; otherwise it hands out
the first fresh messages that fit the batch. -/
theorem consumeFromState_spec (config : ChannelConfig) (now : Int) (readerId : String)
    (maxBatch : Nat) (s : ChannelState) :
    (config.type = .barrier ∧ consumeFromState config now readerId maxBatch s = ([], s)) ∨
      let out := takeBatch maxBatch 0
        (freshFor config now (lastDelivered config s readerId) s.queue)
      (consumeFromState config now readerId maxBatch s).1 =
          out.map (deliveredMessage config now) ∧
        Consumed config now readerId out s (consumeFromState config now readerId maxBatch s).2 := by
  unfold consumeFromState
  split_ifs with hbarrier
  · exact Or.inl ⟨hbarrier.1, rfl⟩
  · exact Or.inr (drained_foldl config now readerId _ maxBatch s.queue { state := s }).finish

/-- What a snapshot does to a queue channel. -/
structure Snapshotted (config : ChannelConfig) (now : Int) (s s' : ChannelState) : Prop where
  frame : SameQueueSide s s'
  deliveredCount : s'.metrics.deliveredCount = s.metrics.deliveredCount
  depth : s'.metrics.depth = s'.queue.length
  watermark : s'.highWatermarkReported =
    rearmed config s'.queue.length s.highWatermarkReported
  delivered : s'.ledger.delivered = s.ledger.delivered
  cursors : s'.deliveredQueueSequences = s.deliveredQueueSequences
  expired : s'.ledger.expired =
    s.ledger.expired ++ (expiredIn config now s.queue).map RuntimeChannelMessage.sequence
  stale : s'.metrics.staleDropCount =
    s.metrics.staleDropCount + (expiredIn config now s.queue).length
  drops : s'.metrics.dropCount = s.metrics.dropCount + (expiredIn config now s.queue).length
  queue : s'.queue = unexpired config now s.queue

/-- A snapshot drops the expired messages that it walks over. -/
theorem snapshotFromState_spec (config : ChannelConfig) (now : Int) (maxBatch : Nat)
    (s : ChannelState) (htype : config.type.isLatestStyle = false) :
    Snapshotted config now s (snapshotFromState config now maxBatch s).2 := by
  have h := walked_foldl config now maxBatch s.queue { state := s }
  unfold snapshotFromState
  rw [if_neg (by simp [htype])]
  dsimp only
  rw [maybeRearmHighWatermark_eq]
  refine ⟨?_, h.deliveredCount, rfl, ?_, h.delivered, h.cursors, h.expired, h.stale, h.drops,
    by simpa using h.retained⟩
  · exact ⟨h.frame.nextSequence, h.frame.latest, h.frame.pending, h.frame.published,
      h.frame.overwrite, h.frame.maxDepth, h.frame.stored, h.frame.evicted, h.frame.refused⟩
  · simp only [h.watermark]

/-! ## Publishing on queue channels -/

/-- What storing a message does to a queue channel. -/
structure Enqueued (config : ChannelConfig) (message : RuntimeChannelMessage)
    (s s' : ChannelState) : Prop where
  nextSequence : s'.nextSequence = s.nextSequence + 1
  latest : s'.latest = some message
  pending : s'.pendingPreviousTick = s.pendingPreviousTick
  queue : s'.queue =
    (s.queue ++ [message]).drop (s.queue.length + 1 - config.capacity)
  cursors : s'.deliveredQueueSequences = s.deliveredQueueSequences
  published : s'.metrics.publishedCount = s.metrics.publishedCount + 1
  deliveredCount : s'.metrics.deliveredCount = s.metrics.deliveredCount
  overwrite : s'.metrics.overwriteCount =
    s.metrics.overwriteCount + (s.queue.length + 1 - config.capacity)
  stale : s'.metrics.staleDropCount = s.metrics.staleDropCount
  drops : s'.metrics.dropCount = s.metrics.dropCount
  depth : s'.metrics.depth = s'.queue.length
  maxDepth : s'.metrics.maxDepth = max s.metrics.maxDepth s'.queue.length
  watermark : s'.highWatermarkReported =
    (s.highWatermarkReported || config.capacity ≤ s'.queue.length)
  stored : s'.ledger.stored = s.ledger.stored ++ [message]
  evicted : s'.ledger.evicted = s.ledger.evicted ++
    ((s.queue ++ [message]).take (s.queue.length + 1 - config.capacity)).map
      RuntimeChannelMessage.sequence
  expired : s'.ledger.expired = s.ledger.expired
  delivered : s'.ledger.delivered = s.ledger.delivered
  refused : s'.ledger.refused = s.ledger.refused

/-- The watermark is reported, and nothing else changes. -/
theorem maybeEmitHighWatermark_queue (s : ChannelState)
    (htype : config.type.isLatestStyle = false) :
    maybeEmitHighWatermark config s =
      { s with
        highWatermarkReported :=
          s.highWatermarkReported || config.capacity ≤ s.metrics.depth } := by
  have hpos : config.capacity ≠ 0 := config.capacity_pos.ne'
  unfold maybeEmitHighWatermark
  by_cases hreported : s.highWatermarkReported = true
  · rw [if_pos (by simp [hreported])]
    simp only [hreported, Bool.true_or]
    cases s
    simp_all
  · by_cases hdepth : s.metrics.depth < config.capacity
    · rw [if_pos (by simp [hdepth])]
      have hle : ¬ config.capacity ≤ s.metrics.depth := by omega
      simp only [hle, decide_false, Bool.or_false]
    · rw [if_neg (by simp [hreported, htype, hpos, hdepth])]
      have hle : config.capacity ≤ s.metrics.depth := by omega
      simp only [hle, decide_true, Bool.or_true]

/-- A queue that takes a message evicts what has no room. -/
theorem acceptQueued_spec (s : ChannelState) (payloadWasCopied : Bool)
    (message : RuntimeChannelMessage) (htype : config.type.isLatestStyle = false) :
    Enqueued config message s (acceptQueued config (s.numbered payloadWasCopied) message) := by
  unfold acceptQueued
  dsimp only
  rw [evictOverflow_eq, maybeEmitHighWatermark_queue _ htype]
  simp only [ChannelState.numbered, List.length_append, List.length_singleton]
  exact ⟨rfl, rfl, rfl, rfl, rfl, rfl, rfl, rfl, rfl, rfl, rfl, rfl, rfl, rfl, rfl, rfl, rfl, rfl⟩

/-- A publish on a queue channel is refused without a trace in the queue, or
stores its message. -/
theorem publishToState_queue_cases (config : ChannelConfig) (now : Int) (s : ChannelState)
    (prepared : Prepared) (htype : config.type.isLatestStyle = false) :
    (∃ reason isDrop, config.dropPolicy.refusal = some (reason, isDrop) ∧
        config.capacity ≤ s.queue.length ∧
        publishToState config now s prepared =
          (⟨false, reason⟩, (s.numbered prepared.payloadWasCopied).refuse isDrop)) ∨
      (publishToState config now s prepared).1 = ⟨true, ""⟩ ∧
        (config.dropPolicy.refusal = none ∨ s.queue.length < config.capacity) ∧
        Enqueued config (messageOf config s now prepared) s
          (publishToState config now s prepared).2 := by
  have haccept : acceptMessage config (s.numbered prepared.payloadWasCopied)
      (messageOf config s now prepared) =
      acceptQueued config (s.numbered prepared.payloadWasCopied)
        (messageOf config s now prepared) := by
    have hprev : config.type ≠ .previousTick := by
      intro h
      simp [h, ChannelType.isLatestStyle] at htype
    simp [acceptMessage, hprev, htype]
  have hstore := acceptQueued_spec s prepared.payloadWasCopied (messageOf config s now prepared)
    htype
  unfold publishToState
  dsimp only
  -- only a full queue consults the drop policy
  by_cases hfull : config.capacity ≤ s.queue.length
  · rw [if_pos (by simp [htype, ChannelState.numbered, hfull])]
    cases hrefusal : config.dropPolicy.refusal with
    | none =>
        right
        dsimp only
        rw [haccept]
        exact ⟨rfl, Or.inl rfl, hstore⟩
    | some refusal => exact Or.inl ⟨refusal.1, refusal.2, rfl, hfull, rfl⟩
  · rw [if_neg (by simp [htype, ChannelState.numbered, hfull])]
    right
    dsimp only
    rw [haccept]
    exact ⟨rfl, Or.inr (not_le.mp hfull), hstore⟩

end TopoExec
