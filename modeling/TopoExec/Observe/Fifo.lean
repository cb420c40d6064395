import Mathlib.Algebra.GroupWithZero.Nat
import Mathlib.Algebra.BigOperators.Group.List.Basic
import TopoExec.Observe.LiveEventStream

/-! # The live event stream is a lossy queue

The ring buffer refines `LossyQueue` as long as it has its `capacity + 1` slots; every
operation of the stream is then one of the queue, and a run keeps the accounts of
`StreamLog.Balanced`.
-/

namespace TopoExec

open Machine

namespace LiveEventRingBuffer

variable {ring : LiveEventRingBuffer}

/-! ## The ring buffer -/

/-- The ring has its slots and the indices are slots of it. -/
structure Sound (ring : LiveEventRingBuffer) : Prop where
  slots : ring.capacity ≠ 0 → ring.buffer.length = ring.capacity + 1
  none : ring.capacity = 0 → ring.buffer = []
  read : ring.capacity ≠ 0 → ring.readIndex < ring.buffer.length
  write : ring.capacity ≠ 0 → ring.writeIndex < ring.buffer.length

/-- The queue in the ring. -/
def toQueue (ring : LiveEventRingBuffer) : LossyQueue LiveEvent where
  capacity := ring.capacity
  items := ring.unread
  lost := ring.droppedEventCount
  unreported := ring.pendingDropCount

/-- A new ring is sound when the count of its slots does not wrap. -/
theorem sound_new {capacity : Nat} (h : capacity + 1 < sizeModulus) : (new capacity).Sound := by
  have hlength : capacity ≠ 0 → (new capacity).buffer.length = capacity + 1 := by
    intro hne
    rw [new, List.length_replicate, if_neg hne, Nat.mod_eq_of_lt h]
  constructor
  · exact hlength
  · intro hzero
    show List.replicate (if capacity = 0 then 0 else _) _ = []
    rw [if_pos (show capacity = 0 from hzero), List.replicate_zero]
  · intro hne
    rw [hlength hne]
    exact Nat.succ_pos capacity
  · intro hne
    rw [hlength hne]
    exact Nat.succ_pos capacity

/-- A new ring holds nothing. -/
@[simp]
theorem unread_new (capacity : Nat) : (new capacity).unread = [] := Ring.contents_self _ _

/-- A ring without capacity holds nothing. -/
theorem unread_of_capacity_zero (h : ring.Sound) (hzero : ring.capacity = 0) :
    ring.unread = [] := by
  rw [unread, Ring.contents, h.none hzero]
  split_ifs <;> simp

/-- The next write index meets the read index when the queue is full. -/
theorem increment_write_eq_read (h : ring.Sound) (hne : ring.capacity ≠ 0) :
    ring.increment ring.writeIndex = ring.readIndex ↔ ring.unread.length = ring.capacity := by
  show Ring.next ring.buffer.length ring.writeIndex = ring.readIndex ↔ _
  rw [Ring.next_write_eq_read (h.read hne) (h.write hne), h.slots hne, ← unread]
  omega

/-- Counting a drop touches no slot. -/
theorem sound_countDrop (h : ring.Sound) : ring.countDrop.Sound :=
  ⟨h.slots, h.none, h.read, h.write⟩

/-- Pushing to the ring is pushing to the queue. -/
theorem tryPush_refines (h : ring.Sound) (event : LiveEvent) :
    ∃ ring', ring.tryPush event = some ((ring.toQueue.push event).1, ring') ∧
      ring'.toQueue = (ring.toQueue.push event).2 ∧ ring'.Sound := by
  unfold tryPush
  by_cases hzero : ring.capacity = 0
  -- a ring without slots is full
  · have hfull : ring.unread.length = ring.capacity := by
      rw [unread_of_capacity_zero h hzero, hzero, List.length_nil]
    rw [if_pos hzero, LossyQueue.push_of_full
      (show ring.toQueue.items.length = ring.toQueue.capacity from hfull)]
    exact ⟨ring.countDrop, rfl, rfl, sound_countDrop h⟩
  · rw [if_neg hzero]
    by_cases hfull : ring.unread.length = ring.capacity
    · rw [if_pos ((increment_write_eq_read h hzero).mpr hfull),
        LossyQueue.push_of_full (show ring.toQueue.items.length = ring.toQueue.capacity from hfull)]
      exact ⟨ring.countDrop, rfl, rfl, sound_countDrop h⟩
    -- the slot after the write index is free
    · have hroom := mt (increment_write_eq_read h hzero).mp hfull
      rw [if_neg hroom, if_pos (h.write hzero),
        LossyQueue.push_of_room (show ring.toQueue.items.length ≠ ring.toQueue.capacity from hfull)]
      refine ⟨_, rfl, ?_, ?_⟩
      · have hpush := Ring.contents_push event (h.read hzero) (h.write hzero) hroom
        exact congrArg (fun items => { ring.toQueue with items }) hpush
      · constructor
        · intro _
          exact (List.length_set).trans (h.slots hzero)
        · exact fun hz => absurd hz hzero
        · intro _
          show ring.readIndex < (ring.buffer.set ring.writeIndex event).length
          rw [List.length_set]
          exact h.read hzero
        · intro _
          show ring.increment ring.writeIndex < (ring.buffer.set ring.writeIndex event).length
          rw [List.length_set]
          exact Ring.next_lt (h.write hzero)

/-- Popping from the ring is popping from the queue. -/
theorem tryPop_refines (h : ring.Sound) :
    ∃ ring', ring.tryPop = some (ring.toQueue.pop.1, ring') ∧
      ring'.toQueue = ring.toQueue.pop.2 ∧ ring'.Sound := by
  have hempty : ring.unread = [] → ring.toQueue.pop = (none, ring.toQueue) := by
    intro hnil
    simp [LossyQueue.pop, toQueue, hnil]
  unfold tryPop
  by_cases hzero : ring.capacity = 0
  · rw [if_pos hzero, hempty (unread_of_capacity_zero h hzero)]
    exact ⟨ring, rfl, rfl, h⟩
  · rw [if_neg hzero]
    by_cases hsame : ring.readIndex = ring.writeIndex
    · have hnil := (Ring.contents_eq_nil (h.read hzero) (h.write hzero)).mpr hsame
      rw [if_pos hsame, hempty hnil]
      exact ⟨ring, rfl, rfl, h⟩
    · have hpop : ring.unread = _ :: _ :=
        Ring.contents_pop (h.read hzero) (h.write hzero) hsame
      rw [if_neg hsame, List.getElem?_eq_getElem (h.read hzero)]
      refine ⟨{ ring with readIndex := ring.increment ring.readIndex }, ?_, ?_, ?_⟩
      · simp [LossyQueue.pop, toQueue, hpop]
      · simp only [LossyQueue.pop, toQueue, hpop, List.tail_cons]
        rfl
      · exact ⟨h.slots, h.none, fun _ => Ring.next_lt (h.read hzero), h.write⟩

end LiveEventRingBuffer

/-! ## The stream -/

namespace LiveEventStream

/-- Publishing is a push of the queued event. -/
theorem tryPublish_spec {stream : LiveEventStream} (h : stream.buffer.Sound) (event : LiveEvent) :
    ∃ accepted ring, stream.tryPublish event =
        some (accepted, { stream with buffer := ring, localSeq := stream.localSeq + 1 }) ∧
      ring.Sound ∧ ring.capacity = stream.buffer.capacity ∧
      ring.unread = stream.buffer.unread ++ (if accepted then [stream.queued event] else []) ∧
      ring.droppedEventCount = stream.buffer.droppedEventCount + (if accepted then 0 else 1) ∧
      ring.pendingDropCount = stream.buffer.pendingDropCount + (if accepted then 0 else 1) ∧
      (accepted = false ↔ stream.buffer.unread.length = stream.buffer.capacity) := by
  obtain ⟨ring, hpush, hqueue, hsound⟩ :=
    LiveEventRingBuffer.tryPush_refines h (stream.queued event)
  have hpublish : stream.tryPublish event =
      some ((stream.buffer.toQueue.push (stream.queued event)).1,
        { stream with buffer := ring, localSeq := stream.localSeq + 1 }) := by
    show (stream.buffer.tryPush (stream.queued event)).map _ = _
    rw [hpush]
    rfl
  refine ⟨_, ring, hpublish, hsound, ?_, ?_, ?_, ?_, LossyQueue.push_refused _ _⟩
  · exact (congrArg LossyQueue.capacity hqueue).trans (LossyQueue.capacity_push _ _)
  · exact (congrArg LossyQueue.items hqueue).trans (LossyQueue.items_push _ _)
  · exact (congrArg LossyQueue.lost hqueue).trans (LossyQueue.lost_push _ _)
  · exact (congrArg LossyQueue.unreported hqueue).trans (LossyQueue.unreported_push _ _)

/-- A popped event is the oldest unread one. -/
theorem tryPop_spec {stream : LiveEventStream} (h : stream.buffer.Sound) :
    ∃ event ring, stream.tryPop = some (event, { stream with buffer := ring }) ∧
      ring.Sound ∧ ring.capacity = stream.buffer.capacity ∧
      event.toList ++ ring.unread = stream.buffer.unread ∧
      ring.droppedEventCount = stream.buffer.droppedEventCount ∧
      ring.pendingDropCount = stream.buffer.pendingDropCount := by
  obtain ⟨ring, hpop, hqueue, hsound⟩ := LiveEventRingBuffer.tryPop_refines h
  have hstream : stream.tryPop =
      some (stream.buffer.toQueue.pop.1, { stream with buffer := ring }) := by
    rw [tryPop, hpop]
    rfl
  refine ⟨_, ring, hstream, hsound, congrArg LossyQueue.capacity hqueue, ?_,
    congrArg LossyQueue.lost hqueue, congrArg LossyQueue.unreported hqueue⟩
  rw [show ring.unread = _ from congrArg LossyQueue.items hqueue]
  exact LossyQueue.items_pop stream.buffer.toQueue

/-- A summary carries the drops that waited for it. -/
theorem takeDropSummary_spec (stream : LiveEventStream) (monoNs affectedKind : Nat) :
    (stream.takeDropSummary monoNs affectedKind).2.buffer =
        { stream.buffer with pendingDropCount := 0 } ∧
      (((stream.takeDropSummary monoNs affectedKind).1 = none ∧
          stream.buffer.pendingDropCount = 0 ∧
          (stream.takeDropSummary monoNs affectedKind).2.localSeq = stream.localSeq) ∨
        ∃ summary, (stream.takeDropSummary monoNs affectedKind).1 = some summary ∧
          summary.value0 = stream.buffer.pendingDropCount ∧
          summary.localSeq = stream.localSeq + 1 ∧
          (stream.takeDropSummary monoNs affectedKind).2.localSeq = stream.localSeq + 1) := by
  by_cases hzero : stream.buffer.pendingDropCount = 0
  · simp [takeDropSummary, LiveEventRingBuffer.takePendingDropCount, hzero]
  · simp [takeDropSummary, LiveEventRingBuffer.takePendingDropCount, hzero, nextLocalSeq]

end LiveEventStream

/-! ## Runs -/

namespace StreamLog

/-- The accounts of a run: what was accepted is popped or unread, what was refused is
counted, what is counted is summarised or waits for its summary, and the numbers handed
out increase. -/
structure Balanced (log : StreamLog) : Prop where
  fifo : log.popped ++ log.stream.buffer.unread = log.accepted
  losses : log.stream.buffer.droppedEventCount = log.refused.length
  summarised : (log.summaries.map LiveEvent.value0).sum + log.stream.buffer.pendingDropCount =
    log.stream.buffer.droppedEventCount
  increasing : log.handedOut.Pairwise (· < ·)

/-- The accounts, with what carries them through a run. -/
structure Inv (capacity : Nat) (log : StreamLog) : Prop extends Balanced log where
  sound : log.stream.buffer.Sound
  capacity : log.stream.buffer.capacity = capacity
  counted : ∀ seq ∈ log.handedOut, seq ≤ log.stream.localSeq

/-- A sequence number above all others keeps them ascending. -/
theorem pairwise_lt_snoc {seqs : List Nat} {n : Nat} (h : seqs.Pairwise (· < ·))
    (hle : ∀ seq ∈ seqs, seq ≤ n) : (seqs ++ [n + 1]).Pairwise (· < ·) := by
  rw [List.pairwise_append]
  refine ⟨h, List.pairwise_singleton _ _, ?_⟩
  intro seq hseq last hlast
  rw [List.mem_singleton] at hlast
  have := hle seq hseq
  omega

theorem le_of_mem_snoc {seqs : List Nat} {n : Nat} (hle : ∀ seq ∈ seqs, seq ≤ n) :
    ∀ seq ∈ seqs ++ [n + 1], seq ≤ n + 1 := by
  intro seq hseq
  rcases List.mem_append.mp hseq with hold | hnew
  · exact Nat.le_succ_of_le (hle seq hold)
  · exact Nat.le_of_eq (List.mem_singleton.mp hnew)

variable {capacity : Nat} {log : StreamLog}

theorem inv_new (streamId : Nat) (h : capacity + 1 < sizeModulus) :
    Inv capacity { stream := .new streamId capacity } where
  fifo := LiveEventRingBuffer.unread_new capacity
  losses := rfl
  summarised := rfl
  increasing := List.Pairwise.nil
  sound := LiveEventRingBuffer.sound_new h
  capacity := rfl
  counted := fun _ hseq => absurd hseq List.not_mem_nil

/-- A published event is pushed, or counted as dropped. -/
theorem inv_tryPublish (h : Inv capacity log) (event : LiveEvent) :
    ∃ log', log.exec (.tryPublish event) = some log' ∧ Inv capacity log' := by
  obtain ⟨accepted, ring, hpublish, hsound, hcapacity, hunread, hdropped, hpending, -⟩ :=
    LiveEventStream.tryPublish_spec h.sound event
  refine ⟨_, by rw [exec, hpublish]; rfl, ?_⟩
  constructor
  · constructor
    · show log.popped ++ ring.unread = log.accepted ++ _
      rw [hunread, ← List.append_assoc, h.fifo]
    · show ring.droppedEventCount = (log.refused ++ _).length
      rw [hdropped, h.losses, List.length_append]
      split_ifs <;> rfl
    · show _ + ring.pendingDropCount = ring.droppedEventCount
      rw [hpending, hdropped, ← h.summarised, Nat.add_assoc]
    · exact pairwise_lt_snoc h.increasing h.counted
  · exact hsound
  · exact hcapacity.trans h.capacity
  · exact le_of_mem_snoc h.counted

/-- A popped event has the smallest sequence number left. -/
theorem inv_tryPop (h : Inv capacity log) :
    ∃ log', log.exec .tryPop = some log' ∧ Inv capacity log' := by
  obtain ⟨event, ring, hpop, hsound, hcapacity, hunread, hdropped, hpending⟩ :=
    LiveEventStream.tryPop_spec h.sound
  refine ⟨_, by rw [exec, hpop]; rfl, ?_⟩
  constructor
  · constructor
    · show log.popped ++ event.toList ++ ring.unread = log.accepted
      rw [List.append_assoc, hunread, h.fifo]
    · exact hdropped.trans h.losses
    · show _ + ring.pendingDropCount = ring.droppedEventCount
      rw [hpending, hdropped]
      exact h.summarised
    · exact h.increasing
  · exact hsound
  · exact hcapacity.trans h.capacity
  · exact h.counted

/-- A summary takes a sequence number of its own and leaves the queue as it is. -/
theorem inv_takeDropSummary (h : Inv capacity log) (monoNs affectedKind : Nat) :
    ∃ log', log.exec (.takeDropSummary monoNs affectedKind) = some log' ∧ Inv capacity log' := by
  obtain ⟨hbuffer, hcases⟩ := log.stream.takeDropSummary_spec monoNs affectedKind
  have hexec : log.exec (.takeDropSummary monoNs affectedKind) = some { log with
      stream := (log.stream.takeDropSummary monoNs affectedKind).2
      summaries := log.summaries ++ (log.stream.takeDropSummary monoNs affectedKind).1.toList
      handedOut := log.handedOut ++
        (log.stream.takeDropSummary monoNs affectedKind).1.toList.map LiveEvent.localSeq } := rfl
  rw [hexec]
  generalize log.stream.takeDropSummary monoNs affectedKind = taken at *
  refine ⟨_, rfl, ?_⟩
  have hsound : taken.2.buffer.Sound := by
    rw [hbuffer]
    exact ⟨h.sound.slots, h.sound.none, h.sound.read, h.sound.write⟩
  have hcapacity : taken.2.buffer.capacity = capacity := by
    rw [hbuffer]
    exact h.capacity
  have hfifo : log.popped ++ taken.2.buffer.unread = log.accepted := by
    rw [hbuffer]
    exact h.fifo
  have hlosses : taken.2.buffer.droppedEventCount = log.refused.length := by
    rw [hbuffer]
    exact h.losses
  have hpending : taken.2.buffer.pendingDropCount = 0 := by rw [hbuffer]
  have hdropped : taken.2.buffer.droppedEventCount = log.stream.buffer.droppedEventCount := by
    rw [hbuffer]
  rcases hcases with ⟨hnone, hzero, hseq⟩ | ⟨summary, hsome, hvalue, hlocal, hseq⟩
  · -- nothing was dropped since the last summary
    have hsummaries : log.summaries ++ taken.1.toList = log.summaries := by
      rw [hnone]
      exact List.append_nil _
    have hhanded : log.handedOut ++ taken.1.toList.map LiveEvent.localSeq = log.handedOut := by
      rw [hnone]
      exact List.append_nil _
    constructor
    · refine ⟨hfifo, hlosses, ?_, ?_⟩
      · show ((log.summaries ++ taken.1.toList).map LiveEvent.value0).sum + _ = _
        rw [hsummaries, hpending, hdropped, ← h.summarised, hzero]
      · exact hhanded.symm ▸ h.increasing
    · exact hsound
    · exact hcapacity
    · show ∀ seq ∈ log.handedOut ++ taken.1.toList.map LiveEvent.localSeq, seq ≤ taken.2.localSeq
      rw [hhanded, hseq]
      exact h.counted
  -- the summary takes the next sequence number
  · have hhanded : log.handedOut ++ taken.1.toList.map LiveEvent.localSeq =
        log.handedOut ++ [log.stream.localSeq + 1] := by
      rw [hsome, ← hlocal]
      rfl
    constructor
    · refine ⟨hfifo, hlosses, ?_, ?_⟩
      · show ((log.summaries ++ taken.1.toList).map LiveEvent.value0).sum + _ = _
        rw [hsome, hpending, hdropped, ← h.summarised, ← hvalue]
        simp
      · exact hhanded.symm ▸ pairwise_lt_snoc h.increasing h.counted
    · exact hsound
    · exact hcapacity
    · show ∀ seq ∈ log.handedOut ++ taken.1.toList.map LiveEvent.localSeq, seq ≤ taken.2.localSeq
      rw [hhanded, hseq]
      exact le_of_mem_snoc h.counted

/-- Every operation keeps the invariant. -/
theorem inv_exec (h : Inv capacity log) (op : StreamOp) :
    ∃ log', log.exec op = some log' ∧ Inv capacity log' := by
  cases op with
  | tryPublish event => exact inv_tryPublish h event
  | tryPop => exact inv_tryPop h
  | takeDropSummary monoNs affectedKind => exact inv_takeDropSummary h monoNs affectedKind

/-- By induction on the operations. -/
theorem inv_run (h : Inv capacity log) (ops : List StreamOp) :
    ∃ log', log.run ops = some log' ∧ Inv capacity log' := by
  induction ops generalizing log with
  | nil => exact ⟨log, rfl, h⟩
  | cons op ops ih =>
      obtain ⟨log₁, hexec, hinv⟩ := inv_exec h op
      obtain ⟨log', hrun, hinv'⟩ := ih hinv
      refine ⟨log', ?_, hinv'⟩
      rw [run, List.foldlM_cons, hexec]
      exact hrun

/-- A stream of this capacity is a bounded queue with loss accounting: no run of it is
undefined, the accounts of every run balance, and a publish is refused when as many
events are unread as the capacity says, and only then. -/
def RefinesLossyQueue (capacity : Nat) : Prop :=
  ∀ streamId ops, ∃ log, runStream streamId capacity ops = some log ∧ log.Balanced ∧
    ∀ event, ∃ accepted stream, log.stream.tryPublish event = some (accepted, stream) ∧
      (accepted = false ↔ log.stream.buffer.unread.length = capacity)

/-- With the largest capacity the first publish writes outside of the slots. -/
theorem runStream_sizeMax (streamId : Nat) (event : LiveEvent) :
    runStream streamId (sizeModulus - 1) [.tryPublish event] = none := rfl

theorem refinesLossyQueue_iff (capacity : Nat) (hsize : capacity < sizeModulus) :
    RefinesLossyQueue capacity ↔ capacity ≠ sizeModulus - 1 := by
  constructor
  · rintro h rfl
    obtain ⟨log, hrun, -⟩ := h 0 [.tryPublish {}]
    rw [runStream_sizeMax] at hrun
    cases hrun
  · intro hne streamId ops
    have hslots : capacity + 1 < sizeModulus := by omega
    obtain ⟨log, hrun, hinv⟩ := inv_run (inv_new streamId hslots) ops
    refine ⟨log, hrun, hinv.toBalanced, ?_⟩
    intro event
    obtain ⟨accepted, ring, hpublish, -, -, -, -, -, hrefused⟩ :=
      LiveEventStream.tryPublish_spec hinv.sound event
    refine ⟨accepted, _, hpublish, ?_⟩
    rw [hrefused, hinv.capacity]

theorem refinesLossyQueue_iff_zero :
    0 < sizeModulus ∧ (RefinesLossyQueue 0 ↔ 0 ≠ sizeModulus - 1) :=
  ⟨by decide, refinesLossyQueue_iff 0 (by decide)⟩

theorem not_refinesLossyQueue_sizeMax : ¬ RefinesLossyQueue (2 ^ 64 - 1) := by
  intro h
  obtain ⟨log, hrun, -⟩ := h 0 [.tryPublish {}]
  have hundefined : runStream 0 (2 ^ 64 - 1) [.tryPublish {}] = none := by decide
  rw [hundefined] at hrun
  cases hrun

end StreamLog

end TopoExec
