import TopoExec.Lib.Machine
import TopoExec.Lib.Ring

/-! # The live event stream

`LiveEventRingBuffer` is a ring of one slot more than its capacity, with counters of the
events it had to drop. `LiveEventStream` numbers the events it is given, puts them into
the ring and reports the drops.

An access outside of the slots is undefined: it is answered with `none`. The slots are
as many as `capacity + 1` in the arithmetic of `std::size_t`, so the largest capacity has
no slot at all. Allocating the slots is taken to succeed, and the 64-bit counters not to
run over.
-/

namespace TopoExec

open Machine

/-! ## Events -/

structure LiveEvent where
  localSeq : Nat := 0
  monoNs : Nat := 0
  streamId : Nat := 0
  epochId : Nat := 0
  kind : Nat := 0
  flags : Nat := 0
  laneId : Nat := 0
  workerId : Nat := 0
  componentId : Nat := 0
  channelId : Nat := 0
  loopId : Nat := 0
  policyId : Nat := 0
  reasonId : Nat := 0
  reserved0 : Nat := 0
  value0 : Nat := 0
  value1 : Nat := 0
  value2 : Nat := 0
  value3 : Nat := 0
deriving DecidableEq, Repr

/-- `encode_kind(LiveEventKind::kObserverDropSummary)` -/
def encodedObserverDropSummary : Nat := 26

/-- `encode_exactness(LiveEventExactness::kLossy)` -/
def encodedLossy : Nat := 4

/-- `encode_severity(LiveEventSeverity::kWarning)` -/
def encodedWarning : Nat := 4

/-! ## The ring buffer -/

structure LiveEventRingBuffer where
  buffer : List LiveEvent
  capacity : Nat
  readIndex : Nat := 0
  writeIndex : Nat := 0
  droppedEventCount : Nat := 0
  pendingDropCount : Nat := 0
deriving DecidableEq, Repr

namespace LiveEventRingBuffer

def new (capacity : Nat) : LiveEventRingBuffer where
  buffer := List.replicate (if capacity = 0 then 0 else (capacity + 1) % sizeModulus) {}
  capacity := capacity

def increment (ring : LiveEventRingBuffer) (value : Nat) : Nat :=
  if value + 1 = ring.buffer.length then 0 else value + 1

def countDrop (ring : LiveEventRingBuffer) : LiveEventRingBuffer :=
  { ring with
    droppedEventCount := ring.droppedEventCount + 1
    pendingDropCount := ring.pendingDropCount + 1 }

def tryPush (ring : LiveEventRingBuffer) (event : LiveEvent) :
    Option (Bool × LiveEventRingBuffer) :=
  if ring.capacity = 0 then some (false, ring.countDrop)
  else
    let nextWriteIndex := ring.increment ring.writeIndex
    if nextWriteIndex = ring.readIndex then some (false, ring.countDrop)
    else if ring.writeIndex < ring.buffer.length then
      some (true, { ring with
        buffer := ring.buffer.set ring.writeIndex event
        writeIndex := nextWriteIndex })
    else none -- `buffer_[write_index]` is no slot

def tryPop (ring : LiveEventRingBuffer) : Option (Option LiveEvent × LiveEventRingBuffer) :=
  if ring.capacity = 0 then some (none, ring)
  else if ring.readIndex = ring.writeIndex then some (none, ring)
  else
    match ring.buffer[ring.readIndex]? with
    | none => none -- `buffer_[read_index]` is no slot
    | some event => some (some event, { ring with readIndex := ring.increment ring.readIndex })

def takePendingDropCount (ring : LiveEventRingBuffer) : Nat × LiveEventRingBuffer :=
  (ring.pendingDropCount, { ring with pendingDropCount := 0 })

/-- The events that were pushed and not popped yet. -/
def unread (ring : LiveEventRingBuffer) : List LiveEvent :=
  Ring.contents ring.buffer ring.readIndex ring.writeIndex

end LiveEventRingBuffer

/-! ## The stream -/

structure LiveEventStream where
  streamId : Nat
  buffer : LiveEventRingBuffer
  localSeq : Nat := 0
deriving DecidableEq, Repr

namespace LiveEventStream

def new (streamId capacity : Nat) : LiveEventStream where
  streamId := streamId
  buffer := .new capacity

def nextLocalSeq (stream : LiveEventStream) : Nat × LiveEventStream :=
  (stream.localSeq + 1, { stream with localSeq := stream.localSeq + 1 })

/-- The event as it goes into the ring. -/
def queued (stream : LiveEventStream) (event : LiveEvent) : LiveEvent :=
  { event with streamId := stream.streamId, localSeq := stream.nextLocalSeq.1 }

def tryPublish (stream : LiveEventStream) (event : LiveEvent) : Option (Bool × LiveEventStream) :=
  let stream' := stream.nextLocalSeq.2
  (stream'.buffer.tryPush (stream.queued event)).map fun (accepted, buffer) =>
    (accepted, { stream' with buffer })

def tryPop (stream : LiveEventStream) : Option (Option LiveEvent × LiveEventStream) :=
  stream.buffer.tryPop.map fun (event, buffer) => (event, { stream with buffer })

def takeDropSummary (stream : LiveEventStream) (monoNs affectedKind : Nat) :
    Option LiveEvent × LiveEventStream :=
  let (pendingDrops, buffer) := stream.buffer.takePendingDropCount
  let stream := { stream with buffer }
  if pendingDrops = 0 then (none, stream)
  else
    let (localSeq, stream) := stream.nextLocalSeq
    (some
      { localSeq
        monoNs
        streamId := stream.streamId
        kind := encodedObserverDropSummary
        flags := encodedLossy
        reasonId := encodedWarning
        value0 := pendingDrops
        value1 := stream.buffer.droppedEventCount
        value2 := affectedKind }, stream)

end LiveEventStream

/-! ## Runs -/

inductive StreamOp where
  | tryPublish (event : LiveEvent)
  | tryPop
  | takeDropSummary (monoNs affectedKind : Nat)
deriving DecidableEq, Repr

/-- A stream, and what came of the operations on it. -/
structure StreamLog where
  stream : LiveEventStream
  accepted : List LiveEvent := []
  refused : List LiveEvent := []
  popped : List LiveEvent := []
  summaries : List LiveEvent := []
  handedOut : List Nat := []
deriving DecidableEq, Repr

namespace StreamLog

def exec (log : StreamLog) : StreamOp → Option StreamLog
  | .tryPublish event =>
      (log.stream.tryPublish event).map fun (accepted, stream) =>
        let queued := log.stream.queued event
        { log with
          stream
          accepted := log.accepted ++ if accepted then [queued] else []
          refused := log.refused ++ if accepted then [] else [queued]
          handedOut := log.handedOut ++ [queued.localSeq] }
  | .tryPop =>
      log.stream.tryPop.map fun (event, stream) =>
        { log with stream, popped := log.popped ++ event.toList }
  | .takeDropSummary monoNs affectedKind =>
      let (summary, stream) := log.stream.takeDropSummary monoNs affectedKind
      some { log with
        stream
        summaries := log.summaries ++ summary.toList
        handedOut := log.handedOut ++ summary.toList.map LiveEvent.localSeq }

def run (log : StreamLog) (ops : List StreamOp) : Option StreamLog := ops.foldlM exec log

/-- A run from the construction of the stream on. -/
def runStream (streamId capacity : Nat) (ops : List StreamOp) : Option StreamLog :=
  run { stream := .new streamId capacity } ops

end StreamLog

end TopoExec
