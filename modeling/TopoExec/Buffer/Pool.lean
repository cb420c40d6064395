import Mathlib.Data.List.Basic
import Mathlib.Logic.Function.Basic
import TopoExec.Lib.Machine

/-! # Buffer pools and loaned frames

A `BufferPool` lends buffers as `LoanedFrame`s. A frame gives its buffer back when it is
released, assigned to or destroyed, and hands it over to the caller when it is detached.
A frame knows its pool by a pointer; here it is the number of the pool.

A buffer is known by the pool that has allocated it and the number of the allocation.
`events` records what happens to the buffers; the source has no such field. The buffers
that a pool owns are in memory at the same time, so that the sums of their sizes do not
run over.
-/

namespace TopoExec

/-! ## Buffers and views -/

structure SharedBuffer where
  pool : Nat
  number : Nat
  size : Nat
deriving DecidableEq, Repr

structure FrameView where
  buffer : Option SharedBuffer := none
  offset : Nat := 0
  size : Nat := 0
  width : Nat := 0
  height : Nat := 0
  stride : Nat := 0
  format : String := ""
deriving DecidableEq, Repr

def FrameView.valid (view : FrameView) : Bool :=
  match view.buffer with
  | none => false
  | some buffer => view.offset ≤ buffer.size && view.size ≤ buffer.size - view.offset

/-- What is left of a view that is moved from. -/
def FrameView.movedFrom (view : FrameView) : FrameView :=
  { view with buffer := none, format := "" }

structure LoanedFrame where
  pool : Option Nat := none
  view : FrameView := {}
deriving DecidableEq, Repr

/-- A frame that is moved from. -/
def LoanedFrame.movedFrom (frame : LoanedFrame) : LoanedFrame :=
  { pool := none, view := frame.view.movedFrom }

/-- The arguments of `loan_frame`. -/
structure FrameRequest where
  size : Nat
  width : Nat := 0
  height : Nat := 0
  stride : Nat := 0
  format : String := ""
deriving DecidableEq, Repr

/-! ## The pool -/

structure BufferPoolStats where
  allocCount : Nat := 0
  reuseCount : Nat := 0
  loanCount : Nat := 0
  releaseCount : Nat := 0
  detachedCount : Nat := 0
  exhaustedCount : Nat := 0
  bytesAllocated : Nat := 0
  bytesOwned : Nat := 0
  activeBytes : Nat := 0
  highWatermarkBytes : Nat := 0
  bytesAvailable : Nat := 0
  activeCount : Nat := 0
  availableCount : Nat := 0
  maxBytes : Nat := 0
deriving DecidableEq, Repr

structure BufferPoolConfig where
  fixedBlockSize : Nat := 0
  bucketSizes : List Nat := []
  alignment : Nat := 1
  maxBytes : Nat := 0
deriving DecidableEq, Repr

inductive BufferEvent where
  | allocated (buffer : SharedBuffer)
  | loaned (buffer : SharedBuffer)
  | returned (buffer : SharedBuffer)
  | detached (buffer : SharedBuffer)
deriving DecidableEq, Repr

structure BufferPool where
  config : BufferPoolConfig := {}
  available : List SharedBuffer := []
  stats : BufferPoolStats := {}
  events : List BufferEvent := []
deriving DecidableEq, Repr

def alignUp (value alignment : Nat) : Nat :=
  if alignment ≤ 1 ∨ value = 0 then value
  else
    let remainder := value % alignment
    if remainder = 0 then value
    else
      let increment := alignment - remainder
      if Machine.sizeModulus - 1 - increment < value then value else value + increment

/-- The order of the buckets: the ones that fit come first, each kind by size. -/
def bucketLess (requested lhs rhs : Nat) : Bool :=
  let lhsFits := decide (requested ≤ lhs)
  let rhsFits := decide (requested ≤ rhs)
  if lhsFits ≠ rhsFits then lhsFits else lhs < rhs

/-- `std::min_element`. -/
def minBucket (requested : Nat) : List Nat → Option Nat
  | [] => none
  | first :: rest =>
      some (rest.foldl (fun smallest candidate =>
        if bucketLess requested candidate smallest then candidate else smallest) first)

namespace BufferPool

/-- The constructor. -/
def create (config : BufferPoolConfig) : BufferPool :=
  { config :=
      { config with alignment := if config.alignment = 0 then 1 else config.alignment }
    stats := { maxBytes := config.maxBytes } }

def allocationSize (pool : BufferPool) (requested : Nat) : Nat :=
  let chosen :=
    match minBucket requested pool.config.bucketSizes with
    | some bucket => if requested ≤ bucket then bucket else requested
    | none =>
        if 0 < pool.config.fixedBlockSize then max pool.config.fixedBlockSize requested
        else requested
  alignUp chosen pool.config.alignment

def canAllocate (pool : BufferPool) (allocationSize : Nat) : Bool :=
  pool.config.maxBytes = 0 ||
    (pool.stats.bytesOwned ≤ pool.config.maxBytes &&
      allocationSize ≤ pool.config.maxBytes - pool.stats.bytesOwned)

def refreshAvailableStats (pool : BufferPool) : BufferPool :=
  { pool with
    stats :=
      { pool.stats with
        availableCount := pool.available.length
        bytesAvailable := (pool.available.map SharedBuffer.size).sum } }

/-- The new buffer of `loan_frame`. -/
def allocate (pool : BufferPool) (self allocatedSize : Nat) : SharedBuffer × BufferPool :=
  let buffer : SharedBuffer :=
    { pool := self, number := pool.stats.allocCount, size := allocatedSize }
  (buffer,
    { pool with
      stats :=
        { pool.stats with
          allocCount := pool.stats.allocCount + 1
          bytesAllocated := pool.stats.bytesAllocated + allocatedSize
          bytesOwned := pool.stats.bytesOwned + allocatedSize }
      events := pool.events ++ [.allocated buffer] })

/-- The first buffer that is large enough leaves the available ones. -/
def reuse (pool : BufferPool) (buffer : SharedBuffer) : BufferPool :=
  { pool with
    available := pool.available.erase buffer
    stats := { pool.stats with reuseCount := pool.stats.reuseCount + 1 } }

/-- The end of `loan_frame`. -/
def lend (pool : BufferPool) (self : Nat) (request : FrameRequest) (buffer : SharedBuffer) :
    LoanedFrame × BufferPool :=
  let activeBytes := pool.stats.activeBytes + buffer.size
  ({ pool := some self
     view :=
       { buffer := some buffer
         offset := 0
         size := request.size
         width := request.width
         height := request.height
         stride := request.stride
         format := request.format } },
    refreshAvailableStats
      { pool with
        stats :=
          { pool.stats with
            loanCount := pool.stats.loanCount + 1
            activeCount := pool.stats.activeCount + 1
            activeBytes := activeBytes
            highWatermarkBytes := max pool.stats.highWatermarkBytes activeBytes }
        events := pool.events ++ [.loaned buffer] })

/-- The end of `loan_frame` when nothing may be allocated. -/
def exhausted (pool : BufferPool) : BufferPool :=
  refreshAvailableStats
    { pool with stats := { pool.stats with exhaustedCount := pool.stats.exhaustedCount + 1 } }

/-- `self` is the address of the pool. -/
def loanFrame (pool : BufferPool) (self : Nat) (request : FrameRequest) :
    LoanedFrame × BufferPool :=
  match pool.available.find? fun candidate => request.size ≤ candidate.size with
  | some buffer => (pool.reuse buffer).lend self request buffer
  | none =>
      let allocatedSize := pool.allocationSize request.size
      if !pool.canAllocate allocatedSize then ({}, pool.exhausted)
      else
        let allocated := pool.allocate self allocatedSize
        allocated.2.lend self request allocated.1

def markDetached (pool : BufferPool) (buffer : SharedBuffer) : BufferPool :=
  refreshAvailableStats
    { pool with
      stats :=
        { pool.stats with
          detachedCount := pool.stats.detachedCount + 1
          activeCount :=
            if 0 < pool.stats.activeCount then pool.stats.activeCount - 1
            else pool.stats.activeCount
          activeBytes :=
            if buffer.size ≤ pool.stats.activeBytes then pool.stats.activeBytes - buffer.size
            else 0
          bytesOwned :=
            if buffer.size ≤ pool.stats.bytesOwned then pool.stats.bytesOwned - buffer.size
            else 0 }
      events := pool.events ++ [.detached buffer] }

def returnBuffer (pool : BufferPool) (buffer : SharedBuffer) : BufferPool :=
  refreshAvailableStats
    { pool with
      available := pool.available ++ [buffer]
      stats :=
        { pool.stats with
          releaseCount := pool.stats.releaseCount + 1
          activeCount :=
            if 0 < pool.stats.activeCount then pool.stats.activeCount - 1
            else pool.stats.activeCount
          activeBytes :=
            if buffer.size ≤ pool.stats.activeBytes then pool.stats.activeBytes - buffer.size
            else 0 }
      events := pool.events ++ [.returned buffer] }

end BufferPool

/-! ## Frames -/

/-- The pools by their addresses, and the frames in the order in which they were made. A
destroyed frame stays as an empty one. -/
structure BufferState where
  pools : Nat → BufferPool
  frames : List LoanedFrame := []

namespace BufferState

def start (configs : Nat → BufferPoolConfig) : BufferState :=
  { pools := fun pool => .create (configs pool) }

/-- `f` is called on the pool with the buffer, if the frame has both. -/
def withLoan (s : BufferState) (frame : LoanedFrame)
    (f : BufferPool → SharedBuffer → BufferPool) : BufferState :=
  match frame.pool, frame.view.buffer with
  | some pool, some buffer =>
      { s with pools := Function.update s.pools pool (f (s.pools pool) buffer) }
  | _, _ => s

def setFrame (s : BufferState) (index : Nat) (frame : LoanedFrame) : BufferState :=
  { s with frames := s.frames.set index frame }

def release (s : BufferState) (index : Nat) : BufferState :=
  match s.frames[index]? with
  | none => s
  | some frame => (s.withLoan frame BufferPool.returnBuffer).setFrame index {}

/-- The caller gets the view; the frame is left without it. -/
def detach (s : BufferState) (index : Nat) : FrameView × BufferState :=
  match s.frames[index]? with
  | none => ({}, s)
  | some frame =>
      (frame.view, (s.withLoan frame BufferPool.markDetached).setFrame index frame.movedFrom)

def loanFrame (s : BufferState) (pool : Nat) (request : FrameRequest) : LoanedFrame × BufferState :=
  let loaned := (s.pools pool).loanFrame pool request
  (loaned.1,
    { pools := Function.update s.pools pool loaned.2, frames := s.frames ++ [loaned.1] })

def moveConstruct (s : BufferState) (source : Nat) : BufferState :=
  match s.frames[source]? with
  | none => s
  | some other => { s with frames := s.frames.set source other.movedFrom ++ [other] }

def moveAssign (s : BufferState) (target source : Nat) : BufferState :=
  if target = source then s
  else
    match s.frames[target]?, s.frames[source]? with
    | some _, some other =>
        ((s.release target).setFrame target other).setFrame source other.movedFrom
    | _, _ => s

end BufferState

/-- What a program does with pools and frames. -/
inductive BufferOp where
  | loanFrame (pool : Nat) (request : FrameRequest)
  | construct
  | moveConstruct (source : Nat)
  | moveAssign (target source : Nat)
  | release (frame : Nat)
  | detach (frame : Nat)
  | destroy (frame : Nat)
deriving DecidableEq, Repr

def BufferOp.exec : BufferOp → BufferState → BufferState
  | loanFrame pool request, s => (s.loanFrame pool request).2
  | construct, s => { s with frames := s.frames ++ [{}] }
  | moveConstruct source, s => s.moveConstruct source
  | moveAssign target source, s => s.moveAssign target source
  | release frame, s => s.release frame
  | detach frame, s => (s.detach frame).2
  | destroy frame, s => s.release frame

def runBuffers (ops : List BufferOp) (s : BufferState) : BufferState :=
  ops.foldl (fun s op => op.exec s) s

end TopoExec
