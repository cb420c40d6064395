import TopoExec.Lib.CondVar
import TopoExec.Lib.Selection
import TopoExec.Lib.Transition

/-! # The worker pool

The members of a `PersistentWorkerPool` change only in sections that hold its mutex: that of
`submit`, that of `stop_and_join`, and the one in which a worker looks at the queue. A step
is one of these sections, a wake-up of the condition variable, or the work of an item with its
promise. The caller and the workers take their steps in any order. A notification is a step
of its own, some time after the section that calls for it.

What the work of an item returns on a worker, or the text of what it throws, is part of the
item. The name of the threads is left out.
-/

namespace TopoExec

open Selection

variable {β : Type}

structure WorkerInvocationOutcome (β : Type) where
  outcome : β
  workerId : Nat := 0
deriving DecidableEq, Repr

structure WorkItem (β : Type) where
  work : Nat → Except String β
  priorityRank : Int := 2
  enqueueOrder : Nat := 0
  componentId : String := ""

namespace WorkItem

/-- The comparison of the items in the queue. -/
def lt (lhs rhs : WorkItem β) : Bool :=
  if lhs.priorityRank ≠ rhs.priorityRank then lhs.priorityRank > rhs.priorityRank
  else if lhs.enqueueOrder ≠ rhs.enqueueOrder then lhs.enqueueOrder < rhs.enqueueOrder
  else lhs.componentId < rhs.componentId

/-- What goes into the promise of the item. -/
def answer (item : WorkItem β) (workerId : Nat) : Except String (WorkerInvocationOutcome β) :=
  (item.work workerId).map fun outcome => { outcome, workerId }

end WorkItem

/-- Where a worker is in its loop; `waiting` is the call of `cv_.wait`. -/
inductive PoolWorker (β : Type) where
  | waiting
  | running (item : WorkItem β)
  | exited

namespace PoolWorker

def isWaiting : PoolWorker β → Bool
  | waiting => true
  | _ => false

def item? : PoolWorker β → Option (WorkItem β)
  | running item => some item
  | _ => none

end PoolWorker

/-- An item that a worker has taken, with the number of items that were submitted by then. -/
structure TakenItem (β : Type) where
  item : WorkItem β
  known : Nat

/-- The pool with the promises that are set, by the enqueue order of the item, and the
history of the run: what was submitted and what was taken. -/
structure PersistentWorkerPool (β : Type) where
  workers : List (PoolWorker β)
  queue : List (WorkItem β) := []
  nextEnqueueOrder : Nat := 0
  cv : CondVar := {}
  stopRequested : Bool := false
  promises : List (Nat × Except String (WorkerInvocationOutcome β)) := []
  submitted : List (WorkItem β) := []
  taken : List (TakenItem β) := []

inductive PoolStep (β : Type) where
  | submit (work : Nat → Except String β) (priorityRank : Int) (componentId : String)
  | stop
  | wakeup (signal : CondVar.Wakeup)
  | look (workerId : Nat)
  | perform (workerId : Nat)

/-- What happens without the caller and without a spurious wake-up. -/
def PoolStep.internal : PoolStep β → Prop
  | .wakeup signal => signal.notifies = true
  | .look _ => True
  | .perform _ => True
  | _ => False

namespace PersistentWorkerPool

def new (workerCount : Nat) : PersistentWorkerPool β where
  workers := List.replicate (max workerCount 1) .waiting

variable (pool : PersistentWorkerPool β)

def submit (work : Nat → Except String β) (priorityRank : Int) (componentId : String) :
    PersistentWorkerPool β :=
  let item : WorkItem β :=
    { work, priorityRank, enqueueOrder := pool.nextEnqueueOrder, componentId }
  { pool with
    queue := pool.queue ++ [item]
    nextEnqueueOrder := pool.nextEnqueueOrder + 1
    cv := pool.cv.oweOne
    submitted := pool.submitted ++ [item] }

/-- The first section of `stop_and_join`. -/
def stop : PersistentWorkerPool β :=
  { pool with stopRequested := true, cv := pool.cv.oweAll }

/-- The section of a worker that is awake: it waits, leaves the loop or takes an item. -/
def look (workerId : Nat) : PersistentWorkerPool β :=
  if ¬ (pool.stopRequested || !pool.queue.isEmpty) then
    { pool with cv := pool.cv.wait workerId }
  else if pool.stopRequested && pool.queue.isEmpty then
    { pool with workers := pool.workers.set workerId .exited }
  else
    match takeMin WorkItem.lt pool.queue with
    | none => pool
    | some (item, queue) =>
        { pool with
          workers := pool.workers.set workerId (.running item)
          queue
          taken := pool.taken ++ [{ item, known := pool.nextEnqueueOrder }] }

/-- The work of an item, with its promise. -/
def perform (workerId : Nat) (item : WorkItem β) : PersistentWorkerPool β :=
  { pool with
    workers := pool.workers.set workerId .waiting
    promises := pool.promises ++ [(item.enqueueOrder, item.answer workerId)] }

/-- One step; `none` if it cannot be taken. `stop_and_join` is called by the destructor, and
nothing is submitted to a pool that is being destroyed. -/
def step : PoolStep β → Option (PersistentWorkerPool β)
  | .submit work priorityRank componentId =>
      if pool.stopRequested then none else some (pool.submit work priorityRank componentId)
  | .stop => some pool.stop
  | .wakeup signal => (pool.cv.wakeup signal).map fun cv => { pool with cv }
  | .look workerId =>
      match pool.workers[workerId]? with
      | some .waiting =>
          if workerId ∈ pool.cv.asleep then none else some (pool.look workerId)
      | _ => none
  | .perform workerId =>
      match pool.workers[workerId]? with
      | some (.running item) => some (pool.perform workerId item)
      | _ => none

/-- The value of a future that is ready. -/
def future (enqueueOrder : Nat) : Option (Except String (WorkerInvocationOutcome β)) :=
  (pool.promises.find? fun promise => promise.1 == enqueueOrder).map Prod.snd

/-- `stop_and_join` returns. -/
def joined : Prop := ∀ worker ∈ pool.workers, worker = .exited

end PersistentWorkerPool

end TopoExec
