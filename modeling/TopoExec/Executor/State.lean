import TopoExec.Lib.Machine

/-! # The threaded task executor

`ThreadedTaskExecutor` has a queue of pending tasks, a backlog of completions and worker
threads. Its members change only inside sections that hold the mutex, so the executor
with its threads is a state machine whose steps are these sections: `submit`,
`run_ready` and `cancel_pending`, the first section of `shutdown`, and the two sections
of a round of a worker. Callers and workers take their steps in any order.

What a task does is decided by the environment: a step of the worker says whether the
work returned a payload or threw, and whether it took longer than the budget. Work that
throws something else than a `std::exception` ends the process and is no step. The
completion callback, the condition variables (a thread that need not wait may still be
late), health events and the getters are left out.
-/

namespace TopoExec

open Machine

/-! ## Data -/

structure ThreadedTaskExecutorConfig where
  maxInflight : Nat := 1
  queueCapacity : Nat := 0
  overflow : String := "reject"
  taskBudget : Int := 0
  maxWorkers : Nat := 1
  shutdownPolicy : String := "drain"
deriving DecidableEq, Repr

structure TaskExecutorMetrics where
  submittedCount : Nat := 0
  queuedCount : Nat := 0
  activeCount : Nat := 0
  completedCount : Nat := 0
  cancelledCount : Nat := 0
  rejectedCount : Nat := 0
  failedCount : Nat := 0
  cancellationRequestedCount : Nat := 0
  cancellationObservedCount : Nat := 0
  timeoutBudgetExceededCount : Nat := 0
  maxInflightCount : Nat := 0
  maxOutstandingCount : Nat := 0
  queueDepth : Nat := 0
  completedBacklogDepth : Nat := 0
deriving DecidableEq, Repr

structure TaskSubmissionResult where
  accepted : Bool := false
  taskId : Nat := 0
  reason : String := ""
deriving DecidableEq, Repr

structure TaskCompletion (P : Type) where
  taskId : Nat := 0
  ok : Bool := false
  payload : Option P := none
  error : String := ""
deriving DecidableEq, Repr

def dropOldestOverflow (overflow : String) : Bool :=
  overflow == "drop_oldest" || overflow == "overwrite"

def cancelPendingShutdownPolicy (policy : String) : Bool :=
  policy == "cancel_pending" || policy == "cancel" || policy == "discard_pending"

def normalizePositive (value : Nat) : Nat := if value = 0 then 1 else value

def completionLimit (maxTasks available : Nat) : Nat :=
  if maxTasks = 0 then available else min maxTasks available

/-- The members of the executor; a pending task is its id. -/
structure ThreadedTaskExecutor (P : Type) where
  config : ThreadedTaskExecutorConfig
  nextTaskId : Nat := 1
  pending : List Nat := []
  completed : List (TaskCompletion P) := []
  /-- The threads in `workers_`. -/
  workers : Nat
  metrics : TaskExecutorMetrics := {}
  stopping : Bool := false
deriving DecidableEq, Repr

namespace ThreadedTaskExecutor

variable {P : Type}

def new (config : ThreadedTaskExecutorConfig) : ThreadedTaskExecutor P where
  config := { config with
    maxInflight := normalizePositive config.maxInflight
    maxWorkers := normalizePositive config.maxWorkers }
  workers := normalizePositive config.maxWorkers

variable (executor : ThreadedTaskExecutor P)

def admissionCapacityLocked : Nat :=
  (executor.config.maxInflight + executor.config.queueCapacity) % sizeModulus

def dropOldestOnOverflowLocked : Bool := dropOldestOverflow executor.config.overflow

def cancelPendingOnShutdownLocked : Bool :=
  cancelPendingShutdownPolicy executor.config.shutdownPolicy

def capacityRejectReasonLocked : String :=
  if executor.completed.length ≥ executor.admissionCapacityLocked then
    "task executor completed backlog full"
  else if executor.config.overflow = "fail_fast" then "task executor capacity exceeded"
  else "task executor queue full"

/-- Tasks that were accepted and whose completion was not fetched. -/
def outstanding : Nat :=
  executor.pending.length + executor.metrics.activeCount + executor.completed.length

/-! ## The sections -/

def rejectSubmissionLocked (reason : String) : TaskSubmissionResult × ThreadedTaskExecutor P :=
  ({ reason }, { executor with metrics.rejectedCount := executor.metrics.rejectedCount + 1 })

def cancelPendingLocked : ThreadedTaskExecutor P :=
  { executor with
    pending := []
    metrics.cancelledCount := executor.metrics.cancelledCount + executor.pending.length
    metrics.queueDepth := 0 }

/-- The task goes to the end of the queue. -/
def enqueue : TaskSubmissionResult × ThreadedTaskExecutor P :=
  let pending := executor.pending ++ [executor.nextTaskId]
  let inflight := pending.length + executor.metrics.activeCount
  ({ accepted := true, taskId := executor.nextTaskId },
    { executor with
      nextTaskId := executor.nextTaskId + 1
      pending
      metrics.submittedCount := executor.metrics.submittedCount + 1
      metrics.queuedCount := executor.metrics.queuedCount + 1
      metrics.queueDepth := pending.length
      metrics.completedBacklogDepth := executor.completed.length
      metrics.maxInflightCount := max executor.metrics.maxInflightCount inflight
      metrics.maxOutstandingCount :=
        max executor.metrics.maxOutstandingCount (inflight + executor.completed.length) })

/-- The oldest pending task makes room. -/
def dropOldest : ThreadedTaskExecutor P :=
  { executor with
    pending := executor.pending.tail
    metrics.cancelledCount := executor.metrics.cancelledCount + 1 }

def submit (hasWork : Bool) : TaskSubmissionResult × ThreadedTaskExecutor P :=
  if ¬ hasWork then executor.rejectSubmissionLocked "task work must not be empty"
  else if executor.stopping then executor.rejectSubmissionLocked "task executor is shutting down"
  else if executor.outstanding ≥ executor.admissionCapacityLocked then
    if executor.dropOldestOnOverflowLocked ∧ executor.pending ≠ [] then executor.dropOldest.enqueue
    else executor.rejectSubmissionLocked executor.capacityRejectReasonLocked
  else executor.enqueue

def runReady (maxTasks : Nat) (cancelRequested : Bool) :
    List (TaskCompletion P) × ThreadedTaskExecutor P :=
  let executor :=
    if cancelRequested then
      { executor with
        metrics.cancellationRequestedCount := executor.metrics.cancellationRequestedCount + 1
        metrics.cancellationObservedCount :=
          executor.metrics.cancellationObservedCount + 1 }.cancelPendingLocked
    else executor
  let count := completionLimit maxTasks executor.completed.length
  let completed := executor.completed.drop count
  (executor.completed.take count,
    { executor with
      completed
      metrics.queueDepth := executor.pending.length
      metrics.completedBacklogDepth := completed.length })

def cancelPending : Nat × ThreadedTaskExecutor P :=
  (executor.pending.length, executor.cancelPendingLocked)

/-- The first section of `shutdown`: the threads to join, none if another call has them. -/
def shutdownWorkers : Option Nat × ThreadedTaskExecutor P :=
  if executor.stopping ∧ executor.workers = 0 then (none, executor)
  else
    let executor := { executor with stopping := true }
    let executor :=
      if executor.cancelPendingOnShutdownLocked then executor.cancelPendingLocked else executor
    (some executor.workers, { executor with workers := 0 })

/-- A worker may leave its loop. -/
def mayExit : Bool :=
  executor.stopping && (executor.pending.isEmpty || executor.cancelPendingOnShutdownLocked)

/-- The first section of a round of a worker, up to the start of the oldest pending task. -/
def startTask : Option (Nat × ThreadedTaskExecutor P) :=
  if executor.mayExit then none
  else if executor.metrics.activeCount ≥ executor.config.maxInflight then none
  else
    match executor.pending with
    | [] => none
    | task :: pending =>
        let activeCount := executor.metrics.activeCount + 1
        let inflight := pending.length + activeCount
        some (task, { executor with
          pending
          metrics.activeCount := activeCount
          metrics.queueDepth := pending.length
          metrics.maxInflightCount := max executor.metrics.maxInflightCount inflight
          metrics.maxOutstandingCount :=
            max executor.metrics.maxOutstandingCount (inflight + executor.completed.length) })

/-- `execute_task`, with what the work did and whether it was over its budget. -/
def executeTask (task : Nat) (outcome : Except String P) (overBudget : Bool) :
    TaskCompletion P × ThreadedTaskExecutor P :=
  let completion : TaskCompletion P :=
    match outcome with
    | .ok payload => { taskId := task, ok := true, payload := some payload }
    | .error error => { taskId := task, ok := false, error }
  (completion,
    if executor.config.taskBudget > 0 ∧ overBudget then
      { executor with
        metrics.timeoutBudgetExceededCount := executor.metrics.timeoutBudgetExceededCount + 1 }
    else executor)

/-- The last section of a round of a worker. -/
def finishTask (completion : TaskCompletion P) : ThreadedTaskExecutor P :=
  let executor :=
    if completion.ok then
      { executor with metrics.completedCount := executor.metrics.completedCount + 1 }
    else { executor with metrics.failedCount := executor.metrics.failedCount + 1 }
  let activeCount :=
    if executor.metrics.activeCount > 0 then executor.metrics.activeCount - 1
    else executor.metrics.activeCount
  let completed := executor.completed ++ [completion]
  let inflight := executor.pending.length + activeCount
  { executor with
    completed
    metrics.activeCount := activeCount
    metrics.queueDepth := executor.pending.length
    metrics.completedBacklogDepth := completed.length
    metrics.maxOutstandingCount :=
      max executor.metrics.maxOutstandingCount (inflight + completed.length) }

end ThreadedTaskExecutor

/-! ## The executor with its threads -/

/-- Where a worker thread is. -/
inductive WorkerThread (P : Type) where
  | waiting
  | executing (task : Nat)
  | executed (completion : TaskCompletion P)
  | exited
deriving DecidableEq, Repr

/-- Why a pending task was cancelled. -/
inductive CancelCause where
  | overflow
  | explicit
  | shutdown
deriving DecidableEq, Repr

/-- The `shutdown` call that sets `stopping_`. -/
inductive ShutdownCall where
  | none
  | joining
  | returned
deriving DecidableEq, Repr

/-- The executor, its threads and the history of the run: the tasks in the order of their
submission, start and execution, the completions in the order of their arrival, those
fetched by `run_ready`, the cancelled tasks, and what was pending when the shutdown came. -/
structure ExecutorSystem (P : Type) where
  executor : ThreadedTaskExecutor P
  threads : List (WorkerThread P)
  shutdownCall : ShutdownCall := .none
  submitted : List Nat := []
  started : List Nat := []
  executions : List Nat := []
  finished : List (TaskCompletion P) := []
  fetched : List (TaskCompletion P) := []
  cancelled : List (Nat × CancelCause) := []
  pendingAtShutdown : List Nat := []
deriving DecidableEq, Repr

/-- A step: a section of a call or of a worker thread, or the return of `shutdown`. -/
inductive ExecutorStep (P : Type) where
  | submit (hasWork : Bool)
  | runReady (maxTasks : Nat) (cancelRequested : Bool)
  | cancelPending
  | shutdown
  | shutdownReturn
  | workerStart (thread : Nat)
  | workerExit (thread : Nat)
  | workerExecute (thread : Nat) (outcome : Except String P) (overBudget : Bool)
  | workerFinish (thread : Nat)

namespace ExecutorSystem

variable {P : Type}

def new (config : ThreadedTaskExecutorConfig) : ExecutorSystem P where
  executor := .new config
  threads := List.replicate (normalizePositive config.maxWorkers) .waiting

/-- The tasks that a cancellation takes off the queue. -/
def cancelAll (tasks : List Nat) (cause : CancelCause) : List (Nat × CancelCause) :=
  tasks.map fun task => (task, cause)

/-- One step; `none` if the thread cannot take it. -/
def step (s : ExecutorSystem P) : ExecutorStep P → Option (ExecutorSystem P)
  | .submit hasWork =>
      let (result, executor) := s.executor.submit hasWork
      -- a task dropped for this one stood in front of those that are still pending
      let dropped := if result.accepted then
        s.executor.pending.take (s.executor.pending.length + 1 - executor.pending.length) else []
      some { s with
        executor
        submitted := s.submitted ++ if result.accepted then [result.taskId] else []
        cancelled := s.cancelled ++ cancelAll dropped .overflow }
  | .runReady maxTasks cancelRequested =>
      let (completions, executor) := s.executor.runReady maxTasks cancelRequested
      some { s with
        executor
        fetched := s.fetched ++ completions
        cancelled := s.cancelled ++
          cancelAll (if cancelRequested then s.executor.pending else []) .explicit }
  | .cancelPending =>
      some { s with
        executor := s.executor.cancelPending.2
        cancelled := s.cancelled ++ cancelAll s.executor.pending .explicit }
  | .shutdown =>
      match s.executor.shutdownWorkers with
      | (none, executor) => some { s with executor }
      | (some _, executor) =>
          some { s with
            executor
            shutdownCall := .joining
            pendingAtShutdown := s.executor.pending
            cancelled := s.cancelled ++
              cancelAll
                (if s.executor.cancelPendingOnShutdownLocked then s.executor.pending else [])
                .shutdown }
  | .shutdownReturn =>
      if s.shutdownCall = .joining ∧ s.threads.all (fun thread => thread matches .exited) then
        some { s with shutdownCall := .returned }
      else none
  | .workerStart i =>
      match s.threads[i]?, s.executor.startTask with
      | some .waiting, some (task, executor) =>
          some { s with
            executor
            threads := s.threads.set i (.executing task)
            started := s.started ++ [task] }
      | _, _ => none
  | .workerExit i =>
      match s.threads[i]?, s.executor.mayExit with
      | some .waiting, true => some { s with threads := s.threads.set i .exited }
      | _, _ => none
  | .workerExecute i outcome overBudget =>
      match s.threads[i]? with
      | some (.executing task) =>
          let (completion, executor) := s.executor.executeTask task outcome overBudget
          some { s with
            executor
            threads := s.threads.set i (.executed completion)
            executions := s.executions ++ [task] }
      | _ => none
  | .workerFinish i =>
      match s.threads[i]? with
      | some (.executed completion) =>
          some { s with
            executor := s.executor.finishTask completion
            threads := s.threads.set i .waiting
            finished := s.finished ++ [completion] }
      | _ => none

/-- The states of the runs of an executor. -/
inductive Reachable (config : ThreadedTaskExecutorConfig) : ExecutorSystem P → Prop where
  | new : Reachable config (new config)
  | step {s s' : ExecutorSystem P} (action : ExecutorStep P) (h : Reachable config s)
      (hstep : s.step action = some s') : Reachable config s'

end ExecutorSystem

end TopoExec
