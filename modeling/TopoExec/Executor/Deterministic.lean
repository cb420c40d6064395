import TopoExec.Executor.State

/-! # The deterministic task executor

`DeterministicTaskExecutor` runs its tasks on the thread that calls `run_ready`. A task and
its completion callback are user code: while they run they may submit tasks and cancel the
pending ones. So the executor is a state machine whose steps are the calls and the
stretches of `run_ready` between two pieces of user code.

What user code does is decided by the environment: whether a work returns, fails with a
`std::exception` or throws something else, which leaves `run_ready`; whether it took longer
than the budget; whether a callback returns or throws; and what the cancel token says.
Tasks do not call `run_ready`. Health events and the getters are left out.

`pop_front` of an empty queue has no defined effect. It ends the run, with `undefined` set.
-/

namespace TopoExec

open Machine

/-! ## The executor -/

structure TaskExecutorConfig where
  maxInflight : Nat := 1
  queueCapacity : Nat := 0
  overflow : String := "reject"
  taskBudget : Int := 0
deriving DecidableEq, Repr

/-- A pending task, and whether it has a completion callback. -/
structure PendingTask where
  id : Nat
  hasCompletion : Bool
deriving DecidableEq, Repr

structure DeterministicTaskExecutor where
  config : TaskExecutorConfig
  nextTaskId : Nat := 1
  pending : List PendingTask := []
  metrics : TaskExecutorMetrics := {}
deriving DecidableEq, Repr

namespace DeterministicTaskExecutor

def new (config : TaskExecutorConfig) : DeterministicTaskExecutor where
  config := { config with maxInflight := normalizePositive config.maxInflight }

variable (executor : DeterministicTaskExecutor)

def admissionCapacity : Nat :=
  (executor.config.maxInflight + executor.config.queueCapacity) % sizeModulus

def dropOldestOnOverflow : Bool := dropOldestOverflow executor.config.overflow

def rejectSubmission (reason : String) : TaskSubmissionResult × DeterministicTaskExecutor :=
  ({ reason }, { executor with metrics.rejectedCount := executor.metrics.rejectedCount + 1 })

/-- The end of `submit`: the task goes to the end of the queue. -/
def enqueue (hasCompletion : Bool) : TaskSubmissionResult × DeterministicTaskExecutor :=
  let pending := executor.pending ++ [{ id := executor.nextTaskId, hasCompletion }]
  ({ accepted := true, taskId := executor.nextTaskId },
    { executor with
      nextTaskId := executor.nextTaskId + 1
      pending
      metrics.submittedCount := executor.metrics.submittedCount + 1
      metrics.queuedCount := executor.metrics.queuedCount + 1
      metrics.queueDepth := max executor.metrics.queueDepth pending.length
      metrics.maxInflightCount := max executor.metrics.maxInflightCount pending.length
      metrics.maxOutstandingCount := max executor.metrics.maxOutstandingCount pending.length })

/-- The oldest pending task makes room. -/
def dropOldest (pending : List PendingTask) : DeterministicTaskExecutor :=
  { executor with
    pending
    metrics.cancelledCount := executor.metrics.cancelledCount + 1 }

/-- `submit`; `none` if the front of an empty queue is taken off. -/
def submit (hasWork hasCompletion : Bool) :
    Option (TaskSubmissionResult × DeterministicTaskExecutor) :=
  if ¬ hasWork then some (executor.rejectSubmission "task work must not be empty")
  else if executor.admissionCapacity ≤ executor.pending.length then
    if executor.dropOldestOnOverflow then
      match executor.pending with
      | [] => none
      | _ :: pending => some ((executor.dropOldest pending).enqueue hasCompletion)
    else
      some (executor.rejectSubmission
        (if executor.config.overflow = "fail_fast" then "task executor capacity exceeded"
          else "task executor queue full"))
  else some (executor.enqueue hasCompletion)

def cancelPending : DeterministicTaskExecutor :=
  { executor with
    pending := []
    metrics.cancelledCount := executor.metrics.cancelledCount + executor.pending.length
    metrics.queueDepth := 0 }

/-- The branch of the loop for a requested cancellation. -/
def cancelRequested : DeterministicTaskExecutor :=
  cancelPending
    { executor with
      metrics.cancellationRequestedCount := executor.metrics.cancellationRequestedCount + 1
      metrics.cancellationObservedCount := executor.metrics.cancellationObservedCount + 1 }

/-- The front task leaves the queue. -/
def startTask (pending : List PendingTask) : DeterministicTaskExecutor :=
  { executor with pending, metrics.activeCount := 1 }

/-- After the work has returned or failed. -/
def finishTask (ok overBudget : Bool) : DeterministicTaskExecutor :=
  let metrics :=
    if ok then { executor.metrics with completedCount := executor.metrics.completedCount + 1 }
    else { executor.metrics with failedCount := executor.metrics.failedCount + 1 }
  let metrics :=
    if executor.config.taskBudget > 0 ∧ overBudget then
      { metrics with timeoutBudgetExceededCount := metrics.timeoutBudgetExceededCount + 1 }
    else metrics
  { executor with metrics := { metrics with activeCount := 0 } }

/-- The end of `run_ready`. -/
def finishRun : DeterministicTaskExecutor :=
  { executor with
    metrics.queueDepth := max executor.metrics.queueDepth executor.pending.length }

end DeterministicTaskExecutor

/-! ## Runs -/

/-- Where a call of `run_ready` is: at the head of its loop, in the work of a task, or in
the callback for a completion. -/
inductive RunReadyPhase (P : Type) where
  | looping
  | working (task : PendingTask)
  | notifying (completion : TaskCompletion P)
deriving DecidableEq, Repr

/-- A call of `run_ready`, with the completions that it has so far. -/
structure RunReadyCall (P : Type) where
  maxTasks : Nat
  completions : List (TaskCompletion P) := []
  phase : RunReadyPhase P := .looping
deriving DecidableEq, Repr

/-- The executor and the history of the run: the ids of the accepted tasks, the completions
that `run_ready` has returned, and the number of works that left `run_ready` with an
exception that is no `std::exception`. -/
structure DeterministicSystem (P : Type) where
  executor : DeterministicTaskExecutor
  call : Option (RunReadyCall P) := none
  undefined : Bool := false
  accepted : List Nat := []
  returned : List (TaskCompletion P) := []
  escaped : Nat := 0
deriving DecidableEq, Repr

inductive DeterministicStep (P : Type) where
  | submit (hasWork hasCompletion : Bool)
  | cancelPending
  | runReady (maxTasks : Nat)
  | loop (cancelRequested : Bool)
  | workReturns (payload : P) (overBudget : Bool)
  | workFails (error : String) (overBudget : Bool)
  | workEscapes
  | callbackReturns
  | callbackThrows
deriving DecidableEq, Repr

namespace DeterministicSystem

variable {P : Type}

def new (config : TaskExecutorConfig) : DeterministicSystem P where
  executor := .new config

/-- User code is running: outside of `run_ready`, in a work or in a callback. -/
def userCode (s : DeterministicSystem P) : Bool :=
  match s.call with
  | none => true
  | some call =>
      match call.phase with
      | .looping => false
      | .working _ | .notifying _ => true

def submit (s : DeterministicSystem P) (hasWork hasCompletion : Bool) : DeterministicSystem P :=
  match s.executor.submit hasWork hasCompletion with
  | none => { s with undefined := true }
  | some (result, executor) =>
      { s with
        executor
        accepted := s.accepted ++ if result.accepted then [result.taskId] else [] }

/-- `run_ready` returns. -/
def returnRun (s : DeterministicSystem P) (call : RunReadyCall P) : DeterministicSystem P :=
  { s with
    executor := s.executor.finishRun
    call := none
    returned := s.returned ++ call.completions }

/-- One round of the loop, up to the work of the task. -/
def loop (s : DeterministicSystem P) (call : RunReadyCall P) (cancelRequested : Bool) :
    DeterministicSystem P :=
  match s.executor.pending with
  | [] => s.returnRun call
  | task :: pending =>
      if call.maxTasks ≠ 0 ∧ call.maxTasks ≤ call.completions.length then s.returnRun call
      else if cancelRequested then
        returnRun { s with executor := s.executor.cancelRequested } call
      else
        { s with
          executor := s.executor.startTask pending
          call := some { call with phase := .working task } }

/-- The work is over; a callback is called, or the completion is stored at once. -/
def finishTask (s : DeterministicSystem P) (call : RunReadyCall P) (task : PendingTask)
    (completion : TaskCompletion P) (overBudget : Bool) : DeterministicSystem P :=
  { s with
    executor := s.executor.finishTask completion.ok overBudget
    call := some
      (if task.hasCompletion then { call with phase := .notifying completion }
       else { call with completions := call.completions ++ [completion], phase := .looping }) }

/-- One step; `none` if it cannot be taken. -/
def step (s : DeterministicSystem P) (action : DeterministicStep P) :
    Option (DeterministicSystem P) :=
  if s.undefined then none
  else
    match action, s.call with
    | .submit hasWork hasCompletion, _ =>
        if s.userCode then some (s.submit hasWork hasCompletion) else none
    | .cancelPending, _ =>
        if s.userCode then some { s with executor := s.executor.cancelPending } else none
    | .runReady maxTasks, none => some { s with call := some { maxTasks } }
    | .loop cancelRequested, some ⟨maxTasks, completions, .looping⟩ =>
        some (s.loop ⟨maxTasks, completions, .looping⟩ cancelRequested)
    | .workReturns payload overBudget, some ⟨maxTasks, completions, .working task⟩ =>
        some (s.finishTask ⟨maxTasks, completions, .working task⟩ task
          { taskId := task.id, ok := true, payload := some payload } overBudget)
    | .workFails error overBudget, some ⟨maxTasks, completions, .working task⟩ =>
        some (s.finishTask ⟨maxTasks, completions, .working task⟩ task
          { taskId := task.id, ok := false, error } overBudget)
    | .workEscapes, some ⟨_, _, .working _⟩ =>
        some { s with call := none, escaped := s.escaped + 1 }
    | .callbackReturns, some ⟨maxTasks, completions, .notifying completion⟩ =>
        some { s with call := some ⟨maxTasks, completions ++ [completion], .looping⟩ }
    | .callbackThrows, some ⟨_, _, .notifying _⟩ => some { s with call := none }
    | _, _ => none

def run (s : DeterministicSystem P) : List (DeterministicStep P) → Option (DeterministicSystem P)
  | [] => some s
  | action :: actions => do (← s.step action).run actions

end DeterministicSystem

end TopoExec
