import TopoExec.Lib.Loop
import TopoExec.Channel.Stored
import TopoExec.Router.State
import TopoExec.Trigger.State
import TopoExec.Runtime.ExecutionOrder

/-! # The event runtime

`EventRuntime::run` with a publication router: the iterations, the epoch boundary
at both ends of each, the regions in execution order, composite loops, and the
three ways to execute a component (sequentially, on a worker pool one invocation
at a time, and on a worker pool all at once).

What the runtime cannot decide itself is answered by an `Env`: stop requests, the
clock, the trigger policies and the components. Every question has its own number,
so an answer may differ from all earlier ones. Several invocations that run at the
same time are one list of actions, in the order in which they take the locks of
the router and of the bus; an action is one call of either. Trigger policies and
components reach the bus through its reading operations only.

The runtime writes the bus into the trace of the router at the beginning of an
iteration, after the epoch boundary and before each trigger collection.
-/

namespace TopoExec

/-! ## Components and what they do -/

structure EventRuntimeComponent where
  id : String
  reentrant : Bool := false
  lane : SchedulerGroupConfig
deriving DecidableEq, Repr

structure LoopConvergenceReport where
  converged : Bool := false
  residual : Option Rat := none
  reason : String := ""
deriving DecidableEq, Repr

/-- One call that a component makes while it executes; `metadata` is that of the
invocation. -/
inductive ComponentAction where
  | publish (port : String) (payload : Option RuntimePayload) (metadata : InvocationMetadata)
      (eventTimestamp : Option EventTimestamp)
  | read (op : BusRead)
  | reportLoopConvergence (report : LoopConvergenceReport)

/-- What the runtime asks for; the argument numbers the questions. `status` is
the message of an error. -/
structure Env where
  stopRequested : Nat → Bool := fun _ => false
  cancelRequested : Nat → Bool := fun _ => false
  durationReached : Nat → Bool := fun _ => false
  stoppedDuringWallClockWait : Nat → Bool := fun _ => false
  configTransactionErrors : Nat → List String := fun _ => []
  collectReadyInvocations : Nat → List BusRead × Except String (List Invocation)
  execute : Nat → List ComponentAction
  status : Nat → Nat → Option String := fun _ _ => none
  loopBudgetSpent : Nat → Bool := fun _ => false

structure SchedulerRunOptions where
  tickIterations : Nat := 0
  runUntilIdle : Bool := false
  maxRecordedTickedTasks : Nat := 0
deriving DecidableEq, Repr

/-! ## The result -/

inductive SchedulerStopReason where
  | notStarted
  | tickBound
  | durationBound
  | idle
  | stopRequested
  | error
deriving DecidableEq, Repr

structure SchedulerRunResult where
  ok : Bool := true
  errors : List String := []
  stopReason : SchedulerStopReason := .notStarted
  iterations : Nat := 0
  tickCalls : Nat := 0
  tickedTasks : List String := []
  loopIterationCount : String → Nat := fun _ => 0
  loopConvergedCount : String → Nat := fun _ => 0
  loopBudgetOverrunCount : String → Nat := fun _ => 0
  loopMaxIterationHitCount : String → Nat := fun _ => 0
  loopErrorCount : String → Nat := fun _ => 0
  loopCancellationRequestedCount : String → Nat := fun _ => 0
  loopCancellationObservedCount : String → Nat := fun _ => 0
  loopOutputDiscardedCount : String → Nat := fun _ => 0
  loopLastResidual : String → Option Rat := fun _ => none
  loopStopReason : String → Option String := fun _ => none

/-- `++counts[id]`. -/
def increment (counts : String → Nat) (id : String) : String → Nat :=
  Function.update counts id (counts id + 1)

structure LoopConvergenceSnapshot where
  reported : Bool := false
  converged : Bool := false
  residual : Option Rat := none
  reason : String := ""
deriving DecidableEq, Repr

def LoopConvergenceSnapshot.record (snapshot : LoopConvergenceSnapshot)
    (report : LoopConvergenceReport) : LoopConvergenceSnapshot where
  reported := true
  converged := snapshot.converged || report.converged
  residual := report.residual.or snapshot.residual
  reason := if report.reason = "" then snapshot.reason else report.reason

/-- The variables of a run. `loopActive` says that `active_loop_convergence` points
to the snapshot, and `asked` counts the questions. -/
structure RunState where
  router : RuntimePublicationRouter
  result : SchedulerRunResult := {}
  componentInFlight : String → Nat := fun _ => 0
  convergence : LoopConvergenceSnapshot := {}
  loopActive : Bool := false
  asked : Nat := 0

namespace RunState

def ask {α : Type} (s : RunState) (question : Nat → α) : α × RunState :=
  (question s.asked, { s with asked := s.asked + 1 })

/-- Write the bus into the trace. -/
def reach (s : RunState) (point : RunPoint) : RunState :=
  { s with
    router :=
      { s.router with trace := s.router.trace ++ [.reached point s.router.channels] } }

def withRouter (s : RunState) (router : RuntimePublicationRouter) : RunState :=
  { s with router := router }

/-- The run ends with an error. -/
def fail (s : RunState) (message : String) : RunState :=
  { s with
    result.ok := false
    result.stopReason := .error
    result.errors := s.result.errors ++ [message] }

def stop (s : RunState) (reason : SchedulerStopReason) : RunState :=
  { s with result.stopReason := reason }

end RunState

/-! ## Policies of lanes and loops -/

def workerCountForLane (lane : SchedulerGroupConfig) : Nat :=
  if 0 < lane.maxThreads then lane.maxThreads.toNat else 1

def queueCapacityForLane (lane : SchedulerGroupConfig) (readyCount activeCapacity : Nat) : Nat :=
  if 0 < lane.queueCapacity then lane.queueCapacity.toNat else readyCount - activeCapacity

def laneOverflowDropsOldest (overflow : String) : Bool :=
  overflow = "drop_oldest" || overflow = "overwrite"

def laneOverflowRejectsNewest (overflow : String) : Bool :=
  overflow = "drop_newest" || overflow = "reject" || overflow = "reject_new" || overflow = "block"

def laneOverflowFailsFast (overflow : String) : Bool := overflow = "fail_fast"

def loopPolicyConvergedAfterIteration (policy : LoopPolicySpec) : Bool :=
  policy.convergence = "single_pass" || policy.convergence = "after_first_iteration" ||
    policy.convergence = "always"

def loopPolicyIsSolverIteration (policy : LoopPolicySpec) : Bool :=
  policy.type = "solver_iteration"

def effectivePartialSuccessPolicy (policy : LoopPolicySpec) : String :=
  if policy.partialSuccess ≠ "" then policy.partialSuccess
  else if loopPolicyIsSolverIteration policy then "discard_outputs" else "commit_outputs"

/-- `convergence_reason` after a loop iteration, if there is one. -/
def convergenceReason (policy : LoopPolicySpec) (snapshot : LoopConvergenceSnapshot) :
    Option String :=
  if loopPolicyConvergedAfterIteration policy then some policy.convergence
  else if snapshot.converged then
    some (if snapshot.reason = "" then "component_report" else snapshot.reason)
  else
    match snapshot.residual, policy.residualThreshold with
    | some residual, some threshold =>
        if residual ≤ threshold then some "residual_threshold" else none
    | _, _ => none

/-- Why a loop stopped. -/
inductive LoopStop where
  | converged (reason : String)
  | budgetOverrun
  | cancelled
  | maxIterations
deriving DecidableEq, Repr

def LoopStop.text : LoopStop → String
  | .converged reason => reason
  | .budgetOverrun => "budget_overrun"
  | .cancelled => "cancelled"
  | .maxIterations => "max_iterations"

def LoopStop.isConverged : LoopStop → Bool
  | .converged _ => true
  | _ => false

/-! ## The runtime -/

structure EventRuntime where
  compiledPlan : GraphCompiledPlan
  components : List EventRuntimeComponent

def publicationMetadataFor (componentId port : String) (metadata : InvocationMetadata) :
    InvocationMetadata :=
  { metadata with
    sourceComponent := componentId
    sourcePort := port
    transactionId := orElse metadata.transactionId metadata.correlationId }

namespace EventRuntime

/-- The worker count of a lane's pool; the lane of the last component wins. -/
def workerPool (runtime : EventRuntime) (laneId : String) : Option Nat :=
  match runtime.components.reverse.find? fun component => component.lane.id = laneId with
  | none => none
  | some component =>
      if component.lane.type = "thread_pool" then
        some (max (workerCountForLane component.lane) 1)
      else none

def activeCapacity (component : EventRuntimeComponent) (workerCount : Nat) : Nat :=
  if component.reentrant then workerCount else 1

/-- Lane admission: the invocations that are executed, or the error. -/
def admitInvocations (component : EventRuntimeComponent) (workerCount : Nat)
    (invocations : List Invocation) : Except String (List Invocation) :=
  let active := activeCapacity component workerCount
  let admissionCapacity :=
    active + queueCapacityForLane component.lane invocations.length active
  if invocations.length ≤ admissionCapacity then .ok invocations
  else if laneOverflowFailsFast component.lane.overflow then
    .error ("thread_pool lane " ++ component.lane.id ++ " queue capacity exceeded")
  else if laneOverflowDropsOldest component.lane.overflow then
    -- the oldest invocations go
    .ok (invocations.drop (invocations.length - admissionCapacity))
  else if laneOverflowRejectsNewest component.lane.overflow then
    -- the newest invocations go
    .ok (invocations.take admissionCapacity)
  else
    .error ("thread_pool lane " ++ component.lane.id ++ " has unsupported overflow " ++
      component.lane.overflow)

section

variable (clock : Nat → Int) (env : Env) (options : SchedulerRunOptions) (runtime : EventRuntime)

/-- One call of a component; `GraphContext::publish` prefixes the port with the
id of the component. -/
def perform (componentId : String) (s : RunState) : ComponentAction → RunState
  | .publish port payload metadata eventTimestamp =>
      s.withRouter (s.router.publishSharedFromWithMetadata (endpointOf componentId port) payload
        (publicationMetadataFor componentId port metadata) eventTimestamp).2
  | .read op => s.withRouter (s.router.useBus clock op.1)
  | .reportLoopConvergence report =>
      -- outside a loop nobody listens to the report
      if s.loopActive then { s with convergence := s.convergence.record report } else s

/-- Ask for what executing invocations do, and do it. -/
def runInvocation (componentId : String) (s : RunState) : RunState :=
  let actions := s.ask env.execute
  actions.1.foldl (perform clock componentId) actions.2

/-- Count a completed invocation. -/
def countTick (componentId : String) (s : RunState) : RunState :=
  { s with
    result.tickCalls := s.result.tickCalls + 1
    result.tickedTasks :=
      if options.maxRecordedTickedTasks = 0 ||
          s.result.tickedTasks.length < options.maxRecordedTickedTasks then
        s.result.tickedTasks ++ [componentId]
      else s.result.tickedTasks }

/-- `commit_immediate` with the error text that names the place. -/
def commitPublications (place : String) (s : RunState) : Bool × RunState :=
  let commit := s.router.commitImmediate clock
  if commit.1.accepted then (true, s.withRouter commit.2)
  else
    (false, (s.withRouter commit.2).fail
      ("immediate publication commit failed after " ++ place ++ ": " ++ commit.1.reason))

/-- `status` is the error of the invocation, if it failed. -/
def recordInvocationOutcome (componentId : String) (status : Option String)
    (commitEach : Bool) (s : RunState) : Bool × RunState :=
  match status with
  | some message => (false, s.fail ("component " ++ componentId ++ " failed: " ++ message))
  | none =>
      let committed :=
        if commitEach then commitPublications clock ("component " ++ componentId) s else (true, s)
      if committed.1 then (true, countTick options componentId committed.2) else committed

/-- One turn of `execute_sequential`. -/
def executeOne (component : EventRuntimeComponent) (s : RunState) : Bool × RunState :=
  if !component.reentrant && s.componentInFlight component.id ≠ 0 then
    (false, s.fail
      ("non-reentrant component " ++ component.id ++ " already has an in-flight invocation"))
  else
    let started := { s with componentInFlight := increment s.componentInFlight component.id }
    let finished := runInvocation clock env component.id started
    -- the guard counts out also where the component has failed
    let returned :=
      { finished with
        componentInFlight := Function.update finished.componentInFlight component.id
          (finished.componentInFlight component.id - 1) }
    recordInvocationOutcome clock options component.id (env.status s.asked 0) true returned

def executeSequential (component : EventRuntimeComponent) (invocations : List Invocation) :
    RunState → Bool × RunState :=
  Loop.forEach (fun _ => executeOne clock env options component) invocations

/-- `count` invocations on the workers of a pool. -/
def executeWorkerInvocations (component : EventRuntimeComponent) (count : Nat) (commitEach : Bool)
    (s : RunState) : Bool × RunState :=
  let stopped := s.ask env.stopRequested
  if stopped.1 then (false, stopped.2.stop .stopRequested)
  else
    -- the work of the whole batch is done before the first outcome is recorded
    let statuses := env.status stopped.2.asked
    let recorded := Loop.forEach
      (fun index => recordInvocationOutcome clock options component.id (statuses index) commitEach)
      (List.range count) (runInvocation clock env component.id stopped.2)
    if recorded.1 then
      if commitEach then recorded
      else commitPublications clock ("thread_pool component " ++ component.id) recorded.2
    else recorded

/-- The invocations of a component, on its lane. -/
def executeInvocations (component : EventRuntimeComponent) (invocations : List Invocation)
    (s : RunState) : Bool × RunState :=
  if component.lane.type ≠ "thread_pool" || invocations.isEmpty then
    executeSequential clock env options component invocations s
  else
    match runtime.workerPool component.lane.id with
    | none =>
        (false, s.fail ("thread_pool lane " ++ component.lane.id ++ " has no worker pool"))
    | some workerCount =>
        match admitInvocations component workerCount invocations with
        | .error message => (false, s.fail message)
        | .ok admitted =>
            -- batches of one, so that no two invocations of the component overlap
            if !component.reentrant then
              Loop.forEach
                (fun _ => executeWorkerInvocations clock env options component 1 true) admitted s
            else executeWorkerInvocations clock env options component admitted.length false s

def executeComponent (iteration : Nat) (componentId : String) (s : RunState) : Bool × RunState :=
  match runtime.components.find? fun component => component.id = componentId with
  | none => (true, s)
  | some component =>
      let collected := (s.reach (.collect iteration componentId)).ask env.collectReadyInvocations
      let s := collected.1.1.foldl (fun s op => s.withRouter (s.router.useBus clock op.1))
        collected.2
      match collected.1.2 with
      | .error message =>
          (false,
            { s with
              componentInFlight := Function.update s.componentInFlight componentId
                (s.componentInFlight componentId - 1) }.fail
              ("component " ++ componentId ++ " failed: " ++ message))
      | .ok invocations => executeInvocations clock env options runtime component invocations s

def executeComponents (iteration : Nat) : List String → RunState → Bool × RunState :=
  Loop.forEach (executeComponent clock env options runtime iteration)

/-! ## Composite loops -/

def beginLoopIteration (regionId : String) (s : RunState) : RunState :=
  { s with
    convergence := {}
    loopActive := true
    result.loopIterationCount := increment s.result.loopIterationCount regionId }

def endLoopIteration (regionId : String) (s : RunState) : RunState :=
  { s with
    loopActive := false
    result.loopLastResidual :=
      match s.convergence.residual with
      | none => s.result.loopLastResidual
      | some residual => Function.update s.result.loopLastResidual regionId (some residual) }

/-- A component of the loop failed or was stopped. -/
def loopFailed (regionId : String) (s : RunState) : RunState :=
  { s with
    loopActive := false
    result.loopErrorCount := increment s.result.loopErrorCount regionId
    result.loopStopReason :=
      Function.update s.result.loopStopReason regionId (some "component_error") }

/-- Record why a loop stopped. -/
def recordLoopStop (region : CompiledGraphRegion) (stop : LoopStop) (s : RunState) : RunState :=
  let result :=
    { s.result with
      loopStopReason := Function.update s.result.loopStopReason region.id (some stop.text) }
  match stop with
  | .converged _ =>
      { s with
        result :=
          { result with loopConvergedCount := increment result.loopConvergedCount region.id } }
  | .budgetOverrun =>
      { s with
        result :=
          { result with
            loopBudgetOverrunCount := increment result.loopBudgetOverrunCount region.id } }
  | .cancelled =>
      { s with
        result :=
          { result with
            stopReason := .stopRequested
            loopCancellationRequestedCount :=
              increment result.loopCancellationRequestedCount region.id
            loopCancellationObservedCount :=
              increment result.loopCancellationObservedCount region.id } }
  | .maxIterations =>
      { s with
        result :=
          if 0 < region.loopPolicy.maxIterations then
            { result with
              loopMaxIterationHitCount := increment result.loopMaxIterationHitCount region.id }
          else result }

/-- The loop over `loop_iteration`, with the iterations left; `none` means that
the run returns from inside. -/
def loopIterations (iteration : Nat) (region : CompiledGraphRegion) :
    Nat → Nat → RunState → Option LoopStop × RunState
  | 0, _, s => (some .maxIterations, recordLoopStop region .maxIterations s)
  | left + 1, loopIteration, s =>
      -- the first iteration does not look at the cancellation
      let cancelled := if 0 < loopIteration then s.ask env.cancelRequested else (false, s)
      if cancelled.1 then (some .cancelled, recordLoopStop region .cancelled cancelled.2)
      else
        let executed := executeComponents clock env options runtime iteration region.components
          (beginLoopIteration region.id cancelled.2)
        if !executed.1 then (none, loopFailed region.id executed.2)
        else
          let s := endLoopIteration region.id executed.2
          -- convergence comes before the budget: an iteration that converges too late has converged
          match convergenceReason region.loopPolicy s.convergence with
          | some reason => (some (.converged reason), recordLoopStop region (.converged reason) s)
          | none =>
              let spent :=
                if 0 < region.loopPolicy.budgetMs then s.ask env.loopBudgetSpent else (false, s)
              if spent.1 then (some .budgetOverrun, recordLoopStop region .budgetOverrun spent.2)
              else loopIterations iteration region left (loopIteration + 1) spent.2

def discardOutputs (regionId : String) (s : RunState) : RunState :=
  { s with
    router := s.router.discardCompositeRegionOutputs
    result.loopOutputDiscardedCount := increment s.result.loopOutputDiscardedCount regionId }

/-- The outputs of a composite region, after its loop stopped. -/
def finishCompositeRegion (region : CompiledGraphRegion) (stop : LoopStop) (s : RunState) :
    Bool × RunState :=
  let partialPolicy := effectivePartialSuccessPolicy region.loopPolicy
  let partialSolverStop := loopPolicyIsSolverIteration region.loopPolicy && !stop.isConverged
  -- only a solver that did not converge can have its outputs held back
  if partialSolverStop && partialPolicy = "fail_run" then
    (false, (discardOutputs region.id s).fail
      ("composite_loop " ++ region.id ++ " stopped without convergence: " ++ stop.text))
  else if !partialSolverStop || partialPolicy = "commit_outputs" then
    let commit := s.router.commitCompositeRegionOutputs clock
    if commit.1.accepted then (stop ≠ .cancelled, s.withRouter commit.2)
    else
      (false, (s.withRouter commit.2).fail
        ("composite region publication commit failed after region " ++ region.id ++ ": " ++
          commit.1.reason))
  else (stop ≠ .cancelled, discardOutputs region.id s)

def executeRegion (iteration : Nat) (region : CompiledGraphRegion) (s : RunState) :
    Bool × RunState :=
  match region.kind with
  | .component => executeComponents clock env options runtime iteration region.components s
  | .compositeLoop =>
      let maxIterations :=
        if 0 < region.loopPolicy.maxIterations then region.loopPolicy.maxIterations.toNat else 1
      let looped := loopIterations clock env options runtime iteration region maxIterations 0
        (s.withRouter (s.router.beginCompositeRegion region.components))
      match looped.1 with
      | none => (false, looped.2)
      | some stop => finishCompositeRegion clock region stop looped.2

/-! ## Iterations -/

def order : List CompiledGraphRegion :=
  executionOrder runtime.compiledPlan (runtime.components.map EventRuntimeComponent.id)

/-- The checks before an iteration begins; the reason to stop, if there is one. -/
def stopBeforeIteration (s : RunState) : Option SchedulerStopReason × RunState :=
  let stopped := s.ask env.stopRequested
  if stopped.1 then (some .stopRequested, stopped.2)
  else
    let duration := stopped.2.ask env.durationReached
    if duration.1 then (some .durationBound, duration.2)
    else
      let wait := duration.2.ask env.stoppedDuringWallClockWait
      if wait.1 then (some .stopRequested, wait.2) else (none, wait.2)

/-- The epoch boundary at the beginning of an iteration. -/
def beginIteration (iteration : Nat) (s : RunState) : Bool × RunState :=
  let config := (s.reach (.iterationBegin iteration)).ask env.configTransactionErrors
  if !config.1.isEmpty then
    (false,
      { config.2 with
        result.ok := false
        result.stopReason := .error
        result.errors := config.2.result.errors ++ config.1 })
  else
    let commit := config.2.router.beginEpoch clock
    if commit.1.accepted then (true, (config.2.withRouter commit.2).reach (.epochBegun iteration))
    else
      (false, (config.2.withRouter commit.2).fail
        ("epoch deferred publication commit failed: " ++ commit.1.reason))

/-- The epoch boundary at the end of an iteration. -/
def endIteration (s : RunState) : RunState :=
  { s with
    router := s.router.endEpoch
    result.iterations := s.result.iterations + 1 }

def executeRegions (iteration : Nat) (s : RunState) : Bool × RunState :=
  let executed := Loop.forEach (executeRegion clock env options runtime iteration) runtime.order s
  if executed.1 then (true, endIteration executed.2) else executed

def runIteration (iteration : Nat) (s : RunState) : Bool × RunState :=
  let begun := beginIteration clock env iteration s
  if begun.1 then executeRegions clock env options runtime iteration begun.2 else begun

/-- The loop over the iterations, with the iterations left. -/
def runIterations : Nat → Nat → RunState → RunState
  | 0, _, s => s
  | left + 1, iteration, s =>
      let stopped := stopBeforeIteration env s
      match stopped.1 with
      | some reason => stopped.2.stop reason
      | none =>
          let executed := runIteration clock env options runtime iteration stopped.2
          if !executed.1 then executed.2
          else if options.runUntilIdle &&
              executed.2.result.tickCalls = stopped.2.result.tickCalls then
            executed.2.stop .idle
          else runIterations left (iteration + 1) executed.2

def kDefaultRunUntilIdleIterationBound : Nat := 1000

def run (router : RuntimePublicationRouter) : RunState :=
  let iterations :=
    if options.tickIterations = 0 then
      if options.runUntilIdle then kDefaultRunUntilIdleIterationBound else 1
    else options.tickIterations
  runIterations clock env options runtime iterations 0
    { router := router, result := { stopReason := .tickBound } }

end

end EventRuntime

end TopoExec
