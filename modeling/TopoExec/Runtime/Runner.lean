import TopoExec.Graph.Validated
import TopoExec.Runtime.EventRuntime

/-! # The runtime runner

`RuntimeRunner::run`: start the components, restore and reset their state, run the
scheduler, take snapshots, deactivate the components and notify the observers. The
part from the start on is one `try` block whose handler deactivates the components
again.

Components and observers are user code, so their answers are given by a
`RunnerEnv`: for every hook of every component whether it succeeds, returns an error
status or throws a `std::exception`, and the same for each time an observer is
notified. `runtime.run` is given by its result, or by the exception that leaves it.
Every step of the runner returns the exception that leaves it, if any, and the
state; `calls` records the hooks in the order of their calls.

Metrics, trace events, live events and the contents of snapshots are left out.
-/

namespace TopoExec

/-! ## User code -/

/-- How a hook ends. -/
inductive HookAnswer where
  | ok
  | error (message : String)
  | throws (what : String)
deriving DecidableEq, Repr

inductive LifecycleHook where
  | configure
  | activate
  | restore
  | reset
  | snapshot
  | deactivate
deriving DecidableEq, Repr

/-- The hooks of one component; `create` is the exception of its factory.
`deactivate` may answer differently each time it is called, the other hooks are
called at most once. -/
structure ComponentHooks where
  create : Option String := none
  configure : HookAnswer := .ok
  activate : HookAnswer := .ok
  restore : HookAnswer := .ok
  reset : HookAnswer := .ok
  snapshot : HookAnswer := .ok
  deactivate : Nat → HookAnswer := fun _ => .ok

/-- How delivering a result to one observer ends: the number of its callbacks that
returned an error status with the first of them, and what its `status` counts, or an exception. -/
inductive ObserverAnswer where
  | delivered (failures : Nat) (firstFailure : String) (failureCount : Nat := 0)
      (droppedEventCount : Nat := 0)
  | throws (what : String)
deriving DecidableEq, Repr

/-- An observer answers each notification anew. -/
structure RunnerEnv where
  hooks : String → ComponentHooks := fun _ => {}
  observers : List (Nat → ObserverAnswer) := []
  scheduler : Except String SchedulerRunResult := .ok {}

inductive RuntimeRunMode where
  | validate
  | dryRun
  | run
deriving DecidableEq, Repr

/-- `restoreComponentStates` lists ids with the `component_type` of the snapshot. -/
structure RuntimeRunnerOptions where
  mode : RuntimeRunMode := .run
  restoreComponentStates : List (String × String) := []
  resetComponentIds : List String := []
  captureComponentStateSnapshots : Bool := false
deriving DecidableEq, Repr

/-! ## The state of a run -/

structure RuntimeError where
  phase : String
  componentId : String := ""
  lane : String := ""
  message : String
  code : String := ""
  fatal : Bool := true
deriving DecidableEq, Repr

/-- One call of a hook and how it ended. -/
structure LifecycleCall where
  hook : LifecycleHook
  component : String
  answer : HookAnswer
deriving DecidableEq, Repr

structure Instance where
  id : String
  configured : Bool := false
  started : Bool := false
deriving DecidableEq, Repr

/-- The fields of `RuntimeRunnerResult` that the lifecycle writes, `instances`, and
the history of the run. -/
structure RunnerState where
  ok : Bool := false
  runtimeErrors : List RuntimeError := []
  schedulerStopReason : SchedulerStopReason := .notStarted
  instantiatedComponents : Nat := 0
  configuredComponents : Nat := 0
  startedComponents : Nat := 0
  stoppedComponents : Nat := 0
  lifecycleRestoreCount : Nat := 0
  lifecycleRestoreFailureCount : Nat := 0
  lifecycleResetCount : Nat := 0
  lifecycleResetFailureCount : Nat := 0
  lifecycleSnapshotCount : Nat := 0
  lifecycleSnapshotFailureCount : Nat := 0
  observerFailureCount : Nat := 0
  observerDroppedEventCount : Nat := 0
  instances : List Instance := []
  calls : List LifecycleCall := []
  notifications : Nat := 0
deriving DecidableEq, Repr

namespace RunnerState

def called (s : RunnerState) (hook : LifecycleHook) (component : String) (answer : HookAnswer) :
    RunnerState :=
  { s with calls := s.calls ++ [⟨hook, component, answer⟩] }

def appendRuntimeError (s : RunnerState) (error : RuntimeError) : RunnerState :=
  { s with runtimeErrors := s.runtimeErrors ++ [error] }

/-- A lifecycle error before the scheduler has run. -/
def failStart (s : RunnerState) (error : RuntimeError) : RunnerState :=
  { s.appendRuntimeError error with ok := false, schedulerStopReason := .error }

def rememberInstance (s : RunnerState) (entry : Instance) : RunnerState :=
  { s with instances := s.instances ++ [entry] }

def hasFatalRuntimeError (s : RunnerState) : Bool := s.runtimeErrors.any RuntimeError.fatal

/-- The ids that a deactivation loop goes through. -/
def startedReversed (s : RunnerState) : List String :=
  ((s.instances.filter Instance.started).map Instance.id).reverse

/-- How often a component has been deactivated. -/
def deactivations (s : RunnerState) (component : String) : Nat :=
  s.calls.countP fun call => call.hook = .deactivate ∧ call.component = component

end RunnerState

/-! ## Phases -/

section

variable (env : RunnerEnv) (options : RuntimeRunnerOptions) (graph : GraphSpec)

/-- The loop that creates, configures and activates the components. An instance
whose hook throws is not remembered. -/
def startComponents : List ComponentNodeSpec → RunnerState → Option String × RunnerState
  | [], s => (none, s)
  | spec :: rest, s =>
      let hooks := env.hooks spec.id
      match hooks.create with
      | some what => (some what, s)
      | none =>
          let s := s.called .configure spec.id hooks.configure
          match hooks.configure with
          | .throws what => (some what, s)
          | .error message =>
              (none, (s.failStart
                { phase := "configure", componentId := spec.id, lane := spec.execution.lane
                  message := message, code := "component_configure" }).rememberInstance
                { id := spec.id })
          | .ok =>
              let s := s.called .activate spec.id hooks.activate
              match hooks.activate with
              | .throws what => (some what, s)
              | .error message =>
                  (none, (s.failStart
                    { phase := "activate", componentId := spec.id, lane := spec.execution.lane
                      message := message, code := "component_activate" }).rememberInstance
                    { id := spec.id, configured := true })
              | .ok =>
                  startComponents rest
                    (s.rememberInstance { id := spec.id, configured := true, started := true })

def countInstances (s : RunnerState) : RunnerState :=
  { s with
    instantiatedComponents := s.instances.length
    configuredComponents := s.instances.countP Instance.configured
    startedComponents := s.instances.countP Instance.started }

/-- A loop over hooks that only an exception leaves. -/
def forEachHook {α : Type} (body : α → RunnerState → Option String × RunnerState) :
    List α → RunnerState → Option String × RunnerState
  | [], s => (none, s)
  | a :: rest, s =>
      let result := body a s
      match result.1 with
      | some _ => result
      | none => forEachHook body rest result.2

/-- Deactivate one component. An error status fails the run only in the loop at its
normal end. -/
def deactivateComponent (failsRun : Bool) (id : String) (s : RunnerState) :
    Option String × RunnerState :=
  let answer := (env.hooks id).deactivate (s.deactivations id)
  let s := s.called .deactivate id answer
  match answer with
  | .throws what => (some what, s)
  | .ok => (none, { s with stoppedComponents := s.stoppedComponents + 1 })
  | .error message =>
      (none, { s.appendRuntimeError
          { phase := "deactivate", componentId := id, message := message
            code := "component_deactivate", fatal := false } with
        stoppedComponents := s.stoppedComponents + 1
        ok := if failsRun then false else s.ok })

def deactivateComponents (failsRun : Bool) (s : RunnerState) : Option String × RunnerState :=
  forEachHook (deactivateComponent env failsRun) s.startedReversed s

/-- `spec_for_id`, for an id whose instance has started. -/
def startedSpec (s : RunnerState) (id : String) : Option ComponentNodeSpec :=
  if s.instances.any fun entry => entry.id = id && entry.started then
    graph.components.find? fun spec => spec.id = id
  else none

def countRestore (s : RunnerState) : RunnerState :=
  { s with lifecycleRestoreCount := s.lifecycleRestoreCount + 1 }

/-- A failed restore of one component. -/
def failRestore (s : RunnerState) (id lane message : String) : RunnerState :=
  { s.failStart
      { phase := "restore", componentId := id, lane := lane, message := message
        code := "component_restore" } with
    lifecycleRestoreFailureCount := s.lifecycleRestoreFailureCount + 1 }

/-- One entry of `restore_component_states`. -/
def restoreComponent (entry : String × String) (s : RunnerState) : Option String × RunnerState :=
  match startedSpec graph s entry.1 with
  | none => (none, failRestore s entry.1 "" "component state restore target is not started")
  | some spec =>
      if entry.2 ≠ "" ∧ entry.2 ≠ spec.type then
        (none, failRestore s entry.1 spec.execution.lane ("component state type " ++ entry.2 ++
          " does not match graph type " ++ spec.type))
      else
        let answer := (env.hooks entry.1).restore
        let s := s.called .restore entry.1 answer
        match answer with
        | .throws what => (some what, s)
        | .ok => (none, countRestore s)
        | .error message => (none, failRestore s entry.1 spec.execution.lane message)

def countReset (s : RunnerState) : RunnerState :=
  { s with lifecycleResetCount := s.lifecycleResetCount + 1 }

/-- A failed reset of one component. -/
def failReset (s : RunnerState) (id lane message : String) : RunnerState :=
  { s.failStart
      { phase := "reset", componentId := id, lane := lane, message := message
        code := "component_reset" } with
    lifecycleResetFailureCount := s.lifecycleResetFailureCount + 1 }

/-- One id of `reset_component_ids`. -/
def resetComponent (id : String) (s : RunnerState) : Option String × RunnerState :=
  match startedSpec graph s id with
  | none => (none, failReset s id "" "component reset target is not started")
  | some spec =>
      let answer := (env.hooks id).reset
      let s := s.called .reset id answer
      match answer with
      | .throws what => (some what, s)
      | .ok => (none, countReset s)
      | .error message => (none, failReset s id spec.execution.lane message)

/-- Capture the state of one component. -/
def captureSnapshot (id : String) (s : RunnerState) : Option String × RunnerState :=
  let answer := (env.hooks id).snapshot
  let s := s.called .snapshot id answer
  match answer with
  | .throws what => (some what, s)
  | .ok => (none, { s with lifecycleSnapshotCount := s.lifecycleSnapshotCount + 1 })
  | .error message =>
      let lane := ((graph.components.find? fun spec => spec.id = id).map
        fun spec => spec.execution.lane).getD ""
      (none, { s.appendRuntimeError
          { phase := "snapshot", componentId := id, lane := lane, message := message
            code := "component_snapshot", fatal := false } with
        ok := false
        lifecycleSnapshotFailureCount := s.lifecycleSnapshotFailureCount + 1 })

/-- The observers in order, with the number of failed callbacks and the first. What the observers
before one that throws have counted stays counted. -/
def notifyEach (notification : Nat) : List (Nat → ObserverAnswer) → Nat → String → RunnerState →
    Except String (Nat × String) × RunnerState
  | [], failures, first, s => (.ok (failures, first), s)
  | observer :: rest, failures, first, s =>
      match observer notification with
      | .throws what => (.error what, s)
      | .delivered more firstMore failureCount droppedEventCount =>
          notifyEach notification rest (failures + more) (orElse first firstMore)
            { s with
              observerDroppedEventCount := s.observerDroppedEventCount + droppedEventCount
              observerFailureCount := s.observerFailureCount + failureCount }

/-- `notify_runtime_observers`, all that `finish_result` does to the lifecycle. -/
def notifyRuntimeObservers (s : RunnerState) : Option String × RunnerState :=
  match notifyEach s.notifications env.observers 0 ""
      { s with notifications := s.notifications + 1 } with
  | (.error what, s) => (some what, s)
  | (.ok (failures, first), s) =>
      if failures = 0 then (none, s)
      else
        (none, { s.appendRuntimeError
            { phase := "observer"
              message := "observer callback failure count: " ++ toString failures ++
                (if first = "" then "" else " (" ++ first ++ ")")
              code := "observer_failure", fatal := false } with
          observerFailureCount := s.observerFailureCount + failures })

/-- The text up to the first occurrence of another. -/
def textBefore (needle : List Char) : List Char → Option (List Char)
  | [] => if needle = [] then some [] else none
  | c :: rest =>
      if needle.isPrefixOf (c :: rest) then some []
      else (textBefore needle rest).map (c :: ·)

def componentIdFromLegacyError (message : String) : String :=
  if "component ".toList.isPrefixOf message.toList then
    String.ofList ((textBefore " failed:".toList
      (message.toList.drop "component ".toList.length)).getD [])
  else ""

def legacyError (message : String) : RuntimeError :=
  let componentId := componentIdFromLegacyError message
  { phase := if componentId = "" then "runtime" else "execute"
    componentId := componentId
    message := message
    code := if componentId = "" then "runtime" else "component_execute" }

def takeSchedulerResult (result : SchedulerRunResult) (s : RunnerState) : RunnerState :=
  { s with
    ok := result.ok
    schedulerStopReason := result.stopReason
    runtimeErrors := s.runtimeErrors ++ result.errors.map legacyError }

/-! ## The `try` block and its handler -/

/-- How the `try` block is left. -/
inductive BlockEnd where
  | threw (what : String)
  | returned
  | completed
deriving DecidableEq, Repr

/-- A phase whose exception leaves the block. -/
def andThen (phase : Option String × RunnerState) (next : RunnerState → BlockEnd × RunnerState) :
    BlockEnd × RunnerState :=
  match phase.1 with
  | some what => (.threw what, phase.2)
  | none => next phase.2

/-- Deactivate and return from inside the block. -/
def finishEarly (s : RunnerState) : BlockEnd × RunnerState :=
  andThen (deactivateComponents env false s) fun s =>
    andThen (notifyRuntimeObservers env s) fun s => (.returned, s)

/-- From the scheduler to the end of the block. -/
def runScheduler (s : RunnerState) : BlockEnd × RunnerState :=
  match env.scheduler with
  | .error what => (.threw what, s)
  | .ok result =>
      let s := takeSchedulerResult result s
      let captured :=
        if options.captureComponentStateSnapshots then
          forEachHook (captureSnapshot env graph)
            ((s.instances.filter Instance.started).map Instance.id) s
        else (none, s)
      andThen captured fun s =>
        andThen (deactivateComponents env true s) fun s => (.completed, s)

/-- The ids to reset without the repetitions that `reset_seen` leaves out. -/
def resetOnce : List String := options.resetComponentIds.reverse.dedup.reverse

def runBlock (s : RunnerState) : BlockEnd × RunnerState :=
  andThen (startComponents env graph.components s) fun s =>
    let s := countInstances s
    if s.hasFatalRuntimeError then finishEarly env s
    else
      andThen (forEachHook (restoreComponent env graph) options.restoreComponentStates s) fun s =>
        andThen (forEachHook (resetComponent env graph) (resetOnce options) s) fun s =>
          if s.hasFatalRuntimeError then finishEarly env s else runScheduler env options graph s

/-- The handler of the block. -/
def handleException (what : String) (s : RunnerState) : Option String × RunnerState :=
  let s := { s.appendRuntimeError
    { phase := "runtime", message := what, code := "exception" } with ok := false }
  let deactivated := deactivateComponents env false s
  match deactivated.1 with
  | some what => (some what, deactivated.2)
  | none => notifyRuntimeObservers env deactivated.2

/-- `RuntimeRunner::run` for a graph with the given validation result. -/
def RuntimeRunner.run (validation : GraphValidationResult) : Option String × RunnerState :=
  if validation.ok = false then
    notifyRuntimeObservers env
      { runtimeErrors := validation.errors.map fun error =>
          { phase := "validate", message := error, code := "validation" } }
  else
    match options.mode with
    | .validate => notifyRuntimeObservers env { ok := true }
    | .dryRun =>
        notifyRuntimeObservers env
          { ok := true
            schedulerStopReason := .tickBound
            instantiatedComponents := graph.components.length
            configuredComponents := graph.components.length
            startedComponents := graph.components.length
            stoppedComponents := graph.components.length }
    | .run =>
        match runBlock env options graph {} with
        | (.threw what, s) => handleException env what s
        | (.returned, s) => (none, s)
        | (.completed, s) => notifyRuntimeObservers env s

end

end TopoExec
