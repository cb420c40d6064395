import Mathlib.Data.String.Basic
import TopoExec.Graph.Spec
import TopoExec.Lib.OrderedMap
import TopoExec.Runtime.Runner

/-! # Config snapshots and their transactions

`ConfigSnapshotStore` keeps a current config for every component, and the updates that
wait for the next epoch boundary. `applyConfigTransaction` is what `EventRuntime::run`
does there: copy the pending updates, validate all of them, apply all of them, and
commit; or undo what was applied and discard the updates.

The hooks `validate_config` and `apply_config` are user code, and other threads may
stage updates at any time. A `ConfigEnv` says how the hooks of one transaction end and
which updates are staged between any two steps of the transaction. The calls of hooks
and the commits are recorded in `events`.

`graph_config`, the time stamps and the trace events are left out.
-/

namespace TopoExec

/-! ## The store -/

structure ConfigTransactionInfo where
  transactionId : Nat := 0
  version : Nat := 0
  epoch : Nat := 0
  appliedComponents : List String := []
deriving DecidableEq, Repr

structure ConfigSnapshotStoreMetrics where
  epoch : Nat := 0
  version : Nat := 0
  lastTransactionId : Nat := 0
  componentConfigCount : Nat := 0
  stagedUpdateCount : Nat := 0
  committedUpdateCount : Nat := 0
  immediateUpdateCount : Nat := 0
  rejectedUpdateCount : Nat := 0
  rolledBackUpdateCount : Nat := 0
  snapshotReadCount : Nat := 0
deriving DecidableEq, Repr

structure ConfigSnapshotUpdateResult where
  accepted : Bool := false
  reason : String := ""
  transactionId : Nat := 0
deriving DecidableEq, Repr

structure ConfigSnapshotStore where
  componentConfigs : OrderedMap String ConfigView := .empty
  pendingComponentConfigs : OrderedMap String ConfigView := .empty
  nextTransactionId : Nat := 1
  pendingTransactionId : Nat := 0
  lastTransaction : ConfigTransactionInfo := {}
  metrics : ConfigSnapshotStoreMetrics := {}
deriving DecidableEq

namespace ConfigSnapshotStore

def setComponentConfig (store : ConfigSnapshotStore) (componentId : String) (config : ConfigView) :
    ConfigSnapshotStore :=
  let configs := store.componentConfigs.insert componentId config
  { store with
    componentConfigs := configs
    metrics.componentConfigCount := configs.size }

/-- The current config of a component; reading it is counted. -/
def componentConfig (store : ConfigSnapshotStore) (componentId : String) :
    ConfigView × ConfigSnapshotStore :=
  ((store.componentConfigs.find componentId).getD {},
    { store with metrics.snapshotReadCount := store.metrics.snapshotReadCount + 1 })

def stageComponentConfigUpdate (store : ConfigSnapshotStore) (componentId : String)
    (config : ConfigView) (applyOnEpochBoundary : Bool) :
    ConfigSnapshotUpdateResult × ConfigSnapshotStore :=
  if componentId = "" then
    ({ reason := "component id must not be empty" },
      { store with metrics.rejectedUpdateCount := store.metrics.rejectedUpdateCount + 1 })
  else if applyOnEpochBoundary then
    let opened := store.pendingTransactionId = 0
    let transactionId := if opened then store.nextTransactionId else store.pendingTransactionId
    ({ accepted := true, transactionId := transactionId },
      { store with
        pendingTransactionId := transactionId
        nextTransactionId :=
          if opened then store.nextTransactionId + 1 else store.nextTransactionId
        pendingComponentConfigs := store.pendingComponentConfigs.insert componentId config
        metrics.stagedUpdateCount := store.metrics.stagedUpdateCount + 1 })
  else
    let configs := store.componentConfigs.insert componentId config
    ({ accepted := true, transactionId := store.nextTransactionId },
      { store with
        componentConfigs := configs
        nextTransactionId := store.nextTransactionId + 1
        lastTransaction :=
          { transactionId := store.nextTransactionId
            version := store.metrics.version + 1
            epoch := store.metrics.epoch
            appliedComponents := [componentId] }
        metrics :=
          { store.metrics with
            componentConfigCount := configs.size
            immediateUpdateCount := store.metrics.immediateUpdateCount + 1
            version := store.metrics.version + 1
            lastTransactionId := store.nextTransactionId } })

def rollbackPendingUpdates (store : ConfigSnapshotStore) : ConfigSnapshotStore :=
  let rolledBack := store.pendingComponentConfigs.size
  { store with
    pendingComponentConfigs := .empty
    pendingTransactionId := 0
    metrics.rolledBackUpdateCount := store.metrics.rolledBackUpdateCount + rolledBack
    metrics.rejectedUpdateCount := store.metrics.rejectedUpdateCount + rolledBack }

/-- Everything that is pending becomes current. -/
def commitEpochBoundary (store : ConfigSnapshotStore) : ConfigSnapshotStore :=
  let pending := store.pendingComponentConfigs
  let configs := store.componentConfigs.insertAll pending.entries
  let counted :=
    { store.metrics with
      epoch := store.metrics.epoch + 1
      committedUpdateCount := store.metrics.committedUpdateCount + pending.size
      componentConfigCount := configs.size }
  if pending.size = 0 then
    { store with
      componentConfigs := configs, pendingComponentConfigs := .empty, metrics := counted }
  else
    { store with
      componentConfigs := configs
      pendingComponentConfigs := .empty
      pendingTransactionId := 0
      lastTransaction :=
        { transactionId := store.pendingTransactionId
          version := store.metrics.version + 1
          epoch := counted.epoch
          appliedComponents := pending.entries.map Prod.fst }
      metrics :=
        { counted with
          version := store.metrics.version + 1
          lastTransactionId := store.pendingTransactionId } }

/-- Updates for the next epoch boundary, in the order in which they are staged. -/
def stageAll (store : ConfigSnapshotStore) (updates : List (String × ConfigView)) :
    ConfigSnapshotStore :=
  updates.foldl (fun store update =>
    (store.stageComponentConfigUpdate update.1 update.2 true).2) store

end ConfigSnapshotStore

/-! ## Hooks and their interleavings -/

inductive ConfigHook where
  | validateConfig
  | applyConfig
deriving DecidableEq, Repr

/-- How one call of a hook ends, and the updates that are staged, by the hook or by
another thread, from its begin to the next step of the transaction. -/
structure ConfigHookRun where
  answer : HookAnswer := .ok
  staged : List (String × ConfigView) := []
deriving DecidableEq, Repr

/-- The surroundings of one transaction: the ids of the components of the runtime, the
updates that are staged right after the pending ones have been copied, and the calls of
hooks in their order. -/
structure ConfigEnv where
  components : List String := []
  afterCopy : List (String × ConfigView) := []
  hook : Nat → ConfigHookRun := fun _ => {}

/-- Events carry the number of their transaction. -/
inductive ConfigEvent where
  | called (transaction : Nat) (hook : ConfigHook) (component : String) (config : ConfigView)
      (answer : HookAnswer)
  | committed (transaction : Nat) (configs : List (String × ConfigView))
deriving DecidableEq, Repr

/-- `errors` are the ones that the last transaction adds to the result of the run, and
`hookCalls` counts its calls of hooks. -/
structure ConfigState where
  store : ConfigSnapshotStore := {}
  errors : List String := []
  transactions : Nat := 0
  hookCalls : Nat := 0
  events : List ConfigEvent := []
deriving DecidableEq

namespace ConfigState

def beginTransaction (s : ConfigState) : ConfigState :=
  { s with errors := [], transactions := s.transactions + 1, hookCalls := 0 }

def stageAll (s : ConfigState) (updates : List (String × ConfigView)) : ConfigState :=
  { s with store := s.store.stageAll updates }

def call (s : ConfigState) (env : ConfigEnv) (hook : ConfigHook) (componentId : String)
    (config : ConfigView) : HookAnswer × ConfigState :=
  let hookRun := env.hook s.hookCalls
  (hookRun.answer,
    { s.stageAll hookRun.staged with
      hookCalls := s.hookCalls + 1
      events := s.events ++ [.called s.transactions hook componentId config hookRun.answer] })

def report (s : ConfigState) (message : String) : ConfigState :=
  { s with errors := s.errors ++ [message] }

def rollback (s : ConfigState) : ConfigState :=
  { s with store := s.store.rollbackPendingUpdates }

def commit (s : ConfigState) : ConfigState :=
  { s with
    store := s.store.commitEpochBoundary
    events := s.events ++ [.committed s.transactions s.store.pendingComponentConfigs.entries] }

end ConfigState

/-! ## The transaction -/

/-- How a transaction ends; after `failed` the run returns, `threw` leaves the run. -/
inductive ConfigOutcome where
  | applied
  | failed
  | threw (what : String)
deriving DecidableEq, Repr

section

variable (env : ConfigEnv)

/-- The first loop. It collects the configs that are current. -/
def validateConfigs : List (String × ConfigView) → OrderedMap String ConfigView → ConfigState →
    Except ConfigOutcome (OrderedMap String ConfigView) × ConfigState
  | [], previousConfigs, s => (.ok previousConfigs, s)
  | (componentId, config) :: rest, previousConfigs, s =>
      if componentId ∉ env.components then
        (.error .failed, s.rollback.report
          ("config transaction references missing component " ++ componentId))
      else
        let validation := s.call env .validateConfig componentId config
        match validation.1 with
        | .throws what => (.error (.threw what), validation.2)
        | .error message =>
            (.error .failed, validation.2.rollback.report
              ("config transaction validation failed for component " ++ componentId ++ ": " ++
                message))
        | .ok =>
            let current := validation.2.store.componentConfig componentId
            validateConfigs rest (previousConfigs.insert componentId current.1)
              { validation.2 with store := current.2 }

/-- Apply the previous config of a component again. -/
def restoreConfig (previousConfigs : OrderedMap String ConfigView) (componentId : String)
    (s : ConfigState) : Option String × ConfigState :=
  let restored := s.call env .applyConfig componentId
    ((previousConfigs.find componentId).getD {})
  match restored.1 with
  | .throws what => (some what, restored.2)
  | .ok => (none, restored.2)
  | .error message =>
      (none, restored.2.report
        ("config transaction rollback failed for component " ++ componentId ++ ": " ++ message))

/-- The components in the order in which they are restored. -/
def restoreConfigs (previousConfigs : OrderedMap String ConfigView) :
    List String → ConfigState → Option String × ConfigState
  | [], s => (none, s)
  | componentId :: rest, s =>
      if componentId ∉ env.components then restoreConfigs previousConfigs rest s
      else
        let restored := restoreConfig env previousConfigs componentId s
        match restored.1 with
        | some _ => restored
        | none => restoreConfigs previousConfigs rest restored.2

/-- The second loop. `appliedComponents` have been applied, the last one last. -/
def applyConfigs (previousConfigs : OrderedMap String ConfigView) :
    List (String × ConfigView) → List String → ConfigState → ConfigOutcome × ConfigState
  | [], _, s => (.applied, s.commit)
  | (componentId, config) :: rest, appliedComponents, s =>
      let apply := s.call env .applyConfig componentId config
      match apply.1 with
      | .throws what => (.threw what, apply.2)
      | .ok => applyConfigs previousConfigs rest (appliedComponents ++ [componentId]) apply.2
      | .error message =>
          let failed := restoreConfig env previousConfigs componentId apply.2
          match failed.1 with
          | some what => (.threw what, failed.2)
          | none =>
              let restored :=
                restoreConfigs env previousConfigs appliedComponents.reverse failed.2
              match restored.1 with
              | some what => (.threw what, restored.2)
              | none =>
                  (.failed, restored.2.rollback.report
                    ("config transaction apply failed for component " ++ componentId ++ ": " ++
                      message))

def applyConfigTransaction (s : ConfigState) : ConfigOutcome × ConfigState :=
  let pending := s.store.pendingComponentConfigs.entries
  let s := s.beginTransaction.stageAll env.afterCopy
  if pending.isEmpty then (.applied, s.commit)
  else
    let validated := validateConfigs env pending .empty s
    match validated.1 with
    | .error outcome => (outcome, validated.2)
    | .ok previousConfigs => applyConfigs env previousConfigs pending [] validated.2

end

/-! ## Runs -/

/-- What happens to the store: an update between two transactions, or the transaction
at an epoch boundary. -/
inductive ConfigStep where
  | stage (componentId : String) (config : ConfigView) (applyOnEpochBoundary : Bool)
  | boundary (env : ConfigEnv)

def ConfigStep.exec : ConfigStep → ConfigState → ConfigState
  | .stage componentId config applyOnEpochBoundary, s =>
      { s with
        store := (s.store.stageComponentConfigUpdate componentId config applyOnEpochBoundary).2 }
  | .boundary env, s => (applyConfigTransaction env s).2

def runConfig (steps : List ConfigStep) (s : ConfigState) : ConfigState :=
  steps.foldl (fun s step => step.exec s) s

end TopoExec
