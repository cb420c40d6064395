import TopoExec.Lib.Paired
import TopoExec.Runtime.EventRuntime
import TopoExec.Runtime.PoolRuns

/-! # The invocations of a batch

`execute_component` submits the invocations of a component to the pool of its lane, waits for
all of the futures and records the outcomes in the order of the invocations. Whatever the
workers do in the meantime, it records what the runtime records without a pool.
-/

namespace TopoExec

open Transition

variable {β : Type}

/-! ## Runs and their submissions -/

/-- The work that is submitted in a run. -/
def submittedWork (actions : List (PoolStep β)) : List (Nat → Except String β) :=
  actions.filterMap fun
    | .submit work _ _ => some work
    | _ => none

namespace PersistentWorkerPool

variable {pool before after : PersistentWorkerPool β}

/-- The futures of a batch, from the first one on. All are waited for before an exception is
thrown. -/
def drain (pool : PersistentWorkerPool β) (first count : Nat) :
    Option (Except String (List (WorkerInvocationOutcome β))) :=
  ((List.range count).mapM fun index => pool.future (first + index)).map fun results =>
    results.mapM id

theorem Moves.submitted {action : PoolStep β} (h : Moves before action after) :
    ∃ items, after.submitted = before.submitted ++ items ∧
      items.map WorkItem.work = submittedWork [action] := by
  cases h with
  | submit => exact ⟨_, rfl, rfl⟩
  | stop => exact ⟨[], (List.append_nil _).symm, rfl⟩
  | wakeup => exact ⟨[], (List.append_nil _).symm, rfl⟩
  | sleep => exact ⟨[], (List.append_nil _).symm, rfl⟩
  | exit => exact ⟨[], (List.append_nil _).symm, rfl⟩
  | take => exact ⟨[], (List.append_nil _).symm, rfl⟩
  | perform => exact ⟨[], (List.append_nil _).symm, rfl⟩

theorem submitted_of_run {actions : List (PoolStep β)}
    (hrun : Transition.run step before actions = some after) :
    ∃ items, after.submitted = before.submitted ++ items ∧
      items.map WorkItem.work = submittedWork actions := by
  induction actions generalizing before with
  | nil =>
      cases hrun
      exact ⟨[], (List.append_nil _).symm, rfl⟩
  | cons action actions ih =>
      obtain ⟨next, hfirst, hrest⟩ := run_cons_eq_some.mp hrun
      obtain ⟨first, hnext, hfirstWork⟩ := (step_moves hfirst).submitted
      obtain ⟨rest, hafter, hrestWork⟩ := ih hrest
      refine ⟨first ++ rest, by rw [hafter, hnext, List.append_assoc], ?_⟩
      rw [List.map_append, hfirstWork, hrestWork, submittedWork, submittedWork, submittedWork,
        ← List.filterMap_append, List.singleton_append]

theorem Accounted.length_submitted {workerCount : Nat} (h : Accounted workerCount pool) :
    pool.submitted.length = pool.nextEnqueueOrder := by
  have hlength := congrArg List.length h.orders
  rwa [List.length_map, List.length_range] at hlength

/-- The future of the work that was submitted as number `index` of a run. -/
theorem future_of_run {workerCount : Nat} {actions : List (PoolStep β)}
    (hbefore : Reached workerCount before)
    (hrun : Transition.run step before actions = some after) {index : Nat}
    {work : Nat → Except String β} (hwork : (submittedWork actions)[index]? = some work)
    {answer : Except String (WorkerInvocationOutcome β)}
    (hready : after.future (before.nextEnqueueOrder + index) = some answer) :
    ∃ workerId < max workerCount 1,
      answer = (work workerId).map fun outcome => { outcome, workerId } := by
  have hafter : Reached workerCount after := run_keeps Reached.keep hbefore hrun
  obtain ⟨items, hsubmitted, hitems⟩ := submitted_of_run hrun
  have hset : before.nextEnqueueOrder + index ∈ after.promises.map Prod.fst := by
    unfold future at hready
    obtain ⟨promise, hfind, -⟩ := Option.map_eq_some_iff.mp hready
    have horder : promise.1 = before.nextEnqueueOrder + index := by
      simpa using List.find?_some hfind
    rw [← horder]
    exact List.mem_map_of_mem (List.mem_of_find?_eq_some hfind)
  obtain ⟨item, hitem, workerId, hworkerId, hfuture⟩ := hafter.accounted.future_eq hset
  rw [hsubmitted, ← hbefore.accounted.length_submitted,
    List.getElem?_append_right (Nat.le_add_right _ _), Nat.add_sub_cancel_left] at hitem
  have hsame : item.work = work := by
    rw [← hitems, List.getElem?_map, hitem, Option.map_some] at hwork
    exact Option.some.inj hwork
  refine ⟨workerId, hworkerId, ?_⟩
  rw [hready] at hfuture
  rw [Option.some.inj hfuture, WorkItem.answer, hsame]

end PersistentWorkerPool

/-! ## The batch -/

namespace EventRuntime

open PersistentWorkerPool

variable (clock : Nat → Int) (env : Env) (options : SchedulerRunOptions)

/-- What `execute_worker_invocations` does with the outcomes that it has from the futures. -/
def recordBatch (component : EventRuntimeComponent) (commitEach : Bool)
    (outcomes : List (WorkerInvocationOutcome (Option String))) (s : RunState) :
    Bool × RunState :=
  let recorded := Loop.forEach
    (fun outcome => recordInvocationOutcome clock options component.id outcome.outcome commitEach)
    outcomes s
  if recorded.1 then
    if commitEach then recorded
    else commitPublications clock ("thread_pool component " ++ component.id) recorded.2
  else recorded

/-- The work of a batch: `run_invocation` catches what an execution throws, and returns a
status. -/
def batchWork (question count : Nat) : List (Nat → Except String (Option String)) :=
  (List.range count).map fun index _ => .ok (env.status question index)

theorem getElem?_batchWork {question count index : Nat} (hindex : index < count) :
    (batchWork env question count)[index]? = some fun _ => .ok (env.status question index) := by
  rw [batchWork, List.getElem?_map, List.getElem?_range hindex, Option.map_some]

/-- What is drained is what the environment says, and nothing was thrown. -/
theorem drain_outcomes {workerCount question count : Nat}
    {before after : PersistentWorkerPool (Option String)}
    {actions : List (PoolStep (Option String))} (hbefore : Reached workerCount before)
    (hrun : Transition.run step before actions = some after)
    (hwork : submittedWork actions = batchWork env question count)
    {drained : Except String (List (WorkerInvocationOutcome (Option String)))}
    (hdrained : after.drain before.nextEnqueueOrder count = some drained) :
    ∃ outcomes, drained = .ok outcomes ∧
      outcomes.map WorkerInvocationOutcome.outcome = (List.range count).map (env.status question) ∧
      ∀ outcome ∈ outcomes, outcome.workerId < max workerCount 1 := by
  obtain ⟨results, hresults, rfl⟩ := Option.map_eq_some_iff.mp hdrained
  have hpaired := Paired.mapM_eq_some.mp hresults
  -- the future of an item is the answer to its own question
  have hanswers : ∀ index result, index < count →
      after.future (before.nextEnqueueOrder + index) = some result →
      ∃ workerId < max workerCount 1,
        result = .ok { outcome := env.status question index, workerId := workerId } := by
    intro index result hindex hready
    obtain ⟨workerId, hworkerId, hanswer⟩ :=
      future_of_run hbefore hrun (hwork ▸ getElem?_batchWork env hindex) hready
    exact ⟨workerId, hworkerId, hanswer⟩
  have hindices : ∀ index ∈ List.range count, index < count := fun _ => List.mem_range.mp
  clear hresults hdrained
  generalize List.range count = indices at hpaired hindices ⊢
  -- by induction on the futures that are waited for, in their order
  induction hpaired with
  | nil => exact ⟨[], rfl, rfl, by simp⟩
  | @cons index result indices results hready _ ih =>
      obtain ⟨outcomes, hrest, hmap, hworkers⟩ :=
        ih fun other hother => hindices other (List.mem_cons_of_mem _ hother)
      obtain ⟨workerId, hworkerId, rfl⟩ :=
        hanswers index result (hindices index List.mem_cons_self) hready
      refine ⟨{ outcome := env.status question index, workerId := workerId } :: outcomes,
        ?_, ?_, ?_⟩
      · rw [List.mapM_cons, hrest]
        rfl
      · rw [List.map_cons, List.map_cons, hmap]
      · intro outcome houtcome
        rcases List.mem_cons.mp houtcome with rfl | houtcome
        · exact hworkerId
        · exact hworkers outcome houtcome

/-- At rest, nobody waits for a future. -/
theorem drain_isSome {first count : Nat} {pool : PersistentWorkerPool (Option String)}
    (hrest : AtRest pool) (hcount : first + count ≤ pool.nextEnqueueOrder) :
    ∃ drained, pool.drain first count = some drained := by
  have hfutures : ∀ indices : List Nat, (∀ index ∈ indices, index < count) →
      ∃ results, indices.mapM (fun index => pool.future (first + index)) = some results := by
    intro indices hindices
    induction indices with
    | nil => exact ⟨[], rfl⟩
    | cons index indices ih =>
        obtain ⟨results, hresults⟩ := ih fun other hother =>
          hindices other (List.mem_cons_of_mem _ hother)
        have hlt : first + index < pool.nextEnqueueOrder := by
          have hindex := hindices index List.mem_cons_self
          omega
        have hset := hrest.promises.symm.subset (List.mem_range.mpr hlt)
        obtain ⟨promise, -, -, hfuture⟩ := future_isSome hset
        refine ⟨promise.2 :: results, ?_⟩
        rw [List.mapM_cons, hresults, hfuture]
        rfl
  obtain ⟨results, hresults⟩ := hfutures (List.range count) fun _ => List.mem_range.mp
  exact ⟨results.mapM id, by rw [drain, hresults, Option.map_some]⟩

theorem executeWorkerInvocations_eq_recordBatch {component : EventRuntimeComponent} {count : Nat}
    {commitEach : Bool} {s : RunState} (hgoes : (s.ask env.stopRequested).1 = false)
    {outcomes : List (WorkerInvocationOutcome (Option String))}
    (houtcomes : outcomes.map WorkerInvocationOutcome.outcome =
      (List.range count).map (env.status (s.ask env.stopRequested).2.asked)) :
    executeWorkerInvocations clock env options component count commitEach s =
      recordBatch clock options component commitEach outcomes
        (runInvocation clock env component.id (s.ask env.stopRequested).2) := by
  have hloop : ∀ s' : RunState,
      Loop.forEach (fun index => recordInvocationOutcome clock options component.id
          (env.status (s.ask env.stopRequested).2.asked index) commitEach) (List.range count) s' =
        Loop.forEach (fun outcome : WorkerInvocationOutcome (Option String) =>
          recordInvocationOutcome clock options component.id outcome.outcome commitEach)
          outcomes s' := by
    intro s'
    rw [← Loop.forEach_map (env.status (s.ask env.stopRequested).2.asked)
      (fun status => recordInvocationOutcome clock options component.id status commitEach),
      ← houtcomes, Loop.forEach_map]
  unfold executeWorkerInvocations recordBatch
  dsimp only
  rw [if_neg (by simp [hgoes]), hloop]

/-- The batch on the pool. Whatever the workers did before and do now, as soon as the futures
are there the runtime records what it records without a pool; and the futures are there at the
latest when the pool is at rest. -/
theorem executeWorkerInvocations_pool {workerCount count : Nat}
    {before after : PersistentWorkerPool (Option String)}
    {earlier actions : List (PoolStep (Option String))} {component : EventRuntimeComponent}
    {commitEach : Bool} {s : RunState} (hgoes : (s.ask env.stopRequested).1 = false)
    (hbefore : Transition.run step (new workerCount) earlier = some before)
    (hrun : Transition.run step before actions = some after)
    (hwork : submittedWork actions = batchWork env (s.ask env.stopRequested).2.asked count) :
    (∀ drained, after.drain before.nextEnqueueOrder count = some drained →
      ∃ outcomes, drained = .ok outcomes ∧
        executeWorkerInvocations clock env options component count commitEach s =
          recordBatch clock options component commitEach outcomes
            (runInvocation clock env component.id (s.ask env.stopRequested).2)) ∧
      (Stuck step PoolStep.internal after →
        ∃ drained, after.drain before.nextEnqueueOrder count = some drained) := by
  have hreached := reached_of_run hbefore
  have hafter : Reached workerCount after := run_keeps Reached.keep hreached hrun
  constructor
  · intro drained hdrained
    obtain ⟨outcomes, rfl, houtcomes, -⟩ := drain_outcomes env hreached hrun hwork hdrained
    exact ⟨outcomes, rfl,
      executeWorkerInvocations_eq_recordBatch clock env options hgoes houtcomes⟩
  · intro hstuck
    obtain ⟨items, hsubmitted, hitems⟩ := submitted_of_run hrun
    refine drain_isSome (hafter.atRest hstuck) ?_
    have hlength := congrArg List.length hitems
    rw [hwork, batchWork, List.length_map, List.length_map, List.length_range] at hlength
    have hall := congrArg List.length hsubmitted
    rw [List.length_append, hafter.accounted.length_submitted,
      hreached.accounted.length_submitted] at hall
    omega

/-- The second invocation of a planner fails. -/
def lateEnv : Env where
  collectReadyInvocations := fun _ => ([], .ok [{}, {}])
  execute := fun _ => []
  status := fun _ index => if index = 1 then some "late" else none

def planner : EventRuntimeComponent where
  id := "planner"
  reentrant := true
  lane := { id := "pool", type := "thread_pool", maxThreads := 2 }

/-- Two workers, and the second invocation is done first. -/
def plannerActions : List (PoolStep (Option String)) :=
  [.submit (fun _ => .ok (lateEnv.status 1 0)) 2 "planner",
    .submit (fun _ => .ok (lateEnv.status 1 1)) 2 "planner", .look 0, .look 1, .perform 1,
    .wakeup (.one none), .perform 0]

def plannerStart : RunState where
  router := .ofEdges none []
  result := { stopReason := .tickBound }

theorem planner_executeWorkerInvocations_pool : ∃ outcomes,
    executeWorkerInvocations (fun n => n) lateEnv {} planner 2 false plannerStart =
      recordBatch (fun n => n) {} planner false outcomes
        (runInvocation (fun n => n) lateEnv planner.id
          (plannerStart.ask lateEnv.stopRequested).2) := by
  obtain ⟨after, hrun, drained, hdrained⟩ : ∃ after,
      Transition.run step (new 2) plannerActions = some after ∧
      ∃ drained, after.drain 0 2 = some drained := ⟨_, rfl, _, rfl⟩
  have hnew :
      Transition.run step (new 2) [] = some (new 2 : PersistentWorkerPool (Option String)) := rfl
  obtain ⟨outcomes, -, hsame⟩ :=
    (executeWorkerInvocations_pool (fun n => n) lateEnv {} rfl hnew hrun rfl).1 drained hdrained
  exact ⟨outcomes, hsame⟩

end EventRuntime

end TopoExec
