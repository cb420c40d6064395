import TopoExec.Executor.Accounts
import TopoExec.Lib.CondVar
import TopoExec.Lib.Transition

/-! # Who wakes whom in the task executor

`ThreadedTaskExecutor` has two condition variables: its workers sleep on `work_available_`,
and the callers of `wait_for_idle` on `idle_`. With them a worker that waits may be asleep, and
it looks at the queue only when it is awake. `run_ready`, `cancel_pending` and the last section
of a round send their notifications to `idle_` and, the first two, to the workers before they
give the lock back; the others come later.

Without the condition variables this is the executor of `ExecutorSystem` (`step_refines`). No
worker sleeps through its task or through the shutdown, so the threads come to rest with every
task finished or cancelled (`executor_comes_to_rest`). On `idle_` a notification can be missed:
a cancelling `run_ready` and a discarding shutdown send none (`nobody_sleeps_through_idle`).
-/

namespace TopoExec

open Threads CondVar

variable {P : Type}

namespace ThreadedTaskExecutor

variable (executor : ThreadedTaskExecutor P)

/-- What `wait_for_idle` waits for. -/
def isIdle : Bool := executor.pending.isEmpty && executor.metrics.activeCount == 0

/-- The number of the tasks that a worker may start. -/
def startable : Nat :=
  if executor.metrics.activeCount < executor.config.maxInflight then executor.pending.length else 0

end ThreadedTaskExecutor

structure MonitoredExecutor (P : Type) where
  system : ExecutorSystem P
  workAvailable : CondVar := {}
  idle : CondVar := {}

inductive MonitoredStep (P : Type) where
  | submit (hasWork : Bool)
  | runReady (maxTasks : Nat) (cancelRequested : Bool)
  | cancelPending
  | shutdown
  | shutdownReturn
  | wakeup (signal : CondVar.Wakeup)
  | look (thread : Nat)
  | execute (thread : Nat) (outcome : Except String P) (overBudget : Bool)
  | finish (thread : Nat)
  | waitForIdle (caller : Nat)
  | idleWakeup (caller : Nat)

/-- What happens without a caller and without a spurious wake-up. -/
def MonitoredStep.internal : MonitoredStep P → Prop
  | .wakeup signal => signal.notifies = true
  | .look _ => True
  | .execute _ _ _ => True
  | .finish _ => True
  | _ => False

namespace MonitoredExecutor

def new (config : ThreadedTaskExecutorConfig) : MonitoredExecutor P where
  system := .new config

variable (s : MonitoredExecutor P)

/-- The section of a worker that is awake: it leaves the loop, starts a task or goes to sleep. -/
def look (thread : Nat) : MonitoredExecutor P :=
  match s.system.step (.workerExit thread), s.system.step (.workerStart thread) with
  | some system, _ => { s with system }
  | none, some system => { s with system }
  | none, none => { s with workAvailable := s.workAvailable.wait thread }

/-- One step; `none` if it cannot be taken. A caller of `wait_for_idle` that is woken, by a
notification or by its timeout, looks again or returns. -/
def step : MonitoredStep P → Option (MonitoredExecutor P)
  | .submit hasWork =>
      (s.system.step (.submit hasWork)).map fun system =>
        { s with
          system
          workAvailable :=
            if (s.system.executor.submit hasWork).1.accepted then s.workAvailable.oweOne
            else s.workAvailable }
  | .runReady maxTasks cancelRequested =>
      (s.system.step (.runReady maxTasks cancelRequested)).map fun system =>
        { s with
          system
          workAvailable :=
            if cancelRequested then s.workAvailable.wakeAll else s.workAvailable }
  | .cancelPending =>
      (s.system.step .cancelPending).map fun system =>
        { s with
          system
          workAvailable := s.workAvailable.wakeAll
          idle := if system.executor.isIdle then s.idle.wakeAll else s.idle }
  | .shutdown =>
      (s.system.step .shutdown).map fun system =>
        { s with
          system
          workAvailable :=
            if s.system.executor.shutdownWorkers.1.isSome then s.workAvailable.oweAll
            else s.workAvailable }
  | .shutdownReturn => (s.system.step .shutdownReturn).map fun system => { s with system }
  | .wakeup signal =>
      (s.workAvailable.wakeup signal).map fun workAvailable => { s with workAvailable }
  | .look thread =>
      match s.system.threads[thread]? with
      | some .waiting => if thread ∈ s.workAvailable.asleep then none else some (s.look thread)
      | _ => none
  | .execute thread outcome overBudget =>
      (s.system.step (.workerExecute thread outcome overBudget)).map fun system =>
        { s with system }
  | .finish thread =>
      (s.system.step (.workerFinish thread)).map fun system =>
        { s with
          system
          workAvailable := s.workAvailable.oweAll
          idle := if system.executor.isIdle then s.idle.wakeAll else s.idle }
  | .waitForIdle caller =>
      some (if s.system.executor.isIdle then s else { s with idle := s.idle.wait caller })
  | .idleWakeup caller => (s.idle.wakeup (.spurious caller)).map fun idle => { s with idle }

variable {s} {s' : MonitoredExecutor P} {action : MonitoredStep P}

/-! ## What a step does -/

/-- The members that the workers look at have not changed. -/
structure SameMembers (system system' : ExecutorSystem P) : Prop where
  pending : system'.executor.pending = system.executor.pending
  activeCount : system'.executor.metrics.activeCount = system.executor.metrics.activeCount
  stopping : system'.executor.stopping = system.executor.stopping
  config : system'.executor.config = system.executor.config

inductive Acts (s : MonitoredExecutor P) : MonitoredStep P → MonitoredExecutor P → Prop where
  /-- A rejected submission, a `run_ready` that cancels nothing, a `shutdown` that another one
  is ahead of, or its return. -/
  | still {action : MonitoredStep P} {system : ExecutorSystem P} (hadded : ¬ action.internal)
      (hsame : SameMembers s.system system) (hthreads : system.threads = s.system.threads) :
      Acts s action { s with system }
  | accept {hasWork : Bool} {system : ExecutorSystem P}
      (hstopping : s.system.executor.stopping = false)
      (hlength : system.executor.pending.length ≤ s.system.executor.pending.length + 1)
      (hpending : system.executor.pending ≠ [])
      (hactive : system.executor.metrics.activeCount = s.system.executor.metrics.activeCount)
      (hstill : system.executor.stopping = false)
      (hconfig : system.executor.config = s.system.executor.config)
      (hthreads : system.threads = s.system.threads) :
      Acts s (.submit hasWork) { s with system, workAvailable := s.workAvailable.oweOne }
  | cancel {action : MonitoredStep P} {system : ExecutorSystem P} {idle : CondVar}
      (haction : (∃ maxTasks, action = .runReady maxTasks true ∧ idle = s.idle) ∨
        (action = .cancelPending ∧
          idle = if system.executor.isIdle then s.idle.wakeAll else s.idle))
      (hpending : system.executor.pending = [])
      (hactive : system.executor.metrics.activeCount = s.system.executor.metrics.activeCount)
      (hstopping : system.executor.stopping = s.system.executor.stopping)
      (hconfig : system.executor.config = s.system.executor.config)
      (hthreads : system.threads = s.system.threads) :
      Acts s action { system, workAvailable := s.workAvailable.wakeAll, idle }
  | shutdown {system : ExecutorSystem P}
      (hpending : system.executor.pending = s.system.executor.pending ∨
        (s.system.executor.cancelPendingOnShutdownLocked = true ∧ system.executor.pending = []))
      (hactive : system.executor.metrics.activeCount = s.system.executor.metrics.activeCount)
      (hconfig : system.executor.config = s.system.executor.config)
      (hthreads : system.threads = s.system.threads) :
      Acts s .shutdown { s with system, workAvailable := s.workAvailable.oweAll }
  | wakeup {signal : Wakeup} {cv : CondVar} (hwoken : Woken s.workAvailable signal cv) :
      Acts s (.wakeup signal) { s with workAvailable := cv }
  | sleep {i : Nat} (hthread : s.system.threads[i]? = some .waiting)
      (hawake : i ∉ s.workAvailable.asleep) (hexit : s.system.executor.mayExit = false)
      (hstart : s.system.executor.startable = 0) :
      Acts s (.look i) { s with workAvailable := s.workAvailable.wait i }
  | exit {i : Nat} {system : ExecutorSystem P} (hthread : s.system.threads[i]? = some .waiting)
      (hawake : i ∉ s.workAvailable.asleep) (hexit : s.system.executor.mayExit = true)
      (hsame : SameMembers s.system system)
      (hthreads : system.threads = s.system.threads.set i .exited) :
      Acts s (.look i) { s with system }
  | start {i task : Nat} {system : ExecutorSystem P}
      (hthread : s.system.threads[i]? = some .waiting) (hawake : i ∉ s.workAvailable.asleep)
      (hroom : s.system.executor.metrics.activeCount < s.system.executor.config.maxInflight)
      (hpending : s.system.executor.pending = task :: system.executor.pending)
      (hactive : system.executor.metrics.activeCount = s.system.executor.metrics.activeCount + 1)
      (hstopping : system.executor.stopping = s.system.executor.stopping)
      (hconfig : system.executor.config = s.system.executor.config)
      (hthreads : system.threads = s.system.threads.set i (.executing task)) :
      Acts s (.look i) { s with system }
  | execute {i task : Nat} {outcome : Except String P} {overBudget : Bool}
      {completion : TaskCompletion P} {system : ExecutorSystem P}
      (hthread : s.system.threads[i]? = some (.executing task))
      (hsame : SameMembers s.system system)
      (hthreads : system.threads = s.system.threads.set i (.executed completion)) :
      Acts s (.execute i outcome overBudget) { s with system }
  | finish {i : Nat} {completion : TaskCompletion P} {system : ExecutorSystem P}
      (hthread : s.system.threads[i]? = some (.executed completion))
      (hpending : system.executor.pending = s.system.executor.pending)
      (hactive :
        system.executor.metrics.activeCount = s.system.executor.metrics.activeCount - 1)
      (hstopping : system.executor.stopping = s.system.executor.stopping)
      (hconfig : system.executor.config = s.system.executor.config)
      (hthreads : system.threads = s.system.threads.set i .waiting) :
      Acts s (.finish i)
        { system, workAvailable := s.workAvailable.oweAll
          idle := if system.executor.isIdle then s.idle.wakeAll else s.idle }
  | waitForIdle {caller : Nat} (hidle : s.system.executor.isIdle = false) :
      Acts s (.waitForIdle caller) { s with idle := s.idle.wait caller }
  | idleWakeup {caller : Nat} {cv : CondVar} (hwoken : Woken s.idle (.spurious caller) cv) :
      Acts s (.idleWakeup caller) { s with idle := cv }

theorem SameMembers.refl (system : ExecutorSystem P) : SameMembers system system :=
  ⟨rfl, rfl, rfl, rfl⟩

open ThreadedTaskExecutor

/-- What a submission does to the executor and to those that sleep. -/
theorem submit_acts {hasWork : Bool} (h : s.step (.submit hasWork) = some s') :
    Acts s (.submit hasWork) s' := by
  simp only [step, Option.map_eq_some_iff] at h
  obtain ⟨system, hsystem, rfl⟩ := h
  simp only [ExecutorSystem.step, Option.some.injEq] at hsystem
  -- rejected, enqueued, or enqueued in the place of the oldest task
  rcases s.system.executor.submit_cases hasWork with
    ⟨reason, hsubmit⟩ | ⟨hstopping, -, hsubmit⟩ | ⟨hstopping, hpending, hsubmit⟩
  · rw [hsubmit] at hsystem ⊢
    rw [if_neg (by simp [rejectSubmissionLocked])]
    subst hsystem
    exact .still (fun h => h) ⟨rfl, rfl, rfl, rfl⟩ rfl
  · rw [hsubmit] at hsystem ⊢
    have haccepted : s.system.executor.enqueue.1.accepted = true := rfl
    rw [if_pos haccepted]
    subst hsystem
    exact .accept hstopping (by simp [enqueue]) (by simp [enqueue]) rfl hstopping rfl rfl
  · rw [hsubmit] at hsystem ⊢
    have haccepted : s.system.executor.dropOldest.enqueue.1.accepted = true := rfl
    rw [if_pos haccepted]
    subst hsystem
    exact .accept hstopping (by simp [enqueue, dropOldest]) (by simp [enqueue]) rfl hstopping rfl
      rfl

/-- What a shutdown does to the executor and to those that sleep. -/
theorem shutdown_acts (h : s.step .shutdown = some s') : Acts s .shutdown s' := by
  simp only [step, Option.map_eq_some_iff] at h
  obtain ⟨system, hsystem, rfl⟩ := h
  simp only [ExecutorSystem.step] at hsystem
  -- a second shutdown, a first one that drains, or a first one that discards
  rcases s.system.executor.shutdownWorkers_cases with
    hlate | ⟨-, ⟨hpolicy, hdrain⟩ | ⟨hpolicy, hdiscard⟩⟩
  · rw [hlate] at hsystem ⊢
    cases hsystem
    rw [if_neg (by simp)]
    exact .still (fun h => h) ⟨rfl, rfl, rfl, rfl⟩ rfl
  · rw [hdrain] at hsystem ⊢
    cases hsystem
    simp only [Option.isSome_some, if_true]
    exact .shutdown (Or.inl rfl) rfl rfl rfl
  · rw [hdiscard] at hsystem ⊢
    cases hsystem
    simp only [Option.isSome_some, if_true]
    exact .shutdown (Or.inr ⟨hpolicy, rfl⟩) rfl rfl rfl

/-- A worker that finds nothing to do could neither leave nor start a task. -/
theorem startable_eq_zero (hexit : s.system.executor.mayExit = false)
    (hstart : s.system.executor.startTask = none) : s.system.executor.startable = 0 := by
  unfold startTask at hstart
  rw [if_neg (by simp [hexit])] at hstart
  unfold startable
  by_cases hfull : s.system.executor.metrics.activeCount ≥ s.system.executor.config.maxInflight
  · rw [if_neg (by omega)]
  · rw [if_neg hfull] at hstart
    rw [if_pos (by omega)]
    split at hstart
    · next hpending => rw [hpending, List.length_nil]
    · cases hstart

/-- What an awake thread finds when it looks at the queue. -/
theorem look_acts {i : Nat} (hthread : s.system.threads[i]? = some .waiting)
    (hawake : i ∉ s.workAvailable.asleep) : Acts s (.look i) (s.look i) := by
  unfold look
  -- the loop looks whether it may leave before it looks for a task
  cases hexit : s.system.executor.mayExit with
  | true =>
      have hstep : s.system.step (.workerExit i) =
          some { s.system with threads := s.system.threads.set i .exited } := by
        simp only [ExecutorSystem.step, hthread, hexit]
      rw [hstep]
      exact .exit hthread hawake hexit ⟨rfl, rfl, rfl, rfl⟩ rfl
  | false =>
      have hstep : s.system.step (.workerExit i) = none := by
        simp only [ExecutorSystem.step, hthread, hexit]
      rw [hstep]
      cases hstart : s.system.executor.startTask with
      | none =>
          have hnone : s.system.step (.workerStart i) = none := by
            simp only [ExecutorSystem.step, hthread, hstart]
          rw [hnone]
          exact .sleep hthread hawake hexit (startable_eq_zero hexit hstart)
      | some started =>
          obtain ⟨task, executor⟩ := started
          have hsome : s.system.step (.workerStart i) = some { s.system with
              executor
              threads := s.system.threads.set i (.executing task)
              started := s.system.started ++ [task] } := by
            simp only [ExecutorSystem.step, hthread, hstart]
          rw [hsome]
          obtain ⟨-, hroom, hmoves⟩ := s.system.executor.startTask_moves hstart
          exact .start hthread hawake hroom hmoves.pending.symm hmoves.activeCount hmoves.stopping
            hmoves.config rfl

/-- What every step does, guards included. -/
theorem step_acts (h : s.step action = some s') : Acts s action s' := by
  cases action with
  | submit hasWork => exact submit_acts h
  | runReady maxTasks cancelRequested =>
      simp only [step, Option.map_eq_some_iff] at h
      obtain ⟨system, hsystem, rfl⟩ := h
      cases hsystem
      obtain ⟨completed, -, hmoves⟩ :=
        s.system.executor.runReady_moves maxTasks cancelRequested
      cases cancelRequested with
      | true => exact .cancel (Or.inl ⟨maxTasks, rfl, rfl⟩) rfl rfl rfl rfl rfl
      | false => exact .still (fun h => h) ⟨rfl, rfl, rfl, rfl⟩ rfl
  | cancelPending =>
      simp only [step, Option.map_eq_some_iff] at h
      obtain ⟨system, hsystem, rfl⟩ := h
      cases hsystem
      exact .cancel (Or.inr ⟨rfl, rfl⟩) rfl rfl rfl rfl rfl
  | shutdown => exact shutdown_acts h
  | shutdownReturn =>
      simp only [step, Option.map_eq_some_iff] at h
      obtain ⟨system, hsystem, rfl⟩ := h
      simp only [ExecutorSystem.step] at hsystem
      split_ifs at hsystem
      cases hsystem
      exact .still (fun h => h) ⟨rfl, rfl, rfl, rfl⟩ rfl
  | wakeup signal =>
      simp only [step, Option.map_eq_some_iff] at h
      obtain ⟨cv, hcv, rfl⟩ := h
      exact .wakeup (wakeup_woken hcv)
  | look i =>
      simp only [step] at h
      split at h
      · next hthread =>
          split_ifs at h with hasleep
          cases h
          exact look_acts hthread hasleep
      · cases h
  | execute i outcome overBudget =>
      simp only [step, Option.map_eq_some_iff] at h
      obtain ⟨system, hsystem, rfl⟩ := h
      simp only [ExecutorSystem.step] at hsystem
      split at hsystem
      · next task hthread =>
          cases hsystem
          obtain ⟨-, hmoves⟩ := s.system.executor.executeTask_moves task outcome overBudget
          exact .execute hthread
            ⟨by simpa using hmoves.pending, hmoves.activeCount, hmoves.stopping, hmoves.config⟩ rfl
      · cases hsystem
  | finish i =>
      simp only [step, Option.map_eq_some_iff] at h
      obtain ⟨system, hsystem, rfl⟩ := h
      simp only [ExecutorSystem.step] at hsystem
      split at hsystem
      · next completion hthread =>
          cases hsystem
          have hmoves := s.system.executor.finishTask_moves completion
          exact .finish hthread (by simpa using hmoves.pending) hmoves.activeCount hmoves.stopping
            hmoves.config rfl
      · cases hsystem
  | waitForIdle caller =>
      cases h
      split_ifs with hidle
      · exact .still (fun h => h) (SameMembers.refl _) rfl
      · exact .waitForIdle (Bool.eq_false_iff.mpr hidle)
  | idleWakeup caller =>
      simp only [step, Option.map_eq_some_iff] at h
      obtain ⟨cv, hcv, rfl⟩ := h
      exact .idleWakeup (wakeup_woken hcv)

/-! ## The executor without condition variables -/

/-- A look is a step of the executor or leaves it as it is. -/
theorem look_refines {i : Nat} : (s.look i).system = s.system ∨
    ∃ action, s.system.step action = some (s.look i).system := by
  unfold look
  split
  · next hexit => exact Or.inr ⟨.workerExit i, hexit⟩
  · next hstart => exact Or.inr ⟨.workerStart i, hstart⟩
  · exact Or.inl rfl

/-- A step is one of the executor without condition variables, or leaves it as it is. -/
theorem step_refines (h : s.step action = some s') : s'.system = s.system ∨
    ∃ action, s.system.step action = some s'.system := by
  cases action with
  | look i =>
      simp only [step] at h
      split at h
      · split_ifs at h
        cases h
        exact look_refines
      · cases h
  | waitForIdle caller =>
      cases h
      split_ifs <;> exact Or.inl rfl
  | wakeup signal =>
      simp only [step, Option.map_eq_some_iff] at h
      obtain ⟨cv, -, rfl⟩ := h
      exact Or.inl rfl
  | idleWakeup caller =>
      simp only [step, Option.map_eq_some_iff] at h
      obtain ⟨cv, -, rfl⟩ := h
      exact Or.inl rfl
  | _ =>
      simp only [step, Option.map_eq_some_iff] at h
      obtain ⟨system, hsystem, rfl⟩ := h
      exact Or.inr ⟨_, hsystem⟩

/-- The executor under the monitor takes its own steps. -/
theorem reachable_step {config : ThreadedTaskExecutorConfig}
    (hreachable : ExecutorSystem.Reachable config s.system) (h : s.step action = some s') :
    ExecutorSystem.Reachable config s'.system := by
  rcases step_refines h with hsame | ⟨action, hstep⟩
  · rw [hsame]
    exact hreachable
  · exact hreachable.step action hstep

/-! ## No worker sleeps through its task -/

end MonitoredExecutor

def WorkerThread.isWaiting : WorkerThread P → Bool
  | .waiting => true
  | _ => false

namespace MonitoredExecutor

open ThreadedTaskExecutor

variable {s s' : MonitoredExecutor P} {action : MonitoredStep P}

variable (s) in
/-- The number of workers that wait, asleep or about to look. -/
def waiting : Nat := s.system.threads.countP WorkerThread.isWaiting

/-- One thread goes from one place of its loop to another. -/
theorem waiting_of_set {i : Nat} {old new : WorkerThread P}
    (hthread : s.system.threads[i]? = some old)
    (hthreads : s'.system.threads = s.system.threads.set i new) :
    old.isWaiting.toNat + s'.waiting = new.isWaiting.toNat + s.waiting := by
  rw [waiting, hthreads]
  exact countP_set new hthread

/-- A worker sleeps only while there is nothing to start and it may not leave, or somebody is
going to wake it. -/
structure Alert (s : MonitoredExecutor P) : Prop where
  asleep : ∀ i ∈ s.workAvailable.asleep, s.system.threads[i]? = some .waiting
  watched : Watched s.system.executor.startable s.waiting s.workAvailable
  leaving : s.system.executor.mayExit = true → s.workAvailable.asleep ≠ ∅ →
    0 < s.workAvailable.alls ∨ 0 < s.system.executor.metrics.activeCount

theorem alert_new (config : ThreadedTaskExecutorConfig) : Alert (new (P := P) config) where
  asleep := by simp [new]
  watched := watched_of_asleep_eq_empty rfl
  leaving := by simp [new]

theorem Alert.subset_places (h : Alert s) :
    s.workAvailable.asleep ⊆ places WorkerThread.isWaiting s.system.threads :=
  fun i hi => mem_places.mpr ⟨.waiting, h.asleep i hi, rfl⟩

/-- Those that sleep wait. -/
theorem Alert.card_le (h : Alert s) : s.workAvailable.asleep.card ≤ s.waiting :=
  card_asleep_le h.subset_places

/-- While a thread waits awake, fewer sleep than wait. -/
theorem Alert.card_lt (h : Alert s) {i : Nat} (hthread : s.system.threads[i]? = some .waiting)
    (hawake : i ∉ s.workAvailable.asleep) : s.workAvailable.asleep.card < s.waiting :=
  card_asleep_lt h.subset_places (mem_places.mpr ⟨.waiting, hthread, rfl⟩) hawake

/-- A busy thread does not sleep. -/
theorem Alert.awake (h : Alert s) {i : Nat} {thread : WorkerThread P}
    (hthread : s.system.threads[i]? = some thread) (hbusy : thread ≠ .waiting) :
    i ∉ s.workAvailable.asleep := by
  intro hasleep
  have hwaits := h.asleep i hasleep
  rw [hthread] at hwaits
  exact hbusy (Option.some.inj hwaits)

/-- Whether a thread may exit is a matter of the members. -/
theorem SameMembers.mayExit {system system' : ExecutorSystem P} (h : SameMembers system system') :
    system'.executor.mayExit = system.executor.mayExit := by
  rw [ThreadedTaskExecutor.mayExit, ThreadedTaskExecutor.mayExit, h.stopping, h.pending,
    cancelPendingOnShutdownLocked, cancelPendingOnShutdownLocked, h.config]

theorem SameMembers.startable {system system' : ExecutorSystem P}
    (h : SameMembers system system') : system'.executor.startable = system.executor.startable := by
  rw [ThreadedTaskExecutor.startable, ThreadedTaskExecutor.startable, h.pending, h.activeCount,
    h.config]

/-- What may start is pending. -/
theorem startable_le (executor : ThreadedTaskExecutor P) :
    executor.startable ≤ executor.pending.length := by
  unfold ThreadedTaskExecutor.startable
  split_ifs <;> omega

/-- Every step keeps somebody awake for the work there is. -/
theorem Alert.acts (h : Alert s) (hstopped : ExecutorSystem.Stopped s.system)
    (hacts : Acts s action s') : Alert s' := by
  cases hacts with
  | still hadded hsame hthreads =>
      refine ⟨?_, ?_, ?_⟩
      · intro i hi
        rw [hthreads]
        exact h.asleep i hi
      · rw [hsame.startable, waiting, hthreads]
        exact h.watched
      · rw [hsame.mayExit, hsame.activeCount]
        exact h.leaving
  | accept hstopping hlength _ hactive hstill hconfig hthreads =>
      refine ⟨?_, ?_, ?_⟩
      · intro i hi
        rw [hthreads]
        exact h.asleep i hi
      · rw [waiting, hthreads]
        -- at most one task more can be started, and one wake-up is owed for it
        refine h.watched.oweOne.mono ?_
        simp only [ThreadedTaskExecutor.startable, hactive, hconfig, waiting]
        split_ifs <;> omega
      · rw [mayExit, hstill]
        simp
  | cancel haction hpending hactive hstopping hconfig hthreads =>
      -- everybody is woken
      exact ⟨by simp, watched_of_asleep_eq_empty rfl, by simp⟩
  | shutdown hpending hactive hconfig hthreads =>
      refine ⟨?_, watched_oweAll, fun _ _ => Or.inl (Nat.succ_pos _)⟩
      intro i hi
      rw [hthreads]
      exact h.asleep i hi
  | wakeup hwoken =>
      refine ⟨fun i hi => h.asleep i (hwoken.subset hi), h.watched.woken hwoken, ?_⟩
      intro hexit hasleep
      obtain ⟨hbefore, halls⟩ := hwoken.alls hasleep
      rw [halls]
      exact h.leaving hexit hbefore
  | @sleep i hthread hawake hexit hstart =>
      refine ⟨?_, ?_, ?_⟩
      · intro j hj
        rcases Finset.mem_insert.mp hj with rfl | hj
        · exact hthread
        · exact h.asleep j hj
      · -- the worker saw under the lock that there is nothing to start
        rw [hstart]
        exact watched_wait hawake (h.card_lt hthread hawake)
      · intro hexit'
        rw [hexit] at hexit'
        cases hexit'
  | @exit i system hthread hawake hexit hsame hthreads =>
      refine ⟨?_, ?_, ?_⟩
      · intro j hj
        rw [hthreads]
        exact getElem?_set_of_asleep h.asleep hawake _ j hj
      · -- there is nothing left to start
        have hpending : s.system.executor.pending = [] := by
          unfold mayExit at hexit
          simp only [Bool.and_eq_true, Bool.or_eq_true, List.isEmpty_iff] at hexit
          rcases hexit with ⟨hstopping, hpending | hpolicy⟩
          · exact hpending
          · exact hstopped.discarded hstopping hpolicy
        have hstart : s.system.executor.startable = 0 := by
          have hle := startable_le s.system.executor
          rw [hpending, List.length_nil] at hle
          omega
        have hlt := h.card_lt hthread hawake
        have hwaiting := @waiting_of_set P s { s with system } i _ _ hthread hthreads
        simp only [WorkerThread.isWaiting, Bool.toNat_true, Bool.toNat_false] at hwaiting
        intro _ _
        rw [hsame.startable, hstart]
        change 0 + s.workAvailable.asleep.card ≤ _ + s.workAvailable.ones
        omega
      · rw [hsame.mayExit, hsame.activeCount]
        exact h.leaving
  | @start i task system hthread hawake hroom hpending hactive hstopping hconfig hthreads =>
      -- the task that now is active will notify all when it is finished
      refine ⟨?_, ?_, fun _ _ => Or.inr (by rw [hactive]; exact Nat.succ_pos _)⟩
      · intro j hj
        rw [hthreads]
        exact getElem?_set_of_asleep h.asleep hawake _ j hj
      · have hwaiting := @waiting_of_set P s { s with system } i _ _ hthread hthreads
        simp only [WorkerThread.isWaiting, Bool.toNat_true, Bool.toNat_false] at hwaiting
        refine h.watched.mono ?_
        have hle := startable_le system.executor
        have hlength := congrArg List.length hpending
        rw [List.length_cons] at hlength
        have hbefore : s.system.executor.startable = s.system.executor.pending.length :=
          if_pos hroom
        change system.executor.startable + s.waiting ≤ _
        omega
  | @execute i task outcome overBudget completion system hthread hsame hthreads =>
      -- no lock is held: the executor stays as it is
      have hawake := h.awake hthread (by simp)
      refine ⟨?_, ?_, ?_⟩
      · intro j hj
        rw [hthreads]
        exact getElem?_set_of_asleep h.asleep hawake _ j hj
      · have hwaiting := @waiting_of_set P s { s with system } i _ _ hthread hthreads
        simp only [WorkerThread.isWaiting, Bool.toNat_false] at hwaiting
        refine h.watched.mono ?_
        rw [hsame.startable]
        omega
      · rw [hsame.mayExit, hsame.activeCount]
        exact h.leaving
  | @finish i completion system hthread hpending hactive hstopping hconfig hthreads =>
      refine ⟨?_, watched_oweAll, fun _ _ => Or.inl (Nat.succ_pos _)⟩
      intro j hj
      rw [hthreads]
      exact getElem?_set_of_asleep h.asleep (h.awake hthread (by simp)) _ j hj
  | waitForIdle hidle => exact ⟨h.asleep, h.watched, h.leaving⟩
  | idleWakeup hwoken => exact ⟨h.asleep, h.watched, h.leaving⟩

/-! ## Rank -/

end MonitoredExecutor

/-- What a thread still has to do with its task; its last section owes a notification to all. -/
def WorkerThread.weight (threads : Nat) : WorkerThread P → Nat
  | .executing _ => threads + 4
  | .executed _ => threads + 3
  | _ => 0

/-- What a step adds to the rank, and the step itself if it is not an internal one. -/
def MonitoredStep.added (threads : Nat) : MonitoredStep P → Nat
  | .submit _ => threads + 7
  | .runReady _ _ => threads + 1
  | .cancelPending => threads + 1
  | .shutdown => threads + 2
  | .wakeup signal => signal.added
  | .look _ => 0
  | .execute _ _ _ => 0
  | .finish _ => 0
  | _ => 1

/-- The steps of the threads themselves add nothing to the rank. -/
theorem MonitoredStep.added_internal {threads : Nat} {action : MonitoredStep P}
    (h : action.internal) : action.added threads = 0 := by
  cases action with
  | wakeup signal => cases signal <;> first | rfl | cases h
  | look => rfl
  | execute => rfl
  | finish => rfl
  | _ => exact h.elim

/-- Every other step adds something. -/
theorem MonitoredStep.added_external {threads : Nat} {action : MonitoredStep P}
    (h : ¬ action.internal) : 1 ≤ action.added threads := by
  cases action with
  | wakeup signal =>
      cases signal with
      | spurious => exact Nat.le_succ 1
      | _ => exact absurd rfl h
  | look => exact absurd trivial h
  | execute => exact absurd trivial h
  | finish => exact absurd trivial h
  | _ => simp only [added]; omega

namespace MonitoredExecutor

open ThreadedTaskExecutor Transition

variable {s s' : MonitoredExecutor P} {action : MonitoredStep P}

variable (s) in
/-- What the threads that are not waiting have to do. -/
def busy : Nat := (s.system.threads.map (WorkerThread.weight s.system.threads.length)).sum

variable (s) in
def rank : Nat :=
  (s.system.threads.length + 4) * s.system.executor.pending.length + s.busy +
    CondVar.rank s.system.threads.length s.waiting s.workAvailable

/-- A thread that changes its state changes the weight by its own. -/
theorem busy_of_set {i : Nat} {old new : WorkerThread P}
    (hthread : s.system.threads[i]? = some old)
    (hthreads : s'.system.threads = s.system.threads.set i new) :
    old.weight s.system.threads.length + s'.busy =
      new.weight s.system.threads.length + s.busy := by
  have hlength : s'.system.threads.length = s.system.threads.length := by
    rw [hthreads, List.length_set]
  have hsum := ((set_perm new hthread).map (WorkerThread.weight s.system.threads.length)).sum_eq
  rw [List.map_cons, List.map_cons, List.sum_cons, List.sum_cons, ← hthreads] at hsum
  rw [busy, busy, hlength]
  exact hsum

/-- Every step of a thread brings the rank down. -/
theorem Alert.rank_acts (h : Alert s) (hacts : Acts s action s') :
    s'.rank + 1 ≤ s.rank + action.added s.system.threads.length := by
  have hcard := h.card_le
  have hcount : s.waiting ≤ s.system.threads.length := List.countP_le_length
  cases hacts with
  | still hexternal hsame hthreads =>
      have hadded : 1 ≤ action.added s.system.threads.length :=
        MonitoredStep.added_external hexternal
      simp only [rank, busy, waiting, hthreads, hsame.pending] at hadded ⊢
      omega
  | accept hstopping hlength _ hactive hstill hconfig hthreads =>
      have hweight := Nat.mul_le_mul_left (s.system.threads.length + 4) hlength
      simp only [rank, busy, waiting, hthreads, rank_oweOne, MonitoredStep.added,
        Nat.mul_add] at hweight ⊢
      omega
  | cancel haction hpending hactive hstopping hconfig hthreads =>
      -- waking everybody lets each thread look once more
      have hwakes : CondVar.rank s.system.threads.length s.waiting s.workAvailable.wakeAll ≤ _ :=
        rank_wakeAll_le hcount
      have hadded : action.added s.system.threads.length = s.system.threads.length + 1 := by
        rcases haction with ⟨maxTasks, rfl, -⟩ | ⟨rfl, -⟩ <;> rfl
      simp only [waiting] at hwakes
      simp only [rank, busy, waiting, hthreads, hpending, hadded, List.length_nil]
      omega
  | @shutdown system hpending hactive hconfig hthreads =>
      -- a shutdown only takes from the queue
      have hlength : system.executor.pending.length ≤ s.system.executor.pending.length := by
        rcases hpending with hpending | ⟨-, hpending⟩
        · exact (congrArg List.length hpending).le
        · exact (congrArg List.length hpending).le.trans (Nat.zero_le _)
      have hweight := Nat.mul_le_mul_left (s.system.threads.length + 4) hlength
      simp only [rank, busy, waiting, hthreads, rank_oweAll, MonitoredStep.added] at hweight ⊢
      omega
  | wakeup hwoken =>
      have hrank := hwoken.rank_lt hcard hcount
      simp only [rank, busy, waiting, MonitoredStep.added] at hrank ⊢
      omega
  | @sleep i hthread hawake hexit hstart =>
      have hrank : CondVar.rank s.system.threads.length s.waiting (s.workAvailable.wait i) + 1 =
        _ := rank_wait hawake (h.card_lt hthread hawake)
      simp only [rank, busy, waiting, MonitoredStep.added] at hrank ⊢
      omega
  | @exit i system hthread hawake hexit hsame hthreads =>
      have hlt := h.card_lt hthread hawake
      have hwaiting := @waiting_of_set P s { s with system } i _ _ hthread hthreads
      have hbusy := @busy_of_set P s { s with system } i _ _ hthread hthreads
      simp only [WorkerThread.isWaiting, Bool.toNat_true, Bool.toNat_false] at hwaiting
      simp only [WorkerThread.weight] at hbusy
      simp only [rank, CondVar.rank, hthreads, List.length_set, hsame.pending,
        MonitoredStep.added]
      omega
  | @start i task system hthread hawake hroom hpending hactive hstopping hconfig hthreads =>
      have hlt := h.card_lt hthread hawake
      have hwaiting := @waiting_of_set P s { s with system } i _ _ hthread hthreads
      have hbusy := @busy_of_set P s { s with system } i _ _ hthread hthreads
      simp only [WorkerThread.isWaiting, Bool.toNat_true, Bool.toNat_false] at hwaiting
      simp only [WorkerThread.weight] at hbusy
      simp only [rank, CondVar.rank, hthreads, List.length_set, hpending, List.length_cons,
        MonitoredStep.added, Nat.mul_add]
      omega
  | @execute i task outcome overBudget completion system hthread hsame hthreads =>
      have hwaiting := @waiting_of_set P s { s with system } i _ _ hthread hthreads
      have hbusy := @busy_of_set P s { s with system } i _ _ hthread hthreads
      simp only [WorkerThread.isWaiting, Bool.toNat_false] at hwaiting
      simp only [WorkerThread.weight] at hbusy
      simp only [rank, CondVar.rank, hthreads, List.length_set, hsame.pending,
        MonitoredStep.added]
      omega
  | @finish i completion system hthread hpending hactive hstopping hconfig hthreads =>
      have hwaiting := @waiting_of_set P s { s with system } i _ _ hthread hthreads
      have hbusy := @busy_of_set P s { s with system } i _ _ hthread hthreads
      simp only [WorkerThread.isWaiting, Bool.toNat_true, Bool.toNat_false, waiting] at hwaiting
      simp only [WorkerThread.weight, busy] at hbusy
      simp only [rank, rank_oweAll, busy, waiting, hpending, MonitoredStep.added] at hcard ⊢
      simp only [hthreads, List.length_set, CondVar.rank] at hwaiting hbusy ⊢
      omega
  | waitForIdle hidle =>
      simp only [rank, busy, waiting, MonitoredStep.added]
      omega
  | idleWakeup hwoken =>
      simp only [rank, busy, waiting, MonitoredStep.added]
      omega

/-! ## The executor at rest -/

/-- Every task is finished or cancelled, and no thread keeps `shutdown` from returning. -/
structure AtRest (s : MonitoredExecutor P) : Prop where
  pending : s.system.executor.pending = []
  active : s.system.active = []
  settled : (s.system.finishedTasks ++ s.system.cancelled.map Prod.fst).Perm s.system.submitted
  joined : s.system.executor.stopping = true → ∀ thread ∈ s.system.threads, thread = .exited

structure Reached (config : ThreadedTaskExecutorConfig) (s : MonitoredExecutor P) : Prop where
  reachable : ExecutorSystem.Reachable config s.system
  alert : Alert s

theorem reached_new (config : ThreadedTaskExecutorConfig) :
    Reached config (new (P := P) config) := ⟨.new, alert_new config⟩

theorem Reached.keep {config : ThreadedTaskExecutorConfig} (h : Reached config s)
    (hstep : s.step action = some s') : Reached config s' := by
  obtain ⟨-, -, -, hstopped⟩ := h.reachable.invariants
  exact ⟨reachable_step h.reachable hstep, h.alert.acts hstopped (step_acts hstep)⟩

theorem normalizePositive_pos (value : Nat) : 0 < normalizePositive value := by
  unfold normalizePositive
  split_ifs <;> omega

/-- Where no thread can step the executor is at rest. -/
theorem Reached.atRest {config : ThreadedTaskExecutorConfig} (h : Reached config s)
    (hstuck : Stuck step MonitoredStep.internal s) : AtRest s := by
  obtain ⟨hconfig, hbounded, haccounted, hstopped⟩ := h.reachable.invariants
  -- a thread with a task could go on
  have hidle : ∀ thread ∈ s.system.threads, thread = .waiting ∨ thread = .exited := by
    intro thread hthread
    obtain ⟨i, hi⟩ := List.getElem?_of_mem hthread
    cases thread with
    | waiting => exact Or.inl rfl
    | exited => exact Or.inr rfl
    | executing task =>
        have hnone := hstuck (.execute i (.error "") false) trivial
        simp [step, ExecutorSystem.step, hi] at hnone
    | executed completion =>
        have hnone := hstuck (.finish i) trivial
        simp [step, ExecutorSystem.step, hi] at hnone
  have hactive : s.system.active = [] := by
    rw [ExecutorSystem.active, List.filterMap_eq_nil_iff]
    intro thread hthread
    rcases hidle thread hthread with rfl | rfl <;> rfl
  have hquiet : s.workAvailable.Quiet := by
    refine quiet_of_stuck fun signal hsignal => ?_
    have hnone := hstuck (.wakeup signal) hsignal
    simpa [step] using hnone
  -- a thread that waits and is awake could look
  have hasleep : places WorkerThread.isWaiting s.system.threads ⊆ s.workAvailable.asleep := by
    intro i hi
    obtain ⟨thread, hthread, hwaits⟩ := mem_places.mp hi
    cases thread with
    | waiting =>
        have hnone := hstuck (.look i) trivial
        simp only [step, hthread] at hnone
        by_contra hawake
        rw [if_neg hawake] at hnone
        cases hnone
    | _ => cases hwaits
  have hcard : s.workAvailable.asleep.card = s.waiting :=
    card_asleep_eq h.alert.subset_places hasleep
  have hdone : s.system.executor.pending = [] ∧
      (s.system.executor.stopping = true → ∀ thread ∈ s.system.threads, thread = .exited) := by
    by_cases hwaiting : s.waiting = 0
    · -- all the threads have left, which they do only after a shutdown
      have hexited : ∀ thread ∈ s.system.threads, thread = .exited := by
        intro thread hthread
        rcases hidle thread hthread with rfl | rfl
        · exact absurd rfl (List.countP_eq_zero.mp hwaiting _ hthread)
        · rfl
      have hpos : 0 < s.system.threads.length := by
        rw [hbounded.threads, hconfig]
        exact normalizePositive_pos _
      obtain ⟨thread, hthread⟩ := List.exists_mem_of_length_pos hpos
      exact ⟨(hstopped.exited (hexited thread hthread ▸ hthread)).2, fun _ => hexited⟩
    · have hnone : s.system.executor.metrics.activeCount = 0 := by
        rw [hbounded.active, hactive, List.length_nil]
      have hroom : 0 < s.system.executor.config.maxInflight := by
        rw [hconfig]
        exact normalizePositive_pos _
      have hstart := h.alert.watched.work_eq_zero hquiet hcard (by omega)
      rw [startable, hnone, if_pos hroom] at hstart
      have hpending := List.length_eq_zero_iff.mp hstart
      refine ⟨hpending, fun hstopping => ?_⟩
      -- a sleeper that may leave is going to be woken
      have hexit : s.system.executor.mayExit = true := by simp [mayExit, hstopping, hpending]
      have hsome : s.workAvailable.asleep ≠ ∅ := by
        rintro hempty
        rw [hempty, Finset.card_empty] at hcard
        omega
      have hleaving := h.alert.leaving hexit hsome
      have halls := hquiet.2
      omega
  refine ⟨hdone.1, hactive, ?_, hdone.2⟩
  have hfates := haccounted.fates
  have hrunning := haccounted.running
  rw [hactive, List.nil_append] at hrunning
  rw [hdone.1, List.append_nil] at hfates
  exact (hrunning.append_right _).trans hfates

/-! ## Callers of `wait_for_idle` -/

end MonitoredExecutor

/-- The calls that can empty the queue without a word to those who wait for that. -/
def MonitoredStep.emptiesSilently (config : ThreadedTaskExecutorConfig) :
    MonitoredStep P → Bool
  | .runReady _ cancelRequested => cancelRequested
  | .shutdown => cancelPendingShutdownPolicy config.shutdownPolicy
  | _ => false

namespace MonitoredExecutor

open ThreadedTaskExecutor Transition

variable {s s' : MonitoredExecutor P} {action : MonitoredStep P}

/-- Nobody sleeps in `wait_for_idle` while the executor is idle. -/
def IdleSeen (s : MonitoredExecutor P) : Prop :=
  s.system.executor.isIdle = true → s.idle.asleep = ∅

/-- Idle is what `wait_idle` waits for: nothing pending and nothing running. -/
theorem isIdle_eq_true {executor : ThreadedTaskExecutor P} : executor.isIdle = true ↔
    executor.pending = [] ∧ executor.metrics.activeCount = 0 := by
  simp [isIdle]

theorem SameMembers.isIdle {system system' : ExecutorSystem P} (h : SameMembers system system') :
    system'.executor.isIdle = system.executor.isIdle := by
  rw [ThreadedTaskExecutor.isIdle, ThreadedTaskExecutor.isIdle, h.pending, h.activeCount]

/-- After a notification nobody sleeps on `idle_`. -/
theorem idleSeen_wakeAll {system : ExecutorSystem P} {workAvailable idle : CondVar} :
    IdleSeen (P := P) { system, workAvailable
                        idle := if system.executor.isIdle then idle.wakeAll else idle } := by
  intro hidle
  dsimp only at hidle ⊢
  rw [if_pos hidle]
  rfl

/-- A step that does not empty the queue silently keeps the waiters informed. -/
theorem IdleSeen.acts {config : ThreadedTaskExecutorConfig} (h : IdleSeen s)
    (hconfig : s.system.executor.config.shutdownPolicy = config.shutdownPolicy)
    (hacts : Acts s action s') (hloud : action.emptiesSilently config = false) : IdleSeen s' := by
  -- a step that leaves the executor idle notifies `idle_`, or it was idle before
  cases hacts with
  | still _ hsame _ =>
      intro hidle
      exact h (hsame.isIdle ▸ hidle)
  | accept _ _ hpending _ _ _ _ =>
      intro hidle
      exact absurd (isIdle_eq_true.mp hidle).1 hpending
  | cancel haction hpending _ _ _ _ =>
      rcases haction with ⟨maxTasks, rfl, -⟩ | ⟨-, rfl⟩
      · cases hloud
      · exact idleSeen_wakeAll
  | shutdown hpending hactive _ _ =>
      rcases hpending with hpending | ⟨hpolicy, -⟩
      · intro hidle
        refine h (isIdle_eq_true.mpr ?_)
        rw [← hpending, ← hactive]
        exact isIdle_eq_true.mp hidle
      · -- the policy discards the queue
        rw [cancelPendingOnShutdownLocked, hconfig] at hpolicy
        rw [MonitoredStep.emptiesSilently, hpolicy] at hloud
        cases hloud
  | wakeup => exact h
  | sleep => exact h
  | exit _ _ _ hsame _ =>
      intro hidle
      exact h (hsame.isIdle ▸ hidle)
  | start _ _ _ _ hactive _ _ _ =>
      intro hidle
      have hnone := (isIdle_eq_true.mp hidle).2
      dsimp only at hnone
      omega
  | execute _ hsame _ =>
      intro hidle
      exact h (hsame.isIdle ▸ hidle)
  | finish => exact idleSeen_wakeAll
  | waitForIdle hidle =>
      intro hidle'
      rw [hidle] at hidle'
      cases hidle'
  | idleWakeup hwoken =>
      intro hidle
      exact Finset.subset_empty.mp (h hidle ▸ hwoken.subset)

/-- By induction on the run. -/
theorem IdleSeen.run {config : ThreadedTaskExecutorConfig} {actions : List (MonitoredStep P)}
    (h : IdleSeen s) (hreached : Reached config s)
    (hloud : ∀ action ∈ actions, action.emptiesSilently config = false)
    (hrun : Transition.run step s actions = some s') : IdleSeen s' := by
  induction actions generalizing s with
  | nil =>
      cases hrun
      exact h
  | cons action actions ih =>
      obtain ⟨s₁, hfirst, hrest⟩ := run_cons_eq_some.mp hrun
      have hpolicy : s.system.executor.config.shutdownPolicy = config.shutdownPolicy := by
        rw [hreached.reachable.invariants.1]
        rfl
      exact ih (h.acts hpolicy (step_acts hfirst) (hloud action List.mem_cons_self))
        (hreached.keep hfirst) (fun other hother => hloud other (List.mem_cons_of_mem _ hother))
        hrest

/-- A shutdown that finds nothing to do is not the first one. -/
theorem stopping_of_shutdownWorkers_eq_none {executor : ThreadedTaskExecutor P}
    (h : executor.shutdownWorkers = (none, executor)) : executor.stopping = true := by
  by_contra hrunning
  rw [shutdownWorkers, if_neg (fun hdone => hrunning hdone.1)] at h
  cases congrArg Prod.fst h

/-- The queue is empty afterwards, and who sleeps on `idle_` sleeps on. -/
theorem step_emptiesSilently {config : ThreadedTaskExecutorConfig}
    (hconfig : s.system.executor.config.shutdownPolicy = config.shutdownPolicy)
    (hstopped : ExecutorSystem.Stopped s.system) (hsilent : action.emptiesSilently config = true)
    (hstep : s.step action = some s') :
    s'.system.executor.pending = [] ∧ s'.idle = s.idle := by
  cases action with
  | runReady maxTasks cancelRequested =>
      cases hsilent
      simp only [step, Option.map_eq_some_iff] at hstep
      obtain ⟨system, hsystem, rfl⟩ := hstep
      cases hsystem
      exact ⟨rfl, rfl⟩
  | shutdown =>
      have hpolicy : s.system.executor.cancelPendingOnShutdownLocked = true := by
        rw [cancelPendingOnShutdownLocked, hconfig]
        exact hsilent
      simp only [step, Option.map_eq_some_iff] at hstep
      obtain ⟨system, hsystem, rfl⟩ := hstep
      refine ⟨?_, rfl⟩
      simp only [ExecutorSystem.step] at hsystem
      rcases s.system.executor.shutdownWorkers_cases with
        hlate | ⟨-, ⟨hdrains, -⟩ | ⟨-, hdiscard⟩⟩
      · -- the first shutdown has emptied the queue, and nothing was accepted since
        rw [hlate] at hsystem
        cases hsystem
        exact hstopped.discarded (stopping_of_shutdownWorkers_eq_none hlate) hpolicy
      · rw [hpolicy] at hdrains
        cases hdrains
      · rw [hdiscard] at hsystem
        cases hsystem
        rfl
  | submit | cancelPending | shutdownReturn | wakeup | look | execute | finish | waitForIdle
  | idleWakeup => cases hsilent

/-! ## All runs -/

section

variable {config : ThreadedTaskExecutorConfig} {actions : List (MonitoredStep P)}

/-- Every run is one of the executor without condition variables. From each of its states the
number of the steps that can follow is bounded by what the callers do and by the spurious
wake-ups; the threads alone lead to a state in which none of them can take a step, and whenever
such a state is reached every task is finished or cancelled and a shutdown can return. -/
theorem executor_comes_to_rest (hrun : Transition.run step (new config) actions = some s) :
    ExecutorSystem.Reachable config s.system ∧
      (∃ rest s', (∀ action ∈ rest, action.internal) ∧
        Transition.run step s rest = some s' ∧ Stuck step MonitoredStep.internal s') ∧
      ∀ more s', Transition.run step s more = some s' →
        more.length + s'.rank ≤ s.rank +
            (more.map (MonitoredStep.added (normalizePositive config.maxWorkers))).sum ∧
          (Stuck step MonitoredStep.internal s' → AtRest s') := by
  have hreached : Reached config s := run_keeps Reached.keep (reached_new config) hrun
  have hfalls : ∀ {s s' : MonitoredExecutor P} {action : MonitoredStep P},
      Reached config s → s.step action = some s' →
      s'.rank + 1 ≤ s.rank + action.added (normalizePositive config.maxWorkers) := by
    intro s s' action hs hstep
    obtain ⟨hconfig, hbounded, -, -⟩ := hs.reachable.invariants
    have hrank := hs.alert.rank_acts (step_acts hstep)
    rw [hbounded.threads, hconfig] at hrank
    exact hrank
  refine ⟨hreached.reachable,
    exists_stuck Reached.keep hfalls MonitoredStep.added_internal hreached, ?_⟩
  intro more s' hmore
  exact ⟨run_length_le Reached.keep hfalls hreached hmore,
    (run_keeps Reached.keep hreached hmore).atRest⟩

/-- As long as nobody cancels with `run_ready` or shuts a discarding executor down, a caller of
`wait_for_idle` is awake whenever the executor is idle. Those two calls empty the queue in any
state and leave everybody asleep. -/
theorem nobody_sleeps_through_idle
    (hrun : Transition.run step (new config) actions = some s) :
    ((∀ action ∈ actions, action.emptiesSilently config = false) →
        s.system.executor.isIdle = true → s.idle.asleep = ∅) ∧
      ∀ action s', action.emptiesSilently config = true → s.step action = some s' →
        s'.system.executor.pending = [] ∧ s'.idle = s.idle := by
  constructor
  · intro hloud hidle
    have hnew : IdleSeen (new (P := P) config) := fun _ => rfl
    exact hnew.run (reached_new config) hloud hrun hidle
  · intro action s' hsilent hstep
    have hreached : Reached config s := run_keeps Reached.keep (reached_new config) hrun
    obtain ⟨hconfig, -, -, hstopped⟩ := hreached.reachable.invariants
    exact step_emptiesSilently (congrArg _ hconfig) hstopped hsilent hstep

end

/-- A worker that falls asleep, and a shutdown with a task in the queue. -/
def drainedActions : List (MonitoredStep Nat) :=
  [.look 0, .submit true, .wakeup (.one (some 0)), .look 0, .submit true, .waitForIdle 3, .shutdown]

theorem drained_comes_to_rest :
    ∃ s s' rest, Transition.run step (new { queueCapacity := 1 }) drainedActions = some s ∧
      Transition.run step s rest = some s' ∧ AtRest s' := by
  obtain ⟨s, hrun⟩ : ∃ s,
    Transition.run step (new { queueCapacity := 1 }) drainedActions = some s := ⟨_, rfl⟩
  obtain ⟨-, ⟨rest, s', -, hrest, hstuck⟩, hmore⟩ := executor_comes_to_rest hrun
  exact ⟨s, s', rest, hrun, hrest, (hmore rest s' hrest).2 hstuck⟩

/-- A caller that sleeps until the task is finished. -/
def idleActions : List (MonitoredStep Nat) :=
  [.submit true, .waitForIdle 3, .look 0, .execute 0 (.ok 7) false, .finish 0]

def discarding : ThreadedTaskExecutorConfig :=
  { queueCapacity := 1, shutdownPolicy := "cancel_pending" }

/-- A caller that sleeps until the task is finished, and one that a cancelling `run_ready` and a
discarding shutdown let sleep on in the idle executor. -/
theorem idle_nobody_sleeps :
    (∃ s, Transition.run step (new { queueCapacity := 1 }) idleActions = some s ∧
        s.system.executor.isIdle = true ∧ s.idle.asleep = ∅) ∧
      ∀ action ∈ [MonitoredStep.runReady (P := Nat) 0 true, .shutdown],
        ∃ s s', Transition.run step (new discarding) [.submit true, .waitForIdle 3] = some s ∧
          s.step action = some s' ∧ s'.system.executor.isIdle = true ∧
          s'.idle.asleep = {3} ∧ s'.system.executor.pending = [] ∧ s'.idle = s.idle := by
  constructor
  · obtain ⟨s, hrun, hidle⟩ : ∃ s,
        Transition.run step (new { queueCapacity := 1 }) idleActions = some s ∧
        s.system.executor.isIdle = true := ⟨_, rfl, rfl⟩
    refine ⟨s, hrun, hidle, (nobody_sleeps_through_idle hrun).1 ?_ hidle⟩
    simp [idleActions, MonitoredStep.emptiesSilently]
  · intro action haction
    have hsilent : action.emptiesSilently discarding = true := by
      simp only [List.mem_cons, List.not_mem_nil, or_false] at haction
      rcases haction with rfl | rfl <;> decide
    obtain ⟨s, s', hrun, hstep, hidle, hasleep⟩ : ∃ s s',
        Transition.run step (new discarding) [.submit true, .waitForIdle 3] = some s ∧
          s.step action = some s' ∧ s'.system.executor.isIdle = true ∧ s'.idle.asleep = {3} := by
      simp only [List.mem_cons, List.not_mem_nil, or_false] at haction
      rcases haction with rfl | rfl <;> exact ⟨_, _, rfl, rfl, rfl, rfl⟩
    have hcall := (nobody_sleeps_through_idle hrun).2 action s' hsilent hstep
    exact ⟨s, s', hrun, hstep, hidle, hasleep, hcall⟩

end MonitoredExecutor

end TopoExec
