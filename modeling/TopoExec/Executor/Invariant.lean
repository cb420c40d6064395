import Mathlib.Data.List.Perm.Basic
import Mathlib.Data.List.Nodup
import TopoExec.Executor.State

/-! # Bounds and accounts of the executor

Three invariants of the executor with its threads: the bounds on what is outstanding and
active (`Bounded`), the accounts of what became of every accepted task (`Accounted`), and
what a shutdown leaves behind (`Stopped`). Each is kept by every step, whoever takes it.
-/

namespace TopoExec

open Machine

variable {P : Type}

namespace ThreadedTaskExecutor

variable (executor : ThreadedTaskExecutor P)

/-! ## The sections -/

/-- What only `submit` and `shutdown` change. -/
structure Keeps (executor executor' : ThreadedTaskExecutor P) : Prop where
  config : executor'.config = executor.config
  nextTaskId : executor'.nextTaskId = executor.nextTaskId
  stopping : executor'.stopping = executor.stopping
  workers : executor'.workers = executor.workers
  submittedCount : executor'.metrics.submittedCount = executor.metrics.submittedCount

/-- The executions that ended. -/
def doneCount : Nat := executor.metrics.completedCount + executor.metrics.failedCount

/-- A submission is rejected, finds room, or takes the place of the oldest pending task. -/
theorem submit_cases (hasWork : Bool) :
    (∃ reason, executor.submit hasWork = executor.rejectSubmissionLocked reason) ∨
      (executor.stopping = false ∧ executor.outstanding < executor.admissionCapacityLocked ∧
        executor.submit hasWork = executor.enqueue) ∨
      (executor.stopping = false ∧ executor.pending ≠ [] ∧
        executor.submit hasWork = executor.dropOldest.enqueue) := by
  unfold submit
  split_ifs with hwork hstopping hfull hdrop
  · exact Or.inl ⟨_, rfl⟩
  · exact Or.inr (Or.inr ⟨by simpa using hstopping, hdrop.2, rfl⟩)
  · exact Or.inl ⟨_, rfl⟩
  · exact Or.inr (Or.inl ⟨by simpa using hstopping, Nat.lt_of_not_le hfull, rfl⟩)
  · exact Or.inl ⟨_, rfl⟩

/-- A shutdown comes too late, drains the queue or discards it. -/
theorem shutdownWorkers_cases :
    executor.shutdownWorkers = (none, executor) ∨
      (executor.stopping = false ∨ executor.workers ≠ 0) ∧
        ((executor.cancelPendingOnShutdownLocked = false ∧ executor.shutdownWorkers =
            (some executor.workers, { executor with stopping := true, workers := 0 })) ∨
          (executor.cancelPendingOnShutdownLocked = true ∧ executor.shutdownWorkers =
            (some executor.workers,
              { executor.cancelPendingLocked with stopping := true, workers := 0 }))) := by
  -- a second call finds everything done
  by_cases hdone : executor.stopping = true ∧ executor.workers = 0
  · left
    rw [shutdownWorkers, if_pos hdone]
  · right
    constructor
    · by_cases hstopping : executor.stopping = true
      · exact Or.inr fun hzero => hdone ⟨hstopping, hzero⟩
      · exact Or.inl (by simpa using hstopping)
    · cases hpolicy : executor.cancelPendingOnShutdownLocked with
      | false =>
          left
          have hpolicy' : cancelPendingShutdownPolicy executor.config.shutdownPolicy = false :=
            hpolicy
          rw [shutdownWorkers, if_neg hdone]
          simp [cancelPendingOnShutdownLocked, hpolicy']
      | true =>
          right
          have hpolicy' : cancelPendingShutdownPolicy executor.config.shutdownPolicy = true :=
            hpolicy
          rw [shutdownWorkers, if_neg hdone]
          simp [cancelPendingOnShutdownLocked, cancelPendingLocked, hpolicy']

/-- The members of an executor that the invariants speak about, after a section that adds
no task: tasks leave the queue, and the active tasks and the completions are counted. -/
structure Moves (executor executor' : ThreadedTaskExecutor P) (left : List Nat)
    (activeCount cancelledCount doneCount : Nat) (completed : List (TaskCompletion P)) : Prop
    extends Keeps executor executor' where
  pending : left ++ executor'.pending = executor.pending
  activeCount : executor'.metrics.activeCount = activeCount
  cancelledCount : executor'.metrics.cancelledCount = cancelledCount
  doneCount : executor'.doneCount = doneCount
  completed : executor'.completed = completed

/-- A rejected submission moves nothing. -/
theorem rejectSubmissionLocked_moves (reason : String) :
    executor.Moves (executor.rejectSubmissionLocked reason).2 [] executor.metrics.activeCount
      executor.metrics.cancelledCount executor.doneCount executor.completed :=
  ⟨⟨rfl, rfl, rfl, rfl, rfl⟩, rfl, rfl, rfl, rfl, rfl⟩

/-- All that was pending is cancelled. -/
theorem cancelPendingLocked_moves :
    executor.Moves executor.cancelPendingLocked executor.pending executor.metrics.activeCount
      (executor.metrics.cancelledCount + executor.pending.length) executor.doneCount
      executor.completed :=
  ⟨⟨rfl, rfl, rfl, rfl, rfl⟩, List.append_nil _, rfl, rfl, rfl, rfl⟩

/-- The oldest task is cancelled. -/
theorem dropOldest_moves {task : Nat} {rest : List Nat} (h : executor.pending = task :: rest) :
    executor.Moves executor.dropOldest [task] executor.metrics.activeCount
      (executor.metrics.cancelledCount + 1) executor.doneCount executor.completed := by
  refine ⟨⟨rfl, rfl, rfl, rfl, rfl⟩, ?_, rfl, rfl, rfl, rfl⟩
  show [task] ++ executor.pending.tail = executor.pending
  rw [h]
  rfl

/-- `run_ready` takes completions off the front of the backlog. -/
theorem runReady_moves (maxTasks : Nat) (cancelRequested : Bool) :
    ∃ completed, (executor.runReady maxTasks cancelRequested).1 ++ completed = executor.completed ∧
      executor.Moves (executor.runReady maxTasks cancelRequested).2
        (if cancelRequested then executor.pending else []) executor.metrics.activeCount
        (executor.metrics.cancelledCount +
          (if cancelRequested then executor.pending else []).length)
        executor.doneCount completed := by
  cases cancelRequested with
  | true =>
      exact ⟨_, List.take_append_drop _ _, ⟨rfl, rfl, rfl, rfl, rfl⟩, List.append_nil _, rfl, rfl,
        rfl, rfl⟩
  | false =>
      exact ⟨_, List.take_append_drop _ _, ⟨rfl, rfl, rfl, rfl, rfl⟩, rfl, rfl, rfl, rfl, rfl⟩

/-- The section of the worker takes the oldest pending task. -/
theorem startTask_moves {task : Nat} {executor' : ThreadedTaskExecutor P}
    (h : executor.startTask = some (task, executor')) :
    executor.mayExit = false ∧ executor.metrics.activeCount < executor.config.maxInflight ∧
      executor.Moves executor' [task] (executor.metrics.activeCount + 1)
        executor.metrics.cancelledCount executor.doneCount executor.completed := by
  unfold startTask at h
  split_ifs at h with hexit hfull
  cases hpending : executor.pending with
  | nil =>
      rw [hpending] at h
      cases h
  | cons first pending =>
      rw [hpending] at h
      cases h
      exact ⟨by simpa using hexit, Nat.lt_of_not_le hfull, ⟨rfl, rfl, rfl, rfl, rfl⟩,
        hpending.symm, rfl, rfl, rfl, rfl⟩

/-- A task runs and is counted by its outcome. -/
theorem executeTask_moves (task : Nat) (outcome : Except String P) (overBudget : Bool) :
    (executor.executeTask task outcome overBudget).1.taskId = task ∧
      executor.Moves (executor.executeTask task outcome overBudget).2 []
        executor.metrics.activeCount executor.metrics.cancelledCount executor.doneCount
        executor.completed := by
  constructor
  · unfold executeTask
    cases outcome <;> rfl
  · unfold executeTask
    simp only []
    split_ifs <;> exact ⟨⟨rfl, rfl, rfl, rfl, rfl⟩, rfl, rfl, rfl, rfl, rfl⟩

/-- A finished task is no longer active. -/
theorem finishTask_moves (completion : TaskCompletion P) :
    executor.Moves (executor.finishTask completion) [] (executor.metrics.activeCount - 1)
      executor.metrics.cancelledCount (executor.doneCount + 1)
      (executor.completed ++ [completion]) := by
  unfold finishTask
  cases completion.ok with
  | true =>
      refine ⟨⟨rfl, rfl, rfl, rfl, rfl⟩, rfl, ?_, rfl, ?_, rfl⟩
      · simp only [if_true]
        split_ifs <;> omega
      · show executor.metrics.completedCount + 1 + executor.metrics.failedCount = _
        unfold ThreadedTaskExecutor.doneCount
        omega
  | false =>
      refine ⟨⟨rfl, rfl, rfl, rfl, rfl⟩, rfl, ?_, rfl, ?_, rfl⟩
      · simp only [Bool.false_eq_true, if_false]
        split_ifs <;> omega
      · rfl

end ThreadedTaskExecutor

/-! ## Transitions -/

namespace ExecutorSystem

open ThreadedTaskExecutor

/-- What a step can do. -/
inductive Transition (s : ExecutorSystem P) : ExecutorSystem P → Prop where
  /-- A rejected submission, or a `shutdown` that another one is ahead of. -/
  | still (executor : ThreadedTaskExecutor P)
      (h : s.executor.Moves executor [] s.executor.metrics.activeCount
        s.executor.metrics.cancelledCount s.executor.doneCount s.executor.completed) :
      Transition s { s with executor }
  | accept (hstopping : s.executor.stopping = false)
      (hroom : s.executor.outstanding < s.executor.admissionCapacityLocked) :
      Transition s { s with
        executor := s.executor.enqueue.2
        submitted := s.submitted ++ [s.executor.nextTaskId] }
  | displace (task : Nat) (rest : List Nat) (hstopping : s.executor.stopping = false)
      (hpending : s.executor.pending = task :: rest) :
      Transition s { s with
        executor := s.executor.dropOldest.enqueue.2
        submitted := s.submitted ++ [s.executor.nextTaskId]
        cancelled := s.cancelled ++ [(task, .overflow)] }
  /-- `run_ready` and `cancel_pending`. -/
  | fetch (executor : ThreadedTaskExecutor P) (cancelled : List Nat)
      (completions completed : List (TaskCompletion P))
      (hcompleted : completions ++ completed = s.executor.completed)
      (h : s.executor.Moves executor cancelled s.executor.metrics.activeCount
        (s.executor.metrics.cancelledCount + cancelled.length) s.executor.doneCount completed) :
      Transition s { s with
        executor
        fetched := s.fetched ++ completions
        cancelled := s.cancelled ++ cancelAll cancelled .explicit }
  | drain (hworkers : s.executor.stopping = false ∨ s.executor.workers ≠ 0)
      (hpolicy : s.executor.cancelPendingOnShutdownLocked = false) :
      Transition s { s with
        executor := { s.executor with stopping := true, workers := 0 }
        shutdownCall := .joining
        pendingAtShutdown := s.executor.pending }
  | discard (hworkers : s.executor.stopping = false ∨ s.executor.workers ≠ 0)
      (hpolicy : s.executor.cancelPendingOnShutdownLocked = true) :
      Transition s { s with
        executor := { s.executor.cancelPendingLocked with stopping := true, workers := 0 }
        shutdownCall := .joining
        pendingAtShutdown := s.executor.pending
        cancelled := s.cancelled ++ cancelAll s.executor.pending .shutdown }
  | join (hcall : s.shutdownCall = .joining) (hexited : ∀ thread ∈ s.threads, thread = .exited) :
      Transition s { s with shutdownCall := .returned }
  | start (i task : Nat) (executor : ThreadedTaskExecutor P)
      (hthread : s.threads[i]? = some .waiting)
      (hexit : s.executor.mayExit = false)
      (hactive : s.executor.metrics.activeCount < s.executor.config.maxInflight)
      (h : s.executor.Moves executor [task] (s.executor.metrics.activeCount + 1)
        s.executor.metrics.cancelledCount s.executor.doneCount s.executor.completed) :
      Transition s { s with
        executor
        threads := s.threads.set i (.executing task)
        started := s.started ++ [task] }
  | exit (i : Nat) (hthread : s.threads[i]? = some .waiting) (hexit : s.executor.mayExit = true) :
      Transition s { s with threads := s.threads.set i .exited }
  | execute (i task : Nat) (completion : TaskCompletion P) (executor : ThreadedTaskExecutor P)
      (hthread : s.threads[i]? = some (.executing task)) (htask : completion.taskId = task)
      (h : s.executor.Moves executor [] s.executor.metrics.activeCount
        s.executor.metrics.cancelledCount s.executor.doneCount s.executor.completed) :
      Transition s { s with
        executor
        threads := s.threads.set i (.executed completion)
        executions := s.executions ++ [task] }
  | finish (i : Nat) (completion : TaskCompletion P)
      (hthread : s.threads[i]? = some (.executed completion)) :
      Transition s { s with
        executor := s.executor.finishTask completion
        threads := s.threads.set i .waiting
        finished := s.finished ++ [completion] }

/-- The configuration never changes. -/
theorem Transition.config {s s' : ExecutorSystem P} (ht : Transition s s') :
    s'.executor.config = s.executor.config := by
  cases ht with
  | still executor hm => exact hm.config
  | accept hstopping hroom => rfl
  | displace task rest hstopping hpending => rfl
  | fetch executor cancelled completions completed hcompleted hm => exact hm.config
  | drain hworkers hpolicy => rfl
  | discard hworkers hpolicy => rfl
  | join hcall hexited => rfl
  | start i task executor hthread hexit hactive hm => exact hm.config
  | exit i hthread hexit => rfl
  | execute i task completion executor hthread htask hm => exact hm.config
  | finish i completion hthread => exact (s.executor.finishTask_moves completion).config

/-- A submission is one of the transitions. -/
theorem step_submit {s s' : ExecutorSystem P} {hasWork : Bool}
    (hstep : s.step (.submit hasWork) = some s') : Transition s s' := by
  simp only [step, Option.some.injEq] at hstep
  subst hstep
  rcases s.executor.submit_cases hasWork with
    ⟨reason, hsubmit⟩ | ⟨hstopping, hroom, hsubmit⟩ | ⟨hstopping, hpending, hsubmit⟩
  · rw [hsubmit]
    simpa [rejectSubmissionLocked, cancelAll] using
      Transition.still _ (s.executor.rejectSubmissionLocked_moves reason)
  · rw [hsubmit]
    simpa [enqueue, cancelAll] using Transition.accept hstopping hroom
  · rw [hsubmit]
    obtain ⟨task, rest, hcons⟩ := List.exists_cons_of_ne_nil hpending
    simpa [enqueue, dropOldest, cancelAll, hcons] using
      Transition.displace task rest hstopping hcons

/-- A shutdown is one of the transitions. -/
theorem step_shutdown {s s' : ExecutorSystem P} (hstep : s.step .shutdown = some s') :
    Transition s s' := by
  simp only [step] at hstep
  rcases s.executor.shutdownWorkers_cases with
    hlate | ⟨hworkers, ⟨hpolicy, hdrain⟩ | ⟨hpolicy, hdiscard⟩⟩
  · rw [hlate] at hstep
    cases hstep
    exact Transition.still _ ⟨⟨rfl, rfl, rfl, rfl, rfl⟩, rfl, rfl, rfl, rfl, rfl⟩
  · rw [hdrain, hpolicy] at hstep
    cases hstep
    simpa [cancelAll] using Transition.drain hworkers hpolicy
  · rw [hdiscard, hpolicy] at hstep
    cases hstep
    exact Transition.discard hworkers hpolicy

/-- Every step is one of the transitions. -/
theorem step_transition {s s' : ExecutorSystem P} {action : ExecutorStep P}
    (hstep : s.step action = some s') : Transition s s' := by
  cases action with
  | submit hasWork => exact step_submit hstep
  | runReady maxTasks cancelRequested =>
      obtain ⟨completed, hcompleted, hmoves⟩ := s.executor.runReady_moves maxTasks cancelRequested
      cases hstep
      exact Transition.fetch _ _ _ completed hcompleted hmoves
  | cancelPending =>
      -- cancelling fetches nothing, it only fills the completions
      have hfetch := Transition.fetch (s := s) _ _ [] _ rfl s.executor.cancelPendingLocked_moves
      rw [List.append_nil] at hfetch
      cases hstep
      exact hfetch
  | shutdown => exact step_shutdown hstep
  | shutdownReturn =>
      simp only [step] at hstep
      split_ifs at hstep with hjoin
      cases hstep
      refine Transition.join hjoin.1 ?_
      intro thread hthread
      -- the joining thread has seen every worker exit
      have := List.all_eq_true.mp hjoin.2 thread hthread
      cases thread <;> simp_all
  | workerStart i =>
      simp only [step] at hstep
      split at hstep
      · next hthread hstart =>
          cases hstep
          obtain ⟨hexit, hactive, hmoves⟩ := s.executor.startTask_moves hstart
          exact Transition.start i _ _ hthread hexit hactive hmoves
      · cases hstep
  | workerExit i =>
      simp only [step] at hstep
      split at hstep
      · next hthread hexit =>
          cases hstep
          exact Transition.exit i hthread hexit
      · cases hstep
  | workerExecute i outcome overBudget =>
      simp only [step] at hstep
      split at hstep
      · next task hthread =>
          cases hstep
          obtain ⟨htask, hmoves⟩ := s.executor.executeTask_moves task outcome overBudget
          exact Transition.execute i task _ _ hthread htask hmoves
      · cases hstep
  | workerFinish i =>
      simp only [step] at hstep
      split at hstep
      · next completion hthread =>
          cases hstep
          exact Transition.finish i completion hthread
      · cases hstep

end ExecutorSystem

/-! ## Tasks on the threads -/

namespace WorkerThread

/-- The task a thread has started and not finished. -/
def task? : WorkerThread P → Option Nat
  | executing task => some task
  | executed completion => some completion.taskId
  | _ => none

/-- The task whose work a thread has not executed yet. -/
def unexecuted? : WorkerThread P → Option Nat
  | executing task => some task
  | _ => none

end WorkerThread

/-- What changes with one element of a list. -/
theorem filterMap_set_perm {α β : Type} (f : α → Option β) {l : List α} {i : Nat} {old : α}
    (new : α) (h : l[i]? = some old) :
    ((f old).toList ++ (l.set i new).filterMap f).Perm ((f new).toList ++ l.filterMap f) := by
  induction l generalizing i with
  | nil => simp at h
  | cons first rest ih =>
      cases i with
      | zero =>
          simp only [List.getElem?_cons_zero, Option.some.injEq] at h
          subst h
          rw [List.set_cons_zero]
          cases hold : f first <;> cases hnew : f new <;> simp [hold, hnew, List.Perm.swap]
      | succ i =>
          have hrest := ih (by simpa using h)
          rw [List.set_cons_succ]
          cases hfirst : f first with
          | none => simpa [hfirst] using hrest
          | some value =>
              simp only [List.filterMap_cons, hfirst]
              have hmiddle : ∀ l₁ l₂ : List β, (l₁ ++ value :: l₂).Perm (value :: (l₁ ++ l₂)) :=
                fun l₁ l₂ => List.perm_middle
              exact (hmiddle _ _).trans ((hrest.cons value).trans (hmiddle _ _).symm)

namespace ExecutorSystem

open ThreadedTaskExecutor

variable {s s' : ExecutorSystem P}

/-- The tasks that are started and not finished. -/
def active (s : ExecutorSystem P) : List Nat := s.threads.filterMap WorkerThread.task?

/-- The started tasks whose work is not executed yet. -/
def unexecuted (s : ExecutorSystem P) : List Nat := s.threads.filterMap WorkerThread.unexecuted?

/-! ## Bounds -/

/-- The counter of active tasks is right, and the bounds of the config hold. -/
structure Bounded (s : ExecutorSystem P) : Prop where
  active : s.executor.metrics.activeCount = s.active.length
  inflight : s.executor.metrics.activeCount ≤ s.executor.config.maxInflight
  outstanding : s.executor.outstanding ≤ s.executor.admissionCapacityLocked
  threads : s.threads.length = s.executor.config.maxWorkers

theorem bounded_new (config : ThreadedTaskExecutorConfig) : Bounded (new (P := P) config) where
  active := by
    show 0 = ((List.replicate _ WorkerThread.waiting).filterMap WorkerThread.task?).length
    rw [List.filterMap_replicate_of_none rfl]
    rfl
  inflight := Nat.zero_le _
  outstanding := Nat.zero_le _
  threads := List.length_replicate

/-- One thread changes what is active by its own task. -/
theorem length_active_set {i : Nat} {old : WorkerThread P} (new : WorkerThread P)
    (h : s.threads[i]? = some old) :
    old.task?.toList.length + ((s.threads.set i new).filterMap WorkerThread.task?).length =
      new.task?.toList.length + s.active.length := by
  have hperm := (filterMap_set_perm WorkerThread.task? new h).length_eq
  rwa [List.length_append, List.length_append] at hperm

/-- A section that adds no task, and what happens on the threads with it. -/
theorem Bounded.of_moves {left : List Nat} {activeCount cancelledCount doneCount : Nat}
    {completed : List (TaskCompletion P)} (h : Bounded s)
    (hm : s.executor.Moves s'.executor left activeCount cancelledCount doneCount completed)
    (hthreads : s'.threads.length = s.threads.length) (hactive : activeCount = s'.active.length)
    (hinflight : activeCount ≤ s.executor.config.maxInflight)
    (hroom : activeCount + completed.length ≤
      left.length + s.executor.metrics.activeCount + s.executor.completed.length) : Bounded s' where
  active := hm.activeCount.trans hactive
  inflight := by
    rw [hm.activeCount, hm.config]
    exact hinflight
  outstanding := by
    have hbefore := h.outstanding
    have hpending := congrArg List.length hm.pending
    rw [List.length_append] at hpending
    unfold ThreadedTaskExecutor.outstanding admissionCapacityLocked at *
    rw [hm.activeCount, hm.completed, hm.config]
    omega
  threads := by
    rw [hthreads, hm.config]
    exact h.threads

/-- Every transition keeps the bounds. -/
theorem Bounded.transition (h : Bounded s) (ht : Transition s s') : Bounded s' := by
  cases ht with
  | still executor hm =>
      exact h.of_moves hm rfl h.active h.inflight (by simp)
  | accept hstopping hroom =>
      refine ⟨h.active, h.inflight, ?_, h.threads⟩
      show (s.executor.pending ++ [_]).length + s.executor.metrics.activeCount +
        s.executor.completed.length ≤ s.executor.admissionCapacityLocked
      rw [List.length_append, List.length_singleton]
      unfold ThreadedTaskExecutor.outstanding at hroom
      omega
  | displace task rest hstopping hpending =>
      refine ⟨h.active, h.inflight, ?_, h.threads⟩
      -- one task leaves the queue, one enters it
      have hbefore := h.outstanding
      unfold ThreadedTaskExecutor.outstanding at hbefore
      rw [hpending, List.length_cons] at hbefore
      show (s.executor.pending.tail ++ [_]).length + s.executor.metrics.activeCount +
        s.executor.completed.length ≤ s.executor.admissionCapacityLocked
      rw [hpending, List.tail_cons, List.length_append, List.length_singleton]
      exact hbefore
  | fetch executor cancelled completions completed hcompleted hm =>
      refine h.of_moves hm rfl h.active h.inflight ?_
      rw [← hcompleted, List.length_append]
      omega
  | drain hworkers hpolicy => exact ⟨h.active, h.inflight, h.outstanding, h.threads⟩
  | discard hworkers hpolicy =>
      refine ⟨h.active, h.inflight, ?_, h.threads⟩
      have hbefore := h.outstanding
      unfold ThreadedTaskExecutor.outstanding at hbefore
      show ([] : List Nat).length + s.executor.metrics.activeCount + s.executor.completed.length ≤
        s.executor.admissionCapacityLocked
      rw [List.length_nil]
      omega
  | join hcall hexited => exact ⟨h.active, h.inflight, h.outstanding, h.threads⟩
  | start i task executor hthread hexit hactive hm =>
      -- the task that leaves the queue is the one that the thread takes
      have hlength := length_active_set (.executing task) hthread
      have hbefore := h.active
      refine h.of_moves hm List.length_set ?_ hactive ?_
      · simp only [WorkerThread.task?, Option.toList_none, Option.toList_some, List.length_nil,
          List.length_singleton] at hlength
        show _ = ((s.threads.set i (.executing task)).filterMap WorkerThread.task?).length
        omega
      · rw [List.length_singleton]
        omega
  | exit i hthread hexit =>
      have hlength := length_active_set .exited hthread
      refine ⟨?_, h.inflight, h.outstanding, List.length_set.trans h.threads⟩
      simp only [WorkerThread.task?, Option.toList_none, List.length_nil, Nat.zero_add] at hlength
      exact h.active.trans hlength.symm
  | execute i task completion executor hthread htask hm =>
      have hlength := length_active_set (.executed completion) hthread
      refine h.of_moves hm List.length_set ?_ h.inflight (by simp)
      simp only [WorkerThread.task?, Option.toList_some, List.length_singleton] at hlength
      have hbefore := h.active
      show _ = ((s.threads.set i (.executed completion)).filterMap WorkerThread.task?).length
      omega
  | finish i completion hthread =>
      -- an active task becomes a completion that waits to be fetched
      have hlength := length_active_set .waiting hthread
      have hbefore := h.active
      have hinflight := h.inflight
      simp only [WorkerThread.task?, Option.toList_none, Option.toList_some, List.length_nil,
        List.length_singleton] at hlength
      refine h.of_moves (s.executor.finishTask_moves completion) List.length_set ?_ (by omega) ?_
      · show _ = ((s.threads.set i .waiting).filterMap WorkerThread.task?).length
        omega
      · rw [List.length_append, List.length_singleton]
        omega

end ExecutorSystem

end TopoExec
