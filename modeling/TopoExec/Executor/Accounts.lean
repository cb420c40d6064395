import Mathlib.Data.List.Sort
import TopoExec.Executor.Invariant

/-! # The accounts of the executor

Every accepted task is pending, started or cancelled, every started one is active or
finished, and tasks start in the order of their submission (`Accounted`). Once a shutdown
has begun nothing is accepted any more, and what was pending then is drained or discarded
(`Stopped`).
-/

namespace TopoExec

variable {P : Type}

namespace ExecutorSystem

open ThreadedTaskExecutor

variable {s s' : ExecutorSystem P}

/-- The ids of the tasks that are finished. -/
def finishedTasks (s : ExecutorSystem P) : List Nat := s.finished.map TaskCompletion.taskId

/-- What became of the accepted tasks. -/
structure Accounted (s : ExecutorSystem P) : Prop where
  submittedCount : s.executor.metrics.submittedCount = s.submitted.length
  cancelledCount : s.executor.metrics.cancelledCount = s.cancelled.length
  doneCount : s.executor.doneCount = s.finished.length
  fates : (s.started ++ s.executor.pending ++ s.cancelled.map Prod.fst).Perm s.submitted
  running : (s.active ++ s.finishedTasks).Perm s.started
  executed : (s.unexecuted ++ s.executions).Perm s.started
  backlog : s.fetched ++ s.executor.completed = s.finished
  order : (s.started ++ s.executor.pending).Pairwise (· < ·)
  submission : s.submitted.Pairwise (· < ·)
  fresh : ∀ task ∈ s.submitted, task < s.executor.nextTaskId

theorem map_fst_cancelAll (tasks : List Nat) (cause : CancelCause) :
    (cancelAll tasks cause).map Prod.fst = tasks := by
  rw [cancelAll, List.map_map]
  exact List.map_id' tasks

theorem length_cancelAll (tasks : List Nat) (cause : CancelCause) :
    (cancelAll tasks cause).length = tasks.length := List.length_map _

/-- A new executor has nothing to account for. -/
theorem accounted_new (config : ThreadedTaskExecutorConfig) : Accounted (new (P := P) config) where
  submittedCount := rfl
  cancelledCount := rfl
  doneCount := rfl
  fates := List.Perm.refl _
  running := by
    show (((List.replicate _ WorkerThread.waiting).filterMap WorkerThread.task?) ++ []).Perm []
    rw [List.filterMap_replicate_of_none rfl]
    exact List.Perm.refl _
  executed := by
    show (((List.replicate _ WorkerThread.waiting).filterMap
      WorkerThread.unexecuted?) ++ []).Perm []
    rw [List.filterMap_replicate_of_none rfl]
    exact List.Perm.refl _
  backlog := rfl
  order := List.Pairwise.nil
  submission := List.Pairwise.nil
  fresh := fun _ h => absurd h List.not_mem_nil

theorem pairwise_lt_append_singleton {l : List Nat} {n : Nat} (h : l.Pairwise (· < ·))
    (hlt : ∀ task ∈ l, task < n) : (l ++ [n]).Pairwise (· < ·) := by
  rw [List.pairwise_append]
  refine ⟨h, List.pairwise_singleton _ _, ?_⟩
  intro task htask last hlast
  rw [List.mem_singleton.mp hlast]
  exact hlt task htask

/-- A queued task was submitted, so its id was handed out. -/
theorem Accounted.pending_lt (h : Accounted s) :
    ∀ task ∈ s.started ++ s.executor.pending, task < s.executor.nextTaskId := by
  intro task htask
  exact h.fresh task (h.fates.subset (List.mem_append_left _ htask))

/-- A thread that keeps its task keeps the active tasks. -/
theorem active_set_perm {i : Nat} {old new : WorkerThread P} (hthread : s.threads[i]? = some old)
    (hsame : new.task? = old.task?) :
    ((s.threads.set i new).filterMap WorkerThread.task?).Perm s.active := by
  have hperm := filterMap_set_perm WorkerThread.task? new hthread
  rw [hsame] at hperm
  exact (List.perm_append_left_iff _).mp hperm

/-- A section that adds no task: what leaves the queue is started or cancelled. -/
theorem Accounted.of_moves {left : List Nat} {activeCount cancelledCount doneCount : Nat}
    {completed : List (TaskCompletion P)} (h : Accounted s)
    (hm : s.executor.Moves s'.executor left activeCount cancelledCount doneCount completed)
    (hsubmitted : s'.submitted = s.submitted) (hcancelled : cancelledCount = s'.cancelled.length)
    (hdone : doneCount = s'.finished.length)
    (hfates : (s'.started ++ s'.cancelled.map Prod.fst).Perm
      (s.started ++ left ++ s.cancelled.map Prod.fst))
    (horder : (s'.started ++ s'.executor.pending).Sublist (s.started ++ s.executor.pending))
    (hrunning : (s'.active ++ s'.finishedTasks).Perm s'.started)
    (hexecuted : (s'.unexecuted ++ s'.executions).Perm s'.started)
    (hbacklog : s'.fetched ++ completed = s'.finished) : Accounted s' where
  submittedCount := by
    rw [hm.submittedCount, hsubmitted]
    exact h.submittedCount
  cancelledCount := hm.cancelledCount.trans hcancelled
  doneCount := hm.doneCount.trans hdone
  fates := by
    -- what left the queue was started or cancelled, so the counts of the fates still add up
    have hbefore := h.fates
    rw [← hm.pending] at hbefore
    rw [List.perm_iff_count] at hbefore hfates ⊢
    intro task
    have h₁ := hbefore task
    have h₂ := hfates task
    simp only [List.count_append, hsubmitted] at h₁ h₂ ⊢
    omega
  running := hrunning
  executed := hexecuted
  backlog := by
    rw [hm.completed]
    exact hbacklog
  order := h.order.sublist horder
  submission := by
    rw [hsubmitted]
    exact h.submission
  fresh := by
    rw [hsubmitted, hm.nextTaskId]
    exact h.fresh

/-- A section that starts no task: what leaves the queue is cancelled. -/
theorem Accounted.of_cancels {left : List Nat} {activeCount cancelledCount doneCount : Nat}
    {completed : List (TaskCompletion P)} (h : Accounted s)
    (hm : s.executor.Moves s'.executor left activeCount cancelledCount doneCount completed)
    (hsubmitted : s'.submitted = s.submitted) (hstarted : s'.started = s.started)
    (cause : CancelCause) (hcancelled : s'.cancelled = s.cancelled ++ cancelAll left cause)
    (hcount : cancelledCount = s.executor.metrics.cancelledCount + left.length)
    (hdone : doneCount = s'.finished.length)
    (hrunning : (s'.active ++ s'.finishedTasks).Perm s.started)
    (hexecuted : (s'.unexecuted ++ s'.executions).Perm s.started)
    (hbacklog : s'.fetched ++ completed = s'.finished) : Accounted s' := by
  refine h.of_moves hm hsubmitted ?_ hdone ?_ ?_ ?_ ?_ hbacklog
  · rw [hcount, hcancelled, List.length_append, length_cancelAll, h.cancelledCount]
  · rw [hstarted, hcancelled, List.map_append, map_fst_cancelAll, List.append_assoc]
    exact List.perm_append_comm.append_left _
  · rw [hstarted, ← hm.pending]
    exact (List.Sublist.refl _).append (List.sublist_append_right _ _)
  · rw [hstarted]
    exact hrunning
  · rw [hstarted]
    exact hexecuted

/-- The task that is accepted has the largest id so far. -/
theorem Accounted.enqueue (h : Accounted s) :
    Accounted { s with
      executor := s.executor.enqueue.2
      submitted := s.submitted ++ [s.executor.nextTaskId] } := by
  refine { h with submittedCount := ?_, fates := ?_, order := ?_, submission := ?_, fresh := ?_ }
  · rw [List.length_append]
    exact congrArg (· + 1) h.submittedCount
  · have hfates := h.fates
    -- ids are given in increasing order, so the new one comes last
    show (s.started ++ (s.executor.pending ++ [s.executor.nextTaskId]) ++ _).Perm
      (s.submitted ++ [s.executor.nextTaskId])
    rw [List.perm_iff_count] at hfates ⊢
    intro task
    have hcount := hfates task
    simp only [List.count_append] at hcount ⊢
    omega
  · show (s.started ++ (s.executor.pending ++ [s.executor.nextTaskId])).Pairwise _
    rw [← List.append_assoc]
    exact pairwise_lt_append_singleton h.order h.pending_lt
  · exact pairwise_lt_append_singleton h.submission h.fresh
  · intro task htask
    rcases List.mem_append.mp htask with hold | hnew
    · exact Nat.lt_succ_of_lt (h.fresh task hold)
    · rw [List.mem_singleton.mp hnew]
      exact Nat.lt_succ_self _

/-- A task moves on from its thread to the list of those that are through. -/
theorem perm_of_moved {before after through all : List Nat} {task : Nat}
    (hset : ([task] ++ after).Perm before) (h : (before ++ through).Perm all) :
    (after ++ (through ++ [task])).Perm all := by
  have hlast : (after ++ through ++ [task]).Perm ([task] ++ (after ++ through)) :=
    List.perm_append_comm
  rw [← List.append_assoc] at hlast ⊢
  exact hlast.trans ((hset.append_right through).trans h)

/-- Every transition moves a task from one place to the next. -/
theorem Accounted.transition (h : Accounted s) (ht : Transition s s') : Accounted s' := by
  cases ht with
  | still executor hm =>
      exact h.of_cancels hm rfl rfl .explicit (List.append_nil _).symm rfl h.doneCount h.running
        h.executed h.backlog
  | accept hstopping hroom => exact h.enqueue
  | displace task rest hstopping hpending =>
      -- the oldest task is cancelled first, then the new one is accepted
      have hdropped : Accounted { s with
          executor := s.executor.dropOldest
          cancelled := s.cancelled ++ [(task, .overflow)] } :=
        h.of_cancels (s.executor.dropOldest_moves hpending) rfl rfl .overflow rfl rfl h.doneCount
          h.running h.executed h.backlog
      exact hdropped.enqueue
  | fetch executor cancelled completions completed hcompleted hm =>
      refine h.of_cancels hm rfl rfl .explicit rfl rfl h.doneCount h.running h.executed ?_
      show s.fetched ++ completions ++ completed = s.finished
      rw [List.append_assoc, hcompleted]
      exact h.backlog
  | drain hworkers hpolicy => exact { h with }
  | discard hworkers hpolicy =>
      have hcancelled : Accounted { s with
          executor := s.executor.cancelPendingLocked
          cancelled := s.cancelled ++ cancelAll s.executor.pending .shutdown } :=
        h.of_cancels s.executor.cancelPendingLocked_moves rfl rfl .shutdown rfl rfl h.doneCount
          h.running h.executed h.backlog
      exact { hcancelled with }
  | join hcall hexited => exact { h with }
  | start i task executor hthread hexit hactive hm =>
      have hactiveSet := filterMap_set_perm WorkerThread.task? (.executing task) hthread
      have hunexecutedSet := filterMap_set_perm WorkerThread.unexecuted? (.executing task) hthread
      refine h.of_moves hm rfl h.cancelledCount h.doneCount (List.Perm.refl _) ?_ ?_ ?_ h.backlog
      · -- the task leaves the front of the queue and is the last to start
        show (s.started ++ [task] ++ executor.pending).Sublist _
        rw [← hm.pending, List.append_assoc]
      · exact ((hactiveSet.append_right _).trans (h.running.cons task)).trans
          (List.perm_append_singleton task s.started).symm
      · exact ((hunexecutedSet.append_right _).trans (h.executed.cons task)).trans
          (List.perm_append_singleton task s.started).symm
  | exit i hthread hexit =>
      have hactiveSet := filterMap_set_perm WorkerThread.task? .exited hthread
      have hunexecutedSet := filterMap_set_perm WorkerThread.unexecuted? .exited hthread
      exact { h with
        running := (hactiveSet.append_right _).trans h.running
        executed := (hunexecutedSet.append_right _).trans h.executed }
  | execute i task completion executor hthread htask hm =>
      have hactiveSet := active_set_perm hthread
        (show (WorkerThread.executed completion).task? = _ from congrArg some htask)
      have hunexecutedSet :=
        filterMap_set_perm WorkerThread.unexecuted? (.executed completion) hthread
      refine h.of_cancels hm rfl rfl .explicit (List.append_nil _).symm rfl h.doneCount ?_ ?_
        h.backlog
      · -- the task stays on its thread, now with its completion
        exact (hactiveSet.append_right s.finishedTasks).trans h.running
      · exact perm_of_moved hunexecutedSet h.executed
  | finish i completion hthread =>
      have hactiveSet := filterMap_set_perm WorkerThread.task? .waiting hthread
      have hunexecutedSet := filterMap_set_perm WorkerThread.unexecuted? .waiting hthread
      refine h.of_cancels (s.executor.finishTask_moves completion) rfl rfl .explicit
        (List.append_nil _).symm rfl ?_ ?_ ?_ ?_
      · rw [List.length_append]
        exact congrArg (· + 1) h.doneCount
      · show (((s.threads.set i .waiting).filterMap WorkerThread.task?) ++
          (s.finished ++ [completion]).map TaskCompletion.taskId).Perm s.started
        rw [List.map_append]
        exact perm_of_moved hactiveSet h.running
      · exact (hunexecutedSet.append_right _).trans h.executed
      · show s.fetched ++ (s.executor.completed ++ [completion]) = s.finished ++ [completion]
        rw [← List.append_assoc, h.backlog]

/-! ## Shutdown -/

/-- What became of a task that was pending when the shutdown began. -/
def ShutdownFate (s : ExecutorSystem P) (task : Nat) : Prop :=
  if s.executor.cancelPendingOnShutdownLocked then (task, .shutdown) ∈ s.cancelled
  else task ∈ s.executor.pending ∨ task ∈ s.active ∨ task ∈ s.finishedTasks ∨
    (task, .explicit) ∈ s.cancelled

/-- A policy that discards cancels what is pending. -/
theorem shutdownFate_of_discard {task : Nat}
    (h : s.executor.cancelPendingOnShutdownLocked = true) :
    s.ShutdownFate task ↔ (task, .shutdown) ∈ s.cancelled := by
  rw [ShutdownFate, if_pos h]

/-- A policy that drains runs what is pending. -/
theorem shutdownFate_of_drain {task : Nat} (h : s.executor.cancelPendingOnShutdownLocked = false) :
    s.ShutdownFate task ↔ task ∈ s.executor.pending ∨ task ∈ s.active ∨ task ∈ s.finishedTasks ∨
      (task, .explicit) ∈ s.cancelled := by
  rw [ShutdownFate, if_neg (by simp [h])]

/-- What holds once a shutdown has begun. -/
structure Stopped (s : ExecutorSystem P) : Prop where
  workers : s.executor.workers = 0 ↔ s.executor.stopping = true
  call : s.shutdownCall ≠ .none → s.executor.stopping = true
  exited : WorkerThread.exited ∈ s.threads →
    s.executor.stopping = true ∧ s.executor.pending = []
  discarded : s.executor.stopping = true → s.executor.cancelPendingOnShutdownLocked = true →
    s.executor.pending = []
  fates : s.executor.stopping = true → ∀ task ∈ s.pendingAtShutdown, s.ShutdownFate task
  returned : s.shutdownCall = .returned → ∀ thread ∈ s.threads, thread = .exited

theorem stopped_new (config : ThreadedTaskExecutorConfig) : Stopped (new (P := P) config) where
  workers := by
    show normalizePositive config.maxWorkers = 0 ↔ false = true
    unfold normalizePositive
    split_ifs with hzero <;> simp [hzero]
  call := fun h => absurd rfl h
  exited := fun h => by cases List.eq_of_mem_replicate h
  discarded := fun h => by cases h
  fates := fun h => by cases h
  returned := fun h => by cases h

/-- A section that adds no task: what leaves the queue is active or cancelled, and what
stops being active is finished. -/
theorem Stopped.of_moves {left : List Nat} {activeCount cancelledCount doneCount : Nat}
    {completed : List (TaskCompletion P)} (h : Stopped s)
    (hm : s.executor.Moves s'.executor left activeCount cancelledCount doneCount completed)
    (hcall : s'.shutdownCall = s.shutdownCall)
    (hshutdown : s'.pendingAtShutdown = s.pendingAtShutdown)
    (hexited : WorkerThread.exited ∈ s'.threads → WorkerThread.exited ∈ s.threads)
    (hreturned : (∀ thread ∈ s.threads, thread = .exited) → ∀ thread ∈ s'.threads, thread = .exited)
    (hcancelled : s.cancelled ⊆ s'.cancelled) (hfinished : s.finishedTasks ⊆ s'.finishedTasks)
    (hleft : ∀ task ∈ left, task ∈ s'.active ∨ (task, .explicit) ∈ s'.cancelled)
    (hactive : ∀ task ∈ s.active, task ∈ s'.active ∨ task ∈ s'.finishedTasks) : Stopped s' where
  workers := by
    rw [hm.workers, hm.stopping]
    exact h.workers
  call := by
    rw [hcall, hm.stopping]
    exact h.call
  exited := by
    intro hmem
    -- a worker that has gone had found the queue empty, and nothing enters it any more
    obtain ⟨hstopping, hpending⟩ := h.exited (hexited hmem)
    rw [← hm.pending] at hpending
    exact ⟨hm.stopping.trans hstopping, (List.append_eq_nil_iff.mp hpending).2⟩
  discarded := by
    intro hstopping hpolicy
    rw [hm.stopping] at hstopping
    rw [cancelPendingOnShutdownLocked, hm.config] at hpolicy
    have hpending := h.discarded hstopping hpolicy
    rw [← hm.pending] at hpending
    exact (List.append_eq_nil_iff.mp hpending).2
  fates := by
    intro hstopping task htask
    rw [hm.stopping] at hstopping
    rw [hshutdown] at htask
    have hfate := h.fates hstopping task htask
    unfold ShutdownFate cancelPendingOnShutdownLocked at hfate ⊢
    rw [hm.config]
    split_ifs at hfate ⊢ with hpolicy
    · exact hcancelled hfate
    · rw [← hm.pending, List.mem_append] at hfate
      -- a task drained by the shutdown goes from the queue to a worker to the finished ones,
      -- unless it is cancelled explicitly
      rcases hfate with (hgone | hpending) | hrunning | hdone | hexplicit
      · rcases hleft task hgone with hstarted | hexplicit
        · exact Or.inr (Or.inl hstarted)
        · exact Or.inr (Or.inr (Or.inr hexplicit))
      · exact Or.inl hpending
      · rcases hactive task hrunning with hstill | hdone
        · exact Or.inr (Or.inl hstill)
        · exact Or.inr (Or.inr (Or.inl hdone))
      · exact Or.inr (Or.inr (Or.inl (hfinished hdone)))
      · exact Or.inr (Or.inr (Or.inr (hcancelled hexplicit)))
  returned := by
    intro hcalled
    rw [hcall] at hcalled
    exact hreturned (h.returned hcalled)

/-- A thread that was not exited moves on to another place in its loop. -/
theorem exited_of_mem_set {i : Nat} {new : WorkerThread P} (hnew : new ≠ .exited)
    (hmem : WorkerThread.exited ∈ s.threads.set i new) : WorkerThread.exited ∈ s.threads := by
  rcases List.mem_or_eq_of_mem_set hmem with hin | heq
  · exact hin
  · exact absurd heq.symm hnew

/-- A running thread contradicts that all of them exited. -/
theorem not_all_exited {i : Nat} {old : WorkerThread P} (hthread : s.threads[i]? = some old)
    (hold : old ≠ .exited) (hall : ∀ thread ∈ s.threads, thread = .exited) : False :=
  hold (hall old (List.mem_of_getElem? hthread))

/-- A task is active after its thread moved on, unless it was the task of that thread. -/
theorem mem_active_set {i : Nat} {old : WorkerThread P} (new : WorkerThread P)
    (hthread : s.threads[i]? = some old) {task : Nat} (h : task ∈ s.active) :
    old.task? = some task ∨ task ∈ (s.threads.set i new).filterMap WorkerThread.task? := by
  have hperm := filterMap_set_perm WorkerThread.task? new hthread
  rcases List.mem_append.mp (hperm.mem_iff.mpr (List.mem_append_right _ h)) with hold | hset
  · exact Or.inl (Option.mem_toList.mp hold)
  · exact Or.inr hset

/-- A section of one thread: it takes the task that leaves the queue, and keeps its own one
or finishes it. -/
theorem Stopped.of_thread {left : List Nat} {activeCount cancelledCount doneCount i : Nat}
    {completed : List (TaskCompletion P)} {old new : WorkerThread P} (h : Stopped s)
    (hm : s.executor.Moves s'.executor left activeCount cancelledCount doneCount completed)
    (hcall : s'.shutdownCall = s.shutdownCall)
    (hshutdown : s'.pendingAtShutdown = s.pendingAtShutdown)
    (hcancelled : s'.cancelled = s.cancelled) (hthread : s.threads[i]? = some old)
    (hold : old ≠ .exited) (hnew : new ≠ .exited) (hset : s'.threads = s.threads.set i new)
    (hfinished : s.finishedTasks ⊆ s'.finishedTasks)
    (hleft : ∀ task ∈ left, new.task? = some task)
    (hdone : ∀ task, old.task? = some task → new.task? = some task ∨ task ∈ s'.finishedTasks) :
    Stopped s' := by
  -- what the thread holds now is active
  have htakes : ∀ task, new.task? = some task → task ∈ s'.active := by
    intro task htask
    unfold active
    rw [hset]
    have hlt := (List.getElem?_eq_some_iff.mp hthread).1
    exact List.mem_filterMap.mpr ⟨new, List.mem_set hlt new, htask⟩
  refine h.of_moves hm hcall hshutdown ?_ ?_ ?_ hfinished ?_ ?_
  · rw [hset]
    exact exited_of_mem_set hnew
  · exact fun hall => (not_all_exited hthread hold hall).elim
  · rw [hcancelled]
    exact List.Subset.refl _
  · exact fun task htask => Or.inl (htakes task (hleft task htask))
  · intro task htask
    rcases mem_active_set new hthread htask with hmine | hother
    · exact (hdone task hmine).imp_left (htakes task)
    · left
      unfold active
      rw [hset]
      exact hother

/-- Before a shutdown there is nothing to say about it. -/
theorem Stopped.of_running (h : Stopped s) (hrunning : s'.executor.stopping = false)
    (hstopping : s'.executor.stopping = s.executor.stopping)
    (hworkers : s'.executor.workers = s.executor.workers)
    (hcall : s'.shutdownCall = s.shutdownCall) (hthreads : s'.threads = s.threads) :
    Stopped s' := by
  have hcontra : s'.executor.stopping = true → False := by simp [hrunning]
  refine ⟨?_, ?_, ?_, fun hs => (hcontra hs).elim, fun hs => (hcontra hs).elim, ?_⟩
  · rw [hworkers, hstopping]
    exact h.workers
  · rw [hcall, hstopping]
    exact h.call
  · intro hin
    rw [hthreads] at hin
    exact (hcontra (hstopping.trans (h.exited hin).1)).elim
  · rw [hcall, hthreads]
    exact h.returned

/-- The `shutdown` that begins the shutdown finds the executor running. -/
theorem Stopped.not_stopping (h : Stopped s)
    (hworkers : s.executor.stopping = false ∨ s.executor.workers ≠ 0) :
    s.executor.stopping = true → False := by
  intro hstopping
  rcases hworkers with hnot | hsome
  · simp [hnot] at hstopping
  · exact hsome (h.workers.mpr hstopping)

/-- Every transition keeps what is known of a shutdown. -/
theorem Stopped.transition (h : Stopped s) (ht : Transition s s') : Stopped s' := by
  -- only a shutdown sets `stopping`, and afterwards a task leaves the queue for its fate
  cases ht with
  | still executor hm =>
      exact h.of_moves hm rfl rfl id id (List.Subset.refl _) (List.Subset.refl _)
        (fun _ hin => absurd hin List.not_mem_nil) (fun _ hin => Or.inl hin)
  | accept hstopping hroom => exact h.of_running hstopping rfl rfl rfl rfl
  | displace task rest hstopping hpending => exact h.of_running hstopping rfl rfl rfl rfl
  | fetch executor cancelled completions completed hcompleted hm =>
      refine h.of_moves hm rfl rfl id id (List.subset_append_left _ _) (List.Subset.refl _) ?_
        (fun _ hin => Or.inl hin)
      intro task htask
      exact Or.inr (List.mem_append_right _ (List.mem_map.mpr ⟨task, htask, rfl⟩))
  | drain hworkers hpolicy =>
      have hrunning := h.not_stopping hworkers
      refine ⟨⟨fun _ => rfl, fun _ => rfl⟩, fun _ => rfl,
        fun hin => (hrunning (h.exited hin).1).elim,
        ?_, ?_, fun hcall => by cases hcall⟩
      · intro _ hpolicy'
        rw [show s.executor.cancelPendingOnShutdownLocked = true from hpolicy'] at hpolicy
        cases hpolicy
      · -- what is pending now is what was pending at the shutdown
        intro _ task htask
        exact (shutdownFate_of_drain hpolicy).mpr (Or.inl htask)
  | discard hworkers hpolicy =>
      have hrunning := h.not_stopping hworkers
      refine ⟨⟨fun _ => rfl, fun _ => rfl⟩, fun _ => rfl,
        fun hin => (hrunning (h.exited hin).1).elim,
        fun _ _ => rfl, ?_, fun hcall => by cases hcall⟩
      intro _ task htask
      refine (shutdownFate_of_discard ?_).mpr ?_
      · exact hpolicy
      · exact List.mem_append_right _ (List.mem_map.mpr ⟨task, htask, rfl⟩)
  | join hcall hexited =>
      exact { h with call := fun _ => h.call (by simp [hcall]), returned := fun _ => hexited }
  | start i task executor hthread hexit hactive hm =>
      refine h.of_thread hm rfl rfl rfl hthread (by simp) (by simp) rfl (List.Subset.refl _) ?_ ?_
      · intro t ht
        rw [List.mem_singleton.mp ht]
        rfl
      · -- a waiting thread has no task
        intro t ht
        cases ht
  | exit i hthread hexit =>
      have hstopped : s.executor.stopping = true ∧ s.executor.pending = [] := by
        simp only [mayExit, Bool.and_eq_true, Bool.or_eq_true, List.isEmpty_iff] at hexit
        refine ⟨hexit.1, ?_⟩
        rcases hexit.2 with hempty | hpolicy
        · exact hempty
        · exact h.discarded hexit.1 hpolicy
      have hactive := active_set_perm hthread (show WorkerThread.exited.task? = _ from rfl)
      refine { h with exited := fun _ => hstopped, fates := ?_, returned := ?_ }
      · intro hstopping task htask
        have hfate := h.fates hstopping task htask
        unfold ShutdownFate at hfate ⊢
        split_ifs at hfate ⊢ with hpolicy
        · exact hfate
        · rcases hfate with hpending | hin | hrest
          · exact Or.inl hpending
          · exact Or.inr (Or.inl (hactive.mem_iff.mpr hin))
          · exact Or.inr (Or.inr hrest)
      · exact fun hcall => (not_all_exited hthread (by simp) (h.returned hcall)).elim
  | execute i task completion executor hthread htask hm =>
      refine h.of_thread hm rfl rfl rfl hthread (by simp) (by simp) rfl (List.Subset.refl _)
        (fun _ hin => absurd hin List.not_mem_nil) ?_
      intro t ht
      left
      rw [← ht]
      exact congrArg some htask
  | finish i completion hthread =>
      refine h.of_thread (s.executor.finishTask_moves completion) rfl rfl rfl hthread (by simp)
        (by simp) rfl ?_ (fun _ hin => absurd hin List.not_mem_nil) ?_
      · intro t ht
        show t ∈ (s.finished ++ [completion]).map TaskCompletion.taskId
        rw [List.map_append]
        exact List.mem_append_left _ ht
      · intro t ht
        right
        show t ∈ (s.finished ++ [completion]).map TaskCompletion.taskId
        rw [List.map_append]
        exact List.mem_append_right _ (List.mem_singleton.mpr (Option.some.inj ht).symm)

/-! ## Runs -/

/-- By induction on the run. -/
theorem Reachable.run {config : ThreadedTaskExecutorConfig} {s₀ : ExecutorSystem P}
    (h : Reachable config s₀) (actions : List (ExecutorStep P))
    (hrun : actions.foldlM ExecutorSystem.step s₀ = some s) : Reachable config s := by
  induction actions generalizing s₀ with
  | nil =>
      cases hrun
      exact h
  | cons action actions ih =>
      rw [List.foldlM_cons] at hrun
      obtain ⟨s₁, hstep, hrest⟩ := Option.bind_eq_some_iff.mp hrun
      exact ih (h.step action hstep) hrest

/-- The invariants in every state of every run. -/
theorem Reachable.invariants {config : ThreadedTaskExecutorConfig} (h : Reachable config s) :
    s.executor.config = (ThreadedTaskExecutor.new (P := P) config).config ∧ Bounded s ∧
      Accounted s ∧ Stopped s := by
  induction h with
  | new => exact ⟨rfl, bounded_new config, accounted_new config, stopped_new config⟩
  | step action _ hstep ih =>
      obtain ⟨hconfig, hbounded, haccounted, hstopped⟩ := ih
      have ht := step_transition hstep
      exact ⟨ht.config.trans hconfig, hbounded.transition ht, haccounted.transition ht,
        hstopped.transition ht⟩

/-- What was pending when a shutdown began that has returned: executed or cancelled by
hand if the queue was drained, else cancelled by the shutdown. -/
def SettledAtShutdown (s : ExecutorSystem P) (task : Nat) : Prop :=
  if cancelPendingShutdownPolicy s.executor.config.shutdownPolicy then
    (task, .shutdown) ∈ s.cancelled
  else (task ∈ s.executions ∧ task ∈ s.finishedTasks) ∨ (task, .explicit) ∈ s.cancelled

/-- When the shutdown has returned every task has its fate. -/
theorem Stopped.settled (h : Stopped s) (hb : Bounded s) (ha : Accounted s)
    (hworkers : 0 < s.executor.config.maxWorkers) (hreturned : s.shutdownCall = .returned) :
    s.executor.pending = [] ∧ ∀ task ∈ s.pendingAtShutdown, s.SettledAtShutdown task := by
  have hall := h.returned hreturned
  have hstopping := h.call (by simp [hreturned])
  -- there is at least one thread, and it saw an empty queue when it left
  obtain ⟨thread, hthread⟩ := List.exists_mem_of_length_pos (hb.threads.symm ▸ hworkers)
  have hpending := (h.exited (hall thread hthread ▸ hthread)).2
  have hactive : s.active = [] := by
    rw [active, List.filterMap_eq_nil_iff]
    intro thread hin
    rw [hall thread hin]
    rfl
  have hunexecuted : s.unexecuted = [] := by
    rw [unexecuted, List.filterMap_eq_nil_iff]
    intro thread hin
    rw [hall thread hin]
    rfl
  refine ⟨hpending, ?_⟩
  intro task htask
  have hfate := h.fates hstopping task htask
  unfold ShutdownFate cancelPendingOnShutdownLocked at hfate
  unfold SettledAtShutdown
  split_ifs at hfate ⊢ with hpolicy
  · exact hfate
  · rw [hpending, hactive] at hfate
    rcases hfate with hin | hin | hfinished | hexplicit
    · exact absurd hin List.not_mem_nil
    · exact absurd hin List.not_mem_nil
    · refine Or.inl ⟨?_, hfinished⟩
      have hstarted := ha.running.subset (List.mem_append_right _ hfinished)
      have hexecuted := ha.executed.mem_iff.mpr hstarted
      rw [hunexecuted] at hexecuted
      exact hexecuted
    · exact Or.inr hexplicit

/-- No task starts twice. -/
theorem Accounted.started_nodup (h : Accounted s) : s.started.Nodup :=
  (List.pairwise_append.mp h.order).1.imp fun hlt => Nat.ne_of_lt hlt

/-- What starts was submitted. -/
theorem Accounted.started_subset (h : Accounted s) : s.started ⊆ s.submitted := by
  intro task htask
  exact h.fates.subset (List.mem_append_left _ (List.mem_append_left _ htask))

/-- Tasks start in the order in which they were submitted. -/
theorem Accounted.started_sublist (h : Accounted s) : s.started.Sublist s.submitted := by
  have hsubperm := List.subperm_of_subset h.started_nodup h.started_subset
  have hstarted : s.started.Pairwise (· ≤ ·) :=
    (List.pairwise_append.mp h.order).1.imp fun hlt => Nat.le_of_lt hlt
  have hsubmitted : s.submitted.Pairwise (· ≤ ·) := h.submission.imp fun hlt => Nat.le_of_lt hlt
  exact List.sublist_of_subperm_of_pairwise hsubperm hstarted hsubmitted

/-- The counters add up. -/
theorem Accounted.balance (h : Accounted s) (hb : Bounded s) :
    s.executor.metrics.submittedCount = s.executor.metrics.completedCount +
      s.executor.metrics.failedCount + s.executor.metrics.cancelledCount +
      s.executor.pending.length + s.executor.metrics.activeCount := by
  have hfates := h.fates.length_eq
  have hrunning := h.running.length_eq
  have hdone := h.doneCount
  unfold finishedTasks at hrunning
  unfold ThreadedTaskExecutor.doneCount at hdone
  simp only [List.length_append, List.length_map] at hfates hrunning
  rw [h.submittedCount, h.cancelledCount, hb.active]
  omega

/-- The contract of the executor, in every state of every run. -/
theorem executor_contract {config : ThreadedTaskExecutorConfig} (h : Reachable config s) :
    -- bounds
    s.executor.pending.length + s.executor.metrics.activeCount + s.executor.completed.length ≤
      normalizePositive config.maxInflight + config.queueCapacity ∧
    s.executor.metrics.activeCount = s.active.length ∧
    s.executor.metrics.activeCount ≤
      min (normalizePositive config.maxInflight) (normalizePositive config.maxWorkers) ∧
    -- accounts
    s.executor.metrics.submittedCount = s.executor.metrics.completedCount +
      s.executor.metrics.failedCount + s.executor.metrics.cancelledCount +
      s.executor.pending.length + s.executor.metrics.activeCount ∧
    s.executor.metrics.submittedCount = s.submitted.length ∧
    s.executor.metrics.cancelledCount = s.cancelled.length ∧
    -- at most one execution and completion of every accepted task
    s.executions.Nodup ∧ s.executions ⊆ s.submitted ∧
    s.finishedTasks.Nodup ∧ s.finishedTasks ⊆ s.submitted ∧
    s.fetched ++ s.executor.completed = s.finished ∧
    -- in the order of submission
    s.started.Sublist s.submitted ∧
    -- shutdown
    (s.shutdownCall = .returned →
      s.executor.pending = [] ∧ ∀ task ∈ s.pendingAtShutdown, s.SettledAtShutdown task) := by
  obtain ⟨hconfig, hbounded, haccounted, hstopped⟩ := h.invariants
  have hinflight : s.executor.config.maxInflight = normalizePositive config.maxInflight := by
    rw [hconfig]
    rfl
  have hworkers : s.executor.config.maxWorkers = normalizePositive config.maxWorkers := by
    rw [hconfig]
    rfl
  have hcapacity : s.executor.config.queueCapacity = config.queueCapacity := by
    rw [hconfig]
    rfl
  have hexecutions : s.executions ⊆ s.started := by
    intro task htask
    exact haccounted.executed.subset (List.mem_append_right _ htask)
  have hfinished : s.finishedTasks ⊆ s.started := by
    intro task htask
    exact haccounted.running.subset (List.mem_append_right _ htask)
  refine ⟨?_, hbounded.active, ?_, haccounted.balance hbounded, haccounted.submittedCount,
    haccounted.cancelledCount, ?_, List.Subset.trans hexecutions haccounted.started_subset, ?_,
    List.Subset.trans hfinished haccounted.started_subset, haccounted.backlog,
    haccounted.started_sublist, ?_⟩
  · have hbound := hbounded.outstanding
    unfold ThreadedTaskExecutor.outstanding admissionCapacityLocked at hbound
    rw [hinflight, hcapacity] at hbound
    exact hbound.trans (Nat.mod_le _ _)
  · refine Nat.le_min.mpr ⟨hinflight ▸ hbounded.inflight, ?_⟩
    rw [hbounded.active, ← hworkers, ← hbounded.threads]
    exact List.length_filterMap_le _ _
  · have hnodup := haccounted.executed.nodup_iff.mpr haccounted.started_nodup
    exact (List.nodup_append.mp hnodup).2.1
  · have hnodup := haccounted.running.nodup_iff.mpr haccounted.started_nodup
    exact (List.nodup_append.mp hnodup).2.1
  · apply hstopped.settled hbounded haccounted
    rw [hworkers, normalizePositive]
    split_ifs <;> omega

/-- A run with two tasks, of which one is still pending at the shutdown. -/
theorem executor_contract_drained :
    ∃ s : ExecutorSystem Nat, Reachable { queueCapacity := 1 } s ∧ s.shutdownCall = .returned ∧
      s.pendingAtShutdown = [2] ∧ s.SettledAtShutdown 2 := by
  have hstart : Reachable { queueCapacity := 1 } (new (P := Nat) { queueCapacity := 1 }) := .new
  have hreachable := hstart.run
    [.submit true, .workerStart 0, .submit true, .shutdown, .workerExecute 0 (.ok 7) false,
      .workerFinish 0, .workerStart 0, .workerExecute 0 (.error "late") false, .workerFinish 0,
      .workerExit 0, .shutdownReturn] rfl
  obtain ⟨-, -, -, -, -, -, -, -, -, -, -, -, hshutdown⟩ := executor_contract hreachable
  exact ⟨_, hreachable, rfl, rfl, (hshutdown rfl).2 2 (List.mem_singleton.mpr rfl)⟩

end ExecutorSystem

end TopoExec
