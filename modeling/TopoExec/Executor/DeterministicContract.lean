import Mathlib.Data.List.Pairwise
import TopoExec.Executor.Deterministic

/-! # What the deterministic task executor keeps

The invariant lists the tasks in the order in which they go through the executor: the ones
that were returned, the ones of the running call, and the pending ones. This is always a
sublist of the accepted tasks, whatever user code does in between.

Dropping the oldest task needs a task. There is one unless the admission capacity is zero,
and the sum that gives the capacity is zero only if it runs over.
-/

namespace TopoExec

open Machine

/-! ## Submissions -/

namespace DeterministicTaskExecutor

variable (executor : DeterministicTaskExecutor) (hasWork hasCompletion : Bool)

/-- All that `submit` can do. -/
theorem submit_cases :
    (∃ reason, executor.submit hasWork hasCompletion = some (executor.rejectSubmission reason)) ∨
      (executor.pending.length < executor.admissionCapacity ∧
        executor.submit hasWork hasCompletion = some (executor.enqueue hasCompletion)) ∨
      (∃ oldest pending, executor.pending = oldest :: pending ∧
        executor.submit hasWork hasCompletion =
          some ((executor.dropOldest pending).enqueue hasCompletion)) ∨
      (executor.admissionCapacity = 0 ∧ executor.dropOldestOnOverflow = true ∧
        executor.submit hasWork hasCompletion = none) := by
  unfold submit
  by_cases hwork : hasWork = true
  · rw [if_neg (not_not_intro hwork)]
    by_cases hfull : executor.admissionCapacity ≤ executor.pending.length
    · rw [if_pos hfull]
      by_cases hdrop : executor.dropOldestOnOverflow = true
      · rw [if_pos hdrop]
        -- the source pops the front without looking whether there is one
        cases hpending : executor.pending with
        | nil =>
            rw [hpending] at hfull
            exact Or.inr (Or.inr (Or.inr ⟨Nat.le_zero.1 hfull, hdrop, rfl⟩))
        | cons oldest pending =>
            exact Or.inr (Or.inr (Or.inl ⟨oldest, pending, rfl, rfl⟩))
      · rw [if_neg hdrop]
        exact Or.inl ⟨_, rfl⟩
    · rw [if_neg hfull]
      exact Or.inr (Or.inl ⟨Nat.lt_of_not_le hfull, rfl⟩)
  · rw [if_pos hwork]
    exact Or.inl ⟨_, rfl⟩

/-- A submission to a full queue that drops the oldest task. -/
theorem submit_full (hfull : executor.admissionCapacity ≤ executor.pending.length)
    (hdrop : executor.dropOldestOnOverflow = true) (hcapacity : executor.admissionCapacity ≠ 0) :
    ∃ oldest pending, executor.pending = oldest :: pending ∧
      executor.submit true hasCompletion =
        some ((executor.dropOldest pending).enqueue hasCompletion) := by
  unfold submit
  rw [if_neg (by simp), if_pos hfull, if_pos hdrop]
  cases hpending : executor.pending with
  | nil =>
      rw [hpending] at hfull
      exact absurd (Nat.le_zero.1 hfull) hcapacity
  | cons oldest pending => exact ⟨oldest, pending, rfl, rfl⟩

end DeterministicTaskExecutor

namespace DeterministicSystem

variable {P : Type}

/-! ## The invariant -/

/-- The task of the current round, if its completion is not stored yet. -/
def phaseIds : RunReadyPhase P → List Nat
  | .looping => []
  | .working task => [task.id]
  | .notifying completion => [completion.taskId]

/-- The tasks that the running call has taken off the queue. -/
def callIds : Option (RunReadyCall P) → List Nat
  | none => []
  | some call => call.completions.map TaskCompletion.taskId ++ phaseIds call.phase

/-- The number of tasks whose work is running. -/
def working : Option (RunReadyCall P) → Nat
  | some ⟨_, _, .working _⟩ => 1
  | _ => 0

structure Consistent (s : DeterministicSystem P) : Prop where
  bounded : s.executor.pending.length ≤ s.executor.admissionCapacity
  ordered : (s.returned.map TaskCompletion.taskId ++ callIds s.call ++
    s.executor.pending.map PendingTask.id).Sublist s.accepted
  increasing : s.accepted.Pairwise (· < ·)
  below : ∀ id ∈ s.accepted, id < s.executor.nextTaskId
  balanced : s.executor.metrics.submittedCount =
    s.executor.metrics.completedCount + s.executor.metrics.failedCount +
      s.executor.metrics.cancelledCount + s.executor.pending.length + working s.call + s.escaped

theorem consistent_new (config : TaskExecutorConfig) :
    Consistent (new config : DeterministicSystem P) where
  bounded := Nat.zero_le _
  ordered := List.Sublist.refl _
  increasing := List.Pairwise.nil
  below := by
    intro id hmem
    cases hmem
  balanced := rfl

section

variable {s : DeterministicSystem P}

/-- The new task comes after all others. -/
theorem Consistent.enqueue (h : Consistent s) (hasCompletion : Bool)
    (hroom : s.executor.pending.length < s.executor.admissionCapacity) :
    Consistent { s with
      executor := (s.executor.enqueue hasCompletion).2
      accepted := s.accepted ++ [s.executor.nextTaskId] } where
  bounded := by
    change (s.executor.pending ++ [_]).length ≤ s.executor.admissionCapacity
    rw [List.length_append, List.length_singleton]
    omega
  ordered := by
    change (_ ++ (s.executor.pending ++ [_]).map PendingTask.id).Sublist _
    rw [List.map_append, ← List.append_assoc]
    exact h.ordered.append (List.Sublist.refl _)
  increasing := by
    rw [List.pairwise_append]
    refine ⟨h.increasing, List.pairwise_singleton _ _, ?_⟩
    intro id hmem other hother
    rw [List.mem_singleton.1 hother]
    exact h.below id hmem
  below := by
    intro id hmem
    rcases List.mem_append.1 hmem with hmem | hmem
    · exact Nat.lt_succ_of_lt (h.below id hmem)
    · rw [List.mem_singleton.1 hmem]
      exact Nat.lt_succ_self _
  balanced := by
    have hbalanced := h.balanced
    -- one more submitted, one more waiting
    change s.executor.metrics.submittedCount + 1 = _ + (s.executor.pending ++ [_]).length + _ + _
    rw [List.length_append, List.length_singleton]
    simp only [DeterministicTaskExecutor.enqueue]
    omega

/-- The queue loses its front to the cancelled tasks. -/
theorem Consistent.dropOldest (h : Consistent s) {oldest : PendingTask}
    {pending : List PendingTask} (hpending : s.executor.pending = oldest :: pending) :
    Consistent { s with executor := s.executor.dropOldest pending } where
  bounded := by
    have hbounded := h.bounded
    rw [hpending, List.length_cons] at hbounded
    change pending.length ≤ s.executor.admissionCapacity
    omega
  ordered := by
    refine List.Sublist.trans ?_ h.ordered
    rw [hpending]
    exact List.Sublist.append_left (List.sublist_cons_self _ _) _
  increasing := h.increasing
  below := h.below
  balanced := by
    have hbalanced := h.balanced
    rw [hpending, List.length_cons] at hbalanced
    simp only [DeterministicTaskExecutor.dropOldest]
    omega

theorem Consistent.cancelPending (h : Consistent s) :
    Consistent { s with executor := s.executor.cancelPending } where
  bounded := Nat.zero_le _
  ordered := by
    refine List.Sublist.trans ?_ h.ordered
    exact List.Sublist.append_left (List.nil_sublist _) _
  increasing := h.increasing
  below := h.below
  balanced := by
    have hbalanced := h.balanced
    simp only [DeterministicTaskExecutor.cancelPending, List.length_nil]
    omega

/-- A queue that may drop its oldest task has room for one. -/
def CanDrop (config : TaskExecutorConfig) : Prop :=
  ¬(dropOldestOverflow config.overflow = true ∧
    (config.maxInflight + config.queueCapacity) % sizeModulus = 0)

theorem Consistent.submit (h : Consistent s) (hdrop : CanDrop s.executor.config)
    (hdefined : s.undefined = false) (hasWork hasCompletion : Bool) :
    Consistent (s.submit hasWork hasCompletion) ∧
      (s.submit hasWork hasCompletion).undefined = false ∧
      (s.submit hasWork hasCompletion).executor.config = s.executor.config := by
  unfold DeterministicSystem.submit
  rcases s.executor.submit_cases hasWork hasCompletion with
    ⟨reason, heq⟩ | ⟨hroom, heq⟩ | ⟨oldest, pending, hpending, heq⟩ | ⟨hzero, hdropping, heq⟩
  · rw [heq]
    refine ⟨?_, hdefined, rfl⟩
    -- a refused task has no id
    have haccepted : s.accepted ++ (if (s.executor.rejectSubmission reason).1.accepted
        then [(s.executor.rejectSubmission reason).1.taskId] else []) = s.accepted :=
      List.append_nil _
    dsimp only
    rw [haccepted]
    exact { h with }
  · rw [heq]
    exact ⟨h.enqueue hasCompletion hroom, hdefined, rfl⟩
  · rw [heq]
    -- the dropped task has made room for the new one
    have hroom : pending.length < s.executor.admissionCapacity := by
      have hbounded := h.bounded
      rw [hpending, List.length_cons] at hbounded
      omega
    exact ⟨(h.dropOldest hpending).enqueue hasCompletion hroom, hdefined, rfl⟩
  · exact absurd ⟨hdropping, hzero⟩ hdrop

/-- The completions of the call become the last ones that were returned. -/
theorem Consistent.returnRun (h : Consistent s) {call : RunReadyCall P}
    (hcall : s.call = some call) (hphase : call.phase = .looping) :
    Consistent (s.returnRun call) where
  bounded := h.bounded
  ordered := by
    have hordered := h.ordered
    rw [hcall, callIds, hphase, phaseIds, List.append_nil] at hordered
    change ((s.returned ++ call.completions).map TaskCompletion.taskId ++ [] ++ _).Sublist _
    rwa [List.map_append, List.append_nil]
  increasing := h.increasing
  below := h.below
  balanced := by
    have hbalanced := h.balanced
    have hworking : working s.call = 0 := by
      obtain ⟨maxTasks, completions, phase⟩ := call
      cases hphase
      rw [hcall]
      rfl
    rw [hworking] at hbalanced
    exact hbalanced

/-- The front task goes from the queue to the call. -/
theorem Consistent.startTask (h : Consistent s) {maxTasks : Nat}
    {completions : List (TaskCompletion P)}
    (hcall : s.call = some ⟨maxTasks, completions, .looping⟩) {task : PendingTask}
    {pending : List PendingTask} (hpending : s.executor.pending = task :: pending) :
    Consistent { s with
      executor := s.executor.startTask pending
      call := some ⟨maxTasks, completions, .working task⟩ } where
  bounded := by
    have hbounded := h.bounded
    rw [hpending, List.length_cons] at hbounded
    change pending.length ≤ s.executor.admissionCapacity
    omega
  ordered := by
    have hordered := h.ordered
    rw [hcall, hpending] at hordered
    simpa [callIds, phaseIds, DeterministicTaskExecutor.startTask] using hordered
  increasing := h.increasing
  below := h.below
  balanced := by
    have hbalanced := h.balanced
    rw [hcall, hpending, List.length_cons] at hbalanced
    simp only [working, DeterministicTaskExecutor.startTask] at hbalanced ⊢
    omega

theorem Consistent.loop (h : Consistent s) {maxTasks : Nat} {completions : List (TaskCompletion P)}
    (hcall : s.call = some ⟨maxTasks, completions, .looping⟩) (cancelRequested : Bool) :
    Consistent (s.loop ⟨maxTasks, completions, .looping⟩ cancelRequested) := by
  unfold DeterministicSystem.loop
  split
  · exact h.returnRun hcall rfl
  · rename_i task pending hpending
    split_ifs
    · exact h.returnRun hcall rfl
    · have hcancelled : Consistent { s with executor := s.executor.cancelRequested } :=
        Consistent.cancelPending (s := { s with executor :=
          { s.executor with
            metrics.cancellationRequestedCount :=
              s.executor.metrics.cancellationRequestedCount + 1
            metrics.cancellationObservedCount :=
              s.executor.metrics.cancellationObservedCount + 1 } }) { h with }
      exact hcancelled.returnRun hcall rfl
    · exact h.startTask hcall hpending

/-- The task is counted, and its id stays at the end of the call. -/
theorem Consistent.finishTask (h : Consistent s) {maxTasks : Nat}
    {completions : List (TaskCompletion P)} {task : PendingTask}
    (hcall : s.call = some ⟨maxTasks, completions, .working task⟩)
    {completion : TaskCompletion P} (hid : completion.taskId = task.id) (overBudget : Bool) :
    Consistent (s.finishTask ⟨maxTasks, completions, .working task⟩ task completion
      overBudget) := by
  -- the task stays the last one of the call, as a completion or in the callback
  have hids : callIds (s.finishTask ⟨maxTasks, completions, .working task⟩ task completion
      overBudget).call = callIds s.call := by
    rw [hcall]
    unfold DeterministicSystem.finishTask
    cases task.hasCompletion <;> simp [callIds, phaseIds, hid]
  -- it moves from the working ones to the finished ones
  have hworking : working (s.finishTask ⟨maxTasks, completions, .working task⟩ task completion
      overBudget).call = 0 := by
    unfold DeterministicSystem.finishTask
    cases task.hasCompletion <;> rfl
  have hbefore : working s.call = 1 := by
    rw [hcall]
    rfl
  constructor
  · exact h.bounded
  · rw [hids]
    exact h.ordered
  · exact h.increasing
  · exact h.below
  · have hbalanced := h.balanced
    rw [hworking]
    rw [hbefore] at hbalanced
    simp only [DeterministicSystem.finishTask, DeterministicTaskExecutor.finishTask]
    split_ifs <;> dsimp only <;> omega

/-- The tasks of a call that ends with an exception are not returned. -/
theorem Consistent.leave (h : Consistent s) {escaped : Nat}
    (hescaped : working s.call + s.escaped = escaped) :
    Consistent { s with call := none, escaped := escaped } where
  bounded := h.bounded
  ordered := by
    refine List.Sublist.trans ?_ h.ordered
    exact List.Sublist.append_right (List.Sublist.append_left (List.nil_sublist _) _) _
  increasing := h.increasing
  below := h.below
  balanced := by
    have hbalanced := h.balanced
    change _ = _ + 0 + escaped
    dsimp only
    omega

/-- Storing a completion does not change the order. -/
theorem Consistent.callbackReturns (h : Consistent s) {maxTasks : Nat}
    {completions : List (TaskCompletion P)} {completion : TaskCompletion P}
    (hcall : s.call = some ⟨maxTasks, completions, .notifying completion⟩) :
    Consistent { s with
      call := some ⟨maxTasks, completions ++ [completion], .looping⟩ } where
  bounded := h.bounded
  ordered := by
    have hordered := h.ordered
    rw [hcall] at hordered
    simpa [callIds, phaseIds] using hordered
  increasing := h.increasing
  below := h.below
  balanced := by
    have hbalanced := h.balanced
    rw [hcall] at hbalanced
    exact hbalanced

/-- A call at the head of its loop has not taken anything yet. -/
theorem Consistent.runReady (h : Consistent s) (hcall : s.call = none) (maxTasks : Nat) :
    Consistent { s with call := some { maxTasks } } where
  bounded := h.bounded
  ordered := by
    have hordered := h.ordered
    rw [hcall] at hordered
    exact hordered
  increasing := h.increasing
  below := h.below
  balanced := by
    have hbalanced := h.balanced
    rw [hcall] at hbalanced
    exact hbalanced

theorem loop_config (call : RunReadyCall P) (cancelRequested : Bool) :
    (s.loop call cancelRequested).executor.config = s.executor.config ∧
      (s.loop call cancelRequested).undefined = s.undefined := by
  unfold DeterministicSystem.loop
  split
  · exact ⟨rfl, rfl⟩
  · split_ifs <;> exact ⟨rfl, rfl⟩

/-- One step keeps the invariant and the config, and is defined. -/
theorem Consistent.step (h : Consistent s) (hdrop : CanDrop s.executor.config)
    {action : DeterministicStep P} {s' : DeterministicSystem P} (hstep : s.step action = some s') :
    Consistent s' ∧ s'.undefined = false ∧ s'.executor.config = s.executor.config := by
  unfold DeterministicSystem.step at hstep
  split at hstep
  · cases hstep
  · rename_i hdefined
    have hdefined : s.undefined = false := Bool.eq_false_iff.2 hdefined
    -- one case per kind of step, in the order of the definition
    split at hstep
    · split at hstep
      · cases hstep
        exact h.submit hdrop hdefined _ _
      · cases hstep
    · split at hstep
      · cases hstep
        exact ⟨h.cancelPending, hdefined, rfl⟩
      · cases hstep
    · rename_i hcall
      cases hstep
      exact ⟨h.runReady hcall _, hdefined, rfl⟩
    · rename_i hcall
      cases hstep
      -- the loop takes the next task or returns
      have hconfig := loop_config (s := s)
      exact ⟨h.loop hcall _, (hconfig _ _).2.trans hdefined, (hconfig _ _).1⟩
    · rename_i hcall
      cases hstep
      exact ⟨h.finishTask hcall rfl _, hdefined, rfl⟩
    · rename_i hcall
      cases hstep
      exact ⟨h.finishTask hcall rfl _, hdefined, rfl⟩
    · rename_i hcall
      cases hstep
      refine ⟨h.leave ?_, hdefined, rfl⟩
      -- the work has thrown: the task leaves the call without a completion
      rw [hcall, working, Nat.add_comm]
    · rename_i hcall
      cases hstep
      exact ⟨h.callbackReturns hcall, hdefined, rfl⟩
    · rename_i hcall
      cases hstep
      -- the callback has thrown: the task was finished before
      have hworking : working s.call = 0 := by
        rw [hcall]
        rfl
      refine ⟨h.leave ?_, hdefined, rfl⟩
      rw [hworking, Nat.zero_add]
    · cases hstep

end

theorem Consistent.run {s s' : DeterministicSystem P} {actions : List (DeterministicStep P)}
    (h : Consistent s) (hdefined : s.undefined = false) (hdrop : CanDrop s.executor.config)
    (hrun : s.run actions = some s') :
    Consistent s' ∧ s'.undefined = false ∧ s'.executor.config = s.executor.config := by
  induction actions generalizing s with
  | nil =>
      cases hrun
      exact ⟨h, hdefined, rfl⟩
  | cons action actions ih =>
      obtain ⟨next, hstep, hrest⟩ := Option.bind_eq_some_iff.1 hrun
      obtain ⟨hnext, hnextDefined, hconfig⟩ := h.step hdrop hstep
      obtain ⟨hlast, hlastDefined, hlastConfig⟩ :=
        ih hnext hnextDefined (hconfig.symm ▸ hdrop) hrest
      exact ⟨hlast, hlastDefined, hlastConfig.trans hconfig⟩

/-! ## The contract -/

/-- What is said of every state of a run. -/
structure Contract (s : DeterministicSystem P) : Prop where
  /-- Nothing undefined has happened. -/
  defined : s.undefined = false
  /-- The bound on the pending tasks. -/
  bounded : s.executor.pending.length ≤
    s.executor.config.maxInflight + s.executor.config.queueCapacity
  /-- Completions are returned in the order of the submissions. -/
  ordered : (s.returned.map TaskCompletion.taskId).Sublist s.accepted
  /-- No task is accepted twice, so that none is returned twice. -/
  once : s.accepted.Nodup
  /-- The counters balance when no work is running. -/
  balanced : working s.call = 0 →
    s.executor.metrics.submittedCount =
      s.executor.metrics.completedCount + s.executor.metrics.failedCount +
        s.executor.metrics.cancelledCount + s.executor.pending.length + s.escaped
  /-- A full queue drops its oldest task for a new one, and no other. -/
  dropsOldest : ∀ hasCompletion, s.executor.dropOldestOnOverflow = true →
    s.executor.admissionCapacity ≤ s.executor.pending.length →
      ∃ oldest pending executor, s.executor.pending = oldest :: pending ∧
        s.executor.submit true hasCompletion =
          some ({ accepted := true, taskId := s.executor.nextTaskId }, executor) ∧
        executor.pending = pending ++ [⟨s.executor.nextTaskId, hasCompletion⟩] ∧
        executor.metrics.cancelledCount = s.executor.metrics.cancelledCount + 1

theorem Consistent.contract {s : DeterministicSystem P} (h : Consistent s)
    (hdefined : s.undefined = false) (hdrop : CanDrop s.executor.config) : Contract s where
  defined := hdefined
  bounded := Nat.le_trans h.bounded (Nat.mod_le _ _)
  ordered := by
    refine List.Sublist.trans ?_ h.ordered
    rw [List.append_assoc]
    exact List.sublist_append_left _ _
  once := h.increasing.imp fun hlt => Nat.ne_of_lt hlt
  balanced := by
    intro hworking
    have hbalanced := h.balanced
    rw [hworking] at hbalanced
    exact hbalanced
  dropsOldest := by
    intro hasCompletion hdropping hfull
    obtain ⟨oldest, pending, hpending, hsubmit⟩ :=
      s.executor.submit_full hasCompletion hfull hdropping fun hzero => hdrop ⟨hdropping, hzero⟩
    exact ⟨oldest, pending, _, hpending, hsubmit, rfl, rfl⟩

/-- The contract holds in every state of every run of an executor, iff it does not drop
tasks or its admission capacity, as the code adds it up, is not zero. -/
theorem deterministic_contract_iff (config : TaskExecutorConfig) :
    (∀ actions (s : DeterministicSystem P), (new config).run actions = some s → Contract s) ↔
      CanDrop { config with maxInflight := normalizePositive config.maxInflight } := by
  constructor
  · -- The first submission to an executor without room takes the front of an empty queue.
    rintro hcontract ⟨hdropping, hzero⟩
    have hsubmit : (DeterministicTaskExecutor.new config).submit true false = none := by
      have hfull : (DeterministicTaskExecutor.new config).admissionCapacity ≤
          (DeterministicTaskExecutor.new config).pending.length := Nat.le_of_eq hzero
      have hdrop : (DeterministicTaskExecutor.new config).dropOldestOnOverflow = true := hdropping
      unfold DeterministicTaskExecutor.submit
      rw [if_neg (by simp), if_pos hfull, if_pos hdrop]
      rfl
    have hrun : (new config : DeterministicSystem P).run [.submit true false] =
        some { (new config : DeterministicSystem P) with undefined := true } := by
      have hstep : (new config : DeterministicSystem P).submit true false =
          { (new config : DeterministicSystem P) with undefined := true } := by
        have hnone : (new config : DeterministicSystem P).executor.submit true false = none :=
          hsubmit
        unfold DeterministicSystem.submit
        rw [hnone]
      change some ((new config : DeterministicSystem P).submit true false) = _
      rw [hstep]
    cases (hcontract _ _ hrun).defined
  · intro hdrop actions s hrun
    obtain ⟨hconsistent, hdefined, hconfig⟩ := (consistent_new config).run rfl hdrop hrun
    exact hconsistent.contract hdefined (hconfig.symm ▸ hdrop)

/-- One task in flight and the largest queue there is. -/
def largestQueue : TaskExecutorConfig :=
  { maxInflight := 1, queueCapacity := 2 ^ 64 - 1, overflow := "drop_oldest" }

/-- The capacity adds up to zero, and the first submission takes a task off the queue that
is not there. -/
theorem largestQueue_drops_nothing :
    ∃ s : DeterministicSystem Unit, (new largestQueue).run [.submit true false] = some s ∧
      s.executor.pending = [] ∧ s.undefined = true ∧ ¬ Contract s := by
  refine ⟨_, rfl, by decide, by decide, ?_⟩
  intro hcontract
  exact absurd hcontract.defined (by decide)

end DeterministicSystem

end TopoExec
