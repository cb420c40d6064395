import TopoExec.Runtime.Steps

/-! # How a run ends

A run goes on as long as nothing has failed and nobody has asked it to stop. The first
failure ends it, so its errors are those of one place (`RunFault`), and the invocations
that were counted as in flight have all been counted out again. `run_verdict` lists the
ways in which a run can end.

`P` is a property of the router that the run keeps; it holds of the router whose commit
failed.
-/

namespace TopoExec

open Loop

/-! ## Errors -/

/-- What a run can fail with, one case for each place that reports an error. -/
inductive RunFault (clock : Nat → Int) (env : Env) (runtime : EventRuntime)
    (P : RuntimePublicationRouter → Prop) : List String → Prop where
  | configTransaction {question : Nat} (h : env.configTransactionErrors question ≠ []) :
      RunFault clock env runtime P (env.configTransactionErrors question)
  | epochCommit {router : RuntimePublicationRouter} (hrouter : P router)
      (h : (router.beginEpoch clock).1.accepted = false) :
      RunFault clock env runtime P
        ["epoch deferred publication commit failed: " ++ (router.beginEpoch clock).1.reason]
  | collect {component : EventRuntimeComponent} (hcomponent : component ∈ runtime.components)
      {question : Nat} {message : String}
      (h : (env.collectReadyInvocations question).2 = .error message) :
      RunFault clock env runtime P ["component " ++ component.id ++ " failed: " ++ message]
  | status {component : EventRuntimeComponent} (hcomponent : component ∈ runtime.components)
      {question index : Nat} {message : String} (h : env.status question index = some message) :
      RunFault clock env runtime P ["component " ++ component.id ++ " failed: " ++ message]
  | commit {component : EventRuntimeComponent} (hcomponent : component ∈ runtime.components)
      {place : String} (hplace : place = "component " ++ component.id ∨
        place = "thread_pool component " ++ component.id)
      {router : RuntimePublicationRouter} (hrouter : P router)
      (h : (router.commitImmediate clock).1.accepted = false) :
      RunFault clock env runtime P ["immediate publication commit failed after " ++ place ++ ": " ++
        (router.commitImmediate clock).1.reason]
  | noWorkerPool {component : EventRuntimeComponent} (hcomponent : component ∈ runtime.components)
      (hlane : component.lane.type = "thread_pool")
      (h : runtime.workerPool component.lane.id = none) :
      RunFault clock env runtime P
        ["thread_pool lane " ++ component.lane.id ++ " has no worker pool"]
  | queueCapacity {component : EventRuntimeComponent} (hcomponent : component ∈ runtime.components)
      (hlane : component.lane.type = "thread_pool")
      (h : laneOverflowFailsFast component.lane.overflow = true) :
      RunFault clock env runtime P
        ["thread_pool lane " ++ component.lane.id ++ " queue capacity exceeded"]
  | unsupportedOverflow {component : EventRuntimeComponent}
      (hcomponent : component ∈ runtime.components) (hlane : component.lane.type = "thread_pool")
      (h : laneOverflowFailsFast component.lane.overflow = false ∧
        laneOverflowDropsOldest component.lane.overflow = false ∧
        laneOverflowRejectsNewest component.lane.overflow = false) :
      RunFault clock env runtime P ["thread_pool lane " ++ component.lane.id ++
        " has unsupported overflow " ++ component.lane.overflow]
  | noConvergence {region : CompiledGraphRegion} (hregion : region ∈ runtime.order)
      (hkind : region.kind = .compositeLoop) {stop : LoopStop} (hstop : stop.isConverged = false)
      (hsolver : loopPolicyIsSolverIteration region.loopPolicy = true)
      (h : effectivePartialSuccessPolicy region.loopPolicy = "fail_run") :
      RunFault clock env runtime P
        ["composite_loop " ++ region.id ++ " stopped without convergence: " ++ stop.text]
  | compositeCommit {region : CompiledGraphRegion} (hregion : region ∈ runtime.order)
      (hkind : region.kind = .compositeLoop) {router : RuntimePublicationRouter}
      (hrouter : P router)
      (h : (router.commitCompositeRegionOutputs clock).1.accepted = false) :
      RunFault clock env runtime P ["composite region publication commit failed after region " ++
        region.id ++ ": " ++ (router.commitCompositeRegionOutputs clock).1.reason]

/-! ## The course of a run -/

/-- Nothing has failed after `iterations` iterations, and nothing is in flight. -/
structure Unfailed (P : RuntimePublicationRouter → Prop) (iterations : Nat) (s : RunState) :
    Prop where
  router : P s.router
  ok : s.result.ok = true
  errors : s.result.errors = []
  iterations : s.result.iterations = iterations
  inFlight : ∀ id, s.componentInFlight id = 0

/-- The run goes on. -/
structure Underway (P : RuntimePublicationRouter → Prop) (iterations : Nat) (s : RunState) :
    Prop extends Unfailed P iterations s where
  reason : s.result.stopReason = .tickBound

/-- The run was asked to stop. -/
structure Stopped (P : RuntimePublicationRouter → Prop) (iterations : Nat) (s : RunState) :
    Prop extends Unfailed P iterations s where
  reason : s.result.stopReason = .stopRequested

/-- The run has failed. -/
structure Faulted (clock : Nat → Int) (env : Env) (runtime : EventRuntime)
    (P : RuntimePublicationRouter → Prop) (iterations : Nat) (s : RunState) : Prop where
  ok : s.result.ok = false
  reason : s.result.stopReason = .error
  fault : RunFault clock env runtime P s.result.errors
  iterations : s.result.iterations = iterations
  inFlight : ∀ id, s.componentInFlight id = 0

def Halted (clock : Nat → Int) (env : Env) (runtime : EventRuntime)
    (P : RuntimePublicationRouter → Prop) (iterations : Nat) (s : RunState) : Prop :=
  Stopped P iterations s ∨ Faulted clock env runtime P iterations s

/-- The states do not differ in what these look at. -/
structure SameCourse (s s' : RunState) : Prop where
  ok : s'.result.ok = s.result.ok
  errors : s'.result.errors = s.result.errors
  iterations : s'.result.iterations = s.result.iterations
  reason : s'.result.stopReason = s.result.stopReason
  inFlight : s'.componentInFlight = s.componentInFlight

/-- Parts of a run that keep its course do so together. -/
theorem SameCourse.trans {s s' s'' : RunState} (h : SameCourse s s') (h' : SameCourse s' s'') :
    SameCourse s s'' :=
  ⟨h'.ok.trans h.ok, h'.errors.trans h.errors, h'.iterations.trans h.iterations,
    h'.reason.trans h.reason, h'.inFlight.trans h.inFlight⟩

variable {clock : Nat → Int} {env : Env} {options : SchedulerRunOptions} {runtime : EventRuntime}
  {P : RuntimePublicationRouter → Prop} {iterations : Nat} {s s' : RunState}

/-- Without a new failure the run has still not failed. -/
theorem Unfailed.same (h : Unfailed P iterations s) (hrouter : P s'.router)
    (hsame : SameCourse s s') : Unfailed P iterations s' := by
  refine ⟨hrouter, hsame.ok.trans h.ok, hsame.errors.trans h.errors,
    hsame.iterations.trans h.iterations, fun id => ?_⟩
  rw [hsame.inFlight]
  exact h.inFlight id

/-- Without a new failure the run is still underway. -/
theorem Underway.same (h : Underway P iterations s) (hrouter : P s'.router)
    (hsame : SameCourse s s') : Underway P iterations s' :=
  ⟨h.toUnfailed.same hrouter hsame, hsame.reason.trans h.reason⟩

/-- A fault stays recorded. -/
theorem Faulted.same (h : Faulted clock env runtime P iterations s) (hsame : SameCourse s s') :
    Faulted clock env runtime P iterations s' := by
  refine ⟨hsame.ok.trans h.ok, hsame.reason.trans h.reason, ?_,
    hsame.iterations.trans h.iterations, fun id => ?_⟩
  · rw [hsame.errors]
    exact h.fault
  · rw [hsame.inFlight]
    exact h.inFlight id

/-- A run that has halted stays halted. -/
theorem Halted.same (h : Halted clock env runtime P iterations s) (hrouter : s'.router = s.router)
    (hsame : SameCourse s s') : Halted clock env runtime P iterations s' := by
  rcases h with hstopped | hfaulted
  · have hkept : P s'.router := by
      rw [hrouter]
      exact hstopped.router
    exact Or.inl ⟨hstopped.toUnfailed.same hkept hsame, hsame.reason.trans hstopped.reason⟩
  · exact Or.inr (hfaulted.same hsame)

/-- The first error ends the run. -/
theorem Unfailed.fail (h : Unfailed P iterations s) {message : String}
    (hfault : RunFault clock env runtime P [message]) :
    Halted clock env runtime P iterations (s.fail message) := by
  refine Or.inr ⟨rfl, rfl, ?_, h.iterations, h.inFlight⟩
  show RunFault clock env runtime P (s.result.errors ++ [message])
  rw [h.errors]
  exact hfault

/-- A requested stop halts the run without a fault. -/
theorem Unfailed.stop (h : Unfailed P iterations s) :
    Halted clock env runtime P iterations (s.stop .stopRequested) :=
  Or.inl ⟨⟨h.router, h.ok, h.errors, h.iterations, h.inFlight⟩, rfl⟩

namespace EventRuntime

/-! ## Executing a component -/

/-- What a component does with its context decides nothing about the run. -/
theorem perform_sameCourse (componentId : String) (s : RunState) (action : ComponentAction) :
    SameCourse s (perform clock componentId s action) := by
  cases action with
  | publish port payload metadata eventTimestamp => exact ⟨rfl, rfl, rfl, rfl, rfl⟩
  | read op => exact ⟨rfl, rfl, rfl, rfl, rfl⟩
  | reportLoopConvergence report =>
      unfold perform
      dsimp only
      split_ifs <;> exact ⟨rfl, rfl, rfl, rfl, rfl⟩

/-- An invocation reaches the router through the component's actions only. -/
theorem runInvocation_router (hP : ComponentKeeps clock env P) (componentId : String)
    (h : P s.router) : P (runInvocation clock env componentId s).router := by
  unfold runInvocation
  have hasked : P (s.ask env.execute).2.router := h
  refine List.foldlRecOn (motive := fun s => P s.router) _ (perform clock componentId) hasked ?_
  intro s' hs' action haction
  exact hP.perform s' componentId _ action haction hs'

/-- An invocation decides nothing before its status is recorded. -/
theorem runInvocation_sameCourse (componentId : String) (s : RunState) :
    SameCourse s (runInvocation clock env componentId s) := by
  unfold runInvocation
  have hasked : SameCourse s (s.ask env.execute).2 := ⟨rfl, rfl, rfl, rfl, rfl⟩
  refine List.foldlRecOn _ (perform clock componentId) hasked ?_
  intro s' hs' action _
  exact hs'.trans (perform_sameCourse componentId s' action)

/-- A failed commit is a fault, and the run fails with it. -/
theorem commitPublications_course (hP : ComponentKeeps clock env P) {place : String}
    (hplace : ∀ router : RuntimePublicationRouter, P router →
      (router.commitImmediate clock).1.accepted = false →
      RunFault clock env runtime P ["immediate publication commit failed after " ++ place ++ ": " ++
        (router.commitImmediate clock).1.reason])
    (h : Underway P iterations s) :
    Outcome (Underway P iterations) (Halted clock env runtime P iterations)
      (commitPublications clock place s) := by
  have hcommitted : Underway P iterations (s.withRouter (s.router.commitImmediate clock).2) :=
    h.same (hP.commitImmediate _ h.router) ⟨rfl, rfl, rfl, rfl, rfl⟩
  unfold commitPublications
  dsimp only
  by_cases haccepted : (s.router.commitImmediate clock).1.accepted = true
  · rw [if_pos haccepted]
    exact Outcome.goesOn hcommitted
  · rw [if_neg haccepted]
    exact Outcome.left (hcommitted.fail (hplace _ h.router (Bool.eq_false_iff.mpr haccepted)))

section

variable (hP : ComponentKeeps clock env P) {component : EventRuntimeComponent}
  (hcomponent : component ∈ runtime.components)

include hP hcomponent

/-- An error status is a fault unless errors are continued. -/
theorem recordInvocationOutcome_course (question index : Nat) (commitEach : Bool)
    (h : Underway P iterations s) :
    Outcome (Underway P iterations) (Halted clock env runtime P iterations)
      (recordInvocationOutcome clock options component.id (env.status question index) commitEach
        s) := by
  unfold recordInvocationOutcome
  cases hstatus : env.status question index with
  | some message => exact Outcome.left (h.fail (.status hcomponent hstatus))
  | none =>
      have hcommitted : Outcome (Underway P iterations) (Halted clock env runtime P iterations)
          (if commitEach then commitPublications clock ("component " ++ component.id) s
            else (true, s)) := by
        cases commitEach with
        | true => exact commitPublications_course hP (fun _ => .commit hcomponent (Or.inl rfl)) h
        | false => exact Outcome.goesOn h
      refine hcommitted.bind (fun s' => (true, countTick options component.id s')) ?_
      intro s' hs'
      exact Outcome.goesOn (hs'.same hs'.router ⟨rfl, rfl, rfl, rfl, rfl⟩)

/-- One invocation at a time is in flight, and it is counted out before its outcome is
recorded. -/
theorem executeOne_course (h : Underway P iterations s) :
    Outcome (Underway P iterations) (Halted clock env runtime P iterations)
      (executeOne clock env options component s) := by
  unfold executeOne
  dsimp only
  rw [if_neg (by simp [h.inFlight])]
  refine recordInvocationOutcome_course hP hcomponent s.asked 0 true ?_
  have hfinished := @runInvocation_sameCourse clock env component.id
    { s with componentInFlight := increment s.componentInFlight component.id }
  have hrouter := runInvocation_router hP component.id (s := { s with
    componentInFlight := increment s.componentInFlight component.id }) h.router
  refine ⟨⟨hrouter, hfinished.ok.trans h.ok, hfinished.errors.trans h.errors,
    hfinished.iterations.trans h.iterations, fun id => ?_⟩, hfinished.reason.trans h.reason⟩
  dsimp only
  rw [hfinished.inFlight]
  dsimp only [increment]
  by_cases hid : id = component.id
  · rw [hid, Function.update_self, Function.update_self, h.inFlight]
  · rw [Function.update_of_ne hid, Function.update_of_ne hid, h.inFlight]

/-- A batch on the pool ends as its invocations would. -/
theorem executeWorkerInvocations_course (count : Nat) (commitEach : Bool)
    (h : Underway P iterations s) :
    Outcome (Underway P iterations) (Halted clock env runtime P iterations)
      (executeWorkerInvocations clock env options component count commitEach s) := by
  have hasked : Underway P iterations (s.ask env.stopRequested).2 :=
    h.same h.router ⟨rfl, rfl, rfl, rfl, rfl⟩
  unfold executeWorkerInvocations
  dsimp only
  by_cases hstop : (s.ask env.stopRequested).1 = true
  · rw [if_pos hstop]
    exact Outcome.left hasked.stop
  rw [if_neg hstop]
  have hrecorded : Outcome (Underway P iterations) (Halted clock env runtime P iterations)
      (forEach (fun index => recordInvocationOutcome clock options component.id
          (env.status (s.ask env.stopRequested).2.asked index) commitEach) (List.range count)
        (runInvocation clock env component.id (s.ask env.stopRequested).2)) := by
    refine forEach_outcome (I := fun _ => Underway P iterations) ?_
      (hasked.same (runInvocation_router hP component.id hasked.router)
        (runInvocation_sameCourse component.id _))
    intro _ index _ _ s' hs'
    exact recordInvocationOutcome_course hP hcomponent _ index commitEach hs'
  -- either each outcome has its commit, or there is one after all of them
  cases commitEach with
  | true =>
      simp only [if_true, ite_self]
      exact hrecorded
  | false =>
      simp only [Bool.false_eq_true, if_false]
      refine hrecorded.bind
        (commitPublications clock ("thread_pool component " ++ component.id)) ?_
      intro s' hs'
      exact commitPublications_course hP (fun _ => .commit hcomponent (Or.inr rfl)) hs'

omit hP in
/-- The invocations are admitted, unless the lane fails. -/
theorem admitInvocations_course {workerCount : Nat} {invocations : List Invocation}
    {message : String} (hlane : component.lane.type = "thread_pool")
    (h : admitInvocations component workerCount invocations = .error message) :
    RunFault clock env runtime P [message] := by
  unfold admitInvocations at h
  dsimp only at h
  split_ifs at h with _ hfast holdest hnewest
  · cases h
    exact .queueCapacity hcomponent hlane hfast
  · cases h
    exact .unsupportedOverflow hcomponent hlane ⟨Bool.eq_false_iff.mpr hfast,
      Bool.eq_false_iff.mpr holdest, Bool.eq_false_iff.mpr hnewest⟩

/-- By induction on the invocations. -/
theorem executeInvocations_course (invocations : List Invocation) (h : Underway P iterations s) :
    Outcome (Underway P iterations) (Halted clock env runtime P iterations)
      (executeInvocations clock env options runtime component invocations s) := by
  unfold executeInvocations
  split
  · exact forEach_outcome (I := fun _ => Underway P iterations)
      (fun _ _ _ _ _ hs => executeOne_course hP hcomponent hs) h
  · next hpooled =>
      have hlane : component.lane.type = "thread_pool" := by
        by_contra hne
        simp [hne] at hpooled
      cases hpool : runtime.workerPool component.lane.id with
      | none => exact Outcome.left (h.fail (.noWorkerPool hcomponent hlane hpool))
      | some workerCount =>
          dsimp only
          cases hadmitted : admitInvocations component workerCount invocations with
          | error message =>
              exact Outcome.left (h.fail (admitInvocations_course hcomponent hlane hadmitted))
          | ok admitted =>
              dsimp only
              split_ifs
              · exact forEach_outcome (I := fun _ => Underway P iterations)
                  (fun _ _ _ _ _ hs => executeWorkerInvocations_course hP hcomponent 1 true hs) h
              · exact executeWorkerInvocations_course hP hcomponent _ false h

end

section

variable (hP : ComponentKeeps clock env P)

include hP

/-- A component runs to its end or halts the run. -/
theorem executeComponent_course (iteration : Nat) (componentId : String)
    (h : Underway P iterations s) :
    Outcome (Underway P iterations) (Halted clock env runtime P iterations)
      (executeComponent clock env options runtime iteration componentId s) := by
  unfold executeComponent
  cases hfind : runtime.components.find? fun component => component.id = componentId with
  | none => exact Outcome.goesOn h
  | some component =>
      dsimp only
      have hcomponent : component ∈ runtime.components := List.mem_of_find?_eq_some hfind
      have hsame : component.id = componentId := by simpa using List.find?_some hfind
      have hcollect : Underway P iterations ((s.reach (.collect iteration componentId)).ask
          env.collectReadyInvocations).2 :=
        h.same (hP.reach s _ h.router) ⟨rfl, rfl, rfl, rfl, rfl⟩
      -- the trigger policy reads the bus
      have hread : Underway P iterations (((s.reach (.collect iteration componentId)).ask
          env.collectReadyInvocations).1.1.foldl
            (fun s op => s.withRouter (s.router.useBus clock op.1))
            ((s.reach (.collect iteration componentId)).ask env.collectReadyInvocations).2) :=
        List.foldlRecOn _ _ hcollect fun s' hs' op _ =>
          hs'.same (hP.read _ op hs'.router) ⟨rfl, rfl, rfl, rfl, rfl⟩
      cases hanswer : ((s.reach (.collect iteration componentId)).ask
          env.collectReadyInvocations).1.2 with
      | error message =>
          have hfault : RunFault clock env runtime P
              ["component " ++ componentId ++ " failed: " ++ message] :=
            hsame ▸ .collect hcomponent hanswer
          refine Outcome.left (Unfailed.fail ?_ hfault)
          refine ⟨hread.router, hread.ok, hread.errors, hread.iterations, fun id => ?_⟩
          dsimp only
          by_cases hid : id = componentId
          · rw [hid, Function.update_self, hread.inFlight]
          · rw [Function.update_of_ne hid, hread.inFlight]
      | ok invocations => exact executeInvocations_course hP hcomponent invocations hread

/-- By induction on the components of the region. -/
theorem executeComponents_course (iteration : Nat) (components : List String)
    (h : Underway P iterations s) :
    Outcome (Underway P iterations) (Halted clock env runtime P iterations)
      (executeComponents clock env options runtime iteration components s) :=
  forEach_outcome (I := fun _ => Underway P iterations)
    (fun _ id _ _ _ hs => executeComponent_course hP iteration id hs) h

end

/-! ## Composite loops -/

/-- After a loop that stopped by itself. -/
def LoopStopped (P : RuntimePublicationRouter → Prop) (iterations : Nat) (stop : LoopStop)
    (s : RunState) : Prop :=
  Unfailed P iterations s ∧
    s.result.stopReason = if stop = .cancelled then .stopRequested else .tickBound

/-- The loop stopped by itself, or the run ended inside it. -/
def LoopCourse (clock : Nat → Int) (env : Env) (runtime : EventRuntime)
    (P : RuntimePublicationRouter → Prop) (iterations : Nat)
    (result : Option LoopStop × RunState) : Prop :=
  match result.1 with
  | some stop => LoopStopped P iterations stop result.2
  | none => Halted clock env runtime P iterations result.2

/-- Why a loop stopped is recorded, and is a fault under `fail_run`. -/
theorem recordLoopStop_course (region : CompiledGraphRegion) (stop : LoopStop)
    (h : Underway P iterations s) :
    LoopStopped P iterations stop (recordLoopStop region stop s) := by
  cases stop with
  | converged reason => exact ⟨h.toUnfailed.same h.router ⟨rfl, rfl, rfl, rfl, rfl⟩, h.reason⟩
  | budgetOverrun => exact ⟨h.toUnfailed.same h.router ⟨rfl, rfl, rfl, rfl, rfl⟩, h.reason⟩
  | cancelled => exact ⟨⟨h.router, h.ok, h.errors, h.iterations, h.inFlight⟩, rfl⟩
  | maxIterations =>
      have hsame : SameCourse s (recordLoopStop region .maxIterations s) := by
        unfold recordLoopStop
        constructor <;> dsimp only <;> split_ifs <;> rfl
      exact ⟨h.toUnfailed.same h.router hsame, hsame.reason.trans h.reason⟩

/-- By induction on the iterations that are left. -/
theorem loopIterations_course (hP : ComponentKeeps clock env P) (iteration : Nat)
    (region : CompiledGraphRegion) (left loopIteration : Nat) (h : Underway P iterations s) :
    LoopCourse clock env runtime P iterations
      (loopIterations clock env options runtime iteration region left loopIteration s) := by
  induction left generalizing loopIteration s with
  | zero => exact recordLoopStop_course region .maxIterations h
  | succ left ih =>
      unfold loopIterations
      dsimp only
      -- the questions to the environment leave the run on its course
      have hcancelled : Underway P iterations
          (if 0 < loopIteration then s.ask env.cancelRequested else (false, s)).2 := by
        split_ifs
        · exact h.same h.router ⟨rfl, rfl, rfl, rfl, rfl⟩
        · exact h
      generalize (if 0 < loopIteration then s.ask env.cancelRequested else (false, s)) =
        cancelled at hcancelled ⊢
      have hbegun : Underway P iterations (beginLoopIteration region.id cancelled.2) :=
        hcancelled.same hcancelled.router ⟨rfl, rfl, rfl, rfl, rfl⟩
      have hexecuted : Outcome (Underway P iterations) (Halted clock env runtime P iterations)
          (executeComponents clock env options runtime iteration region.components
            (beginLoopIteration region.id cancelled.2)) :=
        executeComponents_course hP iteration region.components hbegun
      generalize executeComponents clock env options runtime iteration region.components
        (beginLoopIteration region.id cancelled.2) = executed at hexecuted ⊢
      split
      · exact recordLoopStop_course region .cancelled hcancelled
      · cases hgoes : executed.1 with
        | false => exact (hexecuted.of_false hgoes).same rfl ⟨rfl, rfl, rfl, rfl, rfl⟩
        | true =>
            have hdone := hexecuted.of_true hgoes
            have hended : Underway P iterations (endLoopIteration region.id executed.2) :=
              hdone.same hdone.router ⟨rfl, rfl, rfl, rfl, rfl⟩
            rw [if_neg (by simp)]
            generalize endLoopIteration region.id executed.2 = s' at hended ⊢
            split
            · exact recordLoopStop_course region (.converged _) hended
            · have hspent : Underway P iterations (if 0 < region.loopPolicy.budgetMs then
                  s'.ask env.loopBudgetSpent else (false, s')).2 := by
                split_ifs
                · exact hended.same hended.router ⟨rfl, rfl, rfl, rfl, rfl⟩
                · exact hended
              generalize (if 0 < region.loopPolicy.budgetMs then
                s'.ask env.loopBudgetSpent else (false, s')) = spent at hspent ⊢
              split
              · exact recordLoopStop_course region .budgetOverrun hspent
              · exact ih (loopIteration + 1) hspent

/-- A loop that was cancelled ends the run once its outputs have been handled. -/
theorem LoopStopped.outcome {stop : LoopStop} (h : LoopStopped P iterations stop s)
    (hrouter : P s'.router) (hsame : SameCourse s s') :
    Outcome (Underway P iterations) (Halted clock env runtime P iterations)
      (decide (stop ≠ .cancelled), s') := by
  have hunfailed := h.1.same hrouter hsame
  have hreason := hsame.reason.trans h.2
  by_cases hstop : stop = .cancelled
  · rw [if_pos hstop] at hreason
    rw [decide_eq_false (not_not.mpr hstop)]
    exact Outcome.left (Or.inl ⟨hunfailed, hreason⟩)
  · rw [if_neg hstop] at hreason
    rw [decide_eq_true hstop]
    exact Outcome.goesOn ⟨hunfailed, hreason⟩

section

variable (hP : RunKeeps clock env P)

include hP

/-- The outputs of the loop are committed or discarded. -/
theorem finishCompositeRegion_course {region : CompiledGraphRegion}
    (hregion : region ∈ runtime.order) (hkind : region.kind = .compositeLoop) {stop : LoopStop}
    (h : LoopStopped P iterations stop s) :
    Outcome (Underway P iterations) (Halted clock env runtime P iterations)
      (finishCompositeRegion clock region stop s) := by
  have hdiscarded : SameCourse s (discardOutputs region.id s) := ⟨rfl, rfl, rfl, rfl, rfl⟩
  have hdiscard : P (discardOutputs region.id s).router := hP.discardComposite _ h.1.router
  have hcommitted : SameCourse s (s.withRouter (s.router.commitCompositeRegionOutputs clock).2) :=
    ⟨rfl, rfl, rfl, rfl, rfl⟩
  have hcommit := hP.commitComposite _ h.1.router
  unfold finishCompositeRegion
  dsimp only
  split_ifs with hfail hkeep haccepted
  · simp only [Bool.and_eq_true, Bool.not_eq_eq_eq_not, Bool.not_true, decide_eq_true_eq] at hfail
    obtain ⟨⟨hsolver, hstop⟩, hpolicy⟩ := hfail
    exact Outcome.left ((h.1.same hdiscard hdiscarded).fail
      (.noConvergence hregion hkind hstop hsolver hpolicy))
  · exact h.outcome hcommit hcommitted
  · exact Outcome.left ((h.1.same hcommit hcommitted).fail
      (.compositeCommit hregion hkind h.1.router (Bool.eq_false_iff.mpr haccepted)))
  · exact h.outcome hdiscard hdiscarded

/-! ## Regions and iterations -/

/-- A region runs to its end or halts the run. -/
theorem executeRegion_course (iteration : Nat) {region : CompiledGraphRegion}
    (hregion : region ∈ runtime.order) (h : Underway P iterations s) :
    Outcome (Underway P iterations) (Halted clock env runtime P iterations)
      (executeRegion clock env options runtime iteration region s) := by
  unfold executeRegion
  cases hkind : region.kind with
  | component => exact executeComponents_course hP.toComponentKeeps iteration region.components h
  | compositeLoop =>
      dsimp only
      have hbegun : Underway P iterations
          (s.withRouter (s.router.beginCompositeRegion region.components)) :=
        h.same (hP.beginComposite _ _ h.router) ⟨rfl, rfl, rfl, rfl, rfl⟩
      generalize (if 0 < region.loopPolicy.maxIterations then
        region.loopPolicy.maxIterations.toNat else 1) = maxIterations
      have hlooped : LoopCourse clock env runtime P iterations
          (loopIterations clock env options runtime iteration region maxIterations 0
            (s.withRouter (s.router.beginCompositeRegion region.components))) :=
        loopIterations_course hP.toComponentKeeps iteration region maxIterations 0 hbegun
      unfold LoopCourse at hlooped
      split
      · next hnone =>
          rw [hnone] at hlooped
          exact Outcome.left hlooped
      · next stop hsome =>
          rw [hsome] at hlooped
          exact finishCompositeRegion_course hP hregion hkind hlooped

/-- An iteration begins with an accepted commit or a fault. -/
theorem beginIteration_course (iteration : Nat) (h : Underway P iterations s) :
    Outcome (Underway P iterations) (Halted clock env runtime P iterations)
      (beginIteration clock env iteration s) := by
  have hreached : P (s.reach (.iterationBegin iteration)).router := hP.reach s _ h.router
  have hcommit := hP.beginEpoch _ hreached
  unfold beginIteration
  dsimp only
  split_ifs with hconfig haccepted
  · refine Outcome.left (Or.inr ⟨rfl, rfl, ?_, h.iterations, h.inFlight⟩)
    show RunFault clock env runtime P (s.result.errors ++ env.configTransactionErrors s.asked)
    rw [h.errors]
    refine .configTransaction fun hnil => ?_
    have hempty : ((s.reach (.iterationBegin iteration)).ask env.configTransactionErrors).1 = [] :=
      hnil
    rw [hempty] at hconfig
    exact absurd hconfig (by decide)
  · exact Outcome.goesOn (h.same (hP.reach (RunState.withRouter _ _) _ hcommit)
      ⟨rfl, rfl, rfl, rfl, rfl⟩)
  · refine Outcome.left (Unfailed.fail ?_ (.epochCommit hreached (Bool.eq_false_iff.mpr haccepted)))
    exact h.toUnfailed.same hcommit ⟨rfl, rfl, rfl, rfl, rfl⟩

/-- An iteration that is not left is counted. -/
theorem runIteration_course (iteration : Nat) (h : Underway P iterations s) :
    Outcome (Underway P (iterations + 1)) (Halted clock env runtime P iterations)
      (runIteration clock env options runtime iteration s) := by
  unfold runIteration
  refine (beginIteration_course hP iteration h).bind
    (executeRegions clock env options runtime iteration) ?_
  intro s' hs'
  have hexecuted : Outcome (Underway P iterations) (Halted clock env runtime P iterations)
      (forEach (executeRegion clock env options runtime iteration) runtime.order s') := by
    refine forEach_outcome (I := fun _ => Underway P iterations) ?_ hs'
    intro done region rest hsplit s'' hs''
    refine executeRegion_course hP iteration ?_ hs''
    rw [hsplit]
    exact List.mem_append_right _ List.mem_cons_self
  refine hexecuted.bind (fun s'' => (true, endIteration s'')) ?_
  intro s'' hs''
  exact Outcome.goesOn ⟨⟨hP.endEpoch _ hs''.router, hs''.ok, hs''.errors,
    congrArg (· + 1) hs''.iterations, hs''.inFlight⟩, hs''.reason⟩

end

/-! ## The run -/

/-- The number of iterations that a run makes at most. -/
def iterationBound (options : SchedulerRunOptions) : Nat :=
  if options.tickIterations = 0 then
    if options.runUntilIdle then kDefaultRunUntilIdleIterationBound else 1
  else options.tickIterations

end EventRuntime

/-- The ways in which a run can end. -/
inductive RunVerdict (clock : Nat → Int) (env : Env) (options : SchedulerRunOptions)
    (runtime : EventRuntime) (P : RuntimePublicationRouter → Prop) (bound : Nat) (s : RunState) :
    Prop where
  | tickBound (h : Underway P bound s)
  | idle (hidle : options.runUntilIdle = true) {iterations : Nat} (hpos : 0 < iterations)
      (hbound : iterations ≤ bound) (h : Unfailed P iterations s)
      (hreason : s.result.stopReason = .idle)
  | durationBound {iterations : Nat} (hbound : iterations < bound) (h : Unfailed P iterations s)
      (hreason : s.result.stopReason = .durationBound)
  | stopRequested {iterations : Nat} (hbound : iterations < bound) (h : Stopped P iterations s)
  | error {iterations : Nat} (hbound : iterations < bound)
      (h : Faulted clock env runtime P iterations s)

namespace EventRuntime

/-- Between iterations the run ends at most for a stop or a bound. -/
theorem stopBeforeIteration_course (h : Underway P iterations s) :
    Underway P iterations (stopBeforeIteration env s).2 ∧
      ∀ reason, (stopBeforeIteration env s).1 = some reason →
        reason = .stopRequested ∨ reason = .durationBound := by
  unfold stopBeforeIteration
  dsimp only
  split_ifs
  · refine ⟨h.same h.router ⟨rfl, rfl, rfl, rfl, rfl⟩, ?_⟩
    rintro reason ⟨⟩
    exact Or.inl rfl
  · refine ⟨h.same h.router ⟨rfl, rfl, rfl, rfl, rfl⟩, ?_⟩
    rintro reason ⟨⟩
    exact Or.inr rfl
  · refine ⟨h.same h.router ⟨rfl, rfl, rfl, rfl, rfl⟩, ?_⟩
    rintro reason ⟨⟩
    exact Or.inl rfl
  · refine ⟨h.same h.router ⟨rfl, rfl, rfl, rfl, rfl⟩, ?_⟩
    rintro reason ⟨⟩

/-- By induction on the iterations that are left. -/
theorem runIterations_verdict (hP : RunKeeps clock env P) (left iteration : Nat)
    (h : Underway P iteration s) :
    RunVerdict clock env options runtime P (iteration + left)
      (runIterations clock env options runtime left iteration s) := by
  induction left generalizing iteration s with
  | zero => exact .tickBound h
  | succ left ih =>
      obtain ⟨hready, hreasons⟩ : Underway P iteration (stopBeforeIteration env s).2 ∧ _ :=
        stopBeforeIteration_course h
      unfold runIterations
      dsimp only
      -- the run ends before an iteration, in one, or behind it because it is idle
      cases hstop : (stopBeforeIteration env s).1 with
      | some reason =>
          have hstopped : Unfailed P iteration ((stopBeforeIteration env s).2.stop reason) :=
            ⟨hready.router, hready.ok, hready.errors, hready.iterations, hready.inFlight⟩
          rcases hreasons reason hstop with rfl | rfl
          · exact .stopRequested (by omega) ⟨hstopped, rfl⟩
          · exact .durationBound (by omega) hstopped rfl
      | none =>
          dsimp only
          have hexecuted : Outcome (Underway P (iteration + 1))
              (Halted clock env runtime P iteration)
              (runIteration clock env options runtime iteration (stopBeforeIteration env s).2) :=
            runIteration_course hP iteration hready
          cases hgoes : (runIteration clock env options runtime iteration
              (stopBeforeIteration env s).2).1 with
          | false =>
              rcases hexecuted.of_false hgoes with hstopped | hfaulted
              · exact .stopRequested (by omega) hstopped
              · exact .error (by omega) hfaulted
          | true =>
              have hdone := hexecuted.of_true hgoes
              rw [if_neg (by simp)]
              split_ifs with hidle
              · have huntil : options.runUntilIdle = true := by
                  simp only [Bool.and_eq_true] at hidle
                  exact hidle.1
                exact .idle huntil (Nat.succ_pos iteration) (by omega)
                  ⟨hdone.router, hdone.ok, hdone.errors, hdone.iterations, hdone.inFlight⟩ rfl
              · have hrest := ih (iteration + 1) hdone
                rwa [Nat.add_right_comm] at hrest

/-- However the components behave, a run ends in one of these ways. -/
theorem run_verdict (hP : RunKeeps clock env P) {router : RuntimePublicationRouter}
    (hrouter : P router) :
    RunVerdict clock env options runtime P (iterationBound options)
      (run clock env options runtime router) := by
  have hstart : Underway P 0 { router := router, result := { stopReason := .tickBound } } :=
    ⟨⟨hrouter, rfl, rfl, rfl, fun _ => rfl⟩, rfl⟩
  have hrun : RunVerdict clock env options runtime P (0 + iterationBound options)
      (runIterations clock env options runtime (iterationBound options) 0
        { router := router, result := { stopReason := .tickBound } }) :=
    runIterations_verdict hP (iterationBound options) 0 hstart
  rwa [Nat.zero_add] at hrun

/-- Whatever the graph, the components and the router are: a run ends in one of these ways. -/
theorem run_outcome (clock : Nat → Int) (env : Env) (options : SchedulerRunOptions)
    (runtime : EventRuntime) (router : RuntimePublicationRouter) :
    RunVerdict clock env options runtime (fun _ => True) (iterationBound options)
      (run clock env options runtime router) := by
  have hstable : RunStable clock fun _ => True := ⟨fun _ _ _ => trivial, fun _ _ _ => trivial⟩
  exact run_verdict (hstable.keeps env) trivial

end EventRuntime

end TopoExec
