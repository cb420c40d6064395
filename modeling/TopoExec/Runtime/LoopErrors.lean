import TopoExec.Runtime.Rules
import TopoExec.Runtime.EdgeVisibility

/-! # Loop errors and stop requests

A composite loop that a component breaks off counts an error. On a worker pool a
component also breaks off when a stop is requested before its invocations are
submitted; the run does not fail then, but the loop counts its error all the
same. `loop_errors_iff` says when the errors of the loops are those of a failed
run: exactly if no such check inside a loop finds a stop request
(`UnstoppedLoops`).
-/

namespace TopoExec

open Loop

/-- Nothing has gone wrong. -/
def CleanRun (s : RunState) : Prop :=
  s.result.ok = true ∧ ∀ id, s.result.loopErrorCount id = 0

/-- The run has failed. -/
def FailedRun (s : RunState) : Prop := s.result.ok = false

/-- A loop has an error though the run has not failed. -/
def BlamedLoop (s : RunState) : Prop :=
  s.result.ok = true ∧ ∃ id, 0 < s.result.loopErrorCount id ∧
    s.result.loopStopReason id = some "component_error"

/-- The verdict and the errors of the loops are the same. -/
structure SameVerdict (s s' : RunState) : Prop where
  ok : s'.result.ok = s.result.ok
  errors : s'.result.loopErrorCount = s.result.loopErrorCount

theorem CleanRun.same {s s' : RunState} (h : CleanRun s) (hsame : SameVerdict s s') :
    CleanRun s' := by
  refine ⟨hsame.ok.trans h.1, fun id => ?_⟩
  rw [hsame.errors]
  exact h.2 id

namespace EventRuntime

/-! ## No stop request inside a loop -/

section

variable (clock : Nat → Int) (env : Env) (options : SchedulerRunOptions) (runtime : EventRuntime)

/-- No stop is requested where the component submits invocations to its workers. -/
def UnstoppedInvocations (component : EventRuntimeComponent) (invocations : List Invocation)
    (s : RunState) : Prop :=
  if component.lane.type ≠ "thread_pool" || invocations.isEmpty then True
  else
    match runtime.workerPool component.lane.id with
    | none => True
    | some workerCount =>
        match admitInvocations component workerCount invocations with
        | .error _ => True
        | .ok admitted =>
            if !component.reentrant then
              Visits (fun _ => executeWorkerInvocations clock env options component 1 true)
                (fun _ s => env.stopRequested s.asked = false) admitted s
            else env.stopRequested s.asked = false

def UnstoppedComponent (iteration : Nat) (componentId : String) (s : RunState) : Prop :=
  match runtime.components.find? fun component => component.id = componentId with
  | none => True
  | some component =>
      let collected := (s.reach (.collect iteration componentId)).ask env.collectReadyInvocations
      let s := collected.1.1.foldl (fun s op => s.withRouter (s.router.useBus clock op.1))
        collected.2
      match collected.1.2 with
      | .error _ => True
      | .ok invocations => UnstoppedInvocations clock env options runtime component invocations s

def UnstoppedComponents (iteration : Nat) : List String → RunState → Prop :=
  Visits (executeComponent clock env options runtime iteration)
    (UnstoppedComponent clock env options runtime iteration)

/-- In all iterations of a composite loop, with the iterations left. -/
def UnstoppedLoop (iteration : Nat) (region : CompiledGraphRegion) :
    Nat → Nat → RunState → Prop
  | 0, _, _ => True
  | left + 1, loopIteration, s =>
      let cancelled := if 0 < loopIteration then s.ask env.cancelRequested else (false, s)
      if cancelled.1 then True
      else
        let begun := beginLoopIteration region.id cancelled.2
        let executed := executeComponents clock env options runtime iteration region.components
          begun
        if !executed.1 then
          UnstoppedComponents clock env options runtime iteration region.components begun
        else
          let s := endLoopIteration region.id executed.2
          match convergenceReason region.loopPolicy s.convergence with
          | some _ => True
          | none =>
              let spent :=
                if 0 < region.loopPolicy.budgetMs then s.ask env.loopBudgetSpent else (false, s)
              if spent.1 then True
              else UnstoppedLoop iteration region left (loopIteration + 1) spent.2

def UnstoppedRegion (iteration : Nat) (region : CompiledGraphRegion) (s : RunState) : Prop :=
  match region.kind with
  | .component => True
  | .compositeLoop =>
      UnstoppedLoop clock env options runtime iteration region
        (if 0 < region.loopPolicy.maxIterations then region.loopPolicy.maxIterations.toNat else 1) 0
        (s.withRouter (s.router.beginCompositeRegion region.components))

def UnstoppedIteration (iteration : Nat) (s : RunState) : Prop :=
  let begun := beginIteration clock env iteration s
  if begun.1 then
    Visits (executeRegion clock env options runtime iteration)
      (UnstoppedRegion clock env options runtime iteration) runtime.order begun.2
  else True

/-- In all iterations of the run, with the iterations left. -/
def UnstoppedIterations : Nat → Nat → RunState → Prop
  | 0, _, _ => True
  | left + 1, iteration, s =>
      let stopped := stopBeforeIteration env s
      match stopped.1 with
      | some _ => True
      | none =>
          let executed := runIteration clock env options runtime iteration stopped.2
          if !executed.1 then UnstoppedIteration clock env options runtime iteration stopped.2
          else if options.runUntilIdle &&
              executed.2.result.tickCalls = stopped.2.result.tickCalls then True
          else UnstoppedIterations left (iteration + 1) executed.2

/-- No component of a composite loop finds a stop requested when it submits
invocations to its workers. -/
def UnstoppedLoops (router : RuntimePublicationRouter) : Prop :=
  UnstoppedIterations clock env options runtime
    (if options.tickIterations = 0 then
      if options.runUntilIdle then kDefaultRunUntilIdleIterationBound else 1
    else options.tickIterations) 0
    { router := router, result := { stopReason := .tickBound } }

end

variable {clock : Nat → Int} {env : Env} {options : SchedulerRunOptions} {runtime : EventRuntime}
  {s : RunState}

/-! ## Executing a component -/

/-- What a component does with its context decides no verdict. -/
theorem perform_verdict (componentId : String) (s : RunState) (action : ComponentAction) :
    SameVerdict s (perform clock componentId s action) := by
  cases action with
  | publish port payload metadata eventTimestamp => exact ⟨rfl, rfl⟩
  | read op => exact ⟨rfl, rfl⟩
  | reportLoopConvergence report =>
      unfold perform
      dsimp only
      split_ifs
      · exact ⟨rfl, rfl⟩
      · exact ⟨rfl, rfl⟩

variable (clock env) in
/-- An invocation fails nothing before its status is recorded. -/
theorem runInvocation_clean (componentId : String) (h : CleanRun s) :
    CleanRun (runInvocation clock env componentId s) := by
  unfold runInvocation
  have hasked : CleanRun (s.ask env.execute).2 := h.same ⟨rfl, rfl⟩
  refine List.foldlRecOn _ (perform clock componentId) hasked ?_
  intro s hs action _
  exact hs.same (perform_verdict componentId s action)

/-- A failed commit fails the run. -/
theorem commitPublications_clean (place : String) (h : CleanRun s) :
    Outcome CleanRun FailedRun (commitPublications clock place s) := by
  unfold commitPublications
  dsimp only
  split_ifs
  · exact Outcome.goesOn (h.same ⟨rfl, rfl⟩)
  · exact Outcome.left rfl

/-- An error status fails the run or the region. -/
theorem recordInvocationOutcome_clean (componentId : String) (status : Option String)
    (commitEach : Bool) (h : CleanRun s) :
    Outcome CleanRun FailedRun
      (recordInvocationOutcome clock options componentId status commitEach s) := by
  unfold recordInvocationOutcome
  cases status with
  | some message => exact Outcome.left rfl
  | none =>
      dsimp only
      have hcommitted : Outcome CleanRun FailedRun (if commitEach then
          commitPublications clock ("component " ++ componentId) s else (true, s)) := by
        split_ifs
        · exact commitPublications_clean _ h
        · exact Outcome.goesOn h
      refine hcommitted.bind (fun s => (true, countTick options componentId s)) ?_
      intro s' hs'
      exact Outcome.goesOn (hs'.same ⟨rfl, rfl⟩)

/-- One invocation on the event thread. -/
theorem executeOne_clean (component : EventRuntimeComponent) (h : CleanRun s) :
    Outcome CleanRun FailedRun (executeOne clock env options component s) := by
  unfold executeOne
  dsimp only
  split_ifs
  · exact Outcome.left rfl
  · have hstarted : CleanRun
        { s with componentInFlight := increment s.componentInFlight component.id } :=
      h.same ⟨rfl, rfl⟩
    have hfinished := runInvocation_clean clock env component.id hstarted
    exact recordInvocationOutcome_clean _ _ _ (hfinished.same ⟨rfl, rfl⟩)

/-- A stop request leaves the invocations out, but the run has not failed. -/
theorem executeWorkerInvocations_decided (component : EventRuntimeComponent) (count : Nat)
    (commitEach : Bool) (h : CleanRun s) :
    OutcomeBy (env.stopRequested s.asked = false) CleanRun FailedRun CleanRun
      (executeWorkerInvocations clock env options component count commitEach s) := by
  unfold executeWorkerInvocations
  dsimp only
  have hasked : CleanRun (s.ask env.stopRequested).2 := h.same ⟨rfl, rfl⟩
  by_cases hstop : env.stopRequested s.asked = false
  · refine .of_outcome hstop ?_
    rw [if_neg (by simp [RunState.ask, hstop])]
    have hrun := runInvocation_clean clock env component.id hasked
    have hrecorded : Outcome CleanRun FailedRun (forEach
        (fun index => recordInvocationOutcome clock options component.id
          (env.status (s.ask env.stopRequested).2.asked index) commitEach) (List.range count)
        (runInvocation clock env component.id (s.ask env.stopRequested).2)) :=
      forEach_outcome (I := fun _ => CleanRun)
        (fun _ _ _ _ _ hs => recordInvocationOutcome_clean _ _ _ hs) hrun
    cases commitEach with
    | true =>
        simp only [if_true, ite_self]
        exact hrecorded
    | false =>
        simp only [Bool.false_eq_true, if_false]
        exact hrecorded.bind (commitPublications clock _) fun _ => commitPublications_clean _
  · constructor
    · intro hno
      exact absurd hno hstop
    · intro _
      rw [if_pos (by simpa [RunState.ask] using hstop)]
      exact ⟨rfl, hasked.same ⟨rfl, rfl⟩⟩

/-- Only a stop before a submission lets the invocations return false without a failure. -/
theorem executeInvocations_decided (component : EventRuntimeComponent)
    (invocations : List Invocation) (h : CleanRun s) :
    OutcomeBy (UnstoppedInvocations clock env options runtime component invocations s) CleanRun
      FailedRun CleanRun
      (executeInvocations clock env options runtime component invocations s) := by
  unfold executeInvocations UnstoppedInvocations
  by_cases hlane : (decide (component.lane.type ≠ "thread_pool") || invocations.isEmpty) = true
  · rw [if_pos hlane, if_pos hlane]
    exact .of_outcome trivial (forEach_outcome (I := fun _ => CleanRun)
      (fun _ _ _ _ _ hs => executeOne_clean component hs) h)
  · rw [if_neg hlane, if_neg hlane]
    cases runtime.workerPool component.lane.id with
    | none => exact .of_outcome trivial (Outcome.left rfl)
    | some workerCount =>
        dsimp only
        cases admitInvocations component workerCount invocations with
        | error message => exact .of_outcome trivial (Outcome.left rfl)
        | ok admitted =>
            dsimp only
            by_cases hreentrant : (!component.reentrant) = true
            · rw [if_pos hreentrant, if_pos hreentrant]
              exact forEach_outcomeBy
                (fun _ _ _ hs => executeWorkerInvocations_decided component 1 true hs) h
            · rw [if_neg hreentrant, if_neg hreentrant]
              exact executeWorkerInvocations_decided component admitted.length false h

/-- Whether a component returns false without a failure is a matter of its invocations. -/
theorem executeComponent_decided (iteration : Nat) (componentId : String) (h : CleanRun s) :
    OutcomeBy (UnstoppedComponent clock env options runtime iteration componentId s) CleanRun
      FailedRun CleanRun
      (executeComponent clock env options runtime iteration componentId s) := by
  unfold executeComponent UnstoppedComponent
  cases runtime.components.find? fun component => component.id = componentId with
  | none => exact .of_outcome trivial (Outcome.goesOn h)
  | some component =>
      dsimp only
      have hcollect : CleanRun ((s.reach (.collect iteration componentId)).ask
          env.collectReadyInvocations).2 := h.same ⟨rfl, rfl⟩
      generalize (s.reach (.collect iteration componentId)).ask env.collectReadyInvocations =
        collected at hcollect ⊢
      have hread : CleanRun (collected.1.1.foldl
          (fun s op => s.withRouter (s.router.useBus clock op.1)) collected.2) :=
        List.foldlRecOn collected.1.1 _ hcollect fun s hs op _ => hs.same ⟨rfl, rfl⟩
      cases collected.1.2 with
      | error message => exact .of_outcome trivial (Outcome.left rfl)
      | ok invocations => exact executeInvocations_decided component invocations hread

variable (clock env options runtime) in
/-- By induction on the components of the region. -/
theorem executeComponents_decided (iteration : Nat) (components : List String)
    (h : CleanRun s) :
    OutcomeBy (UnstoppedComponents clock env options runtime iteration components s) CleanRun
      FailedRun CleanRun
      (executeComponents clock env options runtime iteration components s) :=
  forEach_outcomeBy (fun _ _ _ hs => executeComponent_decided iteration _ hs) h

/-! ## Composite loops -/

/-- Why a loop stopped is no verdict by itself. -/
theorem recordLoopStop_verdict (region : CompiledGraphRegion) (stop : LoopStop) (s : RunState) :
    SameVerdict s (recordLoopStop region stop s) := by
  cases stop with
  | converged _ | budgetOverrun | cancelled => exact ⟨rfl, rfl⟩
  | maxIterations =>
      unfold recordLoopStop
      dsimp only
      split_ifs
      · exact ⟨rfl, rfl⟩
      · exact ⟨rfl, rfl⟩

/-- The error of a loop in a run that has not failed. -/
theorem loopFailed_blamed (regionId : String) (h : CleanRun s) :
    BlamedLoop (loopFailed regionId s) := by
  refine ⟨h.1, regionId, ?_, ?_⟩
  · simp [loopFailed, increment]
  · simp [loopFailed]

/-- What a loop does to a run in which nothing has gone wrong. -/
def LoopDecided (unstopped : Prop) (result : Option LoopStop × RunState) : Prop :=
  (unstopped → LoopOutcome CleanRun FailedRun result) ∧
    (¬ unstopped → result.1 = none ∧ BlamedLoop result.2)

/-- The loop stopped by itself. -/
theorem loopDecided_stop (region : CompiledGraphRegion) (stop : LoopStop) (h : CleanRun s) :
    LoopDecided True (some stop, recordLoopStop region stop s) := by
  constructor
  · intro _
    exact h.same (recordLoopStop_verdict region stop s)
  · intro hno
    exact absurd trivial hno

variable (clock env options runtime) in
/-- By induction on the iterations that are left. -/
theorem loopIterations_decided (iteration : Nat) (region : CompiledGraphRegion)
    (left loopIteration : Nat) (h : CleanRun s) :
    LoopDecided (UnstoppedLoop clock env options runtime iteration region left loopIteration s)
      (loopIterations clock env options runtime iteration region left loopIteration s) := by
  induction left generalizing loopIteration s with
  | zero => exact loopDecided_stop region _ h
  | succ left ih =>
      unfold loopIterations UnstoppedLoop
      dsimp only
      have hcancelled : CleanRun
          (if 0 < loopIteration then s.ask env.cancelRequested else (false, s)).2 := by
        split_ifs
        · exact h.same ⟨rfl, rfl⟩
        · exact h
      generalize (if 0 < loopIteration then s.ask env.cancelRequested else (false, s)) =
        cancelled at hcancelled ⊢
      by_cases hcancel : cancelled.1 = true
      · rw [if_pos hcancel, if_pos hcancel]
        exact loopDecided_stop region _ hcancelled
      rw [if_neg hcancel, if_neg hcancel]
      have hbegun : CleanRun (beginLoopIteration region.id cancelled.2) :=
        hcancelled.same ⟨rfl, rfl⟩
      have hexecuted :=
        executeComponents_decided clock env options runtime iteration region.components hbegun
      generalize executeComponents clock env options runtime iteration region.components
        (beginLoopIteration region.id cancelled.2) = executed at hexecuted ⊢
      cases hgoes : executed.1 with
      | false =>
          -- the loop counts an error, whoever broke it off
          rw [if_pos (by simp), if_pos (by simp)]
          constructor
          · intro hquiet
            exact (hexecuted.1 hquiet).of_false hgoes
          · intro hloud
            exact ⟨rfl, loopFailed_blamed region.id (hexecuted.2 hloud).2⟩
      | true =>
          simp only [Bool.not_true, Bool.false_eq_true, if_false]
          have hended : CleanRun (endLoopIteration region.id executed.2) :=
            (hexecuted.outcome.of_true hgoes).same ⟨rfl, rfl⟩
          generalize endLoopIteration region.id executed.2 = s' at hended ⊢
          cases convergenceReason region.loopPolicy s'.convergence with
          | some reason => exact loopDecided_stop region _ hended
          | none =>
              dsimp only
              have hspent : CleanRun (if 0 < region.loopPolicy.budgetMs then
                  s'.ask env.loopBudgetSpent else (false, s')).2 := by
                split_ifs
                · exact hended.same ⟨rfl, rfl⟩
                · exact hended
              generalize (if 0 < region.loopPolicy.budgetMs then
                s'.ask env.loopBudgetSpent else (false, s')) = spent at hspent ⊢
              by_cases hover : spent.1 = true
              · rw [if_pos hover, if_pos hover]
                exact loopDecided_stop region _ hspent
              · rw [if_neg hover, if_neg hover]
                exact ih (loopIteration + 1) hspent

/-- A run that may end: nothing has gone wrong, or it has failed. -/
def EndedRun (s : RunState) : Prop := CleanRun s ∨ FailedRun s

/-- The outputs of the loop are committed or discarded, and a failed commit fails the run. -/
theorem finishCompositeRegion_clean (region : CompiledGraphRegion) (stop : LoopStop)
    (h : CleanRun s) :
    Outcome CleanRun EndedRun (finishCompositeRegion clock region stop s) := by
  have hrouter : ∀ router, CleanRun (s.withRouter router) := fun _ => h.same ⟨rfl, rfl⟩
  have hdiscarded : CleanRun (discardOutputs region.id s) := h.same ⟨rfl, rfl⟩
  unfold finishCompositeRegion
  dsimp only
  split
  · exact Outcome.left (.inr rfl)
  · split
    · split
      · exact Outcome.both (hrouter _) (.inl (hrouter _)) _
      · exact Outcome.left (.inr rfl)
    · exact Outcome.both hdiscarded (.inl hdiscarded) _

variable (clock env options runtime) in
/-- A loop is blamed for a stop before a submission inside it. -/
theorem executeRegion_decided (iteration : Nat) (region : CompiledGraphRegion) (h : CleanRun s) :
    OutcomeBy (UnstoppedRegion clock env options runtime iteration region s) CleanRun EndedRun
      BlamedLoop (executeRegion clock env options runtime iteration region s) := by
  unfold executeRegion UnstoppedRegion
  cases region.kind with
  | component =>
      -- outside a loop a stop request is no error
      refine .of_outcome trivial ?_
      have hdecided :=
        executeComponents_decided clock env options runtime iteration region.components h
      exact hdecided.outcome.mono (fun _ hclean => hclean) fun _ hend => hend.symm
  | compositeLoop =>
      dsimp only
      have hbegun : CleanRun (s.withRouter (s.router.beginCompositeRegion region.components)) :=
        h.same ⟨rfl, rfl⟩
      generalize (if 0 < region.loopPolicy.maxIterations then
        region.loopPolicy.maxIterations.toNat else 1) = maxIterations
      obtain ⟨hquiet, hloud⟩ :=
        loopIterations_decided clock env options runtime iteration region maxIterations 0 hbegun
      generalize loopIterations clock env options runtime iteration region maxIterations 0
        (s.withRouter (s.router.beginCompositeRegion region.components)) = looped at hquiet hloud ⊢
      constructor
      · intro hunstopped
        have houtcome := hquiet hunstopped
        unfold LoopOutcome at houtcome
        cases hstop : looped.1 with
        | none =>
            rw [hstop] at houtcome
            exact Outcome.left (.inr houtcome)
        | some stop =>
            rw [hstop] at houtcome
            exact finishCompositeRegion_clean region stop houtcome
      · intro hstopped
        obtain ⟨hnone, hblamed⟩ := hloud hstopped
        rw [hnone]
        exact ⟨rfl, hblamed⟩

/-! ## Iterations and runs -/

variable (clock env) in
/-- A failed commit at the start of an iteration fails the run. -/
theorem beginIteration_clean (iteration : Nat) (h : CleanRun s) :
    Outcome CleanRun FailedRun (beginIteration clock env iteration s) := by
  have hreached : CleanRun ((s.reach (.iterationBegin iteration)).ask
      env.configTransactionErrors).2 := h.same ⟨rfl, rfl⟩
  unfold beginIteration
  dsimp only
  split
  · exact Outcome.left rfl
  · split
    · exact Outcome.goesOn (hreached.same ⟨rfl, rfl⟩)
    · exact Outcome.left rfl

variable (clock env options runtime) in
/-- By induction on the regions. -/
theorem runIteration_decided (iteration : Nat) (h : CleanRun s) :
    OutcomeBy (UnstoppedIteration clock env options runtime iteration s) CleanRun EndedRun
      BlamedLoop (runIteration clock env options runtime iteration s) := by
  have hbegun := beginIteration_clean clock env iteration h
  unfold runIteration UnstoppedIteration
  dsimp only
  -- an iteration that does not begin ends the run without a loop
  cases hgoes : (beginIteration clock env iteration s).1 with
  | false =>
      simp only [Bool.false_eq_true, if_false]
      refine .of_outcome trivial ?_
      unfold Outcome
      rw [if_neg (by simp [hgoes])]
      exact .inr (hbegun.of_false hgoes)
  | true =>
      simp only [if_true]
      have hclean := hbegun.of_true hgoes
      generalize (beginIteration clock env iteration s).2 = begun at hclean ⊢
      have hregions := forEach_outcomeBy (l := runtime.order) (fun region _ _ hs =>
        executeRegion_decided clock env options runtime iteration region hs) hclean
      unfold executeRegions
      dsimp only
      generalize forEach (executeRegion clock env options runtime iteration) runtime.order begun =
        executed at hregions ⊢
      cases hdone : executed.1 with
      | true =>
          rw [if_pos rfl]
          have hfinished : CleanRun (endIteration executed.2) :=
            (hregions.outcome.of_true hdone).same ⟨rfl, rfl⟩
          refine ⟨fun _ => Outcome.goesOn hfinished, fun hno => ?_⟩
          have hleft := (hregions.2 hno).1
          rw [hdone] at hleft
          cases hleft
      | false =>
          rw [if_neg (by simp)]
          exact hregions

variable (env) in
/-- A stop between iterations is no loop error. -/
theorem stopBeforeIteration_verdict (s : RunState) :
    SameVerdict s (stopBeforeIteration env s).2 := by
  unfold stopBeforeIteration
  dsimp only
  split_ifs
  · exact ⟨rfl, rfl⟩
  · exact ⟨rfl, rfl⟩
  · exact ⟨rfl, rfl⟩
  · exact ⟨rfl, rfl⟩

variable (clock env options runtime) in
/-- By induction on the iterations that are left. -/
theorem runIterations_decided (left iteration : Nat) (h : CleanRun s) :
    (UnstoppedIterations clock env options runtime left iteration s →
        EndedRun (runIterations clock env options runtime left iteration s)) ∧
      (¬ UnstoppedIterations clock env options runtime left iteration s →
        BlamedLoop (runIterations clock env options runtime left iteration s)) := by
  induction left generalizing iteration s with
  | zero => exact ⟨fun _ => .inl h, fun hno => absurd trivial hno⟩
  | succ left ih =>
      have hstopped := h.same (stopBeforeIteration_verdict env s)
      unfold runIterations UnstoppedIterations
      dsimp only
      cases (stopBeforeIteration env s).1 with
      | some reason =>
          exact ⟨fun _ => .inl (hstopped.same ⟨rfl, rfl⟩), fun hno => absurd trivial hno⟩
      | none =>
          dsimp only
          have hexecuted := runIteration_decided clock env options runtime iteration hstopped
          generalize (stopBeforeIteration env s).2 = stopped at hstopped hexecuted ⊢
          generalize runIteration clock env options runtime iteration stopped =
            executed at hexecuted ⊢
          cases hgoes : executed.1 with
          | false =>
              simp only [Bool.not_false, if_true]
              exact ⟨fun hquiet => (hexecuted.1 hquiet).of_false hgoes,
                fun hloud => (hexecuted.2 hloud).2⟩
          | true =>
              simp only [Bool.not_true, Bool.false_eq_true, if_false]
              have hclean := hexecuted.outcome.of_true hgoes
              split_ifs
              · exact ⟨fun _ => .inl (hclean.same ⟨rfl, rfl⟩), fun hno => absurd trivial hno⟩
              · exact ih (iteration + 1) hclean

/-- In every run, the loops have errors only if the run has failed, exactly if no
component of a loop finds a stop requested when it submits invocations to its
workers. -/
theorem loop_errors_iff (clock : Nat → Int) (env : Env) (options : SchedulerRunOptions)
    (runtime : EventRuntime) (router : RuntimePublicationRouter) :
    let result := (runtime.run clock env options router).result
    (∀ id, 0 < result.loopErrorCount id → result.ok = false) ↔
      UnstoppedLoops clock env options runtime router := by
  intro result
  have hinit : CleanRun { router := router, result := { stopReason := .tickBound } } :=
    ⟨rfl, fun _ => rfl⟩
  obtain ⟨hquiet, hloud⟩ := runIterations_decided clock env options runtime
    (if options.tickIterations = 0 then
      if options.runUntilIdle then kDefaultRunUntilIdleIterationBound else 1
    else options.tickIterations) 0 hinit
  constructor
  · intro hfails
    by_contra hno
    obtain ⟨hok, id, herror, -⟩ := hloud hno
    have hfailed := hfails id herror
    exact Bool.noConfusion (hok.symm.trans hfailed)
  · intro hunstopped id herror
    rcases hquiet hunstopped with hclean | hfailed
    · have hzero : result.loopErrorCount id = 0 := hclean.2 id
      omega
    · exact hfailed

/-- A component that feeds itself. -/
def feedbackGraph : GraphSpec where
  components := [{ id := "a" }]
  edges := [{ id := "e", fromEndpoint := "a.out", toEndpoint := "a.in" }]
  compositeLoops := [{ id := "l", components := ["a"] }]

/-- It runs on a worker pool. -/
def feedbackRuntime : EventRuntime where
  compiledPlan := ((compileGraphImpl 2 feedbackGraph).map GraphCompileResult.plan).getD {}
  components := [{ id := "a", lane := { id := "pool", type := "thread_pool" } }]

/-- It is ready, and a stop is requested while its triggers are collected. -/
def stopWhileCollecting : Env where
  stopRequested := fun question => 5 ≤ question
  collectReadyInvocations := fun _ => ([], .ok [{}])
  execute := fun _ => []

theorem feedback_stop_blamed :
    ¬ ∀ (clock : Nat → Int) (env : Env) (options : SchedulerRunOptions) (runtime : EventRuntime)
      (router : RuntimePublicationRouter) (id : String),
      0 < (runtime.run clock env options router).result.loopErrorCount id ∧
          (runtime.run clock env options router).result.loopStopReason id =
            some "component_error" →
        (runtime.run clock env options router).result.ok = false := by
  intro hblamed
  have hfailed := hblamed (fun n => n) stopWhileCollecting {} feedbackRuntime
    (.ofEdges (some (.ofEdges feedbackGraph.edges)) feedbackGraph.edges) "l" (by decide)
  revert hfailed
  decide

end EventRuntime

end TopoExec
