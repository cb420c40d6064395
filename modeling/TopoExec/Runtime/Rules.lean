import TopoExec.Runtime.EventRuntime

/-! # Rules for the execution of a region

`RegionRules` lists what is to be shown of the calls that the components of a region lead
to: publishing, reading, committing, counting. From these follow the rules for the three
ways to execute a component, for the components of a region and for a composite loop. All
have the form of `Loop.Outcome`: the state in which the run goes on, and the state in which
it ends.
-/

namespace TopoExec

open RuntimePublicationRouter Loop

/-- The states differ in nothing that the rules look at. -/
structure SameRun (s s' : RunState) : Prop where
  router : s'.router = s.router
  ticks : s'.result.tickCalls = s.result.tickCalls
  reason : s'.result.stopReason = s.result.stopReason

/-- `E` holds while a component executes, `T` once an invocation is recorded, `R` between
components, and `Q` where the run ends. -/
structure RegionRules (clock : Nat → Int) (env : Env) (iteration : Nat)
    (components : List String) (E T R Q : RunState → Prop) : Prop where
  sameExecuting : ∀ s s', E s → SameRun s s' → E s'
  sameReady : ∀ s s', R s → SameRun s s' → R s'
  sameEnded : ∀ s s', Q s → SameRun s s' → Q s'
  executing : ∀ s, R s → E s
  recorded : ∀ s, T s → E s
  perform : ∀ s, ∀ id ∈ components, ∀ question, ∀ action ∈ env.execute question, E s →
    E (EventRuntime.perform clock id s action)
  tick : ∀ options s, ∀ id ∈ components, E s → T (EventRuntime.countTick options id s)
  commitTick : ∀ options s, ∀ id ∈ components, E s →
    (s.router.commitImmediate clock).1.accepted = true →
      R (EventRuntime.countTick options id (s.withRouter (s.router.commitImmediate clock).2))
  commit : ∀ s, T s → (s.router.commitImmediate clock).1.accepted = true →
    R (s.withRouter (s.router.commitImmediate clock).2)
  rejected : ∀ s message, E s → (s.router.commitImmediate clock).1.accepted = false →
    Q ((s.withRouter (s.router.commitImmediate clock).2).fail message)
  fail : ∀ s message, E s → Q (s.fail message)
  stop : ∀ s, E s → Q (s.stop .stopRequested)
  cancel : ∀ s, R s → R (s.stop .stopRequested)
  collect : ∀ s, ∀ id ∈ components, R s → R (s.reach (.collect iteration id))
  read : ∀ s (op : BusRead), R s → R (s.withRouter (s.router.useBus clock op.1))

namespace EventRuntime

variable {clock : Nat → Int} {env : Env} {options : SchedulerRunOptions} {runtime : EventRuntime}
  {iteration : Nat} {components : List String} {E T R Q : RunState → Prop} {s : RunState}

/-! ## Admission -/

/-- Admission never drops all the invocations. -/
theorem admitInvocations_ne_nil {component : EventRuntimeComponent} {workerCount : Nat}
    (hworkers : 0 < workerCount) {invocations admitted : List Invocation}
    (hready : invocations ≠ [])
    (h : admitInvocations component workerCount invocations = .ok admitted) :
    0 < admitted.length := by
  have hactive : 0 < activeCapacity component workerCount := by
    unfold activeCapacity
    split_ifs
    · exact hworkers
    · exact Nat.one_pos
  have hlength := List.length_pos_iff.mpr hready
  unfold admitInvocations at h
  dsimp only at h
  split_ifs at h <;> cases h
  · exact hlength
  · rw [List.length_drop]
    omega
  · rw [List.length_take]
    omega

theorem workerPool_pos {laneId : String} {workerCount : Nat}
    (h : runtime.workerPool laneId = some workerCount) : 0 < workerCount := by
  unfold workerPool at h
  split at h
  · cases h
  · split_ifs at h
    cases h
    omega

/-! ## Executing a component -/

section

variable (hrules : RegionRules clock env iteration components E T R Q)

include hrules

/-- By induction on the actions of the component. -/
theorem runInvocation_rule {componentId : String} (hid : componentId ∈ components) (h : E s) :
    E (runInvocation clock env componentId s) := by
  unfold runInvocation
  have hasked : E (s.ask env.execute).2 := hrules.sameExecuting _ _ h ⟨rfl, rfl, rfl⟩
  refine List.foldlRecOn _ (perform clock componentId) hasked ?_
  intro s hs action haction
  exact hrules.perform s componentId hid _ action haction hs

/-- After an invocation: committed, if each invocation commits. -/
theorem recordInvocationOutcome_rule {componentId : String} (hid : componentId ∈ components)
    (h : E s) (status : Option String) (commitEach : Bool) :
    Outcome (if commitEach then R else T) Q
      (recordInvocationOutcome clock options componentId status commitEach s) := by
  unfold recordInvocationOutcome
  cases status with
  | some message => exact Outcome.left (hrules.fail s _ h)
  | none =>
      dsimp only
      cases commitEach with
      | false => exact Outcome.goesOn (hrules.tick options s componentId hid h)
      | true =>
          simp only [if_true]
          unfold commitPublications
          dsimp only
          by_cases haccepted : (s.router.commitImmediate clock).1.accepted = true
          · simp only [if_pos haccepted, if_true]
            exact Outcome.goesOn (hrules.commitTick options s componentId hid h haccepted)
          · simp only [if_neg haccepted, Bool.false_eq_true, if_false]
            exact Outcome.left (hrules.rejected s _ h (Bool.eq_false_iff.mpr haccepted))

/-- The invocation runs, and then its status is recorded. -/
theorem executeOne_rule {component : EventRuntimeComponent} (hid : component.id ∈ components)
    (h : R s) : Outcome R Q (executeOne clock env options component s) := by
  have hexecuting := hrules.executing s h
  unfold executeOne
  dsimp only
  split_ifs
  · exact Outcome.left (hrules.fail s _ hexecuting)
  · have hstarted : E { s with componentInFlight := increment s.componentInFlight component.id } :=
      hrules.sameExecuting _ _ hexecuting ⟨rfl, rfl, rfl⟩
    have hfinished := runInvocation_rule hrules hid hstarted
    refine recordInvocationOutcome_rule hrules hid ?_ _ true
    exact hrules.sameExecuting _ _ hfinished ⟨rfl, rfl, rfl⟩

/-- The invocations commit one by one, or all together at the end. -/
theorem executeWorkerInvocations_rule {component : EventRuntimeComponent}
    (hid : component.id ∈ components) {count : Nat} (hcount : 0 < count) (commitEach : Bool)
    (h : R s) :
    Outcome R Q (executeWorkerInvocations clock env options component count commitEach s) := by
  have hasked : E (s.ask env.stopRequested).2 :=
    hrules.sameExecuting _ _ (hrules.executing s h) ⟨rfl, rfl, rfl⟩
  unfold executeWorkerInvocations
  dsimp only
  by_cases hstop : (s.ask env.stopRequested).1 = true
  · rw [if_pos hstop]
    exact Outcome.left (hrules.stop _ hasked)
  rw [if_neg hstop]
  -- the loop is about `E` until it has recorded an invocation
  have hloop : Outcome (fun s' => E s' ∧ (List.range count ≠ [] →
      (if commitEach then R else T) s')) Q
      (forEach (fun index => recordInvocationOutcome clock options component.id
          (env.status (s.ask env.stopRequested).2.asked index) commitEach) (List.range count)
        (runInvocation clock env component.id (s.ask env.stopRequested).2)) := by
    refine forEach_outcome (I := fun done s' => E s' ∧ (done ≠ [] →
      (if commitEach then R else T) s')) ?_
      ⟨runInvocation_rule hrules hid hasked, fun hnil => absurd rfl hnil⟩
    intro done index rest _ s' hs'
    refine (recordInvocationOutcome_rule hrules hid hs'.1 _ commitEach).mono ?_ fun _ hq => hq
    intro s'' hs''
    refine ⟨?_, fun _ => hs''⟩
    cases commitEach with
    | true => exact hrules.executing s'' hs''
    | false => exact hrules.recorded s'' hs''
  have hrange : List.range count ≠ [] := by
    simp only [ne_eq, List.range_eq_nil]
    omega
  cases commitEach with
  | true =>
      simp only [if_true, ite_self]
      exact hloop.mono (fun s' hs' => hs'.2 hrange) fun _ hq => hq
  | false =>
      simp only [Bool.false_eq_true, if_false]
      refine hloop.bind (commitPublications clock _) ?_
      intro s' hs'
      have hrecorded : T s' := hs'.2 hrange
      unfold commitPublications
      dsimp only
      by_cases haccepted : (s'.router.commitImmediate clock).1.accepted = true
      · rw [if_pos haccepted]
        exact Outcome.goesOn (hrules.commit s' hrecorded haccepted)
      · rw [if_neg haccepted]
        exact Outcome.left (hrules.rejected s' _ hs'.1 (Bool.eq_false_iff.mpr haccepted))

/-- By induction on the invocations, on a pool or one by one. -/
theorem executeInvocations_rule {component : EventRuntimeComponent}
    (hid : component.id ∈ components) (invocations : List Invocation) (h : R s) :
    Outcome R Q (executeInvocations clock env options runtime component invocations s) := by
  have hexecuting := hrules.executing s h
  unfold executeInvocations
  split
  · exact forEach_outcome (I := fun _ => R) (fun _ _ _ _ _ hs => executeOne_rule hrules hid hs) h
  · next hlane =>
      have hready : invocations ≠ [] := by
        rintro rfl
        simp at hlane
      cases hpool : runtime.workerPool component.lane.id with
      | none => exact Outcome.left (hrules.fail s _ hexecuting)
      | some workerCount =>
          dsimp only
          cases hadmitted : admitInvocations component workerCount invocations with
          | error message => exact Outcome.left (hrules.fail s _ hexecuting)
          | ok admitted =>
              dsimp only
              have hpos := admitInvocations_ne_nil (workerPool_pos hpool) hready hadmitted
              split_ifs
              · exact forEach_outcome (I := fun _ => R)
                  (fun _ _ _ _ _ hs =>
                    executeWorkerInvocations_rule hrules hid Nat.one_pos true hs) h
              · exact executeWorkerInvocations_rule hrules hid hpos false h

/-- The collection, and then the invocations it gives. -/
theorem executeComponent_rule {componentId : String} (hid : componentId ∈ components) (h : R s) :
    Outcome R Q (executeComponent clock env options runtime iteration componentId s) := by
  unfold executeComponent
  cases hfind : runtime.components.find? fun component => component.id = componentId with
  | none => exact Outcome.goesOn h
  | some component =>
      dsimp only
      have hsame : component.id = componentId := by simpa using List.find?_some hfind
      have hcollect : R ((s.reach (.collect iteration componentId)).ask
          env.collectReadyInvocations).2 :=
        hrules.sameReady _ _ (hrules.collect s componentId hid h) ⟨rfl, rfl, rfl⟩
      generalize (s.reach (.collect iteration componentId)).ask env.collectReadyInvocations =
        collected at hcollect ⊢
      -- the trigger policy reads the bus
      have hread : R (collected.1.1.foldl
          (fun s op => s.withRouter (s.router.useBus clock op.1)) collected.2) :=
        List.foldlRecOn collected.1.1 _ hcollect fun s hs op _ => hrules.read s op hs
      cases collected.1.2 with
      | error message =>
          refine Outcome.left (hrules.fail _ _ ?_)
          exact hrules.sameExecuting _ _ (hrules.executing _ hread) ⟨rfl, rfl, rfl⟩
      | ok invocations => exact executeInvocations_rule hrules (hsame ▸ hid) invocations hread

/-- By induction on the components. -/
theorem executeComponents_rule (h : R s) :
    Outcome R Q (executeComponents clock env options runtime iteration components s) := by
  refine forEach_outcome (I := fun _ => R) ?_ h
  intro done id rest hsplit s hs
  refine executeComponent_rule hrules ?_ hs
  rw [hsplit]
  exact List.mem_append_right _ (List.mem_cons_self ..)

end

/-! ## Composite loops -/

/-- After a loop: `R` if it stopped, `Q` if the run returned from inside. -/
def LoopOutcome (R Q : RunState → Prop) (result : Option LoopStop × RunState) : Prop :=
  match result.1 with
  | some _ => R result.2
  | none => Q result.2

theorem LoopOutcome.same {result : Option LoopStop × RunState} (h : LoopOutcome R R result) :
    R result.2 := by
  unfold LoopOutcome at h
  cases hstop : result.1 with
  | some stop => simpa [hstop] using h
  | none => simpa [hstop] using h

section

variable {region : CompiledGraphRegion}
  (hrules : RegionRules clock env iteration region.components E T R Q)

include hrules

theorem loopOutcome_stop (h : R s) (stop : LoopStop) :
    LoopOutcome R Q (some stop, recordLoopStop region stop s) := by
  show R (recordLoopStop region stop s)
  cases stop with
  | converged _ | budgetOverrun => exact hrules.sameReady _ _ h ⟨rfl, rfl, rfl⟩
  | cancelled => exact hrules.sameReady _ _ (hrules.cancel s h) ⟨rfl, rfl, rfl⟩
  | maxIterations =>
      refine hrules.sameReady _ _ h ⟨rfl, ?_, ?_⟩ <;> unfold recordLoopStop <;> dsimp only <;>
        split_ifs <;> rfl

/-- By induction on the iterations that are left. -/
theorem loopIterations_rule (left loopIteration : Nat) (h : R s) :
    LoopOutcome R Q
      (loopIterations clock env options runtime iteration region left loopIteration s) := by
  induction left generalizing loopIteration s with
  | zero => exact loopOutcome_stop hrules h _
  | succ left ih =>
      unfold loopIterations
      dsimp only
      have hcancelled :
          R (if 0 < loopIteration then s.ask env.cancelRequested else (false, s)).2 := by
        -- the tests of the loop in the order of the source, each followed by its stop
        split_ifs
        · exact hrules.sameReady _ _ h ⟨rfl, rfl, rfl⟩
        · exact h
      generalize (if 0 < loopIteration then s.ask env.cancelRequested else (false, s)) =
        cancelled at hcancelled ⊢
      have hbegun : R (beginLoopIteration region.id cancelled.2) :=
        hrules.sameReady _ _ hcancelled ⟨rfl, rfl, rfl⟩
      have hexecuted : Outcome R Q (executeComponents clock env options runtime iteration
          region.components (beginLoopIteration region.id cancelled.2)) :=
        executeComponents_rule hrules hbegun
      generalize executeComponents clock env options runtime iteration region.components
        (beginLoopIteration region.id cancelled.2) = executed at hexecuted ⊢
      split
      · exact loopOutcome_stop hrules hcancelled _
      · cases hgoes : executed.1 with
        | false =>
            exact hrules.sameEnded _ _ (hexecuted.of_false hgoes) ⟨rfl, rfl, rfl⟩
        | true =>
            have hended : R (endLoopIteration region.id executed.2) :=
              hrules.sameReady _ _ (hexecuted.of_true hgoes) ⟨rfl, rfl, rfl⟩
            rw [if_neg (by simp)]
            generalize endLoopIteration region.id executed.2 = s' at hended ⊢
            split
            · exact loopOutcome_stop hrules hended _
            · have hspent : R (if 0 < region.loopPolicy.budgetMs then
                  s'.ask env.loopBudgetSpent else (false, s')).2 := by
                split_ifs
                · exact hrules.sameReady _ _ hended ⟨rfl, rfl, rfl⟩
                · exact hended
              generalize (if 0 < region.loopPolicy.budgetMs then
                s'.ask env.loopBudgetSpent else (false, s')) = spent at hspent ⊢
              split
              · exact loopOutcome_stop hrules hspent _
              · exact ih (loopIteration + 1) hspent

end

end EventRuntime

end TopoExec
