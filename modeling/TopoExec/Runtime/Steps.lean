import TopoExec.Runtime.Iteration
import TopoExec.Runtime.Rules

/-! # What a run does to the router

A run touches the router through its operations and by writing points into the
trace. A property that these keep is kept by every function of the runtime.
-/

namespace TopoExec

open RuntimePublicationRouter Loop

/-- Kept by what the components of an environment do while they execute. -/
structure ComponentKeeps (clock : Nat → Int) (env : Env) (P : RuntimePublicationRouter → Prop) :
    Prop where
  perform : ∀ (s : RunState) id question, ∀ action ∈ env.execute question, P s.router →
    P (EventRuntime.perform clock id s action).router
  commitImmediate : ∀ router, P router → P (router.commitImmediate clock).2
  read : ∀ router (read : BusRead), P router → P (router.useBus clock read.1)
  reach : ∀ (s : RunState) point, P s.router → P (s.reach point).router

/-- Kept by what these components do while they execute. -/
structure RegionKeeps (clock : Nat → Int) (env : Env) (components : List String)
    (P : RuntimePublicationRouter → Prop) : Prop where
  perform : ∀ (s : RunState), ∀ id ∈ components, ∀ question, ∀ action ∈ env.execute question,
    P s.router → P (EventRuntime.perform clock id s action).router
  commitImmediate : ∀ router, P router → P (router.commitImmediate clock).2
  read : ∀ router (read : BusRead), P router → P (router.useBus clock read.1)
  reach : ∀ (s : RunState) point, P s.router → P (s.reach point).router

/-- What the calls of components keep holds inside a region. -/
theorem ComponentKeeps.region {clock : Nat → Int} {env : Env}
    {P : RuntimePublicationRouter → Prop} (h : ComponentKeeps clock env P)
    (components : List String) : RegionKeeps clock env components P :=
  ⟨fun s id _ => h.perform s id, h.commitImmediate, h.read, h.reach⟩

/-- Kept by whatever a run in that environment does. -/
structure RunKeeps (clock : Nat → Int) (env : Env) (P : RuntimePublicationRouter → Prop) :
    Prop extends ComponentKeeps clock env P where
  beginEpoch : ∀ router, P router → P (router.beginEpoch clock).2
  endEpoch : ∀ router, P router → P router.endEpoch
  beginComposite : ∀ router components, P router → P (router.beginCompositeRegion components)
  commitComposite : ∀ router, P router → P (router.commitCompositeRegionOutputs clock).2
  discardComposite : ∀ router, P router → P router.discardCompositeRegionOutputs

/-- Kept by what the execution of components does. -/
structure ComponentStable (clock : Nat → Int) (P : RuntimePublicationRouter → Prop) : Prop where
  publish : ∀ router sourceEndpoint payload metadata eventTimestamp, P router →
    P (router.publishSharedFromWithMetadata sourceEndpoint payload metadata eventTimestamp).2
  commitImmediate : ∀ router, P router → P (router.commitImmediate clock).2
  read : ∀ router (read : BusRead), P router → P (router.useBus clock read.1)
  reach : ∀ (s : RunState) point, P s.router → P (s.reach point).router

/-- Kept by every operation of a run. -/
structure RunStable (clock : Nat → Int) (P : RuntimePublicationRouter → Prop) : Prop where
  exec : ∀ router op, P router → P (RouterOp.exec clock router op)
  reach : ∀ (s : RunState) point, P s.router → P (s.reach point).router

variable {clock : Nat → Int} {P : RuntimePublicationRouter → Prop}

theorem RunStable.component (h : RunStable clock P) : ComponentStable clock P :=
  ⟨fun router sourceEndpoint payload metadata eventTimestamp =>
      h.exec router (.publish sourceEndpoint payload metadata eventTimestamp),
    fun router => h.exec router .commitImmediate, fun router read => h.exec router (.useBus read.1),
    h.reach⟩

/-- What every call of a component keeps, the components of an environment keep. -/
theorem ComponentStable.keeps (h : ComponentStable clock P) (env : Env) :
    ComponentKeeps clock env P where
  perform := by
    intro s id question action _ hs
    cases action with
    | publish port payload metadata eventTimestamp => exact h.publish _ _ _ _ _ hs
    | read op => exact h.read _ op hs
    | reportLoopConvergence report =>
        unfold EventRuntime.perform
        dsimp only
        split_ifs <;> exact hs
  commitImmediate := h.commitImmediate
  read := h.read
  reach := h.reach

/-- A property that every call keeps is kept by the run. -/
theorem RunStable.keeps (h : RunStable clock P) (env : Env) : RunKeeps clock env P where
  toComponentKeeps := h.component.keeps env
  beginEpoch := fun router => h.exec router .beginEpoch
  endEpoch := fun router => h.exec router .endEpoch
  beginComposite := fun router components => h.exec router (.beginCompositeRegion components)
  commitComposite := fun router => h.exec router .commitCompositeRegionOutputs
  discardComposite := fun router => h.exec router .discardCompositeRegionOutputs

/-- The property of the router, as a property of the run. -/
def OfRouter (P : RuntimePublicationRouter → Prop) (s : RunState) : Prop := P s.router

namespace EventRuntime

variable {env : Env} {options : SchedulerRunOptions} {runtime : EventRuntime} {s : RunState}

section

variable {components : List String} (hP : RegionKeeps clock env components P)

include hP

/-- Nothing but the router matters to such a property. -/
theorem regionRules_ofRouter (iteration : Nat) :
    RegionRules clock env iteration components (OfRouter P) (OfRouter P) (OfRouter P)
      (OfRouter P) := by
  have hsame : ∀ s s' : RunState, OfRouter P s → SameRun s s' → OfRouter P s' := by
    intro s s' h hs
    unfold OfRouter
    rw [hs.router]
    exact h
  have hcommit : ∀ s : RunState, OfRouter P s →
      OfRouter P (s.withRouter (s.router.commitImmediate clock).2) :=
    fun s h => hP.commitImmediate _ h
  exact {
    sameExecuting := hsame
    sameReady := hsame
    sameEnded := hsame
    executing := fun _ h => h
    recorded := fun _ h => h
    perform := fun s id hid question action haction h =>
      hP.perform s id hid question action haction h
    tick := fun _ _ _ _ h => h
    commitTick := fun _ s _ _ h _ => hcommit s h
    commit := fun s h _ => hcommit s h
    rejected := fun s _ h _ => hcommit s h
    fail := fun _ _ h => h
    stop := fun _ h => h
    cancel := fun _ h => h
    collect := fun s _ _ h => hP.reach s _ h
    read := fun _ op h => hP.read _ op h }

/-- By induction on the components. -/
theorem executeComponents_keeps (iteration : Nat) (h : P s.router) :
    P (executeComponents clock env options runtime iteration components s).2.router :=
  Outcome.same (executeComponents_rule (regionRules_ofRouter hP iteration) h)

/-! ## Composite loops, regions and iterations -/

end

/-- By induction on the iterations that are left. -/
theorem loopIterations_keeps {region : CompiledGraphRegion}
    (hP : RegionKeeps clock env region.components P) (iteration left loopIteration : Nat)
    (h : P s.router) :
    P (loopIterations clock env options runtime iteration region left loopIteration s).2.router :=
  LoopOutcome.same (loopIterations_rule (regionRules_ofRouter hP iteration) left loopIteration h)

section

variable (hP : RunKeeps clock env P)

include hP

theorem finishCompositeRegion_keeps (region : CompiledGraphRegion) (stop : LoopStop)
    (h : P s.router) : P (finishCompositeRegion clock region stop s).2.router := by
  have hdiscard : P s.router.discardCompositeRegionOutputs :=
    hP.discardComposite _ h
  have hcommit : P (s.router.commitCompositeRegionOutputs clock).2 :=
    hP.commitComposite _ h
  unfold finishCompositeRegion
  dsimp only
  split
  · exact hdiscard
  · split
    · split <;> exact hcommit
    · exact hdiscard

/-- A region of one component or a composite one. -/
theorem executeRegion_keeps (iteration : Nat) (region : CompiledGraphRegion) (h : P s.router) :
    P (executeRegion clock env options runtime iteration region s).2.router := by
  unfold executeRegion
  cases region.kind with
  | component =>
    exact executeComponents_keeps (hP.toComponentKeeps.region region.components) iteration h
  | compositeLoop =>
      dsimp only
      have hbegun : P (s.withRouter (s.router.beginCompositeRegion region.components)).router :=
        hP.beginComposite _ region.components h
      generalize (if 0 < region.loopPolicy.maxIterations then
        region.loopPolicy.maxIterations.toNat else 1) = maxIterations
      have hlooped : P (loopIterations clock env options runtime iteration region maxIterations 0
          (s.withRouter (s.router.beginCompositeRegion region.components))).2.router :=
        loopIterations_keeps (hP.toComponentKeeps.region region.components) iteration
          maxIterations 0
          hbegun
      generalize loopIterations clock env options runtime iteration region maxIterations 0 _ =
        looped at hlooped ⊢
      cases looped.1 with
      | none => exact hlooped
      | some stop => exact finishCompositeRegion_keeps hP region stop hlooped

theorem beginIteration_keeps (iteration : Nat) (h : P s.router) :
    P (beginIteration clock env iteration s).2.router := by
  have hreached : P (s.reach (.iterationBegin iteration)).router := hP.reach s _ h
  unfold beginIteration
  dsimp only
  split
  · exact hreached
  · have hbegun : P (((s.reach (.iterationBegin iteration)).ask
        env.configTransactionErrors).2.router.beginEpoch clock).2 := hP.beginEpoch _ hreached
    split
    · exact hP.reach (RunState.withRouter _ _) _ hbegun
    · exact hbegun

/-- By induction on the regions. -/
theorem executeRegions_keeps (iteration : Nat) (h : P s.router) :
    P (executeRegions clock env options runtime iteration s).2.router := by
  have hexecuted : P (forEach (executeRegion clock env options runtime iteration) runtime.order
      s).2.router :=
    forEach_keeps (Q := OfRouter P) (fun region s hs => executeRegion_keeps hP iteration region hs)
      _ h
  unfold executeRegions
  dsimp only
  split
  · exact hP.endEpoch _ hexecuted
  · exact hexecuted

theorem runIteration_keeps (iteration : Nat) (h : P s.router) :
    P (runIteration clock env options runtime iteration s).2.router := by
  have hbegun : P (beginIteration clock env iteration s).2.router :=
    beginIteration_keeps hP iteration h
  unfold runIteration
  dsimp only
  split
  · exact executeRegions_keeps hP iteration hbegun
  · exact hbegun

end

theorem router_stopBeforeIteration (s : RunState) :
    (stopBeforeIteration env s).2.router = s.router := by
  unfold stopBeforeIteration
  dsimp only
  split_ifs <;> rfl

/-- By induction on the iterations that are left. -/
theorem runIterations_keeps (hP : RunKeeps clock env P) (left iteration : Nat) (h : P s.router) :
    P (runIterations clock env options runtime left iteration s).router := by
  induction left generalizing iteration s with
  | zero => exact h
  | succ left ih =>
      have hstopped : P (stopBeforeIteration env s).2.router := by
        rw [router_stopBeforeIteration]
        exact h
      unfold runIterations
      dsimp only
      cases (stopBeforeIteration env s).1 with
      | some reason => exact hstopped
      | none =>
          dsimp only
          have hexecuted : P (runIteration clock env options runtime iteration
              (stopBeforeIteration env s).2).2.router :=
            runIteration_keeps hP iteration hstopped
          split
          · exact hexecuted
          · split
            · exact hexecuted
            · exact ih (iteration + 1) hexecuted

end EventRuntime

end TopoExec
