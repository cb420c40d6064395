import TopoExec.Runtime.Steps

/-! # The invariant through a whole run

The three ways to execute a component, composite loops, regions and the epoch
boundary keep the invariant of `Iteration`. Every rule has the form of
`Loop.Outcome`: the state in which the run goes on, and the state in which it
ends.
-/

namespace TopoExec

open RuntimePublicationRouter Loop RunFrame

/-- A published port has no dot in its name. -/
def ComponentAction.PlainPort : ComponentAction → Prop
  | .publish port _ _ _ => '.' ∉ port.toList
  | .read _ | .reportLoopConvergence _ => True

def Env.PlainPorts (env : Env) : Prop :=
  ∀ question, ∀ action ∈ env.execute question, action.PlainPort

namespace RunFrame

/-- A component of the region executes. -/
def Executing (frame : RunFrame) (place : Place) (s : RunState) : Prop :=
  frame.Inside place s.router

/-- The next component of the region can execute. -/
def Ready (frame : RunFrame) (place : Place) (s : RunState) : Prop :=
  frame.AtComponent place s.router

/-- What holds when the run ends, unless a commit failed. -/
def Ended (frame : RunFrame) (s : RunState) : Prop :=
  s.router.metrics.failedCommitCount = frame.failures → frame.RunInv s.router

/-- A run may end inside a region. -/
theorem Executing.ended {frame : RunFrame} {place : Place} {s : RunState}
    (h : frame.Executing place s) : frame.Ended s := fun _ => Inside.runInv h

theorem Ready.executing {frame : RunFrame} {place : Place} {s : RunState}
    (h : frame.Ready place s) : frame.Executing place s := h.toInside

end RunFrame

variable {frame : RunFrame} {place : Place} {clock : Nat → Int} {env : Env}
  {options : SchedulerRunOptions} {runtime : EventRuntime}

namespace EventRuntime

/-! ## Executing a component -/

section

variable (hplace : frame.PlaceOk place) (hids : frame.DistinctEdges) (hports : env.PlainPorts)
  {componentId : String} (hcomponent : componentId ∈ place.region.components)

include hplace hids hcomponent in
/-- An action of a component on a plain port leaves the run in its place. -/
theorem perform_executing {s : RunState} (h : frame.Executing place s)
    {action : ComponentAction} (hport : action.PlainPort) :
    frame.Executing place (perform clock componentId s action) := by
  cases action with
  | publish port payload metadata eventTimestamp =>
      exact h.publish hplace hids hcomponent hport payload _ eventTimestamp
  | read op => exact h.read op
  | reportLoopConvergence report =>
      unfold perform
      dsimp only
      split_ifs <;> exact h

omit hplace hids hports hcomponent in
/-- A rejected commit is counted, so nothing is claimed of a run that it ends. -/
theorem ended_of_rejected {s : RunState} (h : frame.Executing place s) (message : String)
    (hrejected : (s.router.commitImmediate clock).1.accepted = false) :
    frame.Ended ((s.withRouter (s.router.commitImmediate clock).2).fail message) := by
  intro hfailed
  have hone := commitImmediate_failed hrejected
  have hzero := h.toRouterInv.failed
  change (s.router.commitImmediate clock).2.metrics.failedCommitCount = frame.failures at hfailed
  omega

/-- The state after an invocation: committed, if each invocation commits. -/
def Recorded (frame : RunFrame) (place : Place) (commitEach : Bool) (s : RunState) : Prop :=
  frame.Executing place s ∧ (commitEach = true → frame.Ready place s)

include hplace hids hports in
/-- The invariant has what the rules ask for. -/
theorem regionRules_runInvariant :
    RegionRules clock env place.iteration place.region.components (frame.Executing place)
      (Recorded frame place false) (frame.Ready place) frame.Ended := by
  have hcommit : ∀ s : RunState, frame.Executing place s →
      (s.router.commitImmediate clock).1.accepted = true →
        frame.Ready place (s.withRouter (s.router.commitImmediate clock).2) :=
    fun s h haccepted => h.commitImmediate haccepted
  exact {
    sameExecuting := fun s s' h hs => by
      unfold Executing
      rw [hs.router]
      exact h
    sameReady := fun s s' h hs => by
      unfold Ready
      rw [hs.router]
      exact h
    sameEnded := fun s s' h hs => by
      unfold Ended
      rw [hs.router]
      exact h
    executing := fun s h => h.executing
    recorded := fun s h => h.1
    perform := fun s id hid question action haction h =>
      perform_executing hplace hids hid h (hports question action haction)
    tick := fun _ s _ _ h => ⟨h, by simp⟩
    commitTick := fun _ s _ _ h haccepted => hcommit s h haccepted
    commit := fun s h haccepted => hcommit s h.1 haccepted
    rejected := fun s message h hrejected => ended_of_rejected h message hrejected
    fail := fun s _ h => h.ended
    stop := fun s h => h.ended
    cancel := fun s h => h
    collect := fun s id hid h => h.collect hplace hids hid
    read := fun s op h => h.read op }

include hplace hids hports in
/-- By induction on the components of the region. -/
theorem executeComponents_outcome {s : RunState} (h : frame.Ready place s) :
    Outcome (frame.Ready place) frame.Ended
      (executeComponents clock env options runtime place.iteration place.region.components s) :=
  executeComponents_rule (regionRules_runInvariant hplace hids hports) h

/-! ## Composite loops -/

/-- After a loop: the region goes on, or the run ends. -/
def Looped (frame : RunFrame) (place : Place) (result : Option LoopStop × RunState) : Prop :=
  match result.1 with
  | some _ => frame.Ready place result.2
  | none => frame.Ended result.2

include hplace hids hports in
/-- By induction on the iterations that are left. -/
theorem loopIterations_looped (left loopIteration : Nat) {s : RunState}
    (h : frame.Ready place s) :
    Looped frame place (loopIterations clock env options runtime place.iteration place.region left
      loopIteration s) :=
  loopIterations_rule (regionRules_runInvariant hplace hids hports) left loopIteration h

end

/-! ## Regions -/

/-- The state between regions, as a predicate on the run. -/
def Between (frame : RunFrame) (iteration : Nat) (names : List String) (s : RunState) : Prop :=
  frame.BetweenRegions iteration names s.router

theorem Between.ended {iteration : Nat} {names : List String} {s : RunState}
    (h : Between frame iteration names s) : frame.Ended s :=
  fun _ => h.runInv

/-- The run leaves a composite region, its outputs committed or discarded. -/
theorem finishCompositeRegion_outcome {s : RunState} (h : frame.Ready place s)
    (region : CompiledGraphRegion) (stop : LoopStop) :
    Outcome (Between frame place.iteration place.names) frame.Ended
      (finishCompositeRegion clock region stop s) := by
  have hdiscard : Between frame place.iteration place.names (discardOutputs region.id s) :=
    h.discardCompositeRegionOutputs
  unfold finishCompositeRegion
  dsimp only
  split
  · exact Outcome.left hdiscard.ended
  · split
    · split
      · next haccepted =>
          have hcommit : Between frame place.iteration place.names
              (s.withRouter (s.router.commitCompositeRegionOutputs clock).2) :=
            h.commitCompositeRegionOutputs haccepted
          exact Outcome.both hcommit hcommit.ended _
      · next haccepted =>
          -- a rejected commit is counted
          refine Outcome.left fun hfailed => ?_
          have hone := commitCompositeRegionOutputs_failed (Bool.eq_false_iff.mpr haccepted)
          have hzero := h.toRouterInv.failed
          change (s.router.commitCompositeRegionOutputs clock).2.metrics.failedCommitCount =
            frame.failures at hfailed
          omega
    · exact Outcome.both hdiscard hdiscard.ended _

section

variable (hids : frame.DistinctEdges) (hports : env.PlainPorts)
  (hplan : OrderedPlan frame.specs frame.plan) (hruntime : runtime.compiledPlan = frame.plan)

/-- The components of the regions that are done. -/
def visited (done : List CompiledGraphRegion) : List String :=
  done.flatMap CompiledGraphRegion.components

theorem subset_visited (done : List CompiledGraphRegion) (region : CompiledGraphRegion) :
    visited done ⊆ visited (done ++ [region]) := by
  unfold visited
  rw [List.flatMap_append]
  exact List.subset_append_left _ _

theorem components_subset_visited (done : List CompiledGraphRegion)
    (region : CompiledGraphRegion) : region.components ⊆ visited (done ++ [region]) := by
  unfold visited
  rw [List.flatMap_append]
  exact fun id hid => List.mem_append_right _ (by simpa using hid)

section

variable {iteration : Nat} {done rest : List CompiledGraphRegion} {region : CompiledGraphRegion}
  {componentIds : List String}
  (horder : executionOrder frame.plan componentIds = done ++ region :: rest)

include hplan horder in
/-- A region of a single component, also when an earlier run has left a composite
region active. -/
theorem placeOk_component (hkind : region.kind = .component) {active : List String}
    (hactive : frame.ActiveOk active) :
    frame.PlaceOk ⟨iteration, visited (done ++ [region]), region, active⟩ := by
  refine ⟨components_subset_visited done region, fun hcomposite => ?_, fun _ id hid hmem => ?_,
    fun spec hspec himmediate hcrosses hsource =>
      hplan.target_later horder hspec himmediate hcrosses hsource⟩
  · rw [hkind] at hcomposite
    cases hcomposite
  · rcases hactive with rfl | ⟨region', hregion', hkind', rfl⟩
    · cases hmem
    · rcases hplan.mem_regions horder with hempty | hregion
      · rw [hempty] at hregion'
        cases hregion'
      · -- the active region would be this one
        rw [hplan.region_unique hregion hregion' hid hmem, hkind'] at hkind
        cases hkind

include hplan horder in
/-- The active components are those of the composite region. -/
theorem placeOk_composite (hkind : region.kind = .compositeLoop) :
    frame.PlaceOk ⟨iteration, visited (done ++ [region]), region, region.components⟩ := by
  refine ⟨components_subset_visited done region, fun _ => rfl, fun hcomponent => ?_,
    fun spec hspec himmediate hcrosses hsource =>
      hplan.target_later horder hspec himmediate hcrosses hsource⟩
  rw [hkind] at hcomponent
  cases hcomponent

include hids hports hplan horder in
/-- One region, of whatever kind. -/
theorem executeRegion_outcome {s : RunState} (h : Between frame iteration (visited done) s) :
    Outcome (Between frame iteration (visited (done ++ [region]))) frame.Ended
      (executeRegion clock env options runtime iteration region s) := by
  have hsub := subset_visited done region
  unfold executeRegion
  cases hkind : region.kind with
  | component =>
      have hready : frame.Ready _ s := h.enterComponent hsub region
      exact (executeComponents_outcome (placeOk_component hplan horder hkind h.active) hids hports
        hready).mono (fun s' hs' => hs'.leaveComponent hkind h.active) fun s' hs' => hs'
  | compositeLoop =>
      have hready :
          frame.Ready _ (s.withRouter (s.router.beginCompositeRegion region.components)) :=
        h.enterComposite hsub region
      dsimp only
      generalize (if 0 < region.loopPolicy.maxIterations then region.loopPolicy.maxIterations.toNat
        else 1) = maxIterations
      have hlooped : Looped frame ⟨iteration, visited (done ++ [region]), region, region.components⟩
          (loopIterations clock env options runtime iteration region maxIterations 0
            (s.withRouter (s.router.beginCompositeRegion region.components))) :=
        loopIterations_looped (placeOk_composite hplan horder hkind) hids hports maxIterations 0
          hready
      generalize loopIterations clock env options runtime iteration region maxIterations 0
        (s.withRouter (s.router.beginCompositeRegion region.components)) = looped at hlooped ⊢
      rcases looped with ⟨stop, s'⟩
      cases stop with
      | none => exact Outcome.left hlooped
      | some stop => exact finishCompositeRegion_outcome hlooped region stop

end

/-! ## Iterations -/

/-- The state before an iteration, as a predicate on the run. -/
def AtIteration (frame : RunFrame) (iteration : Nat) (s : RunState) : Prop :=
  frame.BetweenIterations iteration s.router

theorem AtIteration.ended {iteration : Nat} {s : RunState} (h : AtIteration frame iteration s) :
    frame.Ended s :=
  fun _ => h.toRunInv

/-- An iteration begins with no region visited. -/
theorem beginIteration_outcome {iteration : Nat} {s : RunState}
    (h : AtIteration frame iteration s) :
    Outcome (Between frame iteration []) frame.Ended (beginIteration clock env iteration s) := by
  unfold beginIteration
  dsimp only
  split
  · -- the iteration has begun and the epoch has not
    exact Outcome.left fun _ => ⟨h.toRouterInv.reach _, h.iterationBegin.1⟩
  · split
    · next haccepted => exact Outcome.goesOn (h.beginEpoch haccepted).epochBegun
    · next haccepted =>
        refine Outcome.left fun hfailed => ?_
        have hone := beginEpoch_failed (Bool.eq_false_iff.mpr haccepted)
        have hzero := (h.toRouterInv.reach (.iterationBegin iteration)).failed
        change ((s.reach (.iterationBegin iteration)).router.beginEpoch
          clock).2.metrics.failedCommitCount = frame.failures at hfailed
        change ((s.reach (.iterationBegin iteration)).router.beginEpoch
          clock).2.metrics.failedCommitCount =
            (s.reach (.iterationBegin iteration)).router.metrics.failedCommitCount + 1 at hone
        omega

include hids hports hplan hruntime in
/-- By induction on the regions that are left. -/
theorem executeRegions_outcome {iteration : Nat} {s : RunState} (h : Between frame iteration [] s) :
    Outcome (AtIteration frame (iteration + 1)) frame.Ended
      (executeRegions clock env options runtime iteration s) := by
  have horder : runtime.order = executionOrder frame.plan
      (runtime.components.map EventRuntimeComponent.id) := by
    rw [← hruntime]
    rfl
  have hloop : Outcome (Between frame iteration (visited runtime.order)) frame.Ended
      (forEach (executeRegion clock env options runtime iteration) runtime.order s) := by
    refine forEach_outcome (I := fun done => Between frame iteration (visited done))
      (fun done region rest hsplit s' hs' => ?_) h
    rw [horder] at hsplit
    exact executeRegion_outcome hids hports hplan hsplit hs'
  exact hloop.bind (fun s' => (true, endIteration s')) fun s' hs' => Outcome.goesOn hs'.endEpoch

include hids hports hplan hruntime in
/-- One iteration leads to the next or ends the run. -/
theorem runIteration_outcome {iteration : Nat} {s : RunState} (h : AtIteration frame iteration s) :
    Outcome (AtIteration frame (iteration + 1)) frame.Ended
      (runIteration clock env options runtime iteration s) :=
  (beginIteration_outcome h).bind (executeRegions clock env options runtime iteration)
    fun _ hs' => executeRegions_outcome hids hports hplan hruntime hs'

include hids hports hplan hruntime in
/-- By induction on the iterations that are left. -/
theorem runIterations_ended (left iteration : Nat) {s : RunState}
    (h : AtIteration frame iteration s) :
    frame.Ended (runIterations clock env options runtime left iteration s) := by
  induction left generalizing iteration s with
  | zero => exact h.ended
  | succ left ih =>
      have hstopped : AtIteration frame iteration (stopBeforeIteration env s).2 := by
        unfold AtIteration
        rw [router_stopBeforeIteration]
        exact h
      unfold runIterations
      dsimp only
      cases (stopBeforeIteration env s).1 with
      | some reason => exact hstopped.ended
      | none =>
          dsimp only
          have houtcome : Outcome (AtIteration frame (iteration + 1)) frame.Ended
              (runIteration clock env options runtime iteration (stopBeforeIteration env s).2) :=
            runIteration_outcome hids hports hplan hruntime hstopped
          generalize runIteration clock env options runtime iteration
            (stopBeforeIteration env s).2 = executed at houtcome ⊢
          cases hgoes : executed.1 with
          | false => exact houtcome.of_false hgoes
          | true =>
              have hnext := houtcome.of_true hgoes
              rw [if_neg (by simp)]
              split
              · exact hnext.ended
              · exact ih (iteration + 1) hnext

end

end EventRuntime

end TopoExec
