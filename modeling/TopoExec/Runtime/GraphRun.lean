import TopoExec.Graph.Validated
import TopoExec.Lib.Paired
import TopoExec.Router.Refusal
import TopoExec.Runtime.Causality
import TopoExec.Runtime.Verdict

/-! # The run of a graph

`RuntimeRunner::run` builds the bus, the router and the scheduler components from the
graph and runs them on the compiled plan. For a graph that validation accepts this never
fails for a reason of the runtime's own: every lane that a component names is there, every
pool exists and knows its overflow policy, and every publication that is committed belongs
to a channel of the graph. What remains are the failures that the components, the triggers
and the configurations report, and those that the graph asks for.
-/

namespace TopoExec

/-! ## Building the scheduler -/

/-- `lane_config_from_spec`. -/
def laneConfigFromSpec (lane : LaneSpec) : SchedulerGroupConfig where
  id := lane.id
  type := lane.type
  maxThreads := lane.maxThreads
  queueCapacity := lane.queueCapacity
  overflow := lane.overflow

/-- `lane_configs`: the last lane of an id stays in the map. -/
def laneConfigs (graph : GraphSpec) (laneId : String) : Option SchedulerGroupConfig :=
  (graph.lanes.reverse.find? fun lane => lane.id = laneId).map laneConfigFromSpec

/-- What `add_component` gets; `none` where `lanes.at` throws. -/
def eventRuntimeComponent (graph : GraphSpec) (spec : ComponentNodeSpec) :
    Option EventRuntimeComponent :=
  (laneConfigs graph spec.execution.lane).map fun lane =>
    { id := spec.id, reentrant := spec.execution.reentrant, lane := lane }

def eventRuntimeOf (graph : GraphSpec) (compiledPlan : GraphCompiledPlan) : Option EventRuntime :=
  (graph.components.mapM (eventRuntimeComponent graph)).map fun components =>
    { compiledPlan := compiledPlan, components := components }

/-- The router and the bus that a run starts with. -/
def routerOf (graph : GraphSpec) : RuntimePublicationRouter :=
  .ofEdges (some (.ofEdges graph.edges)) graph.edges

/-- `run_options`. -/
def schedulerRunOptions (graph : GraphSpec) (tickIterations : Nat) (runUntilIdle : Bool) :
    SchedulerRunOptions where
  tickIterations := tickIterations
  runUntilIdle := runUntilIdle
  maxRecordedTickedTasks := graph.components.length * max 1 tickIterations

/-- The scheduler part of `RuntimeRunner::run`; `none` where it throws. -/
def runGraph (clock : Nat → Int) (env : Env) (graph : GraphSpec)
    (compiledPlan : GraphCompiledPlan) (tickIterations : Nat) (runUntilIdle : Bool) :
    Option RunState :=
  (eventRuntimeOf graph compiledPlan).map fun runtime =>
    runtime.run clock env (schedulerRunOptions graph tickIterations runUntilIdle) (routerOf graph)

/-! ## The lanes of an accepted graph -/

variable {graph : GraphSpec}

structure ValidLane (lane : LaneSpec) : Prop where
  type : isAllowedSchedulerType lane.type = true
  overflow : isAllowedLaneOverflow lane.overflow = true

/-- An accepted lane has valid fields. -/
theorem laneErrors_eq_nil {earlier : List LaneSpec} {lane : LaneSpec}
    (h : laneErrors earlier lane = []) : ValidLane lane := by
  unfold laneErrors at h
  split_ifs at h
  simp only [List.append_eq_nil_iff, require_eq_nil] at h
  obtain ⟨⟨⟨⟨⟨⟨⟨-, htype⟩, -⟩, -⟩, -⟩, -⟩, hoverflow⟩, -⟩ := h
  exact ⟨htype, hoverflow⟩

/-- The lanes of an accepted graph are valid. -/
theorem validLane_of_ok {fuel : Nat} {parseDouble : String → Option Double}
    {registry : Option ComponentRegistry} {result : GraphValidationResult}
    (h : validateGraphImpl fuel parseDouble registry graph = some result)
    (hok : result.ok = true) {lane : LaneSpec} (hlane : lane ∈ graph.lanes) : ValidLane lane := by
  simp only [validateGraphImpl, Option.bind_eq_bind, Option.bind_eq_some_iff, Option.pure_def,
    Option.some.injEq] at h
  obtain ⟨lifecycle, -, compile, -, rfl⟩ := h
  simp only [validationErrors, List.isEmpty_iff, List.append_eq_nil_iff] at hok
  obtain ⟨⟨⟨⟨⟨⟨⟨⟨⟨⟨⟨-, hlanes⟩, -⟩, -⟩, -⟩, -⟩, -⟩, -⟩, -⟩, -⟩, -⟩, -⟩ := hok
  obtain ⟨earlier, hearlier⟩ := Loop.report_eq_nil_mem hlanes hlane
  exact laneErrors_eq_nil hearlier

/-- The pool knows every policy that validation lets through. -/
theorem ValidLane.overflow_known {lane : LaneSpec} (h : ValidLane lane) :
    laneOverflowFailsFast lane.overflow = true ∨ laneOverflowDropsOldest lane.overflow = true ∨
      laneOverflowRejectsNewest lane.overflow = true := by
  have hallowed := h.overflow
  simp only [isAllowedLaneOverflow, isAllowedDropPolicy, List.mem_cons, List.not_mem_nil,
    Bool.or_eq_true, decide_eq_true_eq, or_false] at hallowed
  simp only [laneOverflowFailsFast, laneOverflowDropsOldest, laneOverflowRejectsNewest,
    Bool.or_eq_true, decide_eq_true_eq]
  tauto

/-- The configuration of a lane is that of a lane of the graph with the same id. -/
theorem laneConfigs_eq_some {laneId : String} {config : SchedulerGroupConfig}
    (h : laneConfigs graph laneId = some config) :
    ∃ lane ∈ graph.lanes, lane.id = laneId ∧ config = laneConfigFromSpec lane := by
  obtain ⟨lane, hfind, rfl⟩ := Option.map_eq_some_iff.mp h
  have hid : lane.id = laneId := by simpa using List.find?_some hfind
  exact ⟨lane, List.mem_reverse.mp (List.mem_of_find?_eq_some hfind), hid, rfl⟩

/-- Every lane has a configuration. -/
theorem exists_laneConfigs {laneId : String} (h : laneId ∈ laneIds graph) :
    ∃ config, laneConfigs graph laneId = some config := by
  obtain ⟨lane, hlane, hid⟩ := List.mem_map.mp (List.mem_of_mem_filter h)
  cases hfind : graph.lanes.reverse.find? fun lane => lane.id = laneId with
  | none =>
      have hnone := List.find?_eq_none.mp hfind lane (List.mem_reverse.mpr hlane)
      simp [hid] at hnone
  | some found => exact ⟨laneConfigFromSpec found, by rw [laneConfigs, hfind, Option.map_some]⟩

/-- The components of the scheduler are those of the graph, on their lanes. -/
structure SchedulerOf (graph : GraphSpec) (compiledPlan : GraphCompiledPlan)
    (runtime : EventRuntime) : Prop where
  plan : runtime.compiledPlan = compiledPlan
  components : List.Forall₂
    (fun spec component => eventRuntimeComponent graph spec = some component)
    graph.components runtime.components

/-- The runtime that is built fits its graph. -/
theorem eventRuntimeOf_eq_some {compiledPlan : GraphCompiledPlan} {runtime : EventRuntime}
    (h : eventRuntimeOf graph compiledPlan = some runtime) :
    SchedulerOf graph compiledPlan runtime := by
  obtain ⟨components, hcomponents, rfl⟩ := Option.map_eq_some_iff.mp h
  exact ⟨rfl, Paired.mapM_eq_some.mp hcomponents⟩

/-- Without a lane that is missing nothing throws. -/
theorem eventRuntimeOf_isSome (h : Validated graph) (compiledPlan : GraphCompiledPlan) :
    ∃ runtime, eventRuntimeOf graph compiledPlan = some runtime := by
  have hcomponents : ∀ components : List ComponentNodeSpec,
      (∀ spec ∈ components, spec ∈ graph.components) →
      ∃ found, components.mapM (eventRuntimeComponent graph) = some found := by
    intro components hin
    induction components with
    | nil => exact ⟨[], rfl⟩
    | cons spec rest ih =>
        obtain ⟨found, hfound⟩ := ih fun other hother => hin other (List.mem_cons_of_mem _ hother)
        obtain ⟨config, hconfig⟩ := exists_laneConfigs (h.lane spec (hin spec List.mem_cons_self))
        rw [List.mapM_cons, hfound, eventRuntimeComponent, hconfig]
        exact ⟨_, rfl⟩
  obtain ⟨found, hfound⟩ := hcomponents graph.components fun _ hspec => hspec
  exact ⟨_, by rw [eventRuntimeOf, hfound, Option.map_some]⟩

namespace SchedulerOf

variable {compiledPlan : GraphCompiledPlan} {runtime : EventRuntime}
  {component : EventRuntimeComponent}

/-- Every component of the scheduler has its node and its lane in the graph. -/
theorem mem (h : SchedulerOf graph compiledPlan runtime)
    (hcomponent : component ∈ runtime.components) :
    ∃ spec ∈ graph.components, spec.id = component.id ∧ ∃ lane ∈ graph.lanes,
      lane.id = spec.execution.lane ∧ component.lane = laneConfigFromSpec lane ∧
        laneConfigs graph lane.id = some component.lane := by
  obtain ⟨spec, hspec, hbuilt⟩ := Paired.exists_left h.components hcomponent
  obtain ⟨config, hconfig, rfl⟩ := Option.map_eq_some_iff.mp hbuilt
  obtain ⟨lane, hlane, hid, rfl⟩ := laneConfigs_eq_some hconfig
  refine ⟨spec, hspec, rfl, lane, hlane, hid, rfl, ?_⟩
  rw [hid]
  exact hconfig

/-- Components that name one lane have one configuration, so its pool is there. -/
theorem workerPool_isSome (h : SchedulerOf graph compiledPlan runtime)
    (hcomponent : component ∈ runtime.components) (hlane : component.lane.type = "thread_pool") :
    runtime.workerPool component.lane.id ≠ none := by
  unfold EventRuntime.workerPool
  split
  · -- the component itself would have been found
    next hnone =>
      have hmissing := List.find?_eq_none.mp hnone component (List.mem_reverse.mpr hcomponent)
      simp at hmissing
  · -- another component may be found, but its lane has the same id
    next other hfind =>
      have hother : other ∈ runtime.components :=
        List.mem_reverse.mp (List.mem_of_find?_eq_some hfind)
      have hid : other.lane.id = component.lane.id := by simpa using List.find?_some hfind
      obtain ⟨-, -, -, lane, -, -, hconfig, hlanes⟩ := h.mem hcomponent
      obtain ⟨-, -, -, lane', -, -, hconfig', hlanes'⟩ := h.mem hother
      have hsame : lane'.id = lane.id := by
        rw [hconfig, hconfig'] at hid
        exact hid
      rw [hsame, hlanes] at hlanes'
      rw [← Option.some.inj hlanes', if_pos hlane]
      exact Option.some_ne_none _

end SchedulerOf

/-! ## What is left to fail -/

/-- What the run of an accepted graph can fail with. -/
inductive GraphFault (env : Env) (graph : GraphSpec) : List String → Prop where
  | configTransaction {question : Nat} (h : env.configTransactionErrors question ≠ []) :
      GraphFault env graph (env.configTransactionErrors question)
  | collect {component : ComponentNodeSpec} (hcomponent : component ∈ graph.components)
      {question : Nat} {message : String}
      (h : (env.collectReadyInvocations question).2 = .error message) :
      GraphFault env graph ["component " ++ component.id ++ " failed: " ++ message]
  | status {component : ComponentNodeSpec} (hcomponent : component ∈ graph.components)
      {question index : Nat} {message : String} (h : env.status question index = some message) :
      GraphFault env graph ["component " ++ component.id ++ " failed: " ++ message]
  | queueCapacity {lane : LaneSpec} (hlane : lane ∈ graph.lanes) (htype : lane.type = "thread_pool")
      (h : lane.overflow = "fail_fast") :
      GraphFault env graph ["thread_pool lane " ++ lane.id ++ " queue capacity exceeded"]
  | epochCommit {reason : String} (h : EdgeRefuses graph.edges reason) :
      GraphFault env graph ["epoch deferred publication commit failed: " ++ reason]
  | commit {component : ComponentNodeSpec} (hcomponent : component ∈ graph.components)
      {place : String} (hplace : place = "component " ++ component.id ∨
        place = "thread_pool component " ++ component.id) {reason : String}
      (h : EdgeRefuses graph.edges reason) :
      GraphFault env graph
        ["immediate publication commit failed after " ++ place ++ ": " ++ reason]
  | compositeCommit {loop : CompositeLoopSpec} (hloop : loop ∈ graph.compositeLoops)
      {reason : String} (h : EdgeRefuses graph.edges reason) :
      GraphFault env graph ["composite region publication commit failed after region " ++ loop.id ++
        ": " ++ reason]
  | noConvergence {loop : CompositeLoopSpec} (hloop : loop ∈ graph.compositeLoops)
      (hsolver : loop.loopPolicy.type = "solver_iteration")
      (h : loop.loopPolicy.partialSuccess = "fail_run") {stop : LoopStop}
      (hstop : stop.isConverged = false) :
      GraphFault env graph
        ["composite_loop " ++ loop.id ++ " stopped without convergence: " ++ stop.text]

/-- A composite region is a loop of the graph. -/
theorem loop_of_region {region : CompiledGraphRegion} (hregion : region ∈ compiledRegions graph)
    (hkind : region.kind = .compositeLoop) :
    ∃ loop ∈ graph.compositeLoops, region.id = loop.id ∧ region.loopPolicy = loop.loopPolicy := by
  obtain ⟨base, hbase, rfl⟩ := List.mem_map.mp hregion
  obtain ⟨scc, -, rfl⟩ := List.mem_map.mp hbase
  dsimp only at hkind ⊢
  unfold regionOfScc at hkind ⊢
  cases hloop : matchingLoop graph scc.1 with
  | none =>
      rw [hloop] at hkind
      cases hkind
  | some loop => exact ⟨loop, List.mem_of_find?_eq_some hloop, rfl, rfl⟩

/-- Whatever is executed as a composite region is a loop of the graph. -/
theorem loop_of_order {compiledPlan : GraphCompiledPlan} {runtime : EventRuntime}
    (h : SchedulerOf graph compiledPlan runtime)
    (hplan : ∀ region ∈ compiledPlan.regions, region ∈ compiledRegions graph)
    {region : CompiledGraphRegion} (hregion : region ∈ runtime.order)
    (hkind : region.kind = .compositeLoop) :
    ∃ loop ∈ graph.compositeLoops, region.id = loop.id ∧ region.loopPolicy = loop.loopPolicy := by
  unfold EventRuntime.order executionOrder at hregion
  dsimp only at hregion
  split_ifs at hregion
  · -- without regions in the plan every component is a region of its own
    obtain ⟨id, -, rfl⟩ := List.mem_map.mp hregion
    cases hkind
  · obtain ⟨id, -, hfind⟩ := List.mem_filterMap.mp hregion
    rw [h.plan] at hfind
    exact loop_of_region (hplan region (List.mem_of_find?_eq_some hfind)) hkind

theorem effectivePartialSuccess_failRun {policy : LoopPolicySpec}
    (h : effectivePartialSuccessPolicy policy = "fail_run") :
    policy.partialSuccess = "fail_run" := by
  unfold effectivePartialSuccessPolicy at h
  split_ifs at h
  · exact h
  · exact absurd h (by decide)
  · exact absurd h (by decide)

/-- The plan of an accepted graph has the compiled regions. -/
theorem plan_regions {fuel : Nat} {parseDouble : String → Option Double}
    {registry : Option ComponentRegistry} {result : GraphValidationResult}
    (h : validateGraphImpl fuel parseDouble registry graph = some result) :
    ∀ region ∈ result.compiledPlan.regions, region ∈ compiledRegions graph := by
  simp only [validateGraphImpl, Option.bind_eq_bind, Option.bind_eq_some_iff, Option.pure_def,
    Option.some.injEq] at h
  obtain ⟨lifecycle, -, compile, hcompile, rfl⟩ := h
  unfold compileForValidation at hcompile
  split_ifs at hcompile
  · simp only [compileGraphImpl, Option.bind_eq_bind, Option.bind_eq_some_iff, Option.pure_def,
      Option.some.injEq] at hcompile
    obtain ⟨order, -, rfl⟩ := hcompile
    exact fun region hregion => hregion
  · cases hcompile
    intro region hregion
    cases hregion

/-- None of the runtime's own errors is left. -/
theorem RunFault.graphFault {clock : Nat → Int} {env : Env} {runtime : EventRuntime}
    {compiledPlan : GraphCompiledPlan} (h : SchedulerOf graph compiledPlan runtime)
    (hlanes : ∀ lane ∈ graph.lanes, ValidLane lane)
    (hplan : ∀ region ∈ compiledPlan.regions, region ∈ compiledRegions graph)
    {errors : List String}
    (hfault : RunFault clock env runtime (RuntimePublicationRouter.OfGraph graph.edges) errors) :
    GraphFault env graph errors := by
  cases hfault with
  | configTransaction hconfig => exact .configTransaction hconfig
  | epochCommit hrouter hrejected => exact .epochCommit (hrouter.beginEpoch_refuses hrejected)
  | collect hcomponent hanswer =>
      obtain ⟨spec, hspec, hid, -⟩ := h.mem hcomponent
      rw [← hid]
      exact .collect hspec hanswer
  | status hcomponent hstatus =>
      obtain ⟨spec, hspec, hid, -⟩ := h.mem hcomponent
      rw [← hid]
      exact .status hspec hstatus
  | commit hcomponent hplace hrouter hrejected =>
      obtain ⟨spec, hspec, hid, -⟩ := h.mem hcomponent
      rw [← hid] at hplace
      exact .commit hspec hplace (hrouter.commitImmediate_refuses hrejected)
  | noWorkerPool hcomponent hlane hnone =>
      exact absurd hnone (h.workerPool_isSome hcomponent hlane)
  | queueCapacity hcomponent htype hfast =>
      obtain ⟨-, -, -, lane, hlane, -, hconfig, -⟩ := h.mem hcomponent
      rw [hconfig] at htype hfast ⊢
      change laneOverflowFailsFast lane.overflow = true at hfast
      exact .queueCapacity hlane htype (by simpa [laneOverflowFailsFast] using hfast)
  | unsupportedOverflow hcomponent _ hunknown =>
      obtain ⟨-, -, -, lane, hlane, -, hconfig, -⟩ := h.mem hcomponent
      -- one of the three holds of a policy that validation lets through
      obtain ⟨hfast, holdest, hnewest⟩ := hunknown
      have hknown := (hlanes lane hlane).overflow_known
      rw [hconfig] at hfast holdest hnewest
      change laneOverflowFailsFast lane.overflow = false at hfast
      change laneOverflowDropsOldest lane.overflow = false at holdest
      change laneOverflowRejectsNewest lane.overflow = false at hnewest
      rw [hfast, holdest, hnewest] at hknown
      simp at hknown
  | noConvergence hregion hkind hstop hsolver hpolicy =>
      obtain ⟨loop, hloop, hid, hsame⟩ := loop_of_order h hplan hregion hkind
      rw [hid]
      rw [hsame] at hsolver hpolicy
      refine .noConvergence hloop ?_ (effectivePartialSuccess_failRun hpolicy) hstop
      simpa [loopPolicyIsSolverIteration] using hsolver
  | compositeCommit hregion hkind hrouter hrejected =>
      obtain ⟨loop, hloop, hid, -⟩ := loop_of_order h hplan hregion hkind
      rw [hid]
      exact .compositeCommit hloop (hrouter.commitCompositeRegionOutputs_refuses hrejected)

/-! ## The run -/

/-- Every call leaves the edges of the router. -/
theorem ofGraph_stable (specs : List EdgeSpec) (clock : Nat → Int) :
    RunStable clock (RuntimePublicationRouter.OfGraph specs) := by
  constructor
  · intro router op h
    obtain ⟨bus, hbus, hevolves⟩ := h.bus
    obtain ⟨bus', hbus', hevolves'⟩ := RouterOp.exec_evolves clock router op hbus
    refine ⟨⟨bus', hbus', hevolves.trans (hevolves'.mono fun _ _ => trivial)⟩,
      h.staging.exec op, ?_⟩
    exact RuntimePublicationRouter.held_exec (Q := fun p => p.payload ≠ none)
      (fun _ _ _ => Option.some_ne_none _) h.payloads op
  · intro s point h
    exact ⟨h.bus, ⟨h.staging.sources, h.staging.immediate, h.staging.next, h.staging.ready,
      h.staging.composite, h.staging.numbered⟩, h.payloads⟩

/-- The run of an accepted graph never throws, and it ends with an error only for one of
the reasons that the components, the configurations or the policies of the graph give. -/
theorem runGraph_faults {fuel : Nat} {parseDouble : String → Option Double}
    {registry : ComponentRegistry} {result : GraphValidationResult}
    (h : validateGraph fuel parseDouble registry graph = some result) (hok : result.ok = true)
    (clock : Nat → Int) (env : Env) (tickIterations : Nat) (runUntilIdle : Bool) :
    ∃ s, runGraph clock env graph result.compiledPlan tickIterations runUntilIdle = some s ∧
      (∀ id, s.componentInFlight id = 0) ∧
      ((s.result.ok = true ∧ s.result.errors = [] ∧ s.result.stopReason ≠ .error) ∨
        (s.result.ok = false ∧ GraphFault env graph s.result.errors ∧
          s.result.stopReason = .error)) := by
  obtain ⟨runtime, hruntime⟩ :=
    eventRuntimeOf_isSome (validated_of_ok h hok) result.compiledPlan
  have hscheduler := eventRuntimeOf_eq_some hruntime
  have hverdict : RunVerdict clock env (schedulerRunOptions graph tickIterations runUntilIdle)
      runtime _ _ (runtime.run clock env _ (routerOf graph)) :=
    EventRuntime.run_verdict ((ofGraph_stable graph.edges clock).keeps env)
      (RuntimePublicationRouter.ofEdges_ofGraph graph.edges)
  refine ⟨_, by rw [runGraph, hruntime, Option.map_some], ?_⟩
  generalize runtime.run clock env _ (routerOf graph) = s at hverdict ⊢
  cases hverdict with
  | tickBound hrun => exact ⟨hrun.inFlight, Or.inl ⟨hrun.ok, hrun.errors, by simp [hrun.reason]⟩⟩
  | idle _ _ _ hrun hreason =>
      exact ⟨hrun.inFlight, Or.inl ⟨hrun.ok, hrun.errors, by simp [hreason]⟩⟩
  | durationBound _ hrun hreason =>
      exact ⟨hrun.inFlight, Or.inl ⟨hrun.ok, hrun.errors, by simp [hreason]⟩⟩
  | stopRequested _ hrun =>
      exact ⟨hrun.inFlight, Or.inl ⟨hrun.ok, hrun.errors, by simp [hrun.reason]⟩⟩
  | error _ hrun =>
      have hlanes : ∀ lane ∈ graph.lanes, ValidLane lane := fun lane => validLane_of_ok h hok
      exact ⟨hrun.inFlight, Or.inr ⟨hrun.ok,
        hrun.fault.graphFault hscheduler hlanes (plan_regions h), hrun.reason⟩⟩

/-- A camera in a pool of two threads. -/
def cameraPoolGraph : GraphSpec where
  schemaVersion := 1
  name := "camera"
  lanes := [{ id := "pool", type := "thread_pool", maxThreads := 2 }]
  components :=
    [{ id := "camera", type := "Camera", execution := { lane := "pool" }, eventSources := [{}] }]

def cameraPoolRegistry : ComponentRegistry where
  contains := fun type => type = "Camera"
  describe := fun _ type => .ok { type := type }

/-- The camera is ready, and it fails. -/
def crackedLens : Env where
  collectReadyInvocations := fun _ => ([], .ok [{}])
  execute := fun _ => []
  status := fun _ _ => some "lens cracked"

theorem cameraPoolGraph_faults :
    ∃ result s, validateGraph 4 (fun _ => none) cameraPoolRegistry cameraPoolGraph = some result ∧
      runGraph (fun n => n) crackedLens cameraPoolGraph result.compiledPlan 3 false = some s ∧
      (∀ id, s.componentInFlight id = 0) ∧
      ((s.result.ok = true ∧ s.result.errors = [] ∧ s.result.stopReason ≠ .error) ∨
        (s.result.ok = false ∧ GraphFault crackedLens cameraPoolGraph s.result.errors ∧
          s.result.stopReason = .error)) := by
  have hvalidate : ∃ result,
      validateGraph 4 (fun _ => none) cameraPoolRegistry cameraPoolGraph = some result ∧
        result.ok = true := by
    refine ⟨_, rfl, ?_⟩
    decide +kernel
  obtain ⟨result, hresult, hok⟩ := hvalidate
  obtain ⟨s, hs, hrest⟩ := runGraph_faults hresult hok (fun n => n) crackedLens 3 false
  exact ⟨result, s, hresult, hs, hrest⟩

end TopoExec
