import TopoExec.Runtime.EdgeVisibility

/-! # Composite loops that stop without convergence

While the loop of a composite region runs, what leaves the region waits in the
composite stage. If the loop is of type `solver_iteration` and stops without
convergence, the policies `discard_outputs` and `fail_run` clear the stage, and
nothing that the components published to the outside is handed to the bus later,
as long as they publish through ports of their own. For the other loop types the
stage is committed whatever the policy says.
-/

namespace TopoExec

open RuntimePublicationRouter Loop

/-! ## The regions that a run executes -/

/-- What can happen to publications while a loop runs. -/
def TraceEvent.isInLoop : TraceEvent → Bool
  | .handed _ _ call | .returned call => call = .commitImmediate
  | _ => true

/-- What is staged while a loop runs is on an edge of one of its components, and waits in
the composite stage if the edge leaves the region. -/
def TraceEvent.IsFromRegion (specs : List EdgeSpec) (components : List String) :
    TraceEvent → Prop
  | .staged _ channelId _ composite => ∃ spec ∈ specs, spec.id = channelId ∧
      spec.source ∈ components ∧ composite = decide (spec.target ∉ components)
  | _ => True

namespace EventRuntime

section

variable (clock : Nat → Int) (env : Env) (options : SchedulerRunOptions) (runtime : EventRuntime)

end

variable {clock : Nat → Int} {env : Env} {options : SchedulerRunOptions} {runtime : EventRuntime}
  {s : RunState} {call : RegionCall} {iteration : Nat}

/-- The components of the region are active, and the trace has grown by events of their
loop. -/
structure InLoop (specs : List EdgeSpec) (components : List String) (start : List TraceEvent)
    (router : RuntimePublicationRouter) : Prop where
  trace : ∃ events, router.trace = start ++ events ∧
    ∀ e ∈ events, e.isInLoop = true ∧ e.IsFromRegion specs components
  active : router.activeCompositeComponents = components
  sources : router.sourceToEdges = edgesOfSource specs

/-- Two stretches inside a loop, one after the other. -/
theorem InLoop.append {specs : List EdgeSpec} {components : List String}
    {start events : List TraceEvent} {router router' : RuntimePublicationRouter}
    (h : InLoop specs components start router)
    (htrace : router'.trace = router.trace ++ events)
    (hactive : router'.activeCompositeComponents = router.activeCompositeComponents)
    (hsources : router'.sourceToEdges = router.sourceToEdges)
    (hevents : ∀ e ∈ events, e.isInLoop = true ∧ e.IsFromRegion specs components) :
    InLoop specs components start router' := by
  rcases h.trace with ⟨old, hold, hinside⟩
  refine ⟨⟨old ++ events, by rw [htrace, hold, List.append_assoc], fun e he => ?_⟩,
    hactive.trans h.active, hsources.trans h.sources⟩
  rcases List.mem_append.mp he with he | he
  · exact hinside e he
  · exact hevents e he

theorem isInLoop_tagEvents {event : Nat → TraceEvent} (h : ∀ tag, (event tag).isInLoop = true)
    (publications : List RuntimeChannelPublication) :
    ∀ e ∈ tagEvents event publications, e.isInLoop = true := by
  intro e he
  simp only [tagEvents, List.mem_filterMap, Option.map_eq_some_iff] at he
  rcases he with ⟨_, _, tag, _, rfl⟩
  exact h tag

/-- What a component of the region publishes through a port of its own is staged on an edge
of its own. -/
theorem InLoop.publish {specs : List EdgeSpec} {components : List String}
    {start : List TraceEvent} {router : RuntimePublicationRouter}
    (h : InLoop specs components start router) {componentId port : String}
    (hcomponent : componentId ∈ components) (hport : '.' ∉ port.toList)
    (payload : Option RuntimePayload) (metadata : InvocationMetadata)
    (eventTimestamp : Option EventTimestamp) :
    InLoop specs components start (router.publishSharedFromWithMetadata
      (endpointOf componentId port) payload metadata eventTimestamp).2 := by
  refine publish_invariant (fun edges publish hedges r r' edge hedge hadmission hr => ?_)
    (fun r r' hrefused hr => ?_) h
  · rw [h.sources] at hedges
    rcases mem_edgesOfSource hedges hedge with ⟨spec, hspec, hfrom, rfl⟩
    have hsource : spec.source ∈ components := by
      rw [EdgeSpec.source, hfrom, componentIdFromEndpoint_endpointOf hport]
      exact hcomponent
    rcases hadmission.thinned with ⟨dropped, hthinned⟩
    have hthin : InLoop specs components start r' := by
      refine hr.append hthinned.trace hthinned.active hthinned.sources fun e he => ?_
      refine ⟨isInLoop_tagEvents (fun _ => rfl) dropped e he, ?_⟩
      rcases List.mem_filterMap.mp he with ⟨p, -, hp⟩
      rcases Option.map_eq_some_iff.mp hp with ⟨tag, -, rfl⟩
      trivial
    rcases r'.stage_adds (.ofSpec spec) (publicationFor publish (.ofSpec spec)) with
      ⟨immediate, next, composite, hadds⟩
    refine hthin.append hadds.trace hadds.active hadds.sources fun e he => ?_
    rw [List.mem_singleton.mp he]
    refine ⟨rfl, spec, hspec, rfl, hsource, ?_⟩
    -- the region is active, so leaving it is a matter of the target
    have hnonempty : components.isEmpty = false := by
      cases components with
      | nil => cases hcomponent
      | cons => rfl
    have hsource' : (RoutedEdge.ofSpec spec).sourceComponent ∈ components := hsource
    unfold leavesComposite
    rw [hthin.active, hnonempty]
    simp only [hsource', decide_true, Bool.not_false, Bool.true_and]
    rfl
  · have htrace : r'.trace = r.trace ++ [] := by rw [hrefused.trace, List.append_nil]
    exact hr.append htrace hrefused.active hrefused.sources (by simp)

end EventRuntime

namespace EventRuntime

variable {clock : Nat → Int} {env : Env} {options : SchedulerRunOptions} {runtime : EventRuntime}
  {call : RegionCall} {stop : LoopStop}

end EventRuntime

open EventRuntime

/-- The loop's only component publishes through its port `b.c`, which is the endpoint of the
port `c` of `a.b`: the edge does not start in the region. -/
def borrowedLoop : GraphSpec where
  components := [{ id := "a" }, { id := "a.b" }, { id := "sink" }]
  edges :=
    [{ id := "guess", fromEndpoint := "a.guess", toEndpoint := "a.in", hasKind := true },
     { id := "answer", fromEndpoint := "a.b.c", toEndpoint := "sink.in", hasKind := true }]
  compositeLoops :=
    [{ id := "solve", components := ["a"]
       loopPolicy :=
        { type := "solver_iteration", maxIterations := 1, partialSuccess := "fail_run" } }]

-- so ports without dots are needed: here the answer of a failed loop is handed over
example :
    handedTags (fun _ => true) (smallRun borrowedLoop (publishOnce 5 "b.c")).trace = [0] := by
  decide

end TopoExec
