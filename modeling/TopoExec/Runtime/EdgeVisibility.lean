import TopoExec.Runtime.Buses
import TopoExec.Runtime.RunInvariant

/-! # When an edge makes its publications visible

A run starts with a router that may have been used before. What it publishes on
an immediate edge to another region is in the channel when the target collects
its triggers in the same iteration; what it publishes on a deferred edge enters
the channel when the next epoch begins, and not earlier.
-/

namespace TopoExec

open RuntimePublicationRouter EventRuntime

variable {clock : Nat → Int} {specs : List EdgeSpec} {router : RuntimePublicationRouter}

/-! ## The start of a run -/

/-- The calls of the router alone reach no point of a run. -/
theorem reachable_noPoint {allowed : RuntimePublicationRouter → RouterOp → Prop}
    {channels : Option RuntimeChannelBus}
    (hreach : RouterReachable clock allowed channels specs router) : NoPoint router.trace := by
  induction hreach with
  | init => simp [NoPoint, ofEdges]
  | @step router op _ _ ih =>
      rcases exec_trace clock router op with ⟨events, htrace, hevents⟩
      rw [htrace]
      exact ih.append hevents

theorem NoPoint.begun {trace : List TraceEvent} (h : NoPoint trace) : TopoExec.begun trace = 0 := by
  refine List.countP_eq_zero.mpr fun e he => ?_
  cases e with
  | reached point channels => exact absurd he (h point channels)
  | _ => simp [TraceEvent.isIterationBegin]

/-- The numbers staged before the run. -/
theorem staged_lt (h : OnceInv router) {tag : Nat} {channelId : String} {kind : EdgeKind}
    {composite : Bool} (hmem : .staged tag channelId kind composite ∈ router.trace) :
    tag < router.metrics.stagedCount := by
  have htag : tag ∈ stagedTags router.trace := List.mem_filterMap.mpr ⟨_, hmem, rfl⟩
  rw [h.inOrder] at htag
  exact List.mem_range.mp htag

/-- What was handed over was staged before. -/
theorem handed_lt (h : OnceInv router) {tag : Nat} {channelId : String} {call : RouterCall}
    (hmem : .handed tag channelId call ∈ router.trace) : tag < router.metrics.stagedCount :=
  h.bounded tag (List.mem_filterMap.mpr ⟨_, hmem, rfl⟩)

/-- What is held at the start is older than the run. -/
theorem isOld_of_held (h : StagingInv specs router) {p : RuntimeChannelPublication}
    (hp : p ∈ router.held) : IsOld router.metrics.stagedCount p := by
  intro tag htag
  rcases (h.numbered p hp).tag with ⟨tag', htag', hlt⟩
  rw [htag] at htag'
  cases htag'
  exact hlt

/-- Nothing is claimed of the events before the run. -/
theorem events_of_noPoint {frame : RunFrame} {trace : List TraceEvent} (hpoint : NoPoint trace)
    (hstaged : ∀ tag channelId kind composite, .staged tag channelId kind composite ∈ trace →
      tag < frame.first) : History.Each frame.EventOk trace := by
  rintro pre e post rfl
  have hpre : NoPoint pre := fun point channels hmem =>
    hpoint point channels (List.mem_append_left _ hmem)
  cases e with
  | staged tag channelId kind composite =>
      refine ⟨fun hpos => ?_, ?_⟩
      · rw [hpre.begun] at hpos
        exact absurd hpos (Nat.lt_irrefl 0)
      · rintro _ spec _ _ _ before iteration channels since rfl
        exact absurd (List.mem_append_right _ (List.mem_cons_self ..)) (hpre _ channels)
  | handed tag channelId call =>
      rintro _ before tag' channelId' kind composite since rfl hfirst
      refine absurd (hstaged tag' channelId' kind composite ?_) (Nat.not_lt.mpr hfirst)
      exact List.mem_append_left _ (List.mem_append_right _ (List.mem_cons_self ..))
  | reached point channels =>
      exact absurd (List.mem_append_right _ (List.mem_cons_self ..)) (hpoint point channels)
  | overwritten | discarded | returned => trivial

/-- The router at the start of a run. It may have been used before, and so may its bus; a
run that was cut short can have left a composite region active. No channel has stored a
number that the router has not given yet. -/
structure RunStart (clock : Nat → Int) (specs : List EdgeSpec) (plan : GraphCompiledPlan)
    (router : RuntimePublicationRouter) : Prop where
  reachable : ∃ channels, RouterReachable clock (fun _ _ => True) channels specs router
  bus : ∃ bus edges, router.channels = some bus ∧
    Evolves (clockStep clock) (.ofEdges edges) bus ∧
      ∀ channelId tag, EnteredAs bus channelId tag → tag < router.metrics.stagedCount
  active : router.activeCompositeComponents = [] ∨
    ∃ region ∈ plan.regions, region.kind = .compositeLoop ∧
      router.activeCompositeComponents = region.components

/-- The frame of a run that starts with this router. -/
def runFrame (specs : List EdgeSpec) (plan : GraphCompiledPlan)
    (router : RuntimePublicationRouter) : RunFrame where
  specs := specs
  plan := plan
  first := router.metrics.stagedCount
  failures := router.metrics.failedCommitCount

/-- A run starts before its first iteration. -/
theorem RunStart.atIteration {plan : GraphCompiledPlan} (h : RunStart clock specs plan router) :
    (runFrame specs plan router).BetweenIterations 0 router := by
  rcases h.reachable with ⟨channels, hreach⟩
  have hstaging := reachable_stagingInv hreach
  have honce := reachable_onceInv hreach
  have hpoint := reachable_noPoint hreach
  have hold : ∀ p ∈ router.held, IsOld router.metrics.stagedCount p := fun p hp =>
    isOld_of_held hstaging hp
  refine ⟨⟨⟨hstaging, honce, reachable_visibilityInv hreach, ⟨?_, ?_⟩, le_refl _, rfl⟩, ?_⟩,
    hpoint.begun, ?_, ?_, ?_, h.active⟩
  · intro tag channelId kind composite hfirst hmem
    exact absurd (staged_lt honce hmem) (Nat.not_lt.mpr hfirst)
  · rcases h.bus with ⟨bus, edges, hbus, -, hnumbers⟩
    refine ⟨bus, hbus, fun channelId tag hfirst => ⟨fun hentered => ?_, ?_⟩⟩
    · exact absurd (hnumbers channelId tag hentered) (Nat.not_lt.mpr hfirst)
    · rintro ⟨call, hmem⟩
      exact absurd (handed_lt honce hmem) (Nat.not_lt.mpr hfirst)
  · exact events_of_noPoint hpoint fun tag channelId kind composite hmem => staged_lt honce hmem
  · exact fun p hp => hold p (mem_held.mpr (Or.inr (Or.inr (Or.inl hp))))
  · exact fun p hp => hold p (mem_held.mpr (Or.inr (Or.inl hp)))
  · exact fun s hs => hold _ (mem_held.mpr (Or.inr (Or.inr (Or.inr ⟨s, hs, rfl⟩))))

/-- At every point of the run the bus tells the truth about its messages. -/
theorem RunStart.located {plan : GraphCompiledPlan} (h : RunStart clock specs plan router)
    (env : Env) (options : SchedulerRunOptions) (runtime : EventRuntime) :
    EveryBus (AllLocated clock) (runtime.run clock env options router).router := by
  rcases h.bus with ⟨bus, edges, hbus, hevolves, -⟩
  rcases h.reachable with ⟨channels, hreach⟩
  have hstart : EveryBus (AllLocated clock) router :=
    ⟨⟨bus, hbus, (allLocated_ofEdges clock edges).evolves hevolves⟩,
      fun point other hmem => absurd hmem (reachable_noPoint hreach point (some other))⟩
  exact runIterations_keeps ((everyBus_stable fun _ _ => AllLocated.evolves).keeps env) _ _ hstart

/-- A new router on a new bus. -/
theorem runStart_ofEdges (clock : Nat → Int) (specs : List EdgeSpec) (plan : GraphCompiledPlan) :
    RunStart clock specs plan (.ofEdges (some (.ofEdges specs)) specs) := by
  refine ⟨⟨_, .init⟩, ⟨_, specs, rfl, .refl _, ?_⟩, Or.inl rfl⟩
  rintro channelId tag ⟨message, hmem, _⟩
  rw [channels_ofEdges] at hmem
  cases hmem

/-! ## Reading the timeline -/

/-- Wherever the run reaches the point, the publication has entered its channel: it is in the
queue or in a slot, or there is a reason for its being gone. -/
def PresentAt (clock : Nat → Int) (trace : List TraceEvent) (point : RunPoint)
    (channelId : String) (tag : Nat) : Prop :=
  ∀ channels, .reached point channels ∈ trace →
    ∃ bus, channels = some bus ∧ HasEntered clock bus channelId tag

/-- Wherever the run reaches the point, the publication has not entered its channel. -/
def AbsentAt (trace : List TraceEvent) (point : RunPoint) (channelId : String) (tag : Nat) :
    Prop :=
  ∀ bus, .reached point (some bus) ∈ trace → NeverEntered bus channelId tag

section

variable {frame : RunFrame} (h : frame.RunInv router)
  (hlocated : EveryBus (AllLocated clock) router) {tag iteration : Nat} {channelId : String}
  {kind : EdgeKind} {composite : Bool} {before after : List TraceEvent}
  (hstaged : router.trace = before ++ .staged tag channelId kind composite :: after)
  (hiteration : begun before = iteration + 1)

include h hstaged hiteration in
theorem first_le : frame.first ≤ tag :=
  (h.events before _ after hstaged).1 (by rw [hiteration]; exact Nat.succ_pos _)

include h hstaged hiteration in
/-- Until the next iteration has begun, a deferred publication is not handed over. -/
theorem not_entered {pre post : List TraceEvent} {bus : RuntimeChannelBus}
    (hkind : kind ≠ .immediate) (hpre : router.trace = pre ++ post)
    (htracks : Tracks frame.first bus pre) (hbegun : begun pre ≤ iteration + 1) :
    ¬ EnteredAs bus channelId tag := by
  intro hentered
  rcases (htracks channelId tag (first_le h hstaged hiteration)).mp hentered with ⟨call, hmem⟩
  rcases List.append_of_mem hmem with ⟨x, y, rfl⟩
  rw [List.append_assoc, List.cons_append] at hpre
  rcases h.visibility.handed x tag channelId call _ hpre with
    ⟨kind', composite', before', since, rfl, htimely⟩
  rw [List.append_assoc, List.cons_append] at hpre
  rcases h.once.staged_unique hstaged hpre with ⟨rfl, rfl, _⟩
  -- only `begin_epoch` hands over a deferred publication, in a later iteration
  have hcall : call = .beginEpoch := by
    cases htimely with
    | immediate => exact absurd rfl hkind
    | compositeImmediate => exact absurd rfl hkind
    | deferred => rfl
  have hsplit : router.trace = (before' ++ .staged tag channelId kind' composite' :: since) ++
      .handed tag channelId call :: (y ++ post) := by
    rw [hpre]
    simp
  have hlater := h.events _ _ _ hsplit hcall before' tag channelId kind' composite' since rfl
    (first_le h hstaged hiteration)
  rw [begun_append, begun_staged, hiteration] at hbegun
  omega

/-- What is settled and was not taken out of the router is in its channel. -/
theorem Settled.entered {pre : List TraceEvent} {bus : RuntimeChannelBus}
    (hsettled : Settled pre tag channelId kind) (hfirst : frame.first ≤ tag)
    (htracks : Tracks frame.first bus pre)
    (hoverwritten : kind = .async → .overwritten tag ∉ pre) (hdiscarded : .discarded tag ∉ pre) :
    EnteredAs bus channelId tag := by
  rcases hsettled with hhanded | ⟨hasync, hmem⟩ | hmem
  · exact (htracks channelId tag hfirst).mpr hhanded
  · exact absurd hmem (hoverwritten hasync)
  · exact absurd hmem hdiscarded

include h hlocated hstaged hiteration in
/-- Points before the next iteration begins. -/
theorem absentAt (hkind : kind ≠ .immediate) {point : RunPoint}
    (hpoint : ∀ pre, frame.PointOk pre point → begun pre ≤ iteration + 1) :
    AbsentAt router.trace point channelId tag := by
  intro bus hmem
  rcases List.append_of_mem hmem with ⟨pre, post, hsplit⟩
  rcases h.events pre _ post hsplit with ⟨⟨bus', hbus', htracks⟩, hok⟩
  cases hbus'
  exact neverEntered_of_not_enteredAs
    (not_entered h hstaged hiteration hkind hsplit htracks (hpoint pre hok))
    (hlocated.trace point bus hmem)

include h hlocated hstaged hiteration in
/-- Points after the next epoch has begun. -/
theorem presentAt_next (hoverwritten : .overwritten tag ∉ router.trace)
    (hdiscarded : .discarded tag ∉ router.trace) {point : RunPoint}
    (hpoint : ∀ pre, frame.PointOk pre point →
      begun pre = iteration + 1 + 1 ∧ OldSettled frame.first pre) :
    PresentAt clock router.trace point channelId tag := by
  intro channels hmem
  rcases List.append_of_mem hmem with ⟨pre, post, hsplit⟩
  rcases h.events pre _ post hsplit with ⟨⟨bus, hbus, htracks⟩, hok⟩
  rcases hpoint pre hok with ⟨hbegun, hold⟩
  have hfirst := first_le h hstaged hiteration
  have hsub : ∀ e ∈ pre, e ∈ router.trace := by
    intro e he
    rw [hsplit]
    exact List.mem_append_left _ he
  refine ⟨bus, hbus, EnteredAs.hasEntered ?_ (hlocated.trace point bus (hbus ▸ hmem))⟩
  rcases History.split_trichotomy (hstaged.symm.trans hsplit) with
    ⟨between, rfl, _⟩ | ⟨_, heq, _⟩ | ⟨between, rfl, _⟩
  · rw [begun_staged, hiteration] at hbegun
    have hsettled := hold before tag channelId kind composite between rfl hfirst (by omega)
    exact Settled.entered hsettled hfirst htracks (fun _ hmem => hoverwritten (hsub _ hmem))
      fun hmem => hdiscarded (hsub _ hmem)
  · cases heq
  · -- it would have been staged after the next iteration began
    rw [begun_append] at hiteration
    omega

include h hlocated hstaged hiteration in
/-- The collection of the target in the same iteration. -/
theorem presentAt_collect (hkind : kind = .immediate) {spec : EdgeSpec}
    (hspec : spec ∈ frame.specs) (hid : spec.id = channelId) (hcrosses : Crosses frame.plan spec)
    (hdiscarded : .discarded tag ∉ router.trace) :
    PresentAt clock router.trace (.collect iteration spec.target) channelId tag := by
  intro channels hmem
  rcases List.append_of_mem hmem with ⟨pre, post, hsplit⟩
  rcases h.events pre _ post hsplit with ⟨⟨bus, hbus, htracks⟩, hbegun, _, hsettled⟩
  have hfirst := first_le h hstaged hiteration
  refine ⟨bus, hbus, EnteredAs.hasEntered ?_ (hlocated.trace _ bus (hbus ▸ hmem))⟩
  rcases History.split_trichotomy (hstaged.symm.trans hsplit) with
    ⟨between, rfl, _⟩ | ⟨_, heq, _⟩ | ⟨between, rfl, _⟩
  · rw [← hid] at hsettled htracks hsplit hstaged ⊢
    rw [hkind] at hsettled htracks hsplit hstaged
    have hdone := hsettled spec hspec rfl tag composite hfirst
      (List.mem_append_right _ (List.mem_cons_self ..))
    refine Settled.entered hdone hfirst htracks (by simp) fun hmem => hdiscarded ?_
    rw [hsplit]
    exact List.mem_append_left _ hmem
  · cases heq
  · -- the target would have collected before, in this iteration
    have hnot := (h.events _ _ _ hstaged).2 hkind spec hspec hid hcrosses
    have hlater := hnot pre iteration channels between rfl
    have hle : begun between ≤
        begun (.reached (.collect iteration spec.target) channels :: between) :=
      (List.sublist_cons_self _ _).countP_le
    rw [begun_append] at hiteration
    omega

end

/-- Edge visibility of a whole run. A publication staged in an iteration, on an
immediate edge to another region and not discarded, has entered its channel whenever
the target collects its triggers in that iteration: the channel has it, unless it was
evicted, read, replaced or expired since. On a deferred edge the channel does not have it
before the next iteration has begun, and, if it was neither overwritten nor discarded, it
has entered from the beginning of the next epoch on. -/
theorem edge_visibility (clock : Nat → Int) (env : Env) (options : SchedulerRunOptions)
    (runtime : EventRuntime) (specs : List EdgeSpec) (router : RuntimePublicationRouter)
    (hstart : RunStart clock specs runtime.compiledPlan router)
    (hids : (specs.map EdgeSpec.id).Nodup) (hplan : OrderedPlan specs runtime.compiledPlan)
    (hports : env.PlainPorts) (final : RuntimePublicationRouter)
    (hrun : final = (runtime.run clock env options router).router)
    (hcommits : final.metrics.failedCommitCount = router.metrics.failedCommitCount)
    (tag : Nat) (channelId : String) (kind : EdgeKind) (composite : Bool)
    (before after : List TraceEvent)
    (hstaged : final.trace = before ++ .staged tag channelId kind composite :: after)
    (iteration : Nat) (hiteration : begun before = iteration + 1) :
    (kind = .immediate → ∀ spec ∈ specs, spec.id = channelId →
        Crosses runtime.compiledPlan spec → .discarded tag ∉ final.trace →
          PresentAt clock final.trace (.collect iteration spec.target) channelId tag) ∧
      (kind ≠ .immediate →
        (∀ componentId, AbsentAt final.trace (.collect iteration componentId) channelId tag) ∧
          AbsentAt final.trace (.iterationBegin (iteration + 1)) channelId tag ∧
          (begun final.trace = iteration + 1 → ∀ bus, final.channels = some bus →
            NeverEntered bus channelId tag) ∧
          (.overwritten tag ∉ final.trace → .discarded tag ∉ final.trace →
            PresentAt clock final.trace (.epochBegun (iteration + 1)) channelId tag ∧
              ∀ componentId,
                PresentAt clock final.trace (.collect (iteration + 1) componentId) channelId
                  tag)) := by
  have hone : (runFrame specs runtime.compiledPlan router).DistinctEdges :=
    fun channelId spec hspec spec' hspec' hid hid' =>
      List.inj_on_of_nodup_map hids hspec hspec' (hid.trans hid'.symm)
  have hinv : (runFrame specs runtime.compiledPlan router).RunInv final := by
    rw [hrun] at hcommits ⊢
    exact runIterations_ended hone hports hplan rfl _ 0 hstart.atIteration hcommits
  have hlocated : EveryBus (AllLocated clock) final := hrun ▸ hstart.located env options runtime
  refine ⟨fun hkind spec hspec hid hcrosses hdiscarded => ?_, fun hkind => ⟨?_, ?_, ?_, ?_⟩⟩
  · exact presentAt_collect hinv hlocated hstaged hiteration hkind hspec hid hcrosses hdiscarded
  · exact fun componentId => absentAt hinv hlocated hstaged hiteration hkind fun pre hok => hok.1.le
  · exact absentAt hinv hlocated hstaged hiteration hkind fun pre hok => le_of_eq hok
  -- in the last iteration a deferred publication stays where it waits
  · intro hlast bus hbus
    rcases hinv.fate.entered with ⟨bus', hbus', htracks⟩
    rw [hbus] at hbus'
    cases hbus'
    rcases hlocated.bus with ⟨bus', hbus', htrue⟩
    rw [hbus] at hbus'
    cases hbus'
    exact neverEntered_of_not_enteredAs (not_entered hinv hstaged hiteration hkind
      (List.append_nil _).symm htracks hlast.le) htrue
  · intro hoverwritten hdiscarded
    constructor
    · exact presentAt_next hinv hlocated hstaged hiteration hoverwritten hdiscarded
        fun pre hok => hok
    · exact fun componentId => presentAt_next hinv hlocated hstaged hiteration hoverwritten
        hdiscarded fun pre hok => ⟨hok.1, hok.2.1⟩

/-! ## Runs of small graphs -/

/-- The runtime of a compiled graph, with one lane. -/
def smallRuntime (graph : GraphSpec) : EventRuntime where
  compiledPlan := ((compileGraphImpl 3 graph).map GraphCompileResult.plan).getD {}
  components := graph.components.map fun component =>
    { id := component.id, lane := { id := "main" } }

/-- Every component is ready in every iteration, and one execution publishes. -/
def publishOnce (question : Nat) (port : String) : Env where
  collectReadyInvocations := fun _ => ([], .ok [{}])
  execute := fun n => if n = question then [.publish port (some {}) {} none] else []

theorem publishOnce_plainPorts {question : Nat} {port : String} (h : '.' ∉ port.toList) :
    (publishOnce question port).PlainPorts := by
  intro n action haction
  unfold publishOnce at haction
  dsimp only at haction
  split_ifs at haction
  · rw [List.mem_singleton.mp haction]
    exact h
  · cases haction

/-- A new bus and a new router, and two iterations. -/
def smallRun (graph : GraphSpec) (env : Env) : RuntimePublicationRouter :=
  ((smallRuntime graph).run (fun n => n) env { tickIterations := 2 }
    (.ofEdges (some (.ofEdges graph.edges)) graph.edges)).router

/-- A source with an immediate sink and a log that is one epoch late. -/
def loggedSource : GraphSpec where
  components := [{ id := "source" }, { id := "sink" }, { id := "logger" }]
  edges :=
    [{ id := "data", fromEndpoint := "source.out", toEndpoint := "sink.in", hasKind := true },
     { id := "log", fromEndpoint := "source.out", toEndpoint := "logger.in", kind := .delay,
       hasKind := true }]

def loggedSourceRun : RuntimePublicationRouter := smallRun loggedSource (publishOnce 5 "out")

/-- The event takes a publication out of the router. -/
def TraceEvent.isRemoval : TraceEvent → Bool
  | .overwritten _ | .discarded _ => true
  | _ => false

theorem split_at_index {events : List TraceEvent} {i : Nat} {e : TraceEvent}
    (h : events[i]? = some e) : events = events.take i ++ e :: events.drop (i + 1) := by
  rcases List.getElem?_eq_some_iff.mp h with ⟨hlt, rfl⟩
  rw [List.getElem_cons_drop, List.take_append_drop]

theorem loggedSourceRun_visibility :
    (∃ bus, .reached (.collect 0 "sink") (some bus) ∈ loggedSourceRun.trace ∧
        (bus.channels "data").latest.map RuntimeChannelMessage.tag = some (some 0)) ∧
      PresentAt (fun n => n) loggedSourceRun.trace (.collect 0 "sink") "data" 0 ∧
      AbsentAt loggedSourceRun.trace (.iterationBegin 1) "log" 1 ∧
      (∃ bus, .reached (.epochBegun 1) (some bus) ∈ loggedSourceRun.trace ∧
        (bus.channels "log").latest.map RuntimeChannelMessage.tag = some (some 1)) ∧
      PresentAt (fun n => n) loggedSourceRun.trace (.epochBegun 1) "log" 1 := by
  have hplan : OrderedPlan loggedSource.edges (smallRuntime loggedSource).compiledPlan :=
    orderedPlan_of_ok loggedSource ⟨by decide, by decide⟩ (by decide) (by decide) ⟨3, rfl⟩
      (by decide)
  have hvisible := edge_visibility (fun n => n) (publishOnce 5 "out") { tickIterations := 2 }
    (smallRuntime loggedSource) loggedSource.edges _
    (runStart_ofEdges (fun n => n) loggedSource.edges _) (by decide) hplan
    (publishOnce_plainPorts (by decide)) loggedSourceRun rfl (by decide)
  have hclean : loggedSourceRun.trace.all (fun e => !e.isRemoval) = true := by decide
  rw [List.all_eq_true] at hclean
  have hkept : ∀ tag, .overwritten tag ∉ loggedSourceRun.trace ∧
      .discarded tag ∉ loggedSourceRun.trace := by
    refine fun tag => ⟨fun hmem => ?_, fun hmem => ?_⟩
    · simpa [TraceEvent.isRemoval] using hclean _ hmem
    · simpa [TraceEvent.isRemoval] using hclean _ hmem
  have hdata := hvisible 0 "data" .immediate false _ _ (split_at_index (i := 4) rfl) 0 (by decide)
  have hlog := hvisible 1 "log" .delay false _ _ (split_at_index (i := 5) rfl) 0 (by decide)
  refine ⟨⟨_, List.mem_of_getElem? (i := 10) rfl, rfl⟩, ?_, ?_,
    ⟨_, List.mem_of_getElem? (i := 16) rfl, rfl⟩, ?_⟩
  · exact hdata.1 rfl _ (List.mem_cons_self ..) rfl (by decide) (hkept 0).2
  · exact (hlog.2 (by decide)).2.1
  · exact ((hlog.2 (by decide)).2.2.2 (hkept 1).1 (hkept 1).2).1

/-- The component `a` publishes through its port `b.c`, which is the endpoint of
the port `c` of `a.b`. It is executed after `d`, the target of that port. -/
def borrowedPort : GraphSpec where
  components := [{ id := "a.b" }, { id := "d" }, { id := "a" }]
  edges :=
    [{ id := "e", fromEndpoint := "a.b.c", toEndpoint := "d.in", hasKind := true },
     { id := "back", fromEndpoint := "d.out", toEndpoint := "a.in", hasKind := true }]

def borrowedPortRun : RuntimePublicationRouter := smallRun borrowedPort (publishOnce 9 "b.c")

/-- When `d` collects its triggers the publication is not in the channel. -/
theorem borrowedPort_late :
    ¬ ∀ (clock : Nat → Int) (env : Env) (options : SchedulerRunOptions) (runtime : EventRuntime)
      (specs : List EdgeSpec) (router : RuntimePublicationRouter),
      RunStart clock specs runtime.compiledPlan router → (specs.map EdgeSpec.id).Nodup →
        OrderedPlan specs runtime.compiledPlan →
          ∀ final, final = (runtime.run clock env options router).router →
            final.metrics.failedCommitCount = router.metrics.failedCommitCount →
              ∀ tag composite before after iteration, ∀ spec ∈ specs,
                final.trace = before ++ .staged tag spec.id .immediate composite :: after →
                  begun before = iteration + 1 → Crosses runtime.compiledPlan spec →
                    .discarded tag ∉ final.trace →
                      PresentAt clock final.trace (.collect iteration spec.target) spec.id
                        tag := by
  intro hearly
  have hplan : OrderedPlan borrowedPort.edges (smallRuntime borrowedPort).compiledPlan :=
    orderedPlan_of_ok borrowedPort ⟨by decide, by decide⟩ (by decide) (by decide) ⟨3, rfl⟩
      (by decide)
  have hclean : borrowedPortRun.trace.all (fun e => !e.isRemoval) = true := by decide
  have hpresent := hearly (fun n => n) (publishOnce 9 "b.c") { tickIterations := 2 }
    (smallRuntime borrowedPort) borrowedPort.edges _
    (runStart_ofEdges (fun n => n) borrowedPort.edges _) (by decide) hplan borrowedPortRun rfl
    (by decide) 0 false _ _ 0 _ (List.mem_cons_self ..) (split_at_index (i := 8) rfl) (by decide)
    (by decide) fun hmem => by simpa [TraceEvent.isRemoval] using List.all_eq_true.mp hclean _ hmem
  have hempty : ∃ bus, .reached (.collect 0 "d") (some bus) ∈ borrowedPortRun.trace ∧
      (bus.channels "e").ledger.stored = [] :=
    ⟨_, List.mem_of_getElem? (i := 5) rfl, rfl⟩
  rcases hempty with ⟨bus, hmem, hstored⟩
  rcases hpresent _ hmem with ⟨bus', heq, message, hmessage, -⟩
  cases heq
  rw [show (bus.channels _).ledger.stored = [] from hstored] at hmessage
  cases hmessage

end TopoExec
