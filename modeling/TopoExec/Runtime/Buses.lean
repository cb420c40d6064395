import TopoExec.Channel.Whereabouts
import TopoExec.Runtime.Steps

/-! # The bus along a run

The operations of a router move its bus by operations of the bus, and write no points of a
run. So what a new bus has and the operations of a bus keep holds of the bus at every point
of every run (`everyBus_stable`).
-/

namespace TopoExec

open RuntimePublicationRouter

variable {clock : Nat → Int}

/-! ## The trace of an operation -/

/-- The router itself writes no point of a run. -/
def NoPoint (trace : List TraceEvent) : Prop := ∀ point channels, .reached point channels ∉ trace

theorem NoPoint.append {trace events : List TraceEvent} (h : NoPoint trace)
    (hevents : NoPoint events) : NoPoint (trace ++ events) := by
  intro point channels hmem
  rcases List.mem_append.mp hmem with hmem | hmem
  · exact h point channels hmem
  · exact hevents point channels hmem

theorem noPoint_tagEvents {event : Nat → TraceEvent}
    (h : ∀ tag point channels, event tag ≠ .reached point channels)
    (publications : List RuntimeChannelPublication) : NoPoint (tagEvents event publications) :=
  fun point channels => not_mem_tagEvents (fun tag => h tag point channels) publications

/-- An operation of the router adds events, and no point among them. -/
theorem exec_trace (clock : Nat → Int) (router : RuntimePublicationRouter) (op : RouterOp) :
    ∃ events, (op.exec clock router).trace = router.trace ++ events ∧ NoPoint events := by
  have hclear : ∀ call publications, NoPoint (clearEvents call publications) :=
    fun call publications => (noPoint_tagEvents (by simp) publications).append (by simp [NoPoint])
  have hnone : NoPoint [] := by simp [NoPoint]
  cases op with
  | publish sourceEndpoint payload metadata eventTimestamp =>
      refine publish_invariant
        (P := fun r => ∃ events, r.trace = router.trace ++ events ∧ NoPoint events)
        (fun edges publish _ r r' edge _ hadmission hr => ?_)
        (fun r r' hrefused hr => hrefused.trace ▸ hr) ⟨[], (List.append_nil _).symm, hnone⟩
      rcases hr with ⟨events, htrace, hevents⟩
      rcases hadmission.thinned with ⟨dropped, hthinned⟩
      rcases r'.stage_adds edge (publicationFor publish edge) with
        ⟨immediate, next, composite, hadds⟩
      have hadded : NoPoint (events ++ tagEvents .overwritten dropped ++
          [.staged r'.metrics.stagedCount edge.channelId edge.kind (r'.leavesComposite edge)]) :=
        (hevents.append (noPoint_tagEvents (by simp) dropped)).append (by simp [NoPoint])
      refine ⟨_, ?_, hadded⟩
      rw [hadds.trace, hthinned.trace, htrace]
      simp only [List.append_assoc]
  | beginEpoch =>
      rcases router.beginEpoch_moves clock with ⟨events, hevents, hmoves⟩
      exact ⟨_, hmoves.trace, RunFrame.not_reached_handsOver hevents⟩
  | commitImmediate =>
      rcases router.commitImmediate_moves clock with ⟨events, hevents, hmoves⟩
      exact ⟨_, hmoves.trace, RunFrame.not_reached_handsOver hevents⟩
  | endEpoch => exact ⟨_, router.endEpoch_moves.trace, by simp [NoPoint]⟩
  | beginCompositeRegion components =>
      exact ⟨_, (router.beginCompositeRegion_moves components).trace, hclear _ _⟩
  | commitCompositeRegionOutputs =>
      rcases router.commitCompositeRegionOutputs_moves clock with ⟨events, hevents, hmoves⟩
      exact ⟨_, hmoves.trace, RunFrame.not_reached_handsOver hevents⟩
  | discardCompositeRegionOutputs =>
      exact ⟨_, router.discardCompositeRegionOutputs_moves.trace, hclear _ _⟩
  | useBus op => exact ⟨[], (List.append_nil _).symm, hnone⟩

/-! ## The bus of an operation -/

theorem RuntimePublicationRouter.Commits.evolves {call : RouterCall}
    {publications : List RuntimeChannelPublication} {accepted : Bool}
    {router router' : RuntimePublicationRouter}
    (h : Commits clock call publications router accepted router') {bus : RuntimeChannelBus}
    (hbus : router.channels = some bus) :
    ∃ bus', router'.channels = some bus' ∧ Evolves (clockStep clock) bus bus' := by
  cases h with
  | empty _ => exact ⟨bus, hbus, .refl bus⟩
  | noBus hnone =>
      rw [hnone] at hbus
      cases hbus
  | @accepted other hother _ | @rejected other hother _ =>
      rw [hother] at hbus
      cases hbus
      exact ⟨_, rfl, RuntimeChannelBus.publishBatch_evolves clock trivial bus publications⟩

/-- The bus of a router moves by its own operations. -/
theorem RouterOp.exec_evolves (clock : Nat → Int) (router : RuntimePublicationRouter)
    (op : RouterOp) {bus : RuntimeChannelBus} (hbus : router.channels = some bus) :
    ∃ bus', (op.exec clock router).channels = some bus' ∧ Evolves (clockStep clock) bus bus' := by
  have hsame : ∀ {router' : RuntimePublicationRouter}, router'.channels = router.channels →
      ∃ bus', router'.channels = some bus' ∧ Evolves (clockStep clock) bus bus' :=
    fun hchannels => ⟨bus, hchannels.trans hbus, .refl bus⟩
  cases op with
  | publish sourceEndpoint payload metadata eventTimestamp =>
      refine hsame (publish_invariant (P := fun r => r.channels = router.channels) ?_ ?_ rfl)
      · intro edges publish _ r r' edge _ hadmission hr
        obtain ⟨dropped, hthinned⟩ := hadmission.thinned
        obtain ⟨immediate, next, composite, hadds⟩ :=
          r'.stage_adds edge (publicationFor publish edge)
        rw [hadds.channels, hthinned.channels, hr]
      · intro r r' hrefused hr
        rw [hrefused.channels, hr]
  | beginEpoch =>
      obtain ⟨router', inFlight, completions, hcommits, heq⟩ := router.beginEpoch_commits clock
      have hadvanced : router.channels.map RuntimeChannelBus.advanceEpoch =
          some bus.advanceEpoch := by
        rw [hbus, Option.map_some]
      obtain ⟨bus', hbus', hevolves⟩ := hcommits.evolves hadvanced
      refine ⟨bus', ?_, (RuntimeChannelBus.advanceEpoch_evolves trivial bus).trans hevolves⟩
      show (router.beginEpoch clock).2.channels = some bus'
      rw [heq]
      exact hbus'
  | commitImmediate =>
      have hcommits := commitBatch_commits clock { router with immediateStage := [] }
        .commitImmediate router.immediateStage
      exact hcommits.evolves hbus
  | endEpoch => exact hsame rfl
  | beginCompositeRegion components => exact hsame rfl
  | commitCompositeRegionOutputs =>
      obtain ⟨router', hcommits, heq⟩ := router.commitCompositeRegionOutputs_commits clock
      obtain ⟨bus', hbus', hevolves⟩ := hcommits.evolves hbus
      refine ⟨bus', ?_, hevolves⟩
      show (router.commitCompositeRegionOutputs clock).2.channels = some bus'
      rw [heq]
      exact hbus'
  | discardCompositeRegionOutputs => exact hsame (channels_discardCompositeRegionOutputs router)
  | useBus op =>
      refine ⟨(op.exec clock bus).2, ?_, exec_clockEvolves clock bus op⟩
      show router.channels.map (fun bus => (op.exec clock bus).2) = _
      rw [hbus, Option.map_some]

/-! ## Every bus of a run -/

/-- The router has a bus, and that bus and those in its trace meet `P`. -/
structure EveryBus (P : RuntimeChannelBus → Prop) (router : RuntimePublicationRouter) : Prop where
  bus : ∃ bus, router.channels = some bus ∧ P bus
  trace : ∀ point bus, .reached point (some bus) ∈ router.trace → P bus

variable {P : RuntimeChannelBus → Prop}

theorem everyBus_ofEdges (specs : List EdgeSpec) (h : P (.ofEdges specs)) :
    EveryBus P (.ofEdges (some (.ofEdges specs)) specs) := by
  refine ⟨⟨_, rfl, h⟩, fun point bus hmem => ?_⟩
  cases hmem

/-- What the operations of a bus keep holds of every bus of a run. -/
theorem everyBus_stable
    (hP : ∀ bus bus', P bus → Evolves (clockStep clock) bus bus' → P bus') :
    RunStable clock (EveryBus P) := by
  constructor
  · intro router op h
    rcases h.bus with ⟨bus, hbus, hold⟩
    rcases RouterOp.exec_evolves clock router op hbus with ⟨bus', hbus', hevolves⟩
    refine ⟨⟨bus', hbus', hP bus bus' hold hevolves⟩, ?_⟩
    rcases exec_trace clock router op with ⟨events, htrace, hevents⟩
    intro point other hmem
    rw [htrace] at hmem
    rcases List.mem_append.mp hmem with hold | hnew
    · exact h.trace point other hold
    · exact absurd hnew (hevents point (some other))
  · -- the point is written with the bus of that moment
    intro s point h
    refine ⟨h.bus, fun point' other hmem => ?_⟩
    rcases List.mem_append.mp hmem with hold | hnew
    · exact h.trace point' other hold
    · rcases h.bus with ⟨bus, hbus, hP⟩
      rw [List.mem_singleton, hbus] at hnew
      cases hnew
      exact hP

/-! ## The calls of the bus -/

end TopoExec
