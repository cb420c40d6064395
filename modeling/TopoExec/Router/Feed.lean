import TopoExec.Router.Staging

/-! # What the bus is given

A router moves its bus by calls of the bus: `advance_epoch` and `publish_batch` at its own
commit points, and whatever others call between them. `Fed` lists those calls. The bus of
the router is the first one after exactly these calls, and what the trace hands over is
what the batches hold, one by one and in their order.
-/

namespace TopoExec

namespace RuntimePublicationRouter

/-- A call of the bus, by a call of the router or by somebody else. -/
structure BusCall where
  caller : Option RouterCall := none
  op : BusOp

/-- What a call hands over: the number of each publication of the batch, and its channel. -/
def BusCall.handed (busCall : BusCall) : List (Nat × String × RouterCall) :=
  match busCall.caller, busCall.op with
  | some call, .publishBatch publications =>
      publications.filterMap fun publication =>
        publication.tag.map fun tag => (tag, publication.id, call)
  | _, _ => []

/-- What an event of the trace says was handed over. -/
def handedOver : TraceEvent → Option (Nat × String × RouterCall)
  | .handed tag channelId call => some (tag, channelId, call)
  | _ => none

/-- The bus after the calls. -/
def busAfter (clock : Nat → Int) (calls : List BusCall) (bus : RuntimeChannelBus) :
    RuntimeChannelBus :=
  runBus clock bus (calls.map BusCall.op)

/-- The router itself calls the bus to advance it, or to publish what it has numbered. -/
def BusCall.IsOwn (busCall : BusCall) : Prop :=
  busCall.op = .advanceEpoch ∨
    ∃ publications, busCall.op = .publishBatch publications ∧
      ∀ publication ∈ publications, publication.tag ≠ none

/-- The operation makes these calls, and writes what they hand over. -/
structure Feeds (clock : Nat → Int) (calls : List BusCall)
    (router router' : RuntimePublicationRouter) : Prop where
  bus : router'.channels = router.channels.map (busAfter clock calls)
  trace : ∃ events, router'.trace = router.trace ++ events ∧
    events.filterMap handedOver = calls.flatMap BusCall.handed
  own : ∀ busCall ∈ calls, busCall.caller ≠ none → busCall.IsOwn

variable {clock : Nat → Int} {router router' : RuntimePublicationRouter} {specs : List EdgeSpec}

/-! ## Commits -/

/-- The router that `begin_epoch` commits the ready list from. -/
theorem beginEpoch_commits (clock : Nat → Int) (router : RuntimePublicationRouter) :
    ∃ router' inFlight completions, Commits clock .beginEpoch router.deferredReady
        { router with
          channels := router.channels.map RuntimeChannelBus.advanceEpoch
          deferredReady := [] } (router.beginEpoch clock).1.accepted router' ∧
      (router.beginEpoch clock).2 =
        { router' with
          metrics.asyncCompletionCount := completions
          metrics.asyncInFlightCount := inFlight }.close .beginEpoch := by
  have hcommits := commitBatch_commits clock
    { router with
      channels := router.channels.map RuntimeChannelBus.advanceEpoch
      deferredReady := [] } .beginEpoch router.deferredReady
  unfold beginEpoch
  dsimp only
  generalize commitBatch clock _ RouterCall.beginEpoch router.deferredReady = result at *
  rcases result.2.completeAsync_eq result.1.accepted (router.deferredReady.countP
    fun p : RuntimeChannelPublication => decide (p.kind = .async)) with ⟨inFlight, heq⟩
  exact ⟨result.2, inFlight, _, hcommits, by rw [heq]⟩

/-- The router that `commit_composite_region_outputs` commits from. -/
theorem commitCompositeRegionOutputs_commits (clock : Nat → Int)
    (router : RuntimePublicationRouter) :
    ∃ router', Commits clock .commitComposite (router.compositeOf true)
        { router with
          deferredNextEpoch := router.deferredNextEpoch ++ router.compositeOf false
          compositeExternalStage := []
          activeCompositeComponents := [] }
        (router.commitCompositeRegionOutputs clock).1.accepted router' ∧
      (router.commitCompositeRegionOutputs clock).2 = router'.close .commitComposite := by
  have hdeferred : router.compositeOf false =
      (router.compositeExternalStage.filter fun staged => !decide (staged.kind = .immediate)).map
        StagedRoutedPublication.publication := by
    simp [compositeOf]
  have himmediate : router.compositeOf true =
      (router.compositeExternalStage.filter fun staged => decide (staged.kind = .immediate)).map
        StagedRoutedPublication.publication := by
    simp [compositeOf]
  rw [himmediate, hdeferred]
  exact ⟨_, commitBatch_commits .., rfl⟩

/-- Discarding does not call the bus. -/
theorem channels_discardCompositeRegionOutputs (router : RuntimePublicationRouter) :
    router.discardCompositeRegionOutputs.channels = router.channels := by
  unfold discardCompositeRegionOutputs close cancelAsync
  dsimp only
  split_ifs <;> rfl

/-! ## Operations -/

theorem Feeds.refl (clock : Nat → Int) (router : RuntimePublicationRouter) :
    Feeds clock [] router router := by
  refine ⟨?_, ⟨[], (List.append_nil _).symm, rfl⟩, by simp⟩
  cases router.channels <;> rfl

/-- The calls of two parts of a run, one after the other. -/
theorem Feeds.trans {calls calls' : List BusCall} {middle : RuntimePublicationRouter}
    (h : Feeds clock calls router middle) (h' : Feeds clock calls' middle router') :
    Feeds clock (calls ++ calls') router router' := by
  rcases h.trace with ⟨events, htrace, hevents⟩
  rcases h'.trace with ⟨events', htrace', hevents'⟩
  refine ⟨?_, ⟨events ++ events', ?_, ?_⟩, ?_⟩
  · rw [h'.bus, h.bus, Option.map_map]
    congr 1
    funext bus
    simp [busAfter, runBus, List.foldl_append]
  · rw [htrace', htrace, List.append_assoc]
  · rw [List.filterMap_append, hevents, hevents', List.flatMap_append]
  · intro busCall hmem
    rcases List.mem_append.mp hmem with hmem | hmem
    · exact h.own busCall hmem
    · exact h'.own busCall hmem

/-- Nothing is called, and nothing is handed over. -/
theorem Feeds.quiet {events : List TraceEvent} (hchannels : router'.channels = router.channels)
    (htrace : router'.trace = router.trace ++ events)
    (hevents : events.filterMap handedOver = []) : Feeds clock [] router router' := by
  refine ⟨?_, ⟨events, htrace, hevents⟩, by simp⟩
  rw [hchannels]
  cases router.channels <;> rfl

/-- The end of a call hands nothing over. -/
theorem Feeds.close {calls : List BusCall} (h : Feeds clock calls router router')
    (call : RouterCall) : Feeds clock calls router (router'.close call) := by
  have hclose : Feeds clock [] router' (router'.close call) := .quiet rfl rfl rfl
  exact List.append_nil calls ▸ h.trans hclose

/-- The start of the call does not matter where neither bus nor trace have changed. -/
theorem Feeds.of_start {calls : List BusCall} {start : RuntimePublicationRouter}
    (h : Feeds clock calls start router') (hchannels : start.channels = router.channels)
    (htrace : start.trace = router.trace) : Feeds clock calls router router' :=
  ⟨hchannels ▸ h.bus, htrace ▸ h.trace, h.own⟩

end RuntimePublicationRouter

end TopoExec
