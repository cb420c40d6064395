import TopoExec.Router.Laws

/-! # What is staged where

`Moves` says for each operation what it leaves in the lists and what it writes
into the trace; `Thinned` says it for an admission. From these, one invariant:
the kind of a publication agrees with the list it is in, its edge is one of the
specification, and its number is below the number of publications staged so far.
-/

namespace TopoExec

namespace RuntimePublicationRouter

variable {router router' : RuntimePublicationRouter} {clock : Nat → Int}

/-! ## What the operations do to the lists -/

/-- The operation leaves these lists and adds these events. -/
structure Moves (router router' : RuntimePublicationRouter)
    (immediate next ready : List RuntimeChannelPublication)
    (composite : List StagedRoutedPublication) (active : List String)
    (events : List TraceEvent) : Prop where
  immediate : router'.immediateStage = immediate
  next : router'.deferredNextEpoch = next
  ready : router'.deferredReady = ready
  composite : router'.compositeExternalStage = composite
  active : router'.activeCompositeComponents = active
  trace : router'.trace = router.trace ++ events
  sources : router'.sourceToEdges = router.sourceToEdges
  staged : router'.metrics.stagedCount = router.metrics.stagedCount

/-- What a commit can write into the trace. -/
def HandsOver (call : RouterCall) (publications : List RuntimeChannelPublication)
    (events : List TraceEvent) : Prop :=
  events = [] ∨ events = handedEvents call publications

/-- What a commit does to the lists and the trace. -/
theorem Commits.moves {call : RouterCall} {publications : List RuntimeChannelPublication}
    {accepted : Bool} (h : Commits clock call publications router accepted router') :
    ∃ events, HandsOver call publications events ∧
      Moves router router' router.immediateStage router.deferredNextEpoch router.deferredReady
        router.compositeExternalStage router.activeCompositeComponents events := by
  cases h with
  | empty _ =>
      exact ⟨[], Or.inl rfl, ⟨rfl, rfl, rfl, rfl, rfl, (List.append_nil _).symm, rfl, rfl⟩⟩
  | noBus _ =>
      exact ⟨[], Or.inl rfl, ⟨rfl, rfl, rfl, rfl, rfl, (List.append_nil _).symm, rfl, rfl⟩⟩
  | accepted _ _ => exact ⟨_, Or.inr rfl, ⟨rfl, rfl, rfl, rfl, rfl, rfl, rfl, rfl⟩⟩
  | rejected _ _ => exact ⟨_, Or.inr rfl, ⟨rfl, rfl, rfl, rfl, rfl, rfl, rfl, rfl⟩⟩

/-- The end of a call is one more event. -/
theorem Moves.close {immediate next ready : List RuntimeChannelPublication}
    {composite : List StagedRoutedPublication} {active : List String} {events : List TraceEvent}
    (h : Moves router router' immediate next ready composite active events) (call : RouterCall) :
    Moves router (router'.close call) immediate next ready composite active
      (events ++ [.returned call]) := by
  refine ⟨h.immediate, h.next, h.ready, h.composite, h.active, ?_, h.sources, h.staged⟩
  unfold RuntimePublicationRouter.close
  rw [h.trace, List.append_assoc]

/-- `commit_immediate` empties the immediate list, whether the bus accepts it or not. -/
theorem commitImmediate_moves (clock : Nat → Int) (router : RuntimePublicationRouter) :
    ∃ events, HandsOver .commitImmediate router.immediateStage events ∧
      Moves router (router.commitImmediate clock).2 [] router.deferredNextEpoch
        router.deferredReady router.compositeExternalStage router.activeCompositeComponents
        (events ++ [.returned .commitImmediate]) := by
  rcases (commitBatch_commits clock { router with immediateStage := [] } .commitImmediate
    router.immediateStage).moves with ⟨events, hevents, hmoves⟩
  refine ⟨events, hevents, Moves.close ?_ _⟩
  exact ⟨hmoves.immediate, hmoves.next, hmoves.ready, hmoves.composite, hmoves.active,
    hmoves.trace, hmoves.sources, hmoves.staged⟩

/-- `begin_epoch` empties the list of what is ready; what the last epoch has deferred stays. -/
theorem beginEpoch_moves (clock : Nat → Int) (router : RuntimePublicationRouter) :
    ∃ events, HandsOver .beginEpoch router.deferredReady events ∧
      Moves router (router.beginEpoch clock).2 router.immediateStage router.deferredNextEpoch []
        router.compositeExternalStage router.activeCompositeComponents
        (events ++ [.returned .beginEpoch]) := by
  have hcommits := commitBatch_commits clock
    { router with
      channels := router.channels.map RuntimeChannelBus.advanceEpoch
      deferredReady := [] } .beginEpoch router.deferredReady
  rcases hcommits.moves with ⟨events, hevents, hmoves⟩
  refine ⟨events, hevents, Moves.close ?_ _⟩
  generalize commitBatch clock _ RouterCall.beginEpoch router.deferredReady = result at *
  -- counting the completions changes counters only
  rcases result.2.completeAsync_eq result.1.accepted (router.deferredReady.countP
    fun p : RuntimeChannelPublication => decide (p.kind = .async)) with ⟨inFlight, heq⟩
  rw [heq]
  exact ⟨hmoves.immediate, hmoves.next, hmoves.ready, hmoves.composite, hmoves.active,
    hmoves.trace, hmoves.sources, hmoves.staged⟩

/-- `end_epoch` makes ready what was deferred and hands nothing over. -/
theorem endEpoch_moves (router : RuntimePublicationRouter) :
    Moves router router.endEpoch router.immediateStage []
      (router.deferredReady ++ router.deferredNextEpoch) router.compositeExternalStage
      router.activeCompositeComponents [.returned .endEpoch] :=
  ⟨rfl, rfl, rfl, rfl, rfl, rfl, rfl, rfl⟩

/-- What an earlier region has left behind is discarded. -/
theorem beginCompositeRegion_moves (router : RuntimePublicationRouter) (components : List String) :
    Moves router (router.beginCompositeRegion components) router.immediateStage
      router.deferredNextEpoch router.deferredReady [] components
      (tagEvents .discarded
          (router.compositeExternalStage.map StagedRoutedPublication.publication) ++
        [.returned .beginComposite]) := by
  refine Moves.close ?_ _
  exact ⟨rfl, rfl, rfl, rfl, rfl, rfl, rfl, rfl⟩

/-- The publications of the composite stage with an immediate edge, or with a
deferred one. -/
def compositeOf (router : RuntimePublicationRouter) (immediate : Bool) :
    List RuntimeChannelPublication :=
  (router.compositeExternalStage.filter fun staged =>
    decide (staged.kind = .immediate) == immediate).map StagedRoutedPublication.publication

/-- The outputs of the region part by the kind of their edge: the immediate ones go to the bus, the
others are deferred. -/
theorem commitCompositeRegionOutputs_moves (clock : Nat → Int)
    (router : RuntimePublicationRouter) :
    ∃ events, HandsOver .commitComposite (router.compositeOf true) events ∧
      Moves router (router.commitCompositeRegionOutputs clock).2 router.immediateStage
        (router.deferredNextEpoch ++ router.compositeOf false) router.deferredReady [] []
        (events ++ [.returned .commitComposite]) := by
  have himmediate : router.compositeOf true =
      (router.compositeExternalStage.filter fun staged => decide (staged.kind = .immediate)).map
        StagedRoutedPublication.publication := by
    simp [compositeOf]
  have hdeferred : router.compositeOf false =
      (router.compositeExternalStage.filter fun staged => !decide (staged.kind = .immediate)).map
        StagedRoutedPublication.publication := by
    simp [compositeOf]
  rw [himmediate, hdeferred]
  rcases (commitBatch_commits clock
    { router with
      deferredNextEpoch := router.deferredNextEpoch ++
        (router.compositeExternalStage.filter fun staged =>
          !decide (staged.kind = .immediate)).map StagedRoutedPublication.publication
      compositeExternalStage := []
      activeCompositeComponents := [] } .commitComposite
    ((router.compositeExternalStage.filter fun staged : StagedRoutedPublication =>
      decide (staged.kind = .immediate)).map StagedRoutedPublication.publication)).moves with
    ⟨events, hevents, hmoves⟩
  refine ⟨events, hevents, Moves.close ?_ _⟩
  exact ⟨hmoves.immediate, hmoves.next, hmoves.ready, hmoves.composite, hmoves.active,
    hmoves.trace, hmoves.sources, hmoves.staged⟩

/-- The outputs of the region are discarded, and no component is active. -/
theorem discardCompositeRegionOutputs_moves (router : RuntimePublicationRouter) :
    Moves router router.discardCompositeRegionOutputs router.immediateStage
      router.deferredNextEpoch router.deferredReady [] []
      (tagEvents .discarded
          (router.compositeExternalStage.map StagedRoutedPublication.publication) ++
        [.returned .discardComposite]) := by
  refine Moves.close ?_ _
  rcases cancelAsync_eq
    { router with
      metrics.compositeDiscardedCount :=
        router.metrics.compositeDiscardedCount + router.compositeExternalStage.length
      compositeExternalStage := []
      activeCompositeComponents := []
      trace := router.trace ++
        tagEvents .discarded
          (router.compositeExternalStage.map StagedRoutedPublication.publication) }
    (router.compositeExternalStage.countP fun staged : StagedRoutedPublication =>
      decide (staged.kind = .async)) with ⟨inFlight, heq⟩
  rw [heq]
  exact ⟨rfl, rfl, rfl, rfl, rfl, rfl, rfl, rfl⟩

/-- The components use the bus and not the router. -/
theorem useBus_moves (router : RuntimePublicationRouter) (op : BusOp) :
    Moves router (router.useBus clock op) router.immediateStage router.deferredNextEpoch
      router.deferredReady router.compositeExternalStage router.activeCompositeComponents [] :=
  ⟨rfl, rfl, rfl, rfl, rfl, (List.append_nil _).symm, rfl, rfl⟩

/-- All publications that wait in the router. -/
def held (router : RuntimePublicationRouter) : List RuntimeChannelPublication :=
  router.deferredReady ++ router.deferredNextEpoch ++ router.immediateStage ++
    router.compositeExternalStage.map StagedRoutedPublication.publication

/-- A publication is held in one of the four lists. -/
theorem mem_held {p : RuntimeChannelPublication} :
    p ∈ router.held ↔ p ∈ router.deferredReady ∨ p ∈ router.deferredNextEpoch ∨
      p ∈ router.immediateStage ∨ ∃ s ∈ router.compositeExternalStage, s.publication = p := by
  simp [held]

/-- Whether an edge leaves the region is a matter of the active components. -/
theorem leavesComposite_congr (h : router'.activeCompositeComponents =
    router.activeCompositeComponents) (edge : RoutedEdge) :
    router'.leavesComposite edge = router.leavesComposite edge := by
  unfold leavesComposite
  rw [h]

/-- An admission stages nothing; it may take one async publication out. -/
structure Thinned (router router' : RuntimePublicationRouter)
    (dropped : List RuntimeChannelPublication) : Prop where
  immediate : router'.immediateStage = router.immediateStage
  next : router'.deferredNextEpoch.Sublist router.deferredNextEpoch
  ready : router'.deferredReady.Sublist router.deferredReady
  composite : router'.compositeExternalStage.Sublist router.compositeExternalStage
  active : router'.activeCompositeComponents = router.activeCompositeComponents
  trace : router'.trace = router.trace ++ tagEvents .overwritten dropped
  sources : router'.sourceToEdges = router.sourceToEdges
  channels : router'.channels = router.channels
  staged : router'.metrics.stagedCount = router.metrics.stagedCount
  failed : router'.metrics.failedCommitCount = router.metrics.failedCommitCount
  kept : ∀ p ∈ router.held, p ∈ router'.held ∨ p ∈ dropped
  async : ∀ p ∈ dropped, p.kind = .async

/-- What is counted against `max_inflight` is on an async edge. -/
theorem kind_of_isAsyncOf {channelId : String} {publication : RuntimeChannelPublication}
    (h : isAsyncOf channelId publication = true) : publication.kind = .async := by
  unfold isAsyncOf at h
  grind

/-- An admission drops publications or does nothing to the lists. -/
theorem Admission.thinned {edge : RoutedEdge} (h : Admission edge router router') :
    ∃ dropped, Thinned router router' dropped := by
  have hnone : router.trace = router.trace ++ tagEvents .overwritten [] := (List.append_nil _).symm
  have hskip : ∀ {α : Type} (before after : List α) (a : α),
      (before ++ after).Sublist (before ++ a :: after) := by
    intro α before after a
    exact (List.sublist_cons_self a after).append_left before
  have hmiddle : ∀ {α : Type} {before after l : List α} {a : α}, l = before ++ a :: after →
      ∀ x ∈ l, x ∈ before ++ after ∨ x ∈ [a] := by
    rintro α before after l a rfl x hx
    simp only [List.mem_append, List.mem_cons] at hx ⊢
    tauto
  cases h with
  | plain _ | room _ _ | nothing _ _ _ _ _ =>
      exact ⟨[], rfl, .refl _, .refl _, .refl _, rfl, hnone, rfl, rfl, rfl, rfl,
        fun p hp => Or.inl hp, fun p hp => absurd hp List.not_mem_nil⟩
  | dropped _ _ hdrops =>
      -- the list that loses the publication keeps the order of the others
      cases hdrops with
      | ready hlist hdropped _ =>
          refine ⟨_, rfl, .refl _, hlist ▸ hskip _ _ _, .refl _, rfl, rfl, rfl, rfl, rfl, rfl, ?_,
            ?_⟩
          · intro p hp
            rcases mem_held.mp hp with hp | hp
            · exact (hmiddle hlist p hp).imp_left fun hp => mem_held.mpr (Or.inl hp)
            · exact Or.inl (mem_held.mpr (Or.inr hp))
          · intro p hp
            rw [List.mem_singleton.mp hp]
            exact kind_of_isAsyncOf hdropped
      | next _ hlist hdropped _ =>
          refine ⟨_, rfl, hlist ▸ hskip _ _ _, .refl _, .refl _, rfl, rfl, rfl, rfl, rfl, rfl, ?_,
            ?_⟩
          · intro p hp
            rcases mem_held.mp hp with hp | hp | hp
            · exact Or.inl (mem_held.mpr (Or.inl hp))
            · exact (hmiddle hlist p hp).imp_left fun hp => mem_held.mpr (Or.inr (Or.inl hp))
            · exact Or.inl (mem_held.mpr (Or.inr (Or.inr hp)))
          · intro p hp
            rw [List.mem_singleton.mp hp]
            exact kind_of_isAsyncOf hdropped
      | @composite _ _ dropped _ _ hlist hdropped _ =>
          refine ⟨[dropped.publication], rfl, .refl _, .refl _, hlist ▸ hskip _ _ _, rfl, rfl, rfl,
            rfl, rfl, rfl, ?_, ?_⟩
          · intro p hp
            rcases mem_held.mp hp with hp | hp | hp | ⟨s, hs, rfl⟩
            · exact Or.inl (mem_held.mpr (Or.inl hp))
            · exact Or.inl (mem_held.mpr (Or.inr (Or.inl hp)))
            · exact Or.inl (mem_held.mpr (Or.inr (Or.inr (Or.inl hp))))
            · rcases hmiddle hlist s hs with hs | hs
              · exact Or.inl (mem_held.mpr (Or.inr (Or.inr (Or.inr ⟨s, hs, rfl⟩))))
              · rw [List.mem_singleton.mp hs]
                exact Or.inr (List.mem_singleton_self _)
          · intro p hp
            rw [List.mem_singleton.mp hp]
            exact kind_of_isAsyncOf hdropped

/-- Staging adds one numbered publication to one list. -/
structure Adds (router router' : RuntimePublicationRouter) (edge : RoutedEdge)
    (immediate next : List RuntimeChannelPublication)
    (composite : List StagedRoutedPublication) : Prop where
  immediate : router'.immediateStage = immediate
  next : router'.deferredNextEpoch = next
  ready : router'.deferredReady = router.deferredReady
  composite : router'.compositeExternalStage = composite
  active : router'.activeCompositeComponents = router.activeCompositeComponents
  trace : router'.trace = router.trace ++
    [.staged router.metrics.stagedCount edge.channelId edge.kind (router.leavesComposite edge)]
  sources : router'.sourceToEdges = router.sourceToEdges
  channels : router'.channels = router.channels
  staged : router'.metrics.stagedCount = router.metrics.stagedCount + 1
  failed : router'.metrics.failedCommitCount = router.metrics.failedCommitCount

/-- The publication with its number. -/
def numbered (router : RuntimePublicationRouter) (publication : RuntimeChannelPublication) :
    RuntimeChannelPublication :=
  { publication with tag := some router.metrics.stagedCount }

/-- A publication is appended to one of three lists: the composite one if its edge leaves the
active region, else by the kind of the edge. -/
theorem stage_cases (router : RuntimePublicationRouter) (edge : RoutedEdge)
    (publication : RuntimeChannelPublication) :
    (router.leavesComposite edge = true ∧
        Adds router (router.stage edge publication) edge router.immediateStage
          router.deferredNextEpoch
          (router.compositeExternalStage ++ [⟨edge.kind, router.numbered publication⟩])) ∨
      (router.leavesComposite edge = false ∧ edge.kind = .immediate ∧
        Adds router (router.stage edge publication) edge
          (router.immediateStage ++ [router.numbered publication]) router.deferredNextEpoch
          router.compositeExternalStage) ∨
      (router.leavesComposite edge = false ∧ edge.kind ≠ .immediate ∧
        Adds router (router.stage edge publication) edge router.immediateStage
          (router.deferredNextEpoch ++ [router.numbered publication])
          router.compositeExternalStage) := by
  have hcount : (countStaged router.metrics edge.kind).stagedCount =
      router.metrics.stagedCount + 1 := by
    cases edge.kind <;> rfl
  have hfailed : (countStaged router.metrics edge.kind).failedCommitCount =
      router.metrics.failedCommitCount := by
    cases edge.kind <;> rfl
  unfold stage
  split_ifs with hleaves himmediate
  · exact Or.inl ⟨hleaves, rfl, rfl, rfl, rfl, rfl, rfl, rfl, rfl, hcount, hfailed⟩
  · exact Or.inr (Or.inl ⟨by simpa using hleaves, himmediate, rfl, rfl, rfl, rfl, rfl, rfl, rfl,
      rfl, hcount, hfailed⟩)
  · exact Or.inr (Or.inr ⟨by simpa using hleaves, himmediate, rfl, rfl, rfl, rfl, rfl, rfl, rfl,
      rfl, hcount, hfailed⟩)

/-- In each case one publication is added, and the trace says so. -/
theorem stage_adds (router : RuntimePublicationRouter) (edge : RoutedEdge)
    (publication : RuntimeChannelPublication) :
    ∃ immediate next composite,
      Adds router (router.stage edge publication) edge immediate next composite := by
  rcases router.stage_cases edge publication with ⟨_, hadds⟩ | ⟨_, _, hadds⟩ | ⟨_, _, hadds⟩
  all_goals exact ⟨_, _, _, hadds⟩

/-- What waits goes on waiting, and the new publication waits too. -/
theorem mem_held_stage_iff {edge : RoutedEdge} {publication p : RuntimeChannelPublication} :
    p ∈ (router.stage edge publication).held ↔
      p ∈ router.held ∨ p = router.numbered publication := by
  rcases router.stage_cases edge publication with ⟨_, hadds⟩ | ⟨_, _, hadds⟩ | ⟨_, _, hadds⟩
  all_goals
    rw [mem_held, mem_held, hadds.ready, hadds.next, hadds.immediate, hadds.composite]
    simp only [List.mem_append, List.mem_singleton, or_and_right, exists_or, exists_eq_left,
      eq_comm, or_assoc, or_comm, or_left_comm]

/-! ## The invariant -/

/-- The publication has a number below `count` and goes to the channel of an
edge. -/
structure Numbered (specs : List EdgeSpec) (count : Nat)
    (publication : RuntimeChannelPublication) : Prop where
  tag : ∃ tag, publication.tag = some tag ∧ tag < count
  edge : ∃ spec ∈ specs, publication.id = spec.id ∧ publication.kind = spec.kind
  target : publication.target = .channel

structure StagingInv (specs : List EdgeSpec) (router : RuntimePublicationRouter) : Prop where
  sources : router.sourceToEdges = edgesOfSource specs
  immediate : ∀ p ∈ router.immediateStage, p.kind = .immediate
  next : ∀ p ∈ router.deferredNextEpoch, p.kind ≠ .immediate
  ready : ∀ p ∈ router.deferredReady, p.kind ≠ .immediate
  composite : ∀ staged ∈ router.compositeExternalStage, staged.kind = staged.publication.kind
  numbered : ∀ p ∈ router.held, Numbered specs router.metrics.stagedCount p

variable {specs : List EdgeSpec}

/-- The edges of an endpoint come from the specification. -/
theorem mem_edgesOfSource {sourceEndpoint : String} {edges : List RoutedEdge} {edge : RoutedEdge}
    (hedges : edgesOfSource specs sourceEndpoint = some edges) (hedge : edge ∈ edges) :
    ∃ spec ∈ specs, spec.fromEndpoint = sourceEndpoint ∧ edge = .ofSpec spec := by
  unfold edgesOfSource at hedges
  split at hedges
  next => cases hedges
  next hfound =>
    cases hedges
    rcases List.mem_map.mp hedge with ⟨spec, hspec, rfl⟩
    rcases List.mem_filter.mp hspec with ⟨hmem, hfrom⟩
    exact ⟨spec, hmem, by simpa using hfrom, rfl⟩

theorem mem_compositeOf {p : RuntimeChannelPublication} {immediate : Bool} :
    p ∈ router.compositeOf immediate ↔ ∃ staged ∈ router.compositeExternalStage,
      decide (staged.kind = .immediate) = immediate ∧ staged.publication = p := by
  simp [compositeOf, and_assoc]

/-- Publications that move on were in the router before. -/
theorem Moves.held_subset {immediate next ready : List RuntimeChannelPublication}
    {composite : List StagedRoutedPublication} {active : List String} {events : List TraceEvent}
    (h : Moves router router' immediate next ready composite active events)
    (himmediate : immediate ⊆ router.immediateStage)
    (hnext : next ⊆ router.deferredNextEpoch ++ router.compositeOf false)
    (hready : ready ⊆ router.deferredReady ++ router.deferredNextEpoch)
    (hcomposite : composite ⊆ router.compositeExternalStage) : router'.held ⊆ router.held := by
  intro p hp
  rw [mem_held, h.ready, h.next, h.immediate, h.composite] at hp
  rw [mem_held]
  rcases hp with hp | hp | hp | ⟨s, hs, rfl⟩
  · rcases List.mem_append.mp (hready hp) with hp | hp
    · exact Or.inl hp
    · exact Or.inr (Or.inl hp)
  · rcases List.mem_append.mp (hnext hp) with hp | hp
    · exact Or.inr (Or.inl hp)
    · rcases mem_compositeOf.mp hp with ⟨s, hs, _, rfl⟩
      exact Or.inr (Or.inr (Or.inr ⟨s, hs, rfl⟩))
  · exact Or.inr (Or.inr (Or.inl (himmediate hp)))
  · exact Or.inr (Or.inr (Or.inr ⟨s, hcomposite hs, rfl⟩))

/-- An operation that only moves publications on keeps the invariant. -/
theorem StagingInv.moves {immediate next ready : List RuntimeChannelPublication}
    {composite : List StagedRoutedPublication} {active : List String} {events : List TraceEvent}
    (hinv : StagingInv specs router)
    (h : Moves router router' immediate next ready composite active events)
    (himmediate : immediate ⊆ router.immediateStage)
    (hnext : next ⊆ router.deferredNextEpoch ++ router.compositeOf false)
    (hready : ready ⊆ router.deferredReady ++ router.deferredNextEpoch)
    (hcomposite : composite ⊆ router.compositeExternalStage) : StagingInv specs router' := by
  have hdeferred : ∀ p ∈ router.compositeOf false, p.kind ≠ .immediate := by
    intro p hp
    rcases mem_compositeOf.mp hp with ⟨staged, hmem, hkind, rfl⟩
    rw [← hinv.composite staged hmem]
    simpa using hkind
  refine ⟨h.sources.trans hinv.sources, ?_, ?_, ?_, ?_, ?_⟩
  · intro p hp
    rw [h.immediate] at hp
    exact hinv.immediate p (himmediate hp)
  · intro p hp
    rw [h.next] at hp
    rcases List.mem_append.mp (hnext hp) with hp | hp
    · exact hinv.next p hp
    · exact hdeferred p hp
  · intro p hp
    rw [h.ready] at hp
    rcases List.mem_append.mp (hready hp) with hp | hp
    · exact hinv.ready p hp
    · exact hinv.next p hp
  · intro staged hstaged
    rw [h.composite] at hstaged
    exact hinv.composite staged (hcomposite hstaged)
  · intro p hp
    rw [h.staged]
    exact hinv.numbered p (h.held_subset himmediate hnext hready hcomposite hp)

/-- An admission takes publications out and puts none in. -/
theorem Thinned.held_subset {dropped : List RuntimeChannelPublication}
    (h : Thinned router router' dropped) : router'.held ⊆ router.held := by
  intro p hp
  rw [mem_held, h.immediate] at hp
  rw [mem_held]
  rcases hp with hp | hp | hp | ⟨s, hs, rfl⟩
  · exact Or.inl (h.ready.subset hp)
  · exact Or.inr (Or.inl (h.next.subset hp))
  · exact Or.inr (Or.inr (Or.inl hp))
  · exact Or.inr (Or.inr (Or.inr ⟨s, h.composite.subset hs, rfl⟩))

/-- Dropping publications keeps what is known of the others. -/
theorem StagingInv.thinned {dropped : List RuntimeChannelPublication}
    (hinv : StagingInv specs router) (h : Thinned router router' dropped) :
    StagingInv specs router' := by
  refine ⟨h.sources.trans hinv.sources, ?_, fun p hp => hinv.next p (h.next.subset hp),
    fun p hp => hinv.ready p (h.ready.subset hp),
    fun s hs => hinv.composite s (h.composite.subset hs), ?_⟩
  · rw [h.immediate]
    exact hinv.immediate
  · intro p hp
    rw [h.staged]
    exact hinv.numbered p (h.held_subset hp)

/-- A number that was given stays given. -/
theorem Numbered.mono {n m : Nat} {p : RuntimeChannelPublication} (h : Numbered specs n p)
    (hle : n ≤ m) : Numbered specs m p := by
  rcases h with ⟨⟨tag, htag, hlt⟩, hspec, htarget⟩
  exact ⟨⟨tag, htag, lt_of_lt_of_le hlt hle⟩, hspec, htarget⟩

/-- The publication that is added carries the kind of its edge and the next number. -/
theorem StagingInv.stage (hinv : StagingInv specs router) {spec : EdgeSpec} (hspec : spec ∈ specs)
    (publish : Publish) :
    StagingInv specs
      (router.stage (.ofSpec spec) (publicationFor publish (.ofSpec spec))) := by
  have hnumbered : ∀ p ∈ (router.stage (.ofSpec spec) (publicationFor publish (.ofSpec spec))).held,
      Numbered specs (router.metrics.stagedCount + 1) p := by
    intro p hp
    rcases mem_held_stage_iff.mp hp with hold | rfl
    · exact (hinv.numbered p hold).mono (Nat.le_succ _)
    · exact ⟨⟨_, rfl, Nat.lt_succ_self _⟩, ⟨spec, hspec, rfl, rfl⟩, rfl⟩
  rcases router.stage_cases (.ofSpec spec) (publicationFor publish (.ofSpec spec)) with
    ⟨_, h⟩ | ⟨_, hkind, h⟩ | ⟨_, hkind, h⟩
  all_goals
    refine ⟨h.sources.trans hinv.sources, ?_, ?_, h.ready ▸ hinv.ready, ?_,
      h.staged.symm ▸ hnumbered⟩
    all_goals simp only [h.immediate, h.next, h.composite]
  · exact hinv.immediate
  · exact hinv.next
  · intro s hs
    rcases List.mem_append.mp hs with hs | hs
    · exact hinv.composite s hs
    · rw [List.mem_singleton.mp hs]
      rfl
  · intro p hp
    rcases List.mem_append.mp hp with hp | hp
    · exact hinv.immediate p hp
    · rw [List.mem_singleton.mp hp]
      exact hkind
  · exact hinv.next
  · exact hinv.composite
  · exact hinv.immediate
  · intro p hp
    rcases List.mem_append.mp hp with hp | hp
    · exact hinv.next p hp
    · rw [List.mem_singleton.mp hp]
      exact hkind
  · exact hinv.composite

/-- A refused publication is not staged. -/
theorem Refused.held_eq (h : Refused router router') : router'.held = router.held := by
  unfold held
  rw [h.ready, h.next, h.immediate, h.composite]

theorem StagingInv.refused (hinv : StagingInv specs router) (h : Refused router router') :
    StagingInv specs router' := by
  refine ⟨h.sources.trans hinv.sources, h.immediate ▸ hinv.immediate, h.next ▸ hinv.next,
    h.ready ▸ hinv.ready, h.composite ▸ hinv.composite, ?_⟩
  rw [h.held_eq, h.staged]
  exact hinv.numbered

/-- A publish keeps the lists in order, edge by edge. -/
theorem StagingInv.publish (hinv : StagingInv specs router) (sourceEndpoint : String)
    (payload : Option RuntimePayload) (metadata : InvocationMetadata)
    (eventTimestamp : Option EventTimestamp) :
    StagingInv specs
      (router.publishSharedFromWithMetadata sourceEndpoint payload metadata eventTimestamp).2 := by
  refine publish_invariant (fun edges publish hedges r r' edge hedge hadmission h => ?_)
    (fun r r' hrefused h => h.refused hrefused) hinv
  rw [hinv.sources] at hedges
  rcases mem_edgesOfSource hedges hedge with ⟨spec, hspec, _, rfl⟩
  rcases hadmission.thinned with ⟨dropped, hthinned⟩
  exact (h.thinned hthinned).stage hspec publish

/-- Every operation of the router keeps the lists in order. -/
theorem StagingInv.exec (hinv : StagingInv specs router) (op : RouterOp) :
    StagingInv specs (op.exec clock router) := by
  cases op with
  | publish sourceEndpoint payload metadata eventTimestamp =>
      exact hinv.publish sourceEndpoint payload metadata eventTimestamp
  | beginEpoch =>
      rcases router.beginEpoch_moves clock with ⟨events, _, hmoves⟩
      exact hinv.moves hmoves (by simp) (by simp) (by simp) (by simp)
  | commitImmediate =>
      rcases router.commitImmediate_moves clock with ⟨events, _, hmoves⟩
      exact hinv.moves hmoves (by simp) (by simp) (by simp) (by simp)
  | endEpoch => exact hinv.moves router.endEpoch_moves (by simp) (by simp) (by simp) (by simp)
  | beginCompositeRegion components =>
      exact hinv.moves (router.beginCompositeRegion_moves components) (by simp) (by simp) (by simp)
        (by simp)
  | commitCompositeRegionOutputs =>
      rcases router.commitCompositeRegionOutputs_moves clock with ⟨events, _, hmoves⟩
      exact hinv.moves hmoves (by simp) (by simp) (by simp) (by simp)
  | discardCompositeRegionOutputs =>
      exact hinv.moves router.discardCompositeRegionOutputs_moves (by simp) (by simp) (by simp)
        (by simp)
  | useBus op => exact hinv.moves (router.useBus_moves op) (by simp) (by simp) (by simp) (by simp)

/-- A new router holds nothing. -/
theorem ofEdges_stagingInv (channels : Option RuntimeChannelBus) (specs : List EdgeSpec) :
    StagingInv specs (.ofEdges channels specs) := by
  refine ⟨rfl, ?_, ?_, ?_, ?_, ?_⟩
  all_goals
    intro p hp
    exact absurd hp List.not_mem_nil

theorem reachable_stagingInv {allowed : RuntimePublicationRouter → RouterOp → Prop}
    {channels : Option RuntimeChannelBus}
    (hreach : RouterReachable clock allowed channels specs router) : StagingInv specs router := by
  induction hreach with
  | init => exact ofEdges_stagingInv channels specs
  | step op _ _ ih => exact ih.exec op

end RuntimePublicationRouter

end TopoExec
