import TopoExec.Router.Staging

/-! # When publications are handed to the bus

The trace of the router is cut at the event that staged a publication. What the
rest of the trace may and must contain depends on the list that the publication
is in, and when it is handed to the bus it becomes one of the cases of `Timely`.

An operation appends events to the trace, so each fact about a rest of the trace
is kept if the new events do not spoil it.
-/

namespace TopoExec

namespace RuntimePublicationRouter

/-! ## Facts about the rest of the trace -/

/-- The publication was staged, and `P` holds of everything that happened since. -/
def StagedSince (trace : List TraceEvent) (tag : Nat) (channelId : String) (kind : EdgeKind)
    (composite : Bool) (P : List TraceEvent → Prop) : Prop :=
  ∃ before since, trace = before ++ .staged tag channelId kind composite :: since ∧ P since

/-- The composite region of the publication is still active. -/
def InRegion (since : List TraceEvent) : Prop :=
  .returned .commitComposite ∉ since ∧ .returned .discardComposite ∉ since

/-- The publication left its composite region, if it was in one, by a commit;
`P` holds of everything after that. -/
def Released (composite : Bool) (P : List TraceEvent → Prop) (since : List TraceEvent) : Prop :=
  if composite then
    ∃ inside after,
      since = inside ++ .returned .commitComposite :: after ∧ InRegion inside ∧ P after
  else P since

/-- The call that hands over a publication is the right one, for the events
between the publish and the call. -/
inductive Timely : EdgeKind → Bool → RouterCall → List TraceEvent → Prop where
  | immediate {since : List TraceEvent} (hfirst : .returned .commitImmediate ∉ since) :
      Timely .immediate false .commitImmediate since
  | compositeImmediate {since : List TraceEvent} (hregion : InRegion since) :
      Timely .immediate true .commitComposite since
  | deferred {kind : EdgeKind} {composite : Bool} {since : List TraceEvent}
      (hkind : kind ≠ .immediate)
      (hreleased : Released composite (.returned .endEpoch ∈ ·) since) :
      Timely kind composite .beginEpoch since

/-- Every publication that was handed over was handed over in time. -/
def HandedTimely (trace : List TraceEvent) : Prop :=
  ∀ pre tag channelId call post, trace = pre ++ .handed tag channelId call :: post →
    ∃ kind composite, StagedSince pre tag channelId kind composite (Timely kind composite call)

section

variable {trace events since : List TraceEvent} {tag : Nat} {channelId : String}
  {kind : EdgeKind} {composite : Bool} {P Q : List TraceEvent → Prop}

/-- More events move the publish further back. -/
theorem StagedSince.extend (h : StagedSince trace tag channelId kind composite P)
    (hPQ : ∀ since, P since → Q (since ++ events)) :
    StagedSince (trace ++ events) tag channelId kind composite Q := by
  rcases h with ⟨before, since, rfl, hsince⟩
  exact ⟨before, since ++ events, by simp, hPQ since hsince⟩

/-- Still in the region, if none of the events leaves it. -/
theorem InRegion.append (h : InRegion since) (hevents : InRegion events) :
    InRegion (since ++ events) := by
  simp only [InRegion, List.mem_append, not_or]
  exact ⟨⟨h.1, hevents.1⟩, ⟨h.2, hevents.2⟩⟩

/-- A publication that was released stays so. -/
theorem Released.append (h : Released composite P since)
    (hPQ : ∀ since, P since → Q (since ++ events)) : Released composite Q (since ++ events) := by
  cases composite with
  | false => exact hPQ since h
  | true =>
      rcases h with ⟨inside, after, rfl, hinside, hafter⟩
      exact ⟨inside, after ++ events, by simp, hinside, hPQ after hafter⟩

/-- No call returned among the events. -/
def NoReturn (events : List TraceEvent) : Prop := ∀ call, .returned call ∉ events

/-- A commit of something else leaves no region. -/
theorem NoReturn.inRegion (h : NoReturn events) : InRegion events := ⟨h _, h _⟩

/-- The new events hand nothing over too early, and what is older was timely already. -/
theorem HandedTimely.append (h : HandedTimely trace)
    (hnew : ∀ pre tag channelId call post, events = pre ++ .handed tag channelId call :: post →
      ∃ kind composite,
        StagedSince (trace ++ pre) tag channelId kind composite (Timely kind composite call)) :
    HandedTimely (trace ++ events) := by
  intro pre tag channelId call post hsplit
  rcases List.append_eq_append_iff.mp hsplit with ⟨pre', rfl, hevents⟩ | ⟨rest, htrace, hrest⟩
  · exact hnew pre' tag channelId call post hevents
  · -- the event is in the old trace, or it is the first new one
    cases rest with
    | nil =>
        rw [List.append_nil] at htrace
        have := hnew [] tag channelId call post (by simpa using hrest.symm)
        rwa [List.append_nil, htrace] at this
    | cons event rest =>
        rw [List.cons_append, List.cons.injEq] at hrest
        rw [← hrest.1] at htrace
        exact h pre tag channelId call rest htrace

/-- Events that hand nothing over change nothing. -/
theorem HandedTimely.quiet (h : HandedTimely trace)
    (hquiet : ∀ tag channelId call, .handed tag channelId call ∉ events) :
    HandedTimely (trace ++ events) := by
  refine h.append fun pre tag channelId call post hevents => ?_
  refine absurd ?_ (hquiet tag channelId call)
  rw [hevents]
  exact List.mem_append_right _ (List.mem_cons_self ..)

end

/-! ## The events of a commit -/

section

variable {call call' : RouterCall} {publications : List RuntimeChannelPublication}
  {events pre post : List TraceEvent} {tag : Nat} {channelId : String}

/-- A commit hands over its publications and nothing else. -/
theorem mem_handedEvents {event : TraceEvent} :
    event ∈ handedEvents call publications ↔
      ∃ p ∈ publications, ∃ tag, p.tag = some tag ∧ .handed tag p.id call = event := by
  simp [handedEvents]

theorem HandsOver.noReturn (h : HandsOver call publications events) : NoReturn events := by
  intro call' hmem
  rcases h with rfl | rfl
  · cases hmem
  · rcases mem_handedEvents.mp hmem with ⟨_, _, _, _, heq⟩
    cases heq

/-- What stands before a hand-over of the same commit are other hand-overs. -/
theorem HandsOver.split (h : HandsOver call publications events)
    (hsplit : events ++ [.returned call] = pre ++ .handed tag channelId call' :: post) :
    call' = call ∧ NoReturn pre ∧ ∃ p ∈ publications, p.tag = some tag ∧ p.id = channelId := by
  have hevents : ∃ rest, events = pre ++ .handed tag channelId call' :: rest := by
    rcases List.append_eq_append_iff.mp hsplit with ⟨pre', rfl, hrest⟩ | ⟨rest, rfl, hrest⟩
    · -- the hand-over would have to be the return
      cases pre' with
      | nil => simp at hrest
      | cons event pre' => simp at hrest
    · cases rest with
      | nil => simp at hrest
      | cons event rest =>
          rw [List.cons_append, List.cons.injEq] at hrest
          exact ⟨rest, by rw [hrest.1]⟩
  rcases hevents with ⟨rest, rfl⟩
  have hnone := h.noReturn
  rcases h with hnil | hhanded
  · simp at hnil
  · have hmem : .handed tag channelId call' ∈ handedEvents call publications := by
      rw [← hhanded]
      exact List.mem_append_right _ (List.mem_cons_self ..)
    rcases mem_handedEvents.mp hmem with ⟨p, hp, tag', htag, heq⟩
    cases heq
    exact ⟨rfl, fun c hc => hnone c (List.mem_append_left _ hc), p, hp, htag, rfl⟩

/-- A commit hands over in time what was staged for it in time. -/
theorem HandedTimely.commit {trace : List TraceEvent} (h : HandedTimely trace)
    (hevents : HandsOver call publications events)
    (htimely : ∀ p ∈ publications, ∀ tag, p.tag = some tag → ∀ pre, NoReturn pre →
      ∃ kind composite,
        StagedSince (trace ++ pre) tag p.id kind composite (Timely kind composite call)) :
    HandedTimely (trace ++ (events ++ [.returned call])) := by
  refine h.append fun pre tag channelId call' post hsplit => ?_
  rcases hevents.split hsplit with ⟨rfl, hnone, p, hp, htag, rfl⟩
  exact htimely p hp tag htag pre hnone

/-- A commit is the return of its own call only. -/
theorem HandsOver.not_returned (h : HandsOver call publications events) {other : RouterCall}
    (hne : other ≠ call) : .returned other ∉ events ++ [.returned call] := by
  intro hmem
  rcases List.mem_append.mp hmem with hmem | hmem
  · exact h.noReturn other hmem
  · rw [List.mem_singleton] at hmem
    cases hmem
    exact hne rfl

end

theorem not_mem_tagEvents {event : Nat → TraceEvent} {other : TraceEvent}
    (hne : ∀ tag, event tag ≠ other) (publications : List RuntimeChannelPublication) :
    other ∉ tagEvents event publications := by
  intro hmem
  simp only [tagEvents, List.mem_filterMap, Option.map_eq_some_iff] at hmem
  rcases hmem with ⟨_, _, tag, _, heq⟩
  exact hne tag heq

/-- What clearing the composite stage writes into the trace. -/
def clearEvents (call : RouterCall) (publications : List RuntimeChannelPublication) :
    List TraceEvent :=
  tagEvents .discarded publications ++ [.returned call]

theorem not_returned_clearEvents {call other : RouterCall} (hne : other ≠ call)
    (publications : List RuntimeChannelPublication) :
    .returned other ∉ clearEvents call publications := by
  intro hmem
  rcases List.mem_append.mp hmem with hmem | hmem
  · exact not_mem_tagEvents (by simp) _ hmem
  · simp [hne] at hmem

/-- What a failed commit clears is not handed over. -/
theorem not_handed_clearEvents (call : RouterCall)
    (publications : List RuntimeChannelPublication) (tag : Nat) (channelId : String)
    (call' : RouterCall) : .handed tag channelId call' ∉ clearEvents call publications := by
  intro hmem
  rcases List.mem_append.mp hmem with hmem | hmem
  · exact not_mem_tagEvents (by simp) _ hmem
  · simp at hmem

/-! ## The invariant -/

/-- Where the trace was cut for each waiting publication, and that what was handed
over was handed over in time. -/
structure VisibilityInv (router : RuntimePublicationRouter) : Prop where
  immediate : ∀ p ∈ router.immediateStage, ∀ tag, p.tag = some tag →
    StagedSince router.trace tag p.id p.kind false (.returned .commitImmediate ∉ ·)
  next : ∀ p ∈ router.deferredNextEpoch, ∀ tag, p.tag = some tag →
    ∃ composite,
      StagedSince router.trace tag p.id p.kind composite (Released composite fun _ => True)
  ready : ∀ p ∈ router.deferredReady, ∀ tag, p.tag = some tag →
    ∃ composite, StagedSince router.trace tag p.id p.kind composite
      (Released composite (.returned .endEpoch ∈ ·))
  composite : ∀ s ∈ router.compositeExternalStage, ∀ tag, s.publication.tag = some tag →
    StagedSince router.trace tag s.publication.id s.publication.kind true InRegion
  handed : HandedTimely router.trace

variable {router router' : RuntimePublicationRouter} {specs : List EdgeSpec} {clock : Nat → Int}

section

variable {events : List TraceEvent}

/-- Facts about the waiting publications, after events that do not touch them. -/
theorem VisibilityInv.immediate_extend (h : VisibilityInv router)
    (hevents : .returned .commitImmediate ∉ events) :
    ∀ p ∈ router.immediateStage, ∀ tag, p.tag = some tag →
      StagedSince (router.trace ++ events) tag p.id p.kind false
        (.returned .commitImmediate ∉ ·) := by
  intro p hp tag htag
  refine (h.immediate p hp tag htag).extend fun since hsince hmem => ?_
  rcases List.mem_append.mp hmem with hmem | hmem
  · exact hsince hmem
  · exact hevents hmem

/-- What waits for the next epoch was staged, and released, however many events follow. -/
theorem VisibilityInv.next_extend (h : VisibilityInv router) (events : List TraceEvent) :
    ∀ p ∈ router.deferredNextEpoch, ∀ tag, p.tag = some tag →
      ∃ composite, StagedSince (router.trace ++ events) tag p.id p.kind composite
        (Released composite fun _ => True) := by
  intro p hp tag htag
  rcases h.next p hp tag htag with ⟨composite, hstaged⟩
  exact ⟨composite, hstaged.extend fun since hsince => hsince.append fun _ _ => trivial⟩

/-- What is ready was staged before an `end_epoch`, however many events follow. -/
theorem VisibilityInv.ready_extend (h : VisibilityInv router) (events : List TraceEvent) :
    ∀ p ∈ router.deferredReady, ∀ tag, p.tag = some tag →
      ∃ composite, StagedSince (router.trace ++ events) tag p.id p.kind composite
        (Released composite (.returned .endEpoch ∈ ·)) := by
  intro p hp tag htag
  rcases h.ready p hp tag htag with ⟨composite, hstaged⟩
  exact ⟨composite, hstaged.extend fun since hsince =>
    hsince.append fun _ hend => List.mem_append_left _ hend⟩

/-- What waits for its region was staged in it, as long as no event leaves the region. -/
theorem VisibilityInv.composite_extend (h : VisibilityInv router) (hevents : InRegion events) :
    ∀ s ∈ router.compositeExternalStage, ∀ tag, s.publication.tag = some tag →
      StagedSince (router.trace ++ events) tag s.publication.id s.publication.kind true
        InRegion := by
  intro s hs tag htag
  exact (h.composite s hs tag htag).extend fun since hsince => hsince.append hevents

end

/-- What `commit_immediate` hands over was staged after the last one. -/
theorem VisibilityInv.commitImmediate (h : VisibilityInv router)
    (hstaging : StagingInv specs router) : VisibilityInv (router.commitImmediate clock).2 := by
  rcases router.commitImmediate_moves clock with ⟨events, hevents, hmoves⟩
  refine ⟨?_, ?_, ?_, ?_, ?_⟩
  all_goals simp only [hmoves.immediate, hmoves.next, hmoves.ready, hmoves.composite, hmoves.trace]
  · intro p hp
    cases hp
  · exact h.next_extend _
  · exact h.ready_extend _
  · exact h.composite_extend ⟨hevents.not_returned (by simp), hevents.not_returned (by simp)⟩
  · -- what is handed over waited in a list of which the invariant knows where it was staged
    refine h.handed.commit hevents fun p hp tag htag pre hnone => ?_
    have hkind := hstaging.immediate p hp
    refine ⟨.immediate, false, ?_⟩
    rw [← hkind]
    refine (h.immediate p hp tag htag).extend fun since hsince => ?_
    rw [hkind]
    refine .immediate fun hmem => ?_
    rcases List.mem_append.mp hmem with hmem | hmem
    · exact hsince hmem
    · exact hnone _ hmem

/-- What `begin_epoch` hands over was deferred before the last `end_epoch`. -/
theorem VisibilityInv.beginEpoch (h : VisibilityInv router) (hstaging : StagingInv specs router) :
    VisibilityInv (router.beginEpoch clock).2 := by
  rcases router.beginEpoch_moves clock with ⟨events, hevents, hmoves⟩
  refine ⟨?_, ?_, ?_, ?_, ?_⟩
  all_goals simp only [hmoves.immediate, hmoves.next, hmoves.ready, hmoves.composite, hmoves.trace]
  · exact h.immediate_extend (hevents.not_returned (by simp))
  · exact h.next_extend _
  · intro p hp
    cases hp
  · exact h.composite_extend ⟨hevents.not_returned (by simp), hevents.not_returned (by simp)⟩
  · refine h.handed.commit hevents fun p hp tag htag pre hnone => ?_
    rcases h.ready p hp tag htag with ⟨composite, hstaged⟩
    refine ⟨p.kind, composite, hstaged.extend fun since hsince => ?_⟩
    exact .deferred (hstaging.ready p hp)
      (hsince.append fun _ hend => List.mem_append_left _ hend)

/-- What was deferred is ready now, for an `end_epoch` has returned. -/
theorem VisibilityInv.endEpoch (h : VisibilityInv router) : VisibilityInv router.endEpoch := by
  have hmoves := router.endEpoch_moves
  refine ⟨?_, ?_, ?_, ?_, ?_⟩
  all_goals simp only [hmoves.immediate, hmoves.next, hmoves.ready, hmoves.composite, hmoves.trace]
  · exact h.immediate_extend (by simp)
  · intro p hp
    cases hp
  · intro p hp tag htag
    rcases List.mem_append.mp hp with hp | hp
    · exact h.ready_extend _ p hp tag htag
    · -- this call is the end of the epoch that the publication waited for
      rcases h.next p hp tag htag with ⟨composite, hstaged⟩
      exact ⟨composite, hstaged.extend fun since hsince => hsince.append fun _ _ => by simp⟩
  · exact h.composite_extend ⟨by simp, by simp⟩
  · exact h.handed.quiet (by simp)

/-- A new region holds no output. -/
theorem VisibilityInv.beginCompositeRegion (h : VisibilityInv router) (components : List String) :
    VisibilityInv (router.beginCompositeRegion components) := by
  have hmoves := router.beginCompositeRegion_moves components
  refine ⟨?_, ?_, ?_, ?_, ?_⟩
  all_goals simp only [hmoves.immediate, hmoves.next, hmoves.ready, hmoves.composite, hmoves.trace]
  · exact h.immediate_extend (not_returned_clearEvents (by simp) _)
  · exact h.next_extend _
  · exact h.ready_extend _
  · intro s hs
    cases hs
  · exact h.handed.quiet (not_handed_clearEvents _ _)

/-- The outputs are released: some are handed over, the others wait for an epoch. -/
theorem VisibilityInv.commitCompositeRegionOutputs (h : VisibilityInv router)
    (hstaging : StagingInv specs router) :
    VisibilityInv (router.commitCompositeRegionOutputs clock).2 := by
  rcases router.commitCompositeRegionOutputs_moves clock with ⟨events, hevents, hmoves⟩
  refine ⟨?_, ?_, ?_, ?_, ?_⟩
  all_goals simp only [hmoves.immediate, hmoves.next, hmoves.ready, hmoves.composite, hmoves.trace]
  · exact h.immediate_extend (hevents.not_returned (by simp))
  · intro p hp tag htag
    rcases List.mem_append.mp hp with hp | hp
    · exact h.next_extend _ p hp tag htag
    · -- the return of this call releases the deferred outputs
      rcases mem_compositeOf.mp hp with ⟨s, hs, _, rfl⟩
      refine ⟨true, (h.composite s hs tag htag).extend fun since hsince => ?_⟩
      exact ⟨since ++ events, [], by simp, hsince.append hevents.noReturn.inRegion, trivial⟩
  · exact h.ready_extend _
  · intro s hs
    cases hs
  · refine h.handed.commit hevents fun p hp tag htag pre hnone => ?_
    rcases mem_compositeOf.mp hp with ⟨s, hs, hkind, rfl⟩
    have himmediate : s.publication.kind = .immediate := by
      rw [← hstaging.composite s hs]
      simpa using hkind
    refine ⟨.immediate, true, ?_⟩
    rw [← himmediate]
    refine (h.composite s hs tag htag).extend fun since hsince => ?_
    rw [himmediate]
    exact .compositeImmediate (hsince.append hnone.inRegion)

/-- What is discarded need not be timely. -/
theorem VisibilityInv.discardCompositeRegionOutputs (h : VisibilityInv router) :
    VisibilityInv router.discardCompositeRegionOutputs := by
  have hmoves := router.discardCompositeRegionOutputs_moves
  refine ⟨?_, ?_, ?_, ?_, ?_⟩
  all_goals simp only [hmoves.immediate, hmoves.next, hmoves.ready, hmoves.composite, hmoves.trace]
  · exact h.immediate_extend (not_returned_clearEvents (by simp) _)
  · exact h.next_extend _
  · exact h.ready_extend _
  · intro s hs
    cases hs
  · exact h.handed.quiet (not_handed_clearEvents _ _)

/-- The bus is used behind the router's back. -/
theorem VisibilityInv.useBus (h : VisibilityInv router) (op : BusOp) :
    VisibilityInv (router.useBus clock op) :=
  ⟨h.immediate, h.next, h.ready, h.composite, h.handed⟩

/-- What is refused is not staged. -/
theorem VisibilityInv.refused (h : VisibilityInv router) (hrefused : Refused router router') :
    VisibilityInv router' := by
  refine ⟨?_, ?_, ?_, ?_, ?_⟩
  all_goals simp only [hrefused.immediate, hrefused.next, hrefused.ready, hrefused.composite,
    hrefused.trace]
  · exact h.immediate
  · exact h.next
  · exact h.ready
  · exact h.composite
  · exact h.handed

/-- The publications that are left were staged when they were. -/
theorem VisibilityInv.thinned {dropped : List RuntimeChannelPublication}
    (h : VisibilityInv router) (hthinned : Thinned router router' dropped) :
    VisibilityInv router' := by
  -- a publication that is overwritten ends no call
  have hreturned : NoReturn (tagEvents .overwritten dropped) := fun call =>
    not_mem_tagEvents (by simp) _
  refine ⟨?_, ?_, ?_, ?_, ?_⟩
  all_goals rw [hthinned.trace]
  · rw [hthinned.immediate]
    exact h.immediate_extend (hreturned _)
  · exact fun p hp => h.next_extend _ p (hthinned.next.subset hp)
  · exact fun p hp => h.ready_extend _ p (hthinned.ready.subset hp)
  · exact fun s hs => h.composite_extend hreturned.inRegion s (hthinned.composite.subset hs)
  · exact h.handed.quiet fun tag channelId call => not_mem_tagEvents (by simp) _

/-- Nothing has happened yet to the publication staged last. -/
theorem stagedSince_last (trace : List TraceEvent) (tag : Nat) (channelId : String)
    (kind : EdgeKind) (composite : Bool) {P : List TraceEvent → Prop} (h : P []) :
    StagedSince (trace ++ [.staged tag channelId kind composite]) tag channelId kind composite P :=
  ⟨trace, [], rfl, h⟩

/-- The new publication was staged just now, and the others before. -/
theorem VisibilityInv.stage (h : VisibilityInv router) (edge : RoutedEdge) (publish : Publish) :
    VisibilityInv (router.stage edge (publicationFor publish edge)) := by
  have hquiet : NoReturn [TraceEvent.staged router.metrics.stagedCount edge.channelId edge.kind
      (router.leavesComposite edge)] := by
    intro call
    simp
  have hold := h.immediate_extend (hquiet .commitImmediate)
  have hregion := h.composite_extend hquiet.inRegion
  -- to the composite stage, to the immediate one, or to the next epoch
  rcases router.stage_cases edge (publicationFor publish edge) with
    ⟨hleaves, hadds⟩ | ⟨hleaves, himmediate, hadds⟩ | ⟨hleaves, hdeferred, hadds⟩
  all_goals
    refine ⟨?_, ?_, ?_, ?_, ?_⟩
    all_goals simp only [hadds.immediate, hadds.next, hadds.ready, hadds.composite, hadds.trace]
  · exact hold
  · exact h.next_extend _
  · exact h.ready_extend _
  · intro s hs tag htag
    rcases List.mem_append.mp hs with hs | hs
    · exact hregion s hs tag htag
    · rw [List.mem_singleton.mp hs] at htag ⊢
      cases htag
      rw [hleaves]
      exact stagedSince_last _ _ _ _ _ ⟨List.not_mem_nil, List.not_mem_nil⟩
  · exact h.handed.quiet (by simp)
  · intro p hp tag htag
    rcases List.mem_append.mp hp with hp | hp
    · exact hold p hp tag htag
    · rw [List.mem_singleton.mp hp] at htag ⊢
      cases htag
      rw [hleaves]
      exact stagedSince_last _ _ _ _ _ List.not_mem_nil
  · exact h.next_extend _
  · exact h.ready_extend _
  · exact hregion
  · exact h.handed.quiet (by simp)
  · exact hold
  · intro p hp tag htag
    rcases List.mem_append.mp hp with hp | hp
    · exact h.next_extend _ p hp tag htag
    · rw [List.mem_singleton.mp hp] at htag ⊢
      cases htag
      rw [hleaves]
      exact ⟨false, stagedSince_last _ _ _ _ _ trivial⟩
  · exact h.ready_extend _
  · exact hregion
  · exact h.handed.quiet (by simp)

theorem VisibilityInv.publish (h : VisibilityInv router) (sourceEndpoint : String)
    (payload : Option RuntimePayload) (metadata : InvocationMetadata)
    (eventTimestamp : Option EventTimestamp) :
    VisibilityInv
      (router.publishSharedFromWithMetadata sourceEndpoint payload metadata eventTimestamp).2 := by
  refine publish_invariant (fun _ publish _ r r' edge _ hadmission hr => ?_)
    (fun r r' hrefused hr => hr.refused hrefused) h
  rcases hadmission.thinned with ⟨dropped, hthinned⟩
  exact (hr.thinned hthinned).stage edge publish

/-- Every operation hands over in time. -/
theorem VisibilityInv.exec (h : VisibilityInv router) (hstaging : StagingInv specs router)
    (op : RouterOp) : VisibilityInv (op.exec clock router) := by
  cases op with
  | publish sourceEndpoint payload metadata eventTimestamp =>
      exact h.publish sourceEndpoint payload metadata eventTimestamp
  | beginEpoch => exact h.beginEpoch hstaging
  | commitImmediate => exact h.commitImmediate hstaging
  | endEpoch => exact h.endEpoch
  | beginCompositeRegion components => exact h.beginCompositeRegion components
  | commitCompositeRegionOutputs => exact h.commitCompositeRegionOutputs hstaging
  | discardCompositeRegionOutputs => exact h.discardCompositeRegionOutputs
  | useBus op => exact h.useBus op

theorem ofEdges_visibilityInv (channels : Option RuntimeChannelBus) (specs : List EdgeSpec) :
    VisibilityInv (.ofEdges channels specs) := by
  refine ⟨?_, ?_, ?_, ?_, ?_⟩
  · intro p hp
    cases hp
  · intro p hp
    cases hp
  · intro p hp
    cases hp
  · intro s hs
    cases hs
  · intro pre tag channelId call post hsplit
    exact absurd hsplit (by simp [ofEdges])

/-- A router has handed over in time whatever its operations were. -/
theorem reachable_visibilityInv {allowed : RuntimePublicationRouter → RouterOp → Prop}
    {channels : Option RuntimeChannelBus}
    (hreach : RouterReachable clock allowed channels specs router) : VisibilityInv router := by
  induction hreach with
  | init => exact ofEdges_visibilityInv channels specs
  | step op hreach _ ih => exact ih.exec (reachable_stagingInv hreach) op

end RuntimePublicationRouter

end TopoExec
