import TopoExec.Lib.History
import TopoExec.Router.Visibility

/-! # At most once, and in order

A publication number is either in the trace as handed over or on a waiting
publication, and in one place only. The numbers of one channel, those handed over
and then those waiting from the ready list to the composite stage, are increasing.
-/

namespace TopoExec

namespace RuntimePublicationRouter

/-! ## Numbers in the trace and in the lists -/

/-- The number that an event hands over, on the channels of `keep`. -/
def handedTag (keep : String → Bool) : TraceEvent → Option Nat
  | .handed tag channelId _ => if keep channelId then some tag else none
  | _ => none

def handedTags (keep : String → Bool) (trace : List TraceEvent) : List Nat :=
  trace.filterMap (handedTag keep)

/-- The number that an event stages. -/
def stagedTag : TraceEvent → Option Nat
  | .staged tag _ _ _ => some tag
  | _ => none

def stagedTags (trace : List TraceEvent) : List Nat := trace.filterMap stagedTag

def waitingTag (keep : String → Bool) (publication : RuntimeChannelPublication) : Option Nat :=
  if keep publication.id then publication.tag else none

def waitingTags (keep : String → Bool) (publications : List RuntimeChannelPublication) :
    List Nat :=
  publications.filterMap (waitingTag keep)

section

variable {keep : String → Bool} {call : RouterCall} {events : List TraceEvent}
  {publications : List RuntimeChannelPublication}

/-- The numbers handed over come in the order of the trace. -/
theorem handedTags_append (keep : String → Bool) (trace events : List TraceEvent) :
    handedTags keep (trace ++ events) = handedTags keep trace ++ handedTags keep events :=
  List.filterMap_append

theorem waitingTags_append (keep : String → Bool) (l l' : List RuntimeChannelPublication) :
    waitingTags keep (l ++ l') = waitingTags keep l ++ waitingTags keep l' :=
  List.filterMap_append

/-- A commit hands over the numbers of its publications, in their order. -/
theorem handedTags_handedEvents (keep : String → Bool) (call : RouterCall)
    (publications : List RuntimeChannelPublication) :
    handedTags keep (handedEvents call publications) = waitingTags keep publications := by
  unfold handedTags handedEvents waitingTags
  rw [List.filterMap_filterMap]
  congr 1
  funext p
  cases htag : p.tag <;> simp [waitingTag, handedTag, htag]

/-- Discarding and dropping hand nothing over. -/
theorem handedTags_tagEvents (keep : String → Bool) {event : Nat → TraceEvent}
    (hevent : ∀ tag, handedTag keep (event tag) = none)
    (publications : List RuntimeChannelPublication) :
    handedTags keep (tagEvents event publications) = [] := by
  unfold handedTags tagEvents
  rw [List.filterMap_filterMap, List.filterMap_eq_nil_iff]
  intro p _
  cases p.tag <;> simp [hevent]

theorem stagedTags_tagEvents {event : Nat → TraceEvent}
    (hevent : ∀ tag, stagedTag (event tag) = none)
    (publications : List RuntimeChannelPublication) :
    stagedTags (tagEvents event publications) = [] := by
  unfold stagedTags tagEvents
  rw [List.filterMap_filterMap, List.filterMap_eq_nil_iff]
  intro p _
  cases p.tag <;> simp [hevent]

/-- A commit hands over what it was given, or nothing. -/
theorem HandsOver.handedTags (h : HandsOver call publications events) (keep : String → Bool) :
    (RuntimePublicationRouter.handedTags keep (events ++ [.returned call])).Sublist
      (waitingTags keep publications) := by
  rw [handedTags_append]
  rcases h with rfl | rfl
  · exact List.nil_sublist _
  · rw [handedTags_handedEvents]
    simp [RuntimePublicationRouter.handedTags, handedTag]

/-- A commit stages nothing. -/
theorem HandsOver.stagedTags (h : HandsOver call publications events) :
    RuntimePublicationRouter.stagedTags (events ++ [.returned call]) = [] := by
  unfold RuntimePublicationRouter.stagedTags
  rw [List.filterMap_append]
  rcases h with rfl | rfl
  · rfl
  · unfold handedEvents
    rw [List.filterMap_filterMap, List.append_eq_nil_iff, List.filterMap_eq_nil_iff]
    refine ⟨fun p _ => ?_, rfl⟩
    cases p.tag <;> rfl

/-- What a failed commit clears is not handed over. -/
theorem handedTags_clearEvents (keep : String → Bool) (call : RouterCall)
    (publications : List RuntimeChannelPublication) :
    handedTags keep (clearEvents call publications) = [] := by
  unfold clearEvents
  rw [handedTags_append, handedTags_tagEvents keep (fun _ => rfl)]
  rfl

theorem stagedTags_clearEvents (call : RouterCall)
    (publications : List RuntimeChannelPublication) :
    stagedTags (clearEvents call publications) = [] := by
  unfold clearEvents stagedTags
  rw [List.filterMap_append]
  exact congrArg (· ++ []) (stagedTags_tagEvents (fun _ => rfl) publications)

/-- A number waits if a publication with it is held. -/
theorem mem_waitingTags {tag : Nat} :
    tag ∈ waitingTags keep publications ↔
      ∃ p ∈ publications, keep p.id = true ∧ p.tag = some tag := by
  unfold waitingTags waitingTag
  rw [List.mem_filterMap]
  refine exists_congr fun p => and_congr_right fun _ => ?_
  split_ifs with hkeep
  · simp [hkeep]
  · simp [hkeep]

end

/-! ## At most once -/

/-- How often a number was handed over or is waiting. -/
def tagCount (router : RuntimePublicationRouter) (tag : Nat) : Nat :=
  (handedTags (fun _ => true) router.trace).count tag +
    (waitingTags (fun _ => true) router.held).count tag

structure OnceInv (router : RuntimePublicationRouter) : Prop where
  once : ∀ tag, router.tagCount tag ≤ 1
  bounded : ∀ tag ∈ handedTags (fun _ => true) router.trace, tag < router.metrics.stagedCount
  inOrder : stagedTags router.trace = List.range router.metrics.stagedCount

variable {router router' : RuntimePublicationRouter} {specs : List EdgeSpec} {clock : Nat → Int}

/-- Every number that waits was given before. -/
theorem StagingInv.waiting_lt (hstaging : StagingInv specs router) (keep : String → Bool) :
    ∀ tag ∈ waitingTags keep router.held, tag < router.metrics.stagedCount := by
  intro tag htag
  rcases mem_waitingTags.mp htag with ⟨p, hp, _, hpt⟩
  rcases (hstaging.numbered p hp).tag with ⟨tag', htag', hlt⟩
  rw [hpt] at htag'
  cases htag'
  exact hlt

/-- A number is staged once. -/
theorem OnceInv.staged_unique (h : OnceInv router) {tag : Nat} {channelId channelId' : String}
    {kind kind' : EdgeKind} {composite composite' : Bool}
    {before before' after after' : List TraceEvent}
    (hstaged : router.trace = before ++ .staged tag channelId kind composite :: after)
    (hstaged' : router.trace = before' ++ .staged tag channelId' kind' composite' :: after') :
    before' = before ∧ kind' = kind ∧ composite' = composite ∧ after' = after := by
  have hnodup : (stagedTags router.trace).Nodup := by
    rw [h.inOrder]
    exact List.nodup_range
  have htwice : ∀ {pre between post : List TraceEvent} {id id' : String} {k k' : EdgeKind}
      {c c' : Bool}, router.trace = pre ++ .staged tag id k c ::
        (between ++ .staged tag id' k' c' :: post) → False := by
    intro pre between post id id' k k' c c' hsplit
    rw [hsplit] at hnodup
    simp only [stagedTags, List.filterMap_append, List.filterMap_cons, stagedTag] at hnodup
    have hparts := (List.nodup_append.mp hnodup).2.1
    exact (List.nodup_cons.mp hparts).1 (List.mem_append_right _ (List.mem_cons_self ..))
  rcases History.split_trichotomy (hstaged.symm.trans hstaged') with
    ⟨between, _, rfl⟩ | ⟨rfl, heq, rfl⟩ | ⟨between, _, rfl⟩
  · exact (htwice hstaged).elim
  · cases heq
    exact ⟨rfl, rfl, rfl, rfl⟩
  · exact (htwice hstaged').elim

/-- An operation that takes what it hands over out of the lists. -/
theorem OnceInv.moves {immediate next ready : List RuntimeChannelPublication}
    {composite : List StagedRoutedPublication} {active : List String} {events : List TraceEvent}
    (h : OnceInv router) (hstaging : StagingInv specs router)
    (hmoves : Moves router router' immediate next ready composite active events)
    (hstaged : stagedTags events = [])
    (hcount : ∀ tag, (handedTags (fun _ => true) events).count tag +
      ((waitingTags (fun _ => true) ready).count tag +
        (waitingTags (fun _ => true) next).count tag +
        (waitingTags (fun _ => true) immediate).count tag +
        (waitingTags (fun _ => true)
          (composite.map StagedRoutedPublication.publication)).count tag) ≤
      (waitingTags (fun _ => true) router.held).count tag) : OnceInv router' := by
  refine ⟨fun tag => ?_, ?_, ?_⟩
  -- a number that is handed over is gone from the lists
  · have hle := hcount tag
    have hold := h.once tag
    unfold tagCount at hold ⊢
    unfold held
    rw [hmoves.trace, hmoves.ready, hmoves.next, hmoves.immediate, hmoves.composite,
      handedTags_append]
    simp only [waitingTags_append, List.count_append]
    omega
  · intro tag htag
    rw [hmoves.trace, handedTags_append] at htag
    rw [hmoves.staged]
    rcases List.mem_append.mp htag with htag | htag
    · exact h.bounded tag htag
    · refine hstaging.waiting_lt (fun _ => true) tag ?_
      have hle := hcount tag
      have hpos := List.count_pos_iff.mpr htag
      exact List.count_pos_iff.mp (by omega)
  · rw [hmoves.trace, hmoves.staged, ← h.inOrder]
    unfold stagedTags
    rw [List.filterMap_append]
    exact (congrArg _ hstaged).trans (List.append_nil _)

/-- The outputs of a region are the immediate ones and the deferred ones. -/
theorem count_compositeOf (router : RuntimePublicationRouter) (keep : String → Bool) (tag : Nat) :
    (waitingTags keep (router.compositeOf true)).count tag +
        (waitingTags keep (router.compositeOf false)).count tag =
      (waitingTags keep
        (router.compositeExternalStage.map StagedRoutedPublication.publication)).count tag := by
  have hperm : (router.compositeOf true ++ router.compositeOf false).Perm
      (router.compositeExternalStage.map StagedRoutedPublication.publication) := by
    unfold compositeOf
    rw [← List.map_append]
    refine List.Perm.map _ ?_
    have hnot : (fun staged : StagedRoutedPublication =>
        decide (staged.kind = .immediate) == false) =
          fun staged => !(decide (staged.kind = .immediate) == true) := by
      funext staged
      cases decide (staged.kind = .immediate) <;> rfl
    rw [hnot]
    exact List.filter_append_perm _ _
  rw [← List.count_append, ← waitingTags_append]
  exact (hperm.filterMap _).count_eq tag

/-- The numbers that wait are those of the four lists. -/
theorem count_held (router : RuntimePublicationRouter) (keep : String → Bool) (tag : Nat) :
    (waitingTags keep router.held).count tag =
      (waitingTags keep router.deferredReady).count tag +
        (waitingTags keep router.deferredNextEpoch).count tag +
        (waitingTags keep router.immediateStage).count tag +
        (waitingTags keep
          (router.compositeExternalStage.map StagedRoutedPublication.publication)).count tag := by
  unfold held
  simp only [waitingTags_append, List.count_append]

/-- A number that is dropped is in no list afterwards. -/
theorem OnceInv.thinned {dropped : List RuntimeChannelPublication} (h : OnceInv router)
    (hthinned : Thinned router router' dropped) : OnceInv router' := by
  have hhanded : handedTags (fun _ => true) router'.trace =
      handedTags (fun _ => true) router.trace := by
    rw [hthinned.trace, handedTags_append, handedTags_tagEvents _ (fun _ => rfl), List.append_nil]
  refine ⟨fun tag => ?_, ?_, ?_⟩
  · refine le_trans ?_ (h.once tag)
    unfold tagCount
    rw [hhanded, count_held, count_held, hthinned.immediate]
    have hready := (hthinned.ready.filterMap (waitingTag fun _ => true)).count_le tag
    have hnext := (hthinned.next.filterMap (waitingTag fun _ => true)).count_le tag
    have hcomposite := ((hthinned.composite.map StagedRoutedPublication.publication).filterMap
      (waitingTag fun _ => true)).count_le tag
    unfold waitingTags
    omega
  · rw [hhanded, hthinned.staged]
    exact h.bounded
  · rw [hthinned.trace, hthinned.staged, ← h.inOrder]
    unfold stagedTags
    rw [List.filterMap_append]
    exact (congrArg _ (stagedTags_tagEvents (fun _ => rfl) dropped)).trans (List.append_nil _)

/-- The number that is staged is new, so it was neither handed over nor does it wait. -/
theorem OnceInv.stage (h : OnceInv router) (hstaging : StagingInv specs router)
    (edge : RoutedEdge) (publish : Publish) :
    OnceInv (router.stage edge (publicationFor publish edge)) := by
  -- the new number is neither in the trace nor in the lists
  have hhanded : (handedTags (fun _ => true) router.trace).count router.metrics.stagedCount = 0 :=
    List.count_eq_zero.mpr fun hmem => Nat.lt_irrefl _ (h.bounded _ hmem)
  have hwaiting : (waitingTags (fun _ => true) router.held).count router.metrics.stagedCount = 0 :=
    List.count_eq_zero.mpr fun hmem => Nat.lt_irrefl _ (hstaging.waiting_lt _ _ hmem)
  have hnew : waitingTags (fun _ => true) [router.numbered (publicationFor publish edge)] =
      [router.metrics.stagedCount] := rfl
  have hadds : ∃ immediate next composite,
      Adds router (router.stage edge (publicationFor publish edge)) edge immediate next composite ∧
        ∀ tag, (waitingTags (fun _ => true) router.deferredReady).count tag +
            (waitingTags (fun _ => true) next).count tag +
            (waitingTags (fun _ => true) immediate).count tag +
            (waitingTags (fun _ => true)
              (composite.map StagedRoutedPublication.publication)).count tag =
          (waitingTags (fun _ => true) router.held).count tag +
            [router.metrics.stagedCount].count tag := by
    rcases router.stage_cases edge (publicationFor publish edge) with
      ⟨_, hadds⟩ | ⟨_, _, hadds⟩ | ⟨_, _, hadds⟩
    all_goals
      refine ⟨_, _, _, hadds, fun tag => ?_⟩
      simp only [count_held, List.map_append, List.map_cons, List.map_nil, waitingTags_append,
        List.count_append, hnew]
      omega
  rcases hadds with ⟨immediate, next, composite, hadds, hcount⟩
  have htrace : handedTags (fun _ => true)
      (router.stage edge (publicationFor publish edge)).trace =
        handedTags (fun _ => true) router.trace := by
    rw [hadds.trace, handedTags_append]
    exact List.append_nil _
  refine ⟨fun tag => ?_, ?_, ?_⟩
  · have hold := h.once tag
    unfold tagCount at hold ⊢
    rw [htrace, count_held, hadds.ready, hadds.next, hadds.immediate, hadds.composite, hcount]
    rcases Decidable.em (router.metrics.stagedCount = tag) with rfl | hne
    · rw [hhanded, hwaiting, List.count_singleton_self]
    · rw [List.count_singleton, if_neg (by simpa using hne)]
      omega
  · intro tag htag
    rw [htrace] at htag
    rw [hadds.staged]
    exact Nat.lt_succ_of_lt (h.bounded tag htag)
  · rw [hadds.trace, hadds.staged, List.range_succ, ← h.inOrder]
    unfold stagedTags
    rw [List.filterMap_append]
    rfl

/-- A refused publish gives no number. -/
theorem OnceInv.refused (h : OnceInv router) (hrefused : Refused router router') :
    OnceInv router' := by
  refine ⟨fun tag => ?_, ?_, ?_⟩
  · have hold := h.once tag
    unfold tagCount at hold ⊢
    rw [count_held] at hold ⊢
    rw [hrefused.trace, hrefused.ready, hrefused.next, hrefused.immediate, hrefused.composite]
    exact hold
  · rw [hrefused.trace, hrefused.staged]
    exact h.bounded
  · rw [hrefused.trace, hrefused.staged]
    exact h.inOrder

theorem OnceInv.publish (h : OnceInv router) (hstaging : StagingInv specs router)
    (sourceEndpoint : String) (payload : Option RuntimePayload) (metadata : InvocationMetadata)
    (eventTimestamp : Option EventTimestamp) :
    OnceInv
      (router.publishSharedFromWithMetadata sourceEndpoint payload metadata eventTimestamp).2 := by
  refine (publish_invariant (P := fun r => StagingInv specs r ∧ OnceInv r)
    (fun edges publish hedges r r' edge hedge hadmission hr => ?_)
    (fun r r' hrefused hr => ⟨hr.1.refused hrefused, hr.2.refused hrefused⟩) ⟨hstaging, h⟩).2
  rw [hstaging.sources] at hedges
  rcases mem_edgesOfSource hedges hedge with ⟨spec, hspec, _, rfl⟩
  rcases hadmission.thinned with ⟨dropped, hthinned⟩
  have hthin := hr.1.thinned hthinned
  exact ⟨hthin.stage hspec publish, (hr.2.thinned hthinned).stage hthin _ publish⟩

/-- No operation hands a number over that was handed over before, or that waits on afterwards. -/
theorem OnceInv.exec (h : OnceInv router) (hstaging : StagingInv specs router) (op : RouterOp) :
    OnceInv (op.exec clock router) := by
  -- each call takes from its lists what it hands over, or leaves it
  cases op with
  | publish sourceEndpoint payload metadata eventTimestamp =>
      exact h.publish hstaging sourceEndpoint payload metadata eventTimestamp
  | beginEpoch =>
      rcases router.beginEpoch_moves clock with ⟨events, hevents, hmoves⟩
      refine h.moves hstaging hmoves hevents.stagedTags fun tag => ?_
      have hhanded := (hevents.handedTags fun _ => true).count_le tag
      rw [count_held]
      simp only [waitingTags, List.filterMap_nil, List.count_nil] at *
      omega
  | commitImmediate =>
      rcases router.commitImmediate_moves clock with ⟨events, hevents, hmoves⟩
      refine h.moves hstaging hmoves hevents.stagedTags fun tag => ?_
      have hhanded := (hevents.handedTags fun _ => true).count_le tag
      rw [count_held]
      simp only [waitingTags, List.filterMap_nil, List.count_nil] at *
      omega
  | endEpoch =>
      refine h.moves hstaging router.endEpoch_moves rfl fun tag => ?_
      rw [count_held, waitingTags_append, List.count_append]
      simp only [handedTags, handedTag, waitingTags, List.filterMap_cons, List.filterMap_nil,
        List.count_nil]
      omega
  | beginCompositeRegion components =>
      refine h.moves hstaging (router.beginCompositeRegion_moves components)
        (stagedTags_clearEvents _ _) fun tag => ?_
      have hhanded := handedTags_clearEvents (fun _ => true) .beginComposite
        (router.compositeExternalStage.map StagedRoutedPublication.publication)
      unfold clearEvents at hhanded
      rw [hhanded, count_held]
      simp only [waitingTags, List.map_nil, List.filterMap_nil, List.count_nil]
      omega
  | commitCompositeRegionOutputs =>
      rcases router.commitCompositeRegionOutputs_moves clock with ⟨events, hevents, hmoves⟩
      refine h.moves hstaging hmoves hevents.stagedTags fun tag => ?_
      have hhanded := (hevents.handedTags fun _ => true).count_le tag
      rw [count_held, ← count_compositeOf, waitingTags_append, List.count_append]
      simp only [waitingTags, List.map_nil, List.filterMap_nil, List.count_nil] at *
      omega
  | discardCompositeRegionOutputs =>
      refine h.moves hstaging router.discardCompositeRegionOutputs_moves
        (stagedTags_clearEvents _ _) fun tag => ?_
      have hhanded := handedTags_clearEvents (fun _ => true) .discardComposite
        (router.compositeExternalStage.map StagedRoutedPublication.publication)
      unfold clearEvents at hhanded
      rw [hhanded, count_held]
      simp only [waitingTags, List.map_nil, List.filterMap_nil, List.count_nil]
      omega
  | useBus op =>
      refine h.moves hstaging (router.useBus_moves op) rfl fun tag => ?_
      rw [count_held]
      simp [handedTags]

theorem ofEdges_onceInv (channels : Option RuntimeChannelBus) (specs : List EdgeSpec) :
    OnceInv (.ofEdges channels specs) := by
  refine ⟨fun tag => Nat.zero_le _, fun tag htag => ?_, rfl⟩
  cases htag

theorem reachable_onceInv {allowed : RuntimePublicationRouter → RouterOp → Prop}
    {channels : Option RuntimeChannelBus}
    (hreach : RouterReachable clock allowed channels specs router) : OnceInv router := by
  induction hreach with
  | init => exact ofEdges_onceInv channels specs
  | step op hreach _ ih => exact ih.exec (reachable_stagingInv hreach) op

end RuntimePublicationRouter

end TopoExec
