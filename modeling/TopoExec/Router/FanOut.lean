import TopoExec.Router.Staging

/-! # Fan-out of a publish call

`publish_shared_from_with_metadata` stages edge after edge and stops at the first
async edge that refuses. Nothing takes the edges before it back, so a rejected
call is without effect exactly when the refusing edge is the first one.

Which edge refuses is decided by the ids of the async publications in flight
before the call and by the bounds of the edges: `refusedAt` computes it from
these alone.
-/

namespace TopoExec

/-! ## Admission on ids in flight -/

/-- The publications that count against the bound of a channel. -/
def inFlight (channelId : String) (ids : List String) : Nat :=
  ids.countP fun id => channelId = "" || id = channelId

def RoutedEdge.refusesWith (edge : RoutedEdge) (ids : List String) : Bool :=
  edge.kind = .async && edge.full (inFlight edge.channelId ids) && !edge.overwrites

/-- The ids in flight after the edge has admitted its publication; a full edge
drops one of its own first. -/
def RoutedEdge.admitId (edge : RoutedEdge) (ids : List String) : List String :=
  if edge.kind ≠ .async then ids
  else if edge.full (inFlight edge.channelId ids) then edge.channelId :: ids.erase edge.channelId
  else edge.channelId :: ids

/-- The position of the first edge that refuses. -/
def refusedAt : List String → List RoutedEdge → Option Nat
  | _, [] => none
  | ids, edge :: rest =>
      if edge.refusesWith ids then some 0 else (refusedAt (edge.admitId ids) rest).map (· + 1)

/-- How many are in flight is a matter of the ids, not of their order. -/
theorem inFlight_perm {channelId : String} {ids ids' : List String} (h : ids.Perm ids') :
    inFlight channelId ids = inFlight channelId ids' :=
  h.countP_eq _

/-- An admission erases the id of the oldest and adds one, wherever they stand. -/
theorem RoutedEdge.admitId_perm (edge : RoutedEdge) {ids ids' : List String} (h : ids.Perm ids') :
    (edge.admitId ids).Perm (edge.admitId ids') := by
  unfold admitId
  rw [inFlight_perm h]
  split_ifs
  · exact h
  · exact (h.erase _).cons _
  · exact h.cons _

namespace RuntimePublicationRouter

variable {router router' : RuntimePublicationRouter} {specs : List EdgeSpec}

/-- The ids of the async publications in flight. -/
def pendingIds (router : RuntimePublicationRouter) : List String :=
  (router.deferredNextEpoch.filter fun p => p.kind = .async).map RuntimeChannelPublication.id ++
    (router.deferredReady.filter fun p => p.kind = .async).map RuntimeChannelPublication.id ++
    (router.compositeExternalStage.filter fun s => s.kind = .async).map fun s => s.publication.id

/-- `pending_async_count_locked` counts the pending ids. -/
theorem pendingAsyncCount_pendingIds (router : RuntimePublicationRouter) (channelId : String) :
    router.pendingAsyncCount channelId = inFlight channelId router.pendingIds := by
  unfold pendingAsyncCount inFlight pendingIds isPendingAsync
  simp only [List.countP_append, List.countP_map, List.countP_filter, Function.comp_def]
  congr 2
  all_goals
    congr 1
    funext p
    exact Bool.and_comm _ _

/-- Whether an edge refuses is decided by the pending ids alone. -/
theorem refuses_eq_refusesWith (router : RuntimePublicationRouter) (edge : RoutedEdge) :
    router.refuses edge = edge.refusesWith router.pendingIds := by
  unfold refuses RoutedEdge.refusesWith
  rw [pendingAsyncCount_pendingIds]

theorem isAsyncOf_iff {channelId : String} {p : RuntimeChannelPublication} :
    isAsyncOf channelId p = true ↔ p.kind = .async ∧ p.id = channelId := by
  simp [isAsyncOf]

/-- A drop takes one id out. -/
theorem Drops.cons_pendingIds {channelId : String} (h : Drops channelId router router')
    (hstaging : StagingInv specs router) :
    (channelId :: router'.pendingIds).Perm router.pendingIds := by
  cases h with
  | ready hlist hdropped _ =>
      rcases isAsyncOf_iff.mp hdropped with ⟨hkind, hid⟩
      simp only [RuntimePublicationRouter.pendingIds, hlist, List.filter_append, hkind,
        List.filter_cons_of_pos, decide_true, List.map_append, List.map_cons, hid,
        List.append_assoc, List.cons_append]
      refine List.Perm.trans ?_ (List.perm_append_left_iff _ |>.mpr List.perm_middle.symm)
      exact List.perm_middle.symm
  | next _ hlist hdropped _ =>
      rcases isAsyncOf_iff.mp hdropped with ⟨hkind, hid⟩
      simp only [RuntimePublicationRouter.pendingIds, hlist, List.filter_append, hkind,
        List.filter_cons_of_pos, decide_true, List.map_append, List.map_cons, hid,
        List.append_assoc, List.cons_append]
      exact List.perm_middle.symm
  | composite _ _ hlist hdropped _ =>
      rcases isAsyncOf_iff.mp hdropped with ⟨hkind, hid⟩
      have hstaged := hstaging.composite _
        (hlist ▸ List.mem_append_right _ (List.mem_cons_self ..))
      rw [hkind] at hstaged
      simp only [RuntimePublicationRouter.pendingIds, hlist, List.filter_append, hstaged,
        List.filter_cons_of_pos, decide_true, List.map_append, List.map_cons, hid]
      rw [← List.append_assoc, ← List.append_assoc]
      exact List.perm_middle.symm

/-- Dropping the oldest takes one of its ids away. -/
theorem Drops.pendingIds {channelId : String} (h : Drops channelId router router')
    (hstaging : StagingInv specs router) :
    router'.pendingIds.Perm (router.pendingIds.erase channelId) :=
  (List.cons_perm_iff_perm_erase.mp (h.cons_pendingIds hstaging)).2

/-- Where no list has a publication of the channel, none is pending. -/
theorem not_mem_pendingIds {channelId : String} (hstaging : StagingInv specs router)
    (hready : ∀ p ∈ router.deferredReady, isAsyncOf channelId p = false)
    (hnext : ∀ p ∈ router.deferredNextEpoch, isAsyncOf channelId p = false)
    (hstage : ∀ p ∈ router.compositeExternalStage, isAsyncOf channelId p.publication = false) :
    channelId ∉ router.pendingIds := by
  have hneither : ∀ {p : RuntimeChannelPublication}, isAsyncOf channelId p = false →
      p.kind = .async → p.id ≠ channelId := by
    intro p hp hkind hid
    rw [isAsyncOf_iff.mpr ⟨hkind, hid⟩] at hp
    cases hp
  intro hmem
  simp only [pendingIds, List.mem_append, List.mem_map, List.mem_filter, decide_eq_true_eq]
    at hmem
  rcases hmem with (⟨p, ⟨hp, hkind⟩, hid⟩ | ⟨p, ⟨hp, hkind⟩, hid⟩) | ⟨s, ⟨hs, hkind⟩, hid⟩
  · exact hneither (hnext p hp) hkind hid
  · exact hneither (hready p hp) hkind hid
  · rw [hstaging.composite s hs] at hkind
    exact hneither (hstage s hs) hkind hid

/-- Staging on an async edge adds its id, and on any other edge nothing. -/
theorem pendingIds_stage (router : RuntimePublicationRouter) (edge : RoutedEdge)
    (publish : Publish) :
    (router.stage edge (publicationFor publish edge)).pendingIds.Perm
      (if edge.kind = .async then edge.channelId :: router.pendingIds else router.pendingIds) := by
  have hkind : (router.numbered (publicationFor publish edge)).kind = edge.kind := rfl
  have hid : (router.numbered (publicationFor publish edge)).id = edge.channelId := rfl
  rcases router.stage_cases edge (publicationFor publish edge) with
    ⟨_, h⟩ | ⟨_, himmediate, h⟩ | ⟨_, _, h⟩
  · simp only [pendingIds, h.next, h.ready, h.composite, List.filter_append]
    split_ifs with hasync
    · simp only [hasync, List.filter_singleton, decide_true, cond_true, List.map_append,
        List.map_cons, List.map_nil, hid]
      rw [← List.append_assoc]
      exact List.perm_append_singleton _ _
    · simp [hasync]
  · rw [if_neg (by simp [himmediate])]
    simp only [pendingIds, h.next, h.ready, h.composite]
    exact List.Perm.refl _
  · simp only [pendingIds, h.next, h.ready, h.composite, List.filter_append]
    split_ifs with hasync
    · simp only [hasync, List.filter_singleton, hkind, decide_true, cond_true, List.map_append,
        List.map_cons, List.map_nil, hid, List.append_assoc, List.singleton_append]
      exact List.perm_middle
    · simp [hasync, hkind]

/-- An admitted publication leaves the ids that `admitId` computes. -/
theorem Admission.pendingIds_stage {edge : RoutedEdge} (h : Admission edge router router')
    (hstaging : StagingInv specs router) (publish : Publish) :
    (router'.stage edge (publicationFor publish edge)).pendingIds.Perm
      (edge.admitId router.pendingIds) := by
  refine (router'.pendingIds_stage edge publish).trans ?_
  unfold RoutedEdge.admitId
  rw [← pendingAsyncCount_pendingIds]
  cases h with
  | plain hkind => rw [if_neg hkind, if_pos hkind]
  | room hkind hroom =>
      rw [if_pos hkind, if_neg (not_not.mpr hkind), if_neg (by simp [hroom])]
      exact List.Perm.refl _
  | dropped hkind hfull hdrops =>
      rw [if_pos hkind, if_neg (not_not.mpr hkind), if_pos hfull]
      exact (hdrops.pendingIds hstaging).cons _
  | nothing hkind hfull hready hnext hstage =>
      rw [if_pos hkind, if_neg (not_not.mpr hkind), if_pos hfull,
        List.erase_of_not_mem (not_mem_pendingIds hstaging hready hnext hstage)]
      exact List.Perm.refl _

/-! ## The outcome of a publish call -/

/-- The state holds a publication staged after `count` others. -/
def HoldsFrom (router : RuntimePublicationRouter) (count : Nat) : Prop :=
  ∃ p ∈ router.held, ∃ tag, p.tag = some tag ∧ count ≤ tag

/-- The outcome of the loop, by the position of the edge that refuses. -/
structure FanOut (router : RuntimePublicationRouter) (position : Option Nat) (accepted : Bool)
    (router' : RuntimePublicationRouter) : Prop where
  accepted_iff : accepted = true ↔ position = none
  first : position = some 0 → Refused router router'
  later : ∀ n, position = some (n + 1) → HoldsFrom router' router.metrics.stagedCount

theorem Refused.held (h : Refused router router') : router'.held = router.held := by
  unfold RuntimePublicationRouter.held
  rw [h.ready, h.next, h.immediate, h.composite]

/-- The loop over the edges goes on until the first that refuses, and what it staged before stays
staged. -/
theorem publishEdges_fanOut {publish : Publish} {edges : List RoutedEdge}
    (hedges : ∀ edge ∈ edges, ∃ spec ∈ specs, edge = .ofSpec spec)
    (hstaging : StagingInv specs router) {ids : List String}
    (hids : ids.Perm router.pendingIds) :
    FanOut router (refusedAt ids edges) (publishEdges publish edges router).1.accepted
      (publishEdges publish edges router).2 := by
  induction edges generalizing router ids with
  | nil => exact ⟨by simp [publishEdges, refusedAt], by simp [refusedAt], by simp [refusedAt]⟩
  | cons edge rest ih =>
      have hrefuses : edge.refusesWith ids = router.refuses edge := by
        rw [refuses_eq_refusesWith]
        unfold RoutedEdge.refusesWith
        rw [inFlight_perm hids]
      unfold publishEdges refusedAt
      dsimp only
      rw [hrefuses]
      rcases router.admitAsync_cases edge with
        ⟨haccepted, hadmits, hadmission⟩ | ⟨hrejected, hrefused, hsame⟩
      · rw [if_pos haccepted, hadmits, if_neg (by simp)]
        rcases hedges edge (List.mem_cons_self ..) with ⟨spec, hspec, hedge⟩
        rcases hadmission.thinned with ⟨dropped, hthinned⟩
        have hstaged := (hstaging.thinned hthinned).stage hspec publish
        rw [← hedge] at hstaged
        have hperm := (edge.admitId_perm hids).trans
          (hadmission.pendingIds_stage hstaging publish).symm
        have hrest := ih (fun e he => hedges e (List.mem_cons_of_mem _ he)) hstaged hperm
        have hcount : router.metrics.stagedCount ≤
            ((router.admitAsync edge).2.stage edge
              (publicationFor publish edge)).metrics.stagedCount
            := by
          rcases stage_cases _ edge (publicationFor publish edge) with
            ⟨_, h⟩ | ⟨_, _, h⟩ | ⟨_, _, h⟩
          all_goals
            rw [h.staged, hthinned.staged]
            exact Nat.le_succ _
        refine ⟨?_, ?_, ?_⟩
        · rw [hrest.accepted_iff, Option.map_eq_none_iff]
        · intro hzero
          simp at hzero
        · intro n hn
          rcases Option.map_eq_some_iff.mp hn with ⟨m, hm, hmn⟩
          cases m with
          | zero =>
              -- the next edge refuses, so the publication of this one is still there
              refine ⟨_, (hrest.first hm).held ▸ mem_held_stage_iff.mpr (Or.inr rfl), _, rfl, ?_⟩
              rw [hthinned.staged]
          | succ m =>
              rcases hrest.later m hm with ⟨p, hp, tag, htag, hle⟩
              exact ⟨p, hp, tag, htag, le_trans hcount hle⟩
      · rw [hrefused, if_pos rfl, if_neg (by simp [hrejected])]
        exact ⟨by simp [hrejected], fun _ => hsame, by simp⟩

/-- The four lists are as they were. -/
def SameLists (router router' : RuntimePublicationRouter) : Prop :=
  router'.immediateStage = router.immediateStage ∧
    router'.deferredNextEpoch = router.deferredNextEpoch ∧
    router'.deferredReady = router.deferredReady ∧
    router'.compositeExternalStage = router.compositeExternalStage

/-- With the same lists the same publications are held. -/
theorem SameLists.held (h : SameLists router router') : router'.held = router.held := by
  rcases h with ⟨himmediate, hnext, hready, hcomposite⟩
  unfold RuntimePublicationRouter.held
  rw [himmediate, hnext, hready, hcomposite]

/-- A publication with a number from `staged_count` on is not one of the state
before. -/
theorem StagingInv.not_sameLists (hstaging : StagingInv specs router)
    (hnew : HoldsFrom router' router.metrics.stagedCount) : ¬ SameLists router router' := by
  intro hsame
  rcases hnew with ⟨p, hp, tag, htag, hle⟩
  rw [hsame.held] at hp
  rcases (hstaging.numbered p hp).tag with ⟨tag', htag', hlt⟩
  rw [htag] at htag'
  cases htag'
  exact absurd hle (Nat.not_le.mpr hlt)

end RuntimePublicationRouter

open RuntimePublicationRouter

/-- A rejected publish call leaves the four lists as they were if and only if no
edge after the first one of the fan-out is the first to refuse. -/
theorem rejected_publish_atomic_iff {clock : Nat → Int}
    {allowed : RuntimePublicationRouter → RouterOp → Prop} {channels : Option RuntimeChannelBus}
    {specs : List EdgeSpec} {router : RuntimePublicationRouter}
    (hreach : RouterReachable clock allowed channels specs router) (sourceEndpoint : String)
    (payload : Option RuntimePayload) (metadata : InvocationMetadata)
    (eventTimestamp : Option EventTimestamp) :
    ((router.publishSharedFromWithMetadata sourceEndpoint payload metadata
          eventTimestamp).1.accepted = false →
        SameLists router (router.publishSharedFromWithMetadata sourceEndpoint payload metadata
          eventTimestamp).2) ↔
      (payload = none ∨ edgesOfSource specs sourceEndpoint = none ∨
        ∃ edges, edgesOfSource specs sourceEndpoint = some edges ∧
          ∀ n, refusedAt router.pendingIds edges ≠ some (n + 1)) := by
  have hstaging := reachable_stagingInv hreach
  unfold publishSharedFromWithMetadata
  rw [hstaging.sources]
  cases payload with
  | none => exact ⟨fun _ => Or.inl rfl, fun _ _ => ⟨rfl, rfl, rfl, rfl⟩⟩
  | some payload =>
      dsimp only
      cases hedges : edgesOfSource specs sourceEndpoint with
      | none => exact ⟨fun _ => Or.inr (Or.inl rfl), fun _ _ => ⟨rfl, rfl, rfl, rfl⟩⟩
      | some edges =>
          dsimp only
          have hspecs : ∀ edge ∈ edges, ∃ spec ∈ specs, edge = .ofSpec spec := by
            intro edge hedge
            rcases mem_edgesOfSource hedges hedge with ⟨spec, hspec, _, rfl⟩
            exact ⟨spec, hspec, rfl⟩
          generalize (⟨sourceEndpoint, payload, metadata, eventTimestamp⟩ : Publish) = publish
          have hfan : FanOut router (refusedAt router.pendingIds edges)
              (publishEdges publish edges router).1.accepted
              (publishEdges publish edges router).2 :=
            publishEdges_fanOut hspecs hstaging (List.Perm.refl _)
          constructor
          · intro hatomic
            refine Or.inr (Or.inr ⟨edges, rfl, fun n hn => ?_⟩)
            refine hstaging.not_sameLists (hfan.later n hn) (hatomic ?_)
            rw [Bool.eq_false_iff, ne_eq, hfan.accepted_iff, hn]
            simp
          · rintro (hnone | hnone | ⟨_, hsome, hlater⟩) hrejected
            · cases hnone
            · cases hnone
            · cases hsome
              -- the call was rejected, so an edge refused, and it was the first
              cases hposition : refusedAt router.pendingIds edges with
              | none =>
                  rw [hfan.accepted_iff.mpr hposition] at hrejected
                  cases hrejected
              | some n =>
                  cases n with
                  | zero =>
                      have hrefused := hfan.first hposition
                      exact ⟨hrefused.immediate, hrefused.next, hrefused.ready,
                        hrefused.composite⟩
                  | succ n => exact absurd hposition (hlater n)

/-- A sensor that asks for a solution with one request in flight at a time. -/
def requestEdge : EdgeSpec where
  id := "requests"
  fromEndpoint := "sensor.out"
  toEndpoint := "solver.in"
  kind := .async
  policy := { maxInflight := 1, overflow := "drop_newest" }

def frameEdge : EdgeSpec where
  id := "frames"
  fromEndpoint := "sensor.out"
  toEndpoint := "viewer.in"

/-- The router after one publish call of the sensor. -/
def busyRouter (specs : List EdgeSpec) : RuntimePublicationRouter :=
  RouterOp.exec (fun n => n)
    (.ofEdges (some (.ofEdges specs)) specs) (.publish "sensor.out" (some {}) {} none)

/-- The router of the example comes of its operations. -/
theorem busyRouter_reachable (specs : List EdgeSpec) :
    RouterReachable (fun n => n) (fun _ _ => True) (some (.ofEdges specs)) specs
      (busyRouter specs) :=
  .step _ .init trivial

/-- With the request edge first, the rejected call is without effect. -/
theorem request_first_rejects_whole :
    ((busyRouter [requestEdge, frameEdge]).publishSharedFromWithMetadata "sensor.out"
        (some {})).1.accepted = false ∧
      SameLists (busyRouter [requestEdge, frameEdge])
        ((busyRouter [requestEdge, frameEdge]).publishSharedFromWithMetadata "sensor.out"
          (some {})).2 := by
  have hrejected : ((busyRouter [requestEdge, frameEdge]).publishSharedFromWithMetadata
      "sensor.out" (some {})).1.accepted = false := by
    decide
  have hedges : edgesOfSource [requestEdge, frameEdge] "sensor.out" =
      some [.ofSpec requestEdge, .ofSpec frameEdge] := by
    decide
  have hfirst : refusedAt (busyRouter [requestEdge, frameEdge]).pendingIds
      [.ofSpec requestEdge, .ofSpec frameEdge] = some 0 := by
    decide
  refine ⟨hrejected, (rejected_publish_atomic_iff
    (busyRouter_reachable [requestEdge, frameEdge]) "sensor.out" (some {}) {} none).mpr
    (Or.inr (Or.inr ⟨_, hedges, fun n hn => ?_⟩)) hrejected⟩
  rw [hfirst] at hn
  cases hn

/-- With the frame edge first, the rejected call leaves a frame staged. -/
theorem frame_first_keeps_frame :
    RouterReachable (fun n => n) (fun _ _ => True) (some (.ofEdges [frameEdge, requestEdge]))
        [frameEdge, requestEdge] (busyRouter [frameEdge, requestEdge]) ∧
      ¬ (((busyRouter [frameEdge, requestEdge]).publishSharedFromWithMetadata "sensor.out"
            (some {})).1.accepted = false →
          SameLists (busyRouter [frameEdge, requestEdge])
            ((busyRouter [frameEdge, requestEdge]).publishSharedFromWithMetadata "sensor.out"
              (some {})).2) := by
  refine ⟨busyRouter_reachable _, fun hatomic => ?_⟩
  have himmediate := (hatomic (by decide)).1
  have hlength := congrArg List.length himmediate
  exact absurd hlength (by decide)

end TopoExec
