import Mathlib.Tactic
import TopoExec.Router.State

/-! # Laws of the router operations

One inversion lemma per function: what `drop_oldest_pending_async_locked`,
`admit_async_locked` and `commit_batch` can do. `publishEdges_invariant` is the
induction over the edges of a publish call.
-/

namespace TopoExec

/-- Erasing the element that `find?` finds. -/
theorem exists_split_of_find? {α : Type} {p : α → Bool} {l : List α} {a : α}
    (h : l.find? p = some a) :
    ∃ before after, l = before ++ a :: after ∧ p a = true ∧ (∀ x ∈ before, p x = false) ∧
      l.eraseP p = before ++ after := by
  rcases List.find?_eq_some_iff_append.mp h with ⟨hpa, before, after, rfl, hbefore⟩
  have hnone : ∀ x ∈ before, p x = false := fun x hx => by simpa using hbefore x hx
  refine ⟨before, after, rfl, hpa, hnone, ?_⟩
  rw [List.eraseP_append_right _ fun x hx => by simp [hnone x hx], List.eraseP_cons_of_pos hpa]

namespace RuntimePublicationRouter

variable {router : RuntimePublicationRouter}

/-! ## Dropping the oldest publication of a channel -/

/-- One publication left one of the three lists. -/
inductive Drops (channelId : String) (router : RuntimePublicationRouter) :
    RuntimePublicationRouter → Prop where
  | ready {before after : List RuntimeChannelPublication} {dropped : RuntimeChannelPublication}
      (hlist : router.deferredReady = before ++ dropped :: after)
      (hdropped : isAsyncOf channelId dropped = true)
      (hfirst : ∀ p ∈ before, isAsyncOf channelId p = false) :
      Drops channelId router
        { router with
          deferredReady := before ++ after
          trace := router.trace ++ tagEvents .overwritten [dropped] }
  | next {before after : List RuntimeChannelPublication} {dropped : RuntimeChannelPublication}
      (hready : ∀ p ∈ router.deferredReady, isAsyncOf channelId p = false)
      (hlist : router.deferredNextEpoch = before ++ dropped :: after)
      (hdropped : isAsyncOf channelId dropped = true)
      (hfirst : ∀ p ∈ before, isAsyncOf channelId p = false) :
      Drops channelId router
        { router with
          deferredNextEpoch := before ++ after
          trace := router.trace ++ tagEvents .overwritten [dropped] }
  | composite {before after : List StagedRoutedPublication} {dropped : StagedRoutedPublication}
      (hready : ∀ p ∈ router.deferredReady, isAsyncOf channelId p = false)
      (hnext : ∀ p ∈ router.deferredNextEpoch, isAsyncOf channelId p = false)
      (hlist : router.compositeExternalStage = before ++ dropped :: after)
      (hdropped : isAsyncOf channelId dropped.publication = true)
      (hfirst : ∀ p ∈ before, isAsyncOf channelId p.publication = false) :
      Drops channelId router
        { router with
          compositeExternalStage := before ++ after
          trace := router.trace ++ tagEvents .overwritten [dropped.publication] }

/-- The oldest pending publication of the channel is dropped, if there is one in the two deferred
lists or else in the composite one. -/
theorem dropOldestPendingAsync_cases (router : RuntimePublicationRouter) (channelId : String) :
    ((router.dropOldestPendingAsync channelId).1 = true ∧
        Drops channelId router (router.dropOldestPendingAsync channelId).2) ∨
      (router.dropOldestPendingAsync channelId = (false, router) ∧
        (∀ p ∈ router.deferredReady, isAsyncOf channelId p = false) ∧
        (∀ p ∈ router.deferredNextEpoch, isAsyncOf channelId p = false) ∧
        ∀ p ∈ router.compositeExternalStage, isAsyncOf channelId p.publication = false) := by
  have hnone : ∀ {α : Type} {p : α → Bool} {l : List α}, l.find? p = none →
      ∀ x ∈ l, p x = false := by
    intro α p l h x hx
    simpa using List.find?_eq_none.mp h x hx
  unfold dropOldestPendingAsync
  -- the lists are searched in the order of the source: ready, next epoch, composite
  cases hready : router.deferredReady.find? (isAsyncOf channelId) with
  | some dropped =>
      rcases exists_split_of_find? hready with ⟨before, after, hlist, hdropped, hfirst, herase⟩
      dsimp only
      rw [herase]
      exact Or.inl ⟨rfl, .ready hlist hdropped hfirst⟩
  | none =>
      dsimp only
      cases hnext : router.deferredNextEpoch.find? (isAsyncOf channelId) with
      | some dropped =>
          rcases exists_split_of_find? hnext with ⟨before, after, hlist, hdropped, hfirst, herase⟩
          dsimp only
          rw [herase]
          exact Or.inl ⟨rfl, .next (hnone hready) hlist hdropped hfirst⟩
      | none =>
          dsimp only
          cases hstage : router.compositeExternalStage.find? fun staged =>
              isAsyncOf channelId staged.publication with
          | some dropped =>
              rcases exists_split_of_find? hstage with
                ⟨before, after, hlist, hdropped, hfirst, herase⟩
              dsimp only
              rw [herase]
              exact Or.inl ⟨rfl, .composite (hnone hready) (hnone hnext) hlist hdropped hfirst⟩
          | none => exact Or.inr ⟨rfl, hnone hready, hnone hnext, hnone hstage⟩

/-! ## Admission -/

/-- A full edge that does not overwrite refuses the publication. -/
def refuses (router : RuntimePublicationRouter) (edge : RoutedEdge) : Bool :=
  edge.kind = .async && edge.full (router.pendingAsyncCount edge.channelId) && !edge.overwrites

/-- What an admission that goes through does to the router. -/
inductive Admission (edge : RoutedEdge) (router : RuntimePublicationRouter) :
    RuntimePublicationRouter → Prop where
  | plain (hkind : edge.kind ≠ .async) : Admission edge router router
  | room (hkind : edge.kind = .async)
      (hroom : edge.full (router.pendingAsyncCount edge.channelId) = false) :
      Admission edge router (router.admitted (router.pendingAsyncCount edge.channelId))
  | dropped {router' : RuntimePublicationRouter} (hkind : edge.kind = .async)
      (hfull : edge.full (router.pendingAsyncCount edge.channelId) = true)
      (hdrops : Drops edge.channelId router router') :
      Admission edge router
        ({ router' with
          metrics.asyncAdmissionOverwriteCount :=
            router'.metrics.asyncAdmissionOverwriteCount + 1 }.admitted
          (router.pendingAsyncCount edge.channelId - 1))
  | nothing (hkind : edge.kind = .async)
      (hfull : edge.full (router.pendingAsyncCount edge.channelId) = true)
      (hready : ∀ p ∈ router.deferredReady, isAsyncOf edge.channelId p = false)
      (hnext : ∀ p ∈ router.deferredNextEpoch, isAsyncOf edge.channelId p = false)
      (hstage : ∀ p ∈ router.compositeExternalStage,
        isAsyncOf edge.channelId p.publication = false) :
      Admission edge router (router.admitted (router.pendingAsyncCount edge.channelId))

/-- A refusal changes the admission counters and nothing else. -/
structure Refused (router router' : RuntimePublicationRouter) : Prop where
  channels : router'.channels = router.channels
  sources : router'.sourceToEdges = router.sourceToEdges
  active : router'.activeCompositeComponents = router.activeCompositeComponents
  composite : router'.compositeExternalStage = router.compositeExternalStage
  immediate : router'.immediateStage = router.immediateStage
  next : router'.deferredNextEpoch = router.deferredNextEpoch
  ready : router'.deferredReady = router.deferredReady
  trace : router'.trace = router.trace
  staged : router'.metrics.stagedCount = router.metrics.stagedCount
  committed : router'.metrics.committedCount = router.metrics.committedCount
  discarded : router'.metrics.compositeDiscardedCount = router.metrics.compositeDiscardedCount
  failed : router'.metrics.failedCommitCount = router.metrics.failedCommitCount
  accepted : router'.metrics.asyncAdmissionAcceptedCount =
    router.metrics.asyncAdmissionAcceptedCount
  overwrite : router'.metrics.asyncAdmissionOverwriteCount =
    router.metrics.asyncAdmissionOverwriteCount
  completion : router'.metrics.asyncCompletionCount = router.metrics.asyncCompletionCount
  cancelled : router'.metrics.asyncCancelledCount = router.metrics.asyncCancelledCount

/-- An async publication is admitted, perhaps after a drop, or refused. -/
theorem admitAsync_cases (router : RuntimePublicationRouter) (edge : RoutedEdge) :
    ((router.admitAsync edge).1.accepted = true ∧ router.refuses edge = false ∧
        Admission edge router (router.admitAsync edge).2) ∨
      ((router.admitAsync edge).1.accepted = false ∧ router.refuses edge = true ∧
        Refused router (router.admitAsync edge).2) := by
  unfold admitAsync refuses
  by_cases hkind : edge.kind = .async
  · rw [if_neg (not_not.mpr hkind)]
    dsimp only
    cases hfull : edge.full (router.pendingAsyncCount edge.channelId) with
    | false =>
        rw [if_neg (by simp)]
        exact Or.inl ⟨rfl, by simp, .room hkind hfull⟩
    | true =>
        rw [if_pos rfl]
        cases hover : edge.overwrites with
        | true =>
            rw [if_pos rfl]
            left
            -- the drop finds a publication, or there is none to find
            rcases router.dropOldestPendingAsync_cases edge.channelId with
              ⟨hfound, hdrops⟩ | ⟨hnone, hready, hnext, hstage⟩
            · rw [if_pos hfound]
              exact ⟨rfl, by simp, .dropped hkind hfull hdrops⟩
            · rw [hnone, if_neg (by simp)]
              exact ⟨rfl, by simp, .nothing hkind hfull hready hnext hstage⟩
        | false =>
            rw [if_neg (by simp)]
            right
            split_ifs
            all_goals
              refine ⟨rfl, by simp [hkind], ?_⟩
              exact ⟨rfl, rfl, rfl, rfl, rfl, rfl, rfl, rfl, rfl, rfl, rfl, rfl, rfl, rfl, rfl, rfl⟩
  · rw [if_pos hkind]
    exact Or.inl ⟨rfl, by simp [hkind], .plain hkind⟩

/-- What every admission followed by its staging keeps, and every refusal keeps,
is kept by the loop over the edges. -/
theorem publishEdges_invariant {P : RuntimePublicationRouter → Prop} {publish : Publish}
    {edges : List RoutedEdge}
    (hstage : ∀ r r' edge, edge ∈ edges → Admission edge r r' → P r →
      P (r'.stage edge (publicationFor publish edge)))
    (hrefuse : ∀ r r', Refused r r' → P r → P r') (h : P router) :
    P (publishEdges publish edges router).2 := by
  induction edges generalizing router with
  | nil => exact h
  | cons edge rest ih =>
      unfold publishEdges
      dsimp only
      rcases router.admitAsync_cases edge with
        ⟨haccepted, _, hadmission⟩ | ⟨hrejected, _, hrefused⟩
      · rw [if_pos haccepted]
        refine ih (fun r r' e he => hstage r r' e (List.mem_cons_of_mem _ he)) ?_
        exact hstage _ _ edge (List.mem_cons_self ..) hadmission h
      · rw [if_neg (by simp [hrejected])]
        exact hrefuse _ _ hrefused h

/-- The same for a publish call, whose edges are those of its endpoint. -/
theorem publish_rule {P : RuntimePublicationRouter → Prop} {sourceEndpoint : String}
    {payload : Option RuntimePayload} {metadata : InvocationMetadata}
    {eventTimestamp : Option EventTimestamp}
    (hstage : ∀ edges value, payload = some value →
      router.sourceToEdges sourceEndpoint = some edges →
      ∀ r r' edge, edge ∈ edges → Admission edge r r' → P r →
        P (r'.stage edge (publicationFor
          { sourceEndpoint := sourceEndpoint, payload := value, metadata := metadata,
            eventTimestamp := eventTimestamp } edge)))
    (hrefuse : ∀ r r', Refused r r' → P r → P r') (h : P router) :
    P (router.publishSharedFromWithMetadata sourceEndpoint payload metadata
      eventTimestamp).2 := by
  unfold publishSharedFromWithMetadata
  cases payload with
  | none => exact h
  | some value =>
      dsimp only
      cases hedges : router.sourceToEdges sourceEndpoint with
      | none => exact h
      | some edges => exact publishEdges_invariant (hstage edges value rfl hedges) hrefuse h

/-- The rule for a property that does not depend on what is published. -/
theorem publish_invariant {P : RuntimePublicationRouter → Prop} {sourceEndpoint : String}
    {payload : Option RuntimePayload} {metadata : InvocationMetadata}
    {eventTimestamp : Option EventTimestamp}
    (hstage : ∀ edges publish, router.sourceToEdges sourceEndpoint = some edges →
      ∀ r r' edge, edge ∈ edges → Admission edge r r' → P r →
        P (r'.stage edge (publicationFor publish edge)))
    (hrefuse : ∀ r r', Refused r r' → P r → P r') (h : P router) :
    P (router.publishSharedFromWithMetadata sourceEndpoint payload metadata
      eventTimestamp).2 :=
  publish_rule (fun edges _ _ hedges => hstage edges _ hedges) hrefuse h

/-! ## Commits -/

/-- What `commit_batch` does: nothing for an empty batch; otherwise the bus gets
the publications and answers, or there is no bus and the commit fails. -/
inductive Commits (clock : Nat → Int) (call : RouterCall)
    (publications : List RuntimeChannelPublication) (router : RuntimePublicationRouter) :
    Bool → RuntimePublicationRouter → Prop where
  | empty (hempty : publications = []) : Commits clock call publications router true router
  | noBus (hbus : router.channels = none) :
      Commits clock call publications router false
        { router with metrics.failedCommitCount := router.metrics.failedCommitCount + 1 }
  | accepted {bus : RuntimeChannelBus} (hbus : router.channels = some bus)
      (haccepted : (bus.publishBatch clock publications).1.accepted = true) :
      Commits clock call publications router true
        { router with
          channels := some (bus.publishBatch clock publications).2
          trace := router.trace ++ handedEvents call publications
          metrics.committedCount := router.metrics.committedCount + publications.length
          metrics.stateCommitCount := router.metrics.stateCommitCount +
            publications.countP fun publication => publication.kind = .state }
  | rejected {bus : RuntimeChannelBus} (hbus : router.channels = some bus)
      (hrejected : (bus.publishBatch clock publications).1.accepted = false) :
      Commits clock call publications router false
        { router with
          channels := some (bus.publishBatch clock publications).2
          trace := router.trace ++ handedEvents call publications
          metrics.failedCommitCount := router.metrics.failedCommitCount + 1 }

/-- A commit hands the whole list to the bus, and clears it in any case. -/
theorem commitBatch_commits (clock : Nat → Int) (router : RuntimePublicationRouter)
    (call : RouterCall) (publications : List RuntimeChannelPublication) :
    Commits clock call publications router (router.commitBatch clock call publications).1.accepted
      (router.commitBatch clock call publications).2 := by
  unfold commitBatch
  split_ifs with hempty
  · exact .empty (List.isEmpty_iff.mp hempty)
  · split
    next hbus => exact .noBus hbus
    next bus hbus =>
        cases hresult : (bus.publishBatch clock publications).1.accepted with
        | true =>
            simp only [hresult, if_true]
            exact .accepted hbus hresult
        | false =>
            simp only [hresult, Bool.false_eq_true, if_false]
            exact .rejected hbus hresult

/-- A commit touches no list. -/
theorem Commits.lists {clock : Nat → Int} {call : RouterCall}
    {publications : List RuntimeChannelPublication} {accepted : Bool}
    {router' : RuntimePublicationRouter}
    (h : Commits clock call publications router accepted router') :
    router'.compositeExternalStage = router.compositeExternalStage ∧
      router'.immediateStage = router.immediateStage ∧
      router'.deferredNextEpoch = router.deferredNextEpoch ∧
      router'.deferredReady = router.deferredReady ∧
      router'.activeCompositeComponents = router.activeCompositeComponents ∧
      router'.sourceToEdges = router.sourceToEdges := by
  cases h <;> exact ⟨rfl, rfl, rfl, rfl, rfl, rfl⟩

/-- Completions of an accepted epoch batch are counted, also when there are none. -/
theorem completeAsync_eq (router : RuntimePublicationRouter) (accepted : Bool)
    (asyncReadyCount : Nat) :
    ∃ inFlight, router.completeAsync accepted asyncReadyCount =
      { router with
        metrics.asyncCompletionCount :=
          router.metrics.asyncCompletionCount + (if accepted then asyncReadyCount else 0)
        metrics.asyncInFlightCount := inFlight } := by
  unfold completeAsync
  cases accepted with
  | false => exact ⟨router.metrics.asyncInFlightCount, rfl⟩
  | true =>
      rcases Nat.eq_zero_or_pos asyncReadyCount with rfl | hpos
      · exact ⟨router.metrics.asyncInFlightCount, rfl⟩
      · exact ⟨router.pendingAsyncCount, by simp [hpos]⟩

/-- So are cancellations. -/
theorem cancelAsync_eq (router : RuntimePublicationRouter) (discardedAsync : Nat) :
    ∃ inFlight, router.cancelAsync discardedAsync =
      { router with
        metrics.asyncCancelledCount := router.metrics.asyncCancelledCount + discardedAsync
        metrics.asyncInFlightCount := inFlight } := by
  unfold cancelAsync
  rcases Nat.eq_zero_or_pos discardedAsync with rfl | hpos
  · exact ⟨router.metrics.asyncInFlightCount, rfl⟩
  · exact ⟨router.pendingAsyncCount, if_pos hpos⟩

end RuntimePublicationRouter

end TopoExec
