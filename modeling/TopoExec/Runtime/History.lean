import TopoExec.Runtime.Steps

/-! # The history of a run

What a run does to its router is a list of calls, and `play` carries out such a list.
It also keeps the publish call behind each number that the router gives out, so that a
message in a channel can be followed back to the component that published it.
-/

namespace TopoExec

open RuntimePublicationRouter

/-! ## Calls -/

/-- A publish call of a component; `metadata` is that of the invocation that makes it. -/
structure ComponentPublish where
  componentId : String
  port : String
  payload : Option RuntimePayload
  metadata : InvocationMetadata
  eventTimestamp : Option EventTimestamp
deriving DecidableEq, Repr

/-- `GraphContext::publish`. -/
def ComponentPublish.exec (publish : ComponentPublish) (router : RuntimePublicationRouter) :
    RuntimePublicationRouter :=
  (router.publishSharedFromWithMetadata (endpointOf publish.componentId publish.port)
    publish.payload (publicationMetadataFor publish.componentId publish.port publish.metadata)
    publish.eventTimestamp).2

/-- What a run does to its router. -/
inductive RunCall where
  | publish (call : ComponentPublish)
  | read (op : BusRead)
  | commitImmediate
  | beginEpoch
  | endEpoch
  | beginCompositeRegion (components : List String)
  | commitCompositeRegionOutputs
  | discardCompositeRegionOutputs
  | reach (point : RunPoint)

def RunCall.exec (clock : Nat → Int) (router : RuntimePublicationRouter) :
    RunCall → RuntimePublicationRouter
  | .publish call => call.exec router
  | .read op => router.useBus clock op.1
  | .commitImmediate => (router.commitImmediate clock).2
  | .beginEpoch => (router.beginEpoch clock).2
  | .endEpoch => router.endEpoch
  | .beginCompositeRegion components => router.beginCompositeRegion components
  | .commitCompositeRegionOutputs => (router.commitCompositeRegionOutputs clock).2
  | .discardCompositeRegionOutputs => router.discardCompositeRegionOutputs
  | .reach point => { router with trace := router.trace ++ [.reached point router.channels] }

/-- The publish call, if it is one. -/
def RunCall.publisher : RunCall → Option ComponentPublish
  | .publish call => some call
  | _ => none

/-- The router, and the publish calls that its numbers stand for. -/
structure Played where
  router : RuntimePublicationRouter
  publishers : List ComponentPublish := []

/-- A publish call stands for as many numbers as it takes. -/
def Played.after (clock : Nat → Int) (s : Played) (call : RunCall) : Played :=
  let router := call.exec clock s.router
  let taken := router.metrics.stagedCount - s.router.metrics.stagedCount
  { router := router
    publishers := s.publishers ++ call.publisher.toList.flatMap (List.replicate taken) }

def play (clock : Nat → Int) (calls : List RunCall) (router : RuntimePublicationRouter) : Played :=
  calls.foldl (Played.after clock) { router := router }

variable {clock : Nat → Int} {env : Env} {router : RuntimePublicationRouter}

theorem play_concat (calls : List RunCall) (call : RunCall) :
    play clock (calls ++ [call]) router = (play clock calls router).after clock call := by
  rw [play, List.foldl_append]
  rfl

/-- What every call keeps holds after any number of them. -/
theorem play_invariant {P : Played → Prop} (hinit : P { router := router })
    (hstep : ∀ s call, P s → P (s.after clock call)) (calls : List RunCall) :
    P (play clock calls router) :=
  List.foldlRecOn calls _ hinit fun s hs call _ => hstep s call hs

/-- Behind every number is one of the publish calls. -/
theorem mem_play_publishers {calls : List RunCall} {publish : ComponentPublish}
    (h : publish ∈ (play clock calls router).publishers) : RunCall.publish publish ∈ calls := by
  induction calls using List.reverseRecOn with
  | nil => cases h
  | append_singleton calls call ih =>
      rw [play_concat] at h
      rcases List.mem_append.mp h with hold | hnew
      · exact List.mem_append_left _ (ih hold)
      · obtain ⟨made, hmade, hcopy⟩ := List.mem_flatMap.mp hnew
        rw [List.eq_of_mem_replicate hcopy]
        cases call with
        | publish call =>
            rw [RunCall.publisher, Option.toList_some, List.mem_singleton] at hmade
            rw [hmade]
            exact List.mem_append_right _ (List.mem_singleton_self _)
        | _ => cases hmade

/-! ## Runs -/

/-- A component makes the call when the environment answers. -/
def MadeIn (env : Env) (publish : ComponentPublish) : Prop :=
  ∃ question, ComponentAction.publish publish.port publish.payload publish.metadata
    publish.eventTimestamp ∈ env.execute question

/-- The router was reached by these calls, and the components made the publish calls. -/
structure IsHistory (clock : Nat → Int) (env : Env) (start router : RuntimePublicationRouter)
    (calls : List RunCall) : Prop where
  played : (play clock calls start).router = router
  made : ∀ publish, RunCall.publish publish ∈ calls → MadeIn env publish

def HasHistory (clock : Nat → Int) (env : Env) (start router : RuntimePublicationRouter) : Prop :=
  ∃ calls, IsHistory clock env start router calls

variable {start : RuntimePublicationRouter}

theorem HasHistory.init : HasHistory clock env start start :=
  ⟨[], rfl, by simp⟩

theorem HasHistory.concat (h : HasHistory clock env start router) (call : RunCall)
    (hcall : ∀ publish ∈ call.publisher, MadeIn env publish) :
    HasHistory clock env start (call.exec clock router) := by
  obtain ⟨calls, rfl, hcalls⟩ := h
  refine ⟨calls ++ [call], by rw [play_concat]; rfl, ?_⟩
  intro publish hmem
  rcases List.mem_append.mp hmem with hold | hnew
  · exact hcalls publish hold
  · exact hcall publish (by rw [← List.mem_singleton.mp hnew]; rfl)

theorem HasHistory.perform {s : RunState} (h : HasHistory clock env start s.router) (id : String)
    {question : Nat} {action : ComponentAction} (haction : action ∈ env.execute question) :
    HasHistory clock env start (EventRuntime.perform clock id s action).router := by
  cases action with
  | publish port payload metadata eventTimestamp =>
      refine h.concat (.publish ⟨id, port, payload, metadata, eventTimestamp⟩) ?_
      intro publish hpublish
      cases hpublish
      exact ⟨question, haction⟩
  | read op => exact h.concat (.read op) (by simp [RunCall.publisher])
  | reportLoopConvergence report =>
      unfold EventRuntime.perform
      dsimp only
      split_ifs <;> exact h

theorem hasHistory_keeps (clock : Nat → Int) (env : Env) (start : RuntimePublicationRouter) :
    RunKeeps clock env (HasHistory clock env start) where
  perform := fun _ id _ _ haction h => h.perform id haction
  commitImmediate := fun _ h => h.concat .commitImmediate (by simp [RunCall.publisher])
  read := fun _ read h => h.concat (.read read) (by simp [RunCall.publisher])
  reach := fun _ point h => h.concat (.reach point) (by simp [RunCall.publisher])
  beginEpoch := fun _ h => h.concat .beginEpoch (by simp [RunCall.publisher])
  endEpoch := fun _ h => h.concat .endEpoch (by simp [RunCall.publisher])
  beginComposite := fun _ components h =>
    h.concat (.beginCompositeRegion components) (by simp [RunCall.publisher])
  commitComposite := fun _ h => h.concat .commitCompositeRegionOutputs (by simp [RunCall.publisher])
  discardComposite := fun _ h =>
    h.concat .discardCompositeRegionOutputs (by simp [RunCall.publisher])

/-- Every run is a list of calls. -/
theorem run_history (clock : Nat → Int) (env : Env) (options : SchedulerRunOptions)
    (runtime : EventRuntime) (router : RuntimePublicationRouter) :
    HasHistory clock env router (EventRuntime.run clock env options runtime router).router :=
  EventRuntime.runIterations_keeps (hasHistory_keeps clock env router) _ _ .init

end TopoExec
