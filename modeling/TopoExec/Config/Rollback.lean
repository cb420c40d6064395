import TopoExec.Config.Transaction
import TopoExec.Lib.History
import TopoExec.Runtime.EventRuntime

/-! # What a failed config transaction leaves behind

`config_rollback` is about transactions whose hooks return error statuses, in any
pattern: which hooks are called after a failure, and that neither the configs nor the
version change, that nothing stays pending, and that the run in which the transaction
fails is over before a component executes.
-/

namespace TopoExec

/-! ## The end of a run -/

section

variable (clock : Nat → Int) (env : Env) (options : SchedulerRunOptions) (runtime : EventRuntime)

/-- The loop over the iterations reaches the epoch boundary of `reached` in the state
`s'`. -/
inductive ReachesBoundary : Nat → Nat → RunState → Nat → RunState → Prop
  | here {left iteration : Nat} {s s' : RunState}
      (hgo : EventRuntime.stopBeforeIteration env s = (none, s')) :
      ReachesBoundary (left + 1) iteration s iteration s'
  | next {left iteration reached : Nat} {s s₁ s₂ s' : RunState}
      (hgo : EventRuntime.stopBeforeIteration env s = (none, s₁))
      (hiteration : EventRuntime.runIteration clock env options runtime iteration s₁ = (true, s₂))
      (hbusy : ¬(options.runUntilIdle && s₂.result.tickCalls = s₁.result.tickCalls) = true)
      (hrest : ReachesBoundary left (iteration + 1) s₂ reached s') :
      ReachesBoundary (left + 1) iteration s reached s'

/-- An iteration that returns from the run. -/
theorem runIterations_of_reaches {left iteration reached : Nat} {s s' final : RunState}
    (h : ReachesBoundary clock env options runtime left iteration s reached s')
    (hfinal : EventRuntime.runIteration clock env options runtime reached s' = (false, final)) :
    EventRuntime.runIterations clock env options runtime left iteration s = final := by
  induction h with
  | here hgo => simp [EventRuntime.runIterations, hgo, hfinal]
  | next hgo hiteration hbusy _ ih =>
      rw [EventRuntime.runIterations]
      simp only [hgo, hiteration, Bool.not_true, Bool.false_eq_true, if_false, if_neg hbusy]
      exact ih hfinal

def iterationBound : Nat :=
  if options.tickIterations = 0 then
    if options.runUntilIdle then EventRuntime.kDefaultRunUntilIdleIterationBound else 1
  else options.tickIterations

/-- A run over `router` reaches the boundary of `iteration` in the state `s`. -/
def RunReaches (router : RuntimePublicationRouter) (iteration : Nat) (s : RunState) : Prop :=
  ReachesBoundary clock env options runtime (iterationBound options) 0
    { router := router, result := { stopReason := .tickBound } } iteration s

end

/-- The run ends at the boundary of `iteration`, reached in the state `s`, with errors:
no component is collected or executed, and nothing is asked after the transaction. -/
structure EndsAt (iteration : Nat) (s : RunState) (errors : List String) (final : RunState) :
    Prop where
  ok : final.result.ok = false
  stopReason : final.result.stopReason = .error
  errors : final.result.errors = s.result.errors ++ errors
  tickCalls : final.result.tickCalls = s.result.tickCalls
  tickedTasks : final.result.tickedTasks = s.result.tickedTasks
  trace : final.router.trace =
    s.router.trace ++ [.reached (.iterationBegin iteration) s.router.channels]
  asked : final.asked = s.asked + 1

/-- A run that reaches an iteration with errors ends there. -/
theorem run_endsAt {clock : Nat → Int} {env : Env} {options : SchedulerRunOptions}
    {runtime : EventRuntime} {router : RuntimePublicationRouter} {iteration : Nat} {s : RunState}
    (hreaches : RunReaches clock env options runtime router iteration s)
    (herrors : env.configTransactionErrors s.asked ≠ []) :
    EndsAt iteration s (env.configTransactionErrors s.asked)
      (EventRuntime.run clock env options runtime router) := by
  have hbegin : (EventRuntime.beginIteration clock env iteration s).1 = false ∧
      EndsAt iteration s (env.configTransactionErrors s.asked)
        (EventRuntime.beginIteration clock env iteration s).2 := by
    have hask : ((s.reach (.iterationBegin iteration)).ask env.configTransactionErrors).1 =
        env.configTransactionErrors s.asked := rfl
    unfold EventRuntime.beginIteration
    dsimp only
    rw [hask, if_pos (by simpa using herrors)]
    exact ⟨rfl, rfl, rfl, rfl, rfl, rfl, rfl, rfl⟩
  have hiteration : EventRuntime.runIteration clock env options runtime iteration s =
      (false, (EventRuntime.beginIteration clock env iteration s).2) := by
    unfold EventRuntime.runIteration
    dsimp only
    rw [if_neg (by simp [hbegin.1])]
    exact Prod.ext hbegin.1 rfl
  have hrun : EventRuntime.run clock env options runtime router =
      (EventRuntime.beginIteration clock env iteration s).2 :=
    runIterations_of_reaches clock env options runtime hreaches hiteration
  rw [hrun]
  exact hbegin.2

/-- Every run whose config transaction at an epoch boundary reports these errors ends
there. -/
def EndsRuns (errors : List String) : Prop :=
  ∀ (clock : Nat → Int) (env : Env) (options : SchedulerRunOptions) (runtime : EventRuntime)
    (router : RuntimePublicationRouter) (iteration : Nat) (s : RunState),
    RunReaches clock env options runtime router iteration s →
      env.configTransactionErrors s.asked = errors →
        EndsAt iteration s errors (EventRuntime.run clock env options runtime router)

theorem endsRuns_of_ne_nil {errors : List String} (h : errors ≠ []) : EndsRuns errors := by
  intro clock env options runtime router iteration s hreaches herrors
  rw [← herrors] at h ⊢
  exact run_endsAt hreaches h

/-! ## The transaction -/

/-- One call of `validate_config` or `apply_config`. -/
structure ConfigCall where
  component : String
  config : ConfigView
  answer : HookAnswer
deriving DecidableEq, Repr

/-- The calls of one hook. -/
def callsOf (hook : ConfigHook) (events : List ConfigEvent) : List ConfigCall :=
  events.filterMap fun
    | .called _ hook' component config answer =>
        if hook' = hook then some ⟨component, config, answer⟩ else none
    | .committed .. => none

@[simp]
theorem callsOf_append (hook : ConfigHook) (events events' : List ConfigEvent) :
    callsOf hook (events ++ events') = callsOf hook events ++ callsOf hook events' :=
  List.filterMap_append

/-- The calls that succeeded, in their order. -/
theorem callsOf_succeeded (transaction : Nat) (hook : ConfigHook)
    (configs : List (String × ConfigView)) :
    callsOf hook (succeeded transaction hook configs) =
      configs.map fun entry => ⟨entry.1, entry.2, .ok⟩ := by
  simp [callsOf, succeeded, List.filterMap_map]

theorem callsOf_succeeded_of_ne {hook hook' : ConfigHook} (hne : hook' ≠ hook) (transaction : Nat)
    (configs : List (String × ConfigView)) :
    callsOf hook (succeeded transaction hook' configs) = [] := by
  simp [callsOf, succeeded, List.filterMap_map, hne]

/-- The applied configs are restored, the last one first. -/
theorem callsOf_restoreEvents (env : ConfigEnv) (transaction : Nat)
    (previous : OrderedMap String ConfigView) (first : Nat) (components : List String) :
    (callsOf .applyConfig (restoreEvents env transaction previous first components)).map
        (fun call => (call.component, call.config)) =
      components.map fun id => (id, (previous.find id).getD {}) := by
  induction components generalizing first with
  | nil => rfl
  | cons id rest ih =>
      have hrest := ih (first + 1)
      simp only [callsOf, restoreEvents, List.filterMap_cons, if_true, List.map_cons] at hrest ⊢
      rw [hrest]

/-- A rollback validates nothing. -/
theorem validateCalls_restoreEvents (env : ConfigEnv) (transaction : Nat)
    (previous : OrderedMap String ConfigView) (first : Nat) (components : List String) :
    callsOf .validateConfig (restoreEvents env transaction previous first components) = [] := by
  induction components generalizing first with
  | nil => rfl
  | cons id rest ih => simpa [callsOf, restoreEvents] using ih (first + 1)

/-- The previous config of a component is that of the store. -/
theorem previousConfigs_find (store : ConfigSnapshotStore) {pending : List (String × ConfigView)}
    {id : String} (hid : id ∈ pending.map Prod.fst) :
    (previousConfigs store pending).find id = some (currentConfig store id) := by
  have hmap : (pending.map fun entry => (entry.1, currentConfig store entry.1)) =
      (pending.map Prod.fst).map fun key => (key, currentConfig store key) := by
    rw [List.map_map]
    rfl
  rw [previousConfigs, hmap, OrderedMap.find_insertAll_map, if_pos hid]

/-- What a failed transaction, begun in the state `s`, leaves behind. -/
structure Discards (s : ConfigState) (result : ConfigOutcome × ConfigState) : Prop where
  outcome : result.1 = .failed
  configs : result.2.store.componentConfigs = s.store.componentConfigs
  version : result.2.store.metrics.version = s.store.metrics.version
  pending : result.2.store.pendingComponentConfigs = .empty
  endsRuns : EndsRuns result.2.errors

variable {env : ConfigEnv} {s s' : ConfigState}

/-- Hooks may run and updates may be staged before the rollback. -/
theorem Discards.of_progress {count : Nat} {events : List ConfigEvent}
    (h : Progress env count events (s.beginTransaction.stageAll env.afterCopy) s')
    (message : String) : Discards s (.failed, s'.rollback.report message) := by
  have hstore := (ConfigSnapshotStore.stageAll_onlyPending s.store env.afterCopy).trans h.store
  refine ⟨rfl, hstore.configs, hstore.version, rfl, endsRuns_of_ne_nil ?_⟩
  simp [ConfigState.report]

/-- Two ways to split a list of calls at its first failure are the same. -/
theorem first_failure_unique (failed : ConfigCall) {done done' rest rest' : List ConfigCall}
    {failed' : ConfigCall} (h : done ++ failed :: rest = done' ++ failed' :: rest')
    (hdone : ∀ call ∈ done, call.answer = .ok) (hfailed : failed.answer ≠ .ok)
    (hdone' : ∀ call ∈ done', call.answer = .ok) (hfailed' : failed'.answer ≠ .ok) :
    done = done' ∧ failed = failed' ∧ rest = rest' := by
  rcases History.split_trichotomy h with ⟨between, hpre, -⟩ | hsame | ⟨between, hpre, -⟩
  · exact absurd (hdone' failed (by simp [hpre])) hfailed
  · exact hsame
  · exact absurd (hdone failed' (by simp [hpre])) hfailed'

/-- The calls of a transaction that begins in the state `s`, as far as something fails.

* `validation`: if an update is for a component that does not exist, or its validation
  fails, nothing is applied.
* `application`: if an update cannot be applied, its component and then the ones before
  it, the last one first, get the config back that was current.

In both cases the updates are discarded. -/
structure RollsBack (env : ConfigEnv) (s : ConfigState) (events : List ConfigEvent)
    (result : ConfigOutcome × ConfigState) : Prop where
  validation :
    ((∃ entry ∈ s.store.pendingComponentConfigs.entries, entry.1 ∉ env.components) ∨
        ∃ call ∈ callsOf .validateConfig events, call.answer ≠ .ok) →
      callsOf .applyConfig events = [] ∧ Discards s result
  application : ∀ done failed rest, callsOf .applyConfig events = done ++ failed :: rest →
    (∀ call ∈ done, call.answer = .ok) → failed.answer ≠ .ok →
      (done ++ [failed]).map (fun call => (call.component, call.config)) <+:
          s.store.pendingComponentConfigs.entries ∧
        rest.map (fun call => (call.component, call.config)) =
          (failed.component :: (done.map ConfigCall.component).reverse).map
            (fun id => (id, currentConfig s.store id)) ∧
        Discards s result

theorem answer_of_mem_map {configs : List (String × ConfigView)} {call : ConfigCall}
    (h : call ∈ configs.map fun entry => (⟨entry.1, entry.2, .ok⟩ : ConfigCall)) :
    call.answer = .ok := by
  rcases List.mem_map.mp h with ⟨entry, -, rfl⟩
  rfl

/-- A transaction that applies nothing and fails. -/
theorem RollsBack.of_no_apply {events : List ConfigEvent} {result : ConfigOutcome × ConfigState}
    (hcalls : callsOf .applyConfig events = []) (hdiscards : Discards s result) :
    RollsBack env s events result := by
  refine ⟨fun _ => ⟨hcalls, hdiscards⟩, ?_⟩
  intro done failed rest hsplit
  rw [hcalls] at hsplit
  simp at hsplit

/-- A transaction in which nothing fails. -/
theorem RollsBack.of_succeeded {result : ConfigOutcome × ConfigState} (transaction : Nat)
    (configs : List (String × ConfigView)) {pending : List (String × ConfigView)}
    (hpending : s.store.pendingComponentConfigs.entries = pending)
    (hpresent : ∀ entry ∈ pending, entry.1 ∈ env.components) :
    RollsBack env s (succeeded transaction .validateConfig pending ++
      succeeded transaction .applyConfig pending ++ [.committed transaction configs]) result := by
  have hvalidate : callsOf .validateConfig (succeeded transaction .validateConfig pending ++
      succeeded transaction .applyConfig pending ++ [.committed transaction configs]) =
      pending.map fun entry => ⟨entry.1, entry.2, .ok⟩ := by
    rw [callsOf_append, callsOf_append, callsOf_succeeded,
      callsOf_succeeded_of_ne (by decide), List.append_nil]
    exact List.append_nil _
  have happly : callsOf .applyConfig (succeeded transaction .validateConfig pending ++
      succeeded transaction .applyConfig pending ++ [.committed transaction configs]) =
      pending.map fun entry => ⟨entry.1, entry.2, .ok⟩ := by
    rw [callsOf_append, callsOf_append, callsOf_succeeded,
      callsOf_succeeded_of_ne (by decide), List.nil_append]
    exact List.append_nil _
  constructor
  · rintro (⟨entry, hentry, hmissing⟩ | ⟨call, hcall, hfails⟩)
    · exact absurd (hpresent entry (hpending ▸ hentry)) hmissing
    · rw [hvalidate] at hcall
      exact absurd (answer_of_mem_map hcall) hfails
  · intro done failed rest hsplit _ hfails
    rw [happly] at hsplit
    have hmem : failed ∈ done ++ failed :: rest := List.mem_append_right _ (List.mem_cons_self ..)
    rw [← hsplit] at hmem
    exact absurd (answer_of_mem_map hmem) hfails

/-- A transaction that fails while it applies its updates. -/
theorem RollsBack.of_applyFailed {result : ConfigOutcome × ConfigState} {transaction first : Nat}
    {pending done rest : List (String × ConfigView)} {componentId : String} {config : ConfigView}
    {reason : String} (hpending : s.store.pendingComponentConfigs.entries = pending)
    (hsplit : pending = done ++ (componentId, config) :: rest)
    (hpresent : ∀ entry ∈ pending, entry.1 ∈ env.components) (hdiscards : Discards s result) :
    RollsBack env s (succeeded transaction .validateConfig pending ++
      (succeeded transaction .applyConfig done ++
        [.called transaction .applyConfig componentId config (.error reason)] ++
        restoreEvents env transaction (previousConfigs s.store pending) first
          (componentId :: (done.map Prod.fst).reverse))) result := by
  constructor
  · -- all updates are valid
    rintro (⟨entry, hentry, hmissing⟩ | ⟨call, hcall, hfails⟩)
    · exact absurd (hpresent entry (hpending ▸ hentry)) hmissing
    · rw [callsOf_append, callsOf_append, callsOf_append, callsOf_succeeded,
        callsOf_succeeded_of_ne (by decide), validateCalls_restoreEvents] at hcall
      have hcall' : call ∈ pending.map fun entry => (⟨entry.1, entry.2, .ok⟩ : ConfigCall) := by
        simpa [callsOf] using hcall
      exact absurd (answer_of_mem_map hcall') hfails
  · intro done' failed rest' hcalls hdone' hfailed
    rw [callsOf_append, callsOf_append, callsOf_append, callsOf_succeeded,
      callsOf_succeeded_of_ne (by decide), List.nil_append, List.append_assoc] at hcalls
    -- there is one first failure, the one at hand
    have hunique := first_failure_unique ⟨componentId, config, .error reason⟩ hcalls
      (fun call hcall => answer_of_mem_map hcall) (by simp) hdone' hfailed
    rcases hunique with ⟨rfl, rfl, rfl⟩
    refine ⟨?_, ?_, hdiscards⟩
    · rw [hpending, hsplit]
      refine ⟨rest, ?_⟩
      simp [Function.comp_def]
    -- the failed component and the applied ones get back what the store holds for them
    · have hin : ∀ id ∈ componentId :: (done.map Prod.fst).reverse, id ∈ pending.map Prod.fst := by
        intro id hid
        rw [hsplit, List.map_append, List.map_cons]
        rcases List.mem_cons.mp hid with rfl | hid
        · exact List.mem_append_right _ (List.mem_cons_self ..)
        · exact List.mem_append_left _ (List.mem_reverse.mp hid)
      refine (callsOf_restoreEvents ..).trans ?_
      have hdone : (done.map fun entry => (⟨entry.1, entry.2, .ok⟩ : ConfigCall)).map
          ConfigCall.component = done.map Prod.fst := by
        rw [List.map_map]
        rfl
      rw [hdone]
      refine List.map_congr_left ?_
      intro id hid
      rw [previousConfigs_find s.store (hin id hid), Option.getD_some]

/-- For every set of pending updates and every pattern of error statuses, a transaction
that fails rolls back. -/
theorem config_rollback (env : ConfigEnv) (hstatus : ∀ n what, (env.hook n).answer ≠ .throws what)
    (s : ConfigState) : ∃ events, (applyConfigTransaction env s).2.events = s.events ++ events ∧
      RollsBack env s events (applyConfigTransaction env s) := by
  have hresult := applyConfigTransaction_result env s
  generalize hpending : s.store.pendingComponentConfigs.entries = pending at hresult
  generalize applyConfigTransaction env s = result at hresult
  cases hresult with
  | threw count events n what s' hfails hanswer honly hprogress =>
      exact absurd hanswer (hstatus n what)
  | committed s' hsucceeds hprogress herrors =>
      have htransactions : s'.transactions = s.transactions + 1 := hprogress.transactions
      have hevents : s'.events = s.events ++ _ := hprogress.events
      refine ⟨_, ?_, RollsBack.of_succeeded (s.transactions + 1)
        s'.store.pendingComponentConfigs.entries hpending hsucceeds.1⟩
      rw [ConfigState.commit, hevents, htransactions, List.append_assoc]
  | missing checked rest componentId config message s' hsplit hmissing hprogress =>
      refine ⟨_, hprogress.events,
        RollsBack.of_no_apply ?_ (Discards.of_progress hprogress message)⟩
      exact callsOf_succeeded_of_ne (by decide) _ _
  | invalid checked rest componentId config reason message s' hsplit hfails hprogress =>
      refine ⟨_, hprogress.events,
        RollsBack.of_no_apply ?_ (Discards.of_progress hprogress message)⟩
      rw [callsOf_append, callsOf_succeeded_of_ne (by decide)]
      rfl
  | applyFailed done rest componentId config reason message count s' hsplit hpresent hfails
      hprogress =>
      exact ⟨_, hprogress.events, RollsBack.of_applyFailed hpending hsplit hpresent
        (Discards.of_progress hprogress message)⟩

/-- Two components with a pending update each; `planner` cannot apply its one. -/
def twoPending : ConfigState where
  store := (ConfigSnapshotStore.stageAll
    ((ConfigSnapshotStore.setComponentConfig {} "driver" { values := [("rate", "10")] })
      |>.setComponentConfig "planner" { values := [("gain", "1")] })
    [("planner", { values := [("gain", "2")] }), ("driver", { values := [("rate", "20")] })])

def plannerRejects : ConfigEnv where
  components := ["planner", "driver"]
  hook := fun n => if n = 3 then { answer := .error "gain" } else {}

/-- Both components get their configs back, `planner` first. -/
theorem plannerRejects_rolls_back :
    callsOf .applyConfig (applyConfigTransaction plannerRejects twoPending).2.events =
        [⟨"driver", { values := [("rate", "20")] }, .ok⟩,
         ⟨"planner", { values := [("gain", "2")] }, .error "gain"⟩,
         ⟨"planner", { values := [("gain", "1")] }, .ok⟩,
         ⟨"driver", { values := [("rate", "10")] }, .ok⟩] ∧
      ∃ events, (applyConfigTransaction plannerRejects twoPending).2.events =
          twoPending.events ++ events ∧
        RollsBack plannerRejects twoPending events
          (applyConfigTransaction plannerRejects twoPending) := by
  refine ⟨by decide, config_rollback plannerRejects ?_ twoPending⟩
  intro n what
  unfold plannerRejects
  dsimp only
  split_ifs <;> simp

end TopoExec
