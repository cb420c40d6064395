import TopoExec.Runtime.Runner

/-! # Lifecycle cleanup

Which components are deactivated, and how often, depends on where the run leaves the
`try` block. `ending` reads the place off the answers of the hooks: an exception
before any cleanup, a failure that is cleaned up inside the block, or the normal end.

* After an exception the handler's loop is the only one, and it misses components
  exactly if a deactivation other than its last throws.
* The two loops inside the block run a second time, from the handler, as soon as a
  deactivation throws; after a failed start, restore or reset also if an observer
  does.

`CleansUp` puts this together as a condition on the answers.
-/

namespace TopoExec

/-! ## Calls -/

/-- The components whose `activate_status` succeeded, in that order. -/
def activated (calls : List LifecycleCall) : List String :=
  (calls.filter fun call => call.hook = .activate && call.answer = .ok).map LifecycleCall.component

/-- The components whose `deactivate_status` was called, once for each call. -/
def deactivated (calls : List LifecycleCall) : List String :=
  (calls.filter fun call => call.hook = .deactivate).map LifecycleCall.component

/-- The activations come in the order of the calls. -/
@[simp]
theorem activated_append (calls calls' : List LifecycleCall) :
    activated (calls ++ calls') = activated calls ++ activated calls' := by
  simp [activated]

/-- The deactivations come in the order of the calls. -/
@[simp]
theorem deactivated_append (calls calls' : List LifecycleCall) :
    deactivated (calls ++ calls') = deactivated calls ++ deactivated calls' := by
  simp [deactivated]

/-- The count that the hooks see is that of the calls. -/
theorem RunnerState.deactivations_eq (s : RunnerState) (id : String) :
    s.deactivations id = (deactivated s.calls).count id := by
  rw [RunnerState.deactivations, deactivated, List.count, List.countP_map, List.countP_filter]
  congr 1
  funext call
  simp only [Function.comp_apply, Bool.decide_and, beq_eq_decide]
  exact Bool.and_comm ..

/-- Hooks that are neither part of the start nor of the cleanup. -/
def LifecycleHook.isQuiet : LifecycleHook → Bool
  | .restore | .reset | .snapshot => true
  | .configure | .activate | .deactivate => false

/-- A phase between start and cleanup: it calls quiet hooks only and does not touch
the instances. -/
structure Interlude (s s' : RunnerState) : Prop where
  instances : s'.instances = s.instances
  notifications : s'.notifications = s.notifications
  calls : ∃ extra, s'.calls = s.calls ++ extra ∧ ∀ call ∈ extra, call.hook.isQuiet = true

namespace Interlude

variable {s s' s'' : RunnerState}

theorem refl (s : RunnerState) : Interlude s s := ⟨rfl, rfl, [], (List.append_nil _).symm, by simp⟩

/-- Interludes one after the other are one. -/
theorem trans (h : Interlude s s') (h' : Interlude s' s'') : Interlude s s'' := by
  rcases h.calls with ⟨extra, hcalls, hquiet⟩
  rcases h'.calls with ⟨extra', hcalls', hquiet'⟩
  refine ⟨h'.instances.trans h.instances, h'.notifications.trans h.notifications,
    extra ++ extra', by rw [hcalls', hcalls, List.append_assoc], ?_⟩
  intro call hcall
  rcases List.mem_append.mp hcall with hin | hin
  · exact hquiet call hin
  · exact hquiet' call hin

/-- One call of a quiet hook. -/
theorem of_called (hook : LifecycleHook) (hquiet : hook.isQuiet = true) (id : String)
    (answer : HookAnswer) (hinstances : s'.instances = s.instances)
    (hnotifications : s'.notifications = s.notifications)
    (hcalls : s'.calls = s.calls ++ [⟨hook, id, answer⟩]) : Interlude s s' :=
  ⟨hinstances, hnotifications, [⟨hook, id, answer⟩], hcalls, by simpa using hquiet⟩

/-- Where no call was made nothing happened. -/
theorem of_same (hinstances : s'.instances = s.instances)
    (hnotifications : s'.notifications = s.notifications) (hcalls : s'.calls = s.calls) :
    Interlude s s' :=
  ⟨hinstances, hnotifications, [], by rw [hcalls, List.append_nil], by simp⟩

/-- An interlude activates nothing. -/
theorem activated (h : Interlude s s') : activated s'.calls = activated s.calls := by
  rcases h.calls with ⟨extra, hcalls, hquiet⟩
  rw [hcalls, activated_append, List.append_right_eq_self, TopoExec.activated, List.map_eq_nil_iff,
    List.filter_eq_nil_iff]
  intro call hcall
  have := hquiet call hcall
  cases hhook : call.hook <;> simp_all [LifecycleHook.isQuiet]

/-- An interlude deactivates nothing. -/
theorem deactivated (h : Interlude s s') : deactivated s'.calls = deactivated s.calls := by
  rcases h.calls with ⟨extra, hcalls, hquiet⟩
  rw [hcalls, deactivated_append, List.append_right_eq_self, TopoExec.deactivated,
    List.map_eq_nil_iff, List.filter_eq_nil_iff]
  intro call hcall
  have := hquiet call hcall
  cases hhook : call.hook <;> simp_all [LifecycleHook.isQuiet]

/-- An interlude leaves who has started. -/
theorem startedReversed (h : Interlude s s') : s'.startedReversed = s.startedReversed := by
  rw [RunnerState.startedReversed, RunnerState.startedReversed, h.instances]

end Interlude

/-! ## Answers -/

def HookAnswer.isThrow : HookAnswer → Bool
  | .throws _ => true
  | .ok | .error _ => false

def HookAnswer.isError : HookAnswer → Bool
  | .error _ => true
  | .ok | .throws _ => false

def ObserverAnswer.isThrow : ObserverAnswer → Bool
  | .throws _ => true
  | .delivered .. => false

/-- The component is created, configured and activated without a failure. -/
def ComponentHooks.starts (hooks : ComponentHooks) : Bool :=
  hooks.create.isNone && hooks.configure = .ok && hooks.activate = .ok

/-- Its first failure on the way is an exception. -/
def ComponentHooks.startThrows (hooks : ComponentHooks) : Bool :=
  hooks.create.isSome || hooks.configure.isThrow ||
    (hooks.configure = .ok && hooks.activate.isThrow)

section

variable (env : RunnerEnv) (options : RuntimeRunnerOptions) (graph : GraphSpec)

/-- The components before the first one that does not start. -/
def startedSpecs (specs : List ComponentNodeSpec) : List ComponentNodeSpec :=
  specs.takeWhile fun spec => (env.hooks spec.id).starts

/-- The first component that does not start. -/
def firstFailing (specs : List ComponentNodeSpec) : Option ComponentNodeSpec :=
  specs.find? fun spec => !(env.hooks spec.id).starts

def startedIds : List String := (startedSpecs env graph.components).map ComponentNodeSpec.id

/-- The answer to a restore, if the component and the type of the state fit. -/
def restoreAnswer (entry : String × String) : Option HookAnswer :=
  match graph.components.find? fun spec => spec.id = entry.1 with
  | none => none
  | some spec =>
      if entry.2 ≠ "" ∧ entry.2 ≠ spec.type then none else some (env.hooks entry.1).restore

/-- The answer to a reset, if there is such a component. -/
def resetAnswer (id : String) : Option HookAnswer :=
  (graph.components.find? fun spec => spec.id = id).map fun _ => (env.hooks id).reset

/-- A request that cannot be made fails, like one that returns an error status. -/
def answerFails (answer : Option HookAnswer) : Bool := answer.all HookAnswer.isError

def answerThrows (answer : Option HookAnswer) : Bool := answer.any HookAnswer.isThrow

def schedulerThrows : Bool :=
  match env.scheduler with
  | .error _ => true
  | .ok _ => false

/-- How the part of a run before its cleanup ends. -/
inductive RunEnding where
  | threw
  | failedEarly
  | completed
deriving DecidableEq, Repr

def ending : RunEnding :=
  match firstFailing env graph.components with
  | some spec => if (env.hooks spec.id).startThrows then .threw else .failedEarly
  | none =>
      if (options.restoreComponentStates.any fun entry =>
            answerThrows (restoreAnswer env graph entry)) ||
          options.resetComponentIds.any fun id => answerThrows (resetAnswer env graph id) then
        .threw
      else if (options.restoreComponentStates.any fun entry =>
            answerFails (restoreAnswer env graph entry)) ||
          options.resetComponentIds.any fun id => answerFails (resetAnswer env graph id) then
        .failedEarly
      else if schedulerThrows env || (options.captureComponentStateSnapshots &&
          graph.components.any fun spec => (env.hooks spec.id).snapshot.isThrow) then
        .threw
      else .completed

/-- The behaviours of hooks and observers for which the cleanup is complete and
happens once. -/
def CleansUp : Prop :=
  match ending env options graph with
  | .threw => ∀ id ∈ (startedIds env graph).tail, ((env.hooks id).deactivate 0).isThrow = false
  | .failedEarly =>
      startedIds env graph = [] ∨
        (∀ id ∈ startedIds env graph, ((env.hooks id).deactivate 0).isThrow = false) ∧
          ∀ observer ∈ env.observers, (observer 0).isThrow = false
  | .completed => ∀ id ∈ startedIds env graph, ((env.hooks id).deactivate 0).isThrow = false

end

variable {env : RunnerEnv} {options : RuntimeRunnerOptions} {graph : GraphSpec}
  {s s' : RunnerState}

/-! ## The start -/

/-- The calls that starting one component makes. -/
def startCalls (env : RunnerEnv) (spec : ComponentNodeSpec) : List LifecycleCall :=
  let hooks := env.hooks spec.id
  if hooks.create.isSome then []
  else
    ⟨.configure, spec.id, hooks.configure⟩ ::
      (if hooks.configure = .ok then [⟨.activate, spec.id, hooks.activate⟩] else [])

/-- A component that has started. -/
def startedInstance (spec : ComponentNodeSpec) : Instance :=
  { id := spec.id, configured := true, started := true }

structure StartSpec (env : RunnerEnv) (specs : List ComponentNodeSpec) (s : RunnerState)
    (result : Option String × RunnerState) : Prop where
  calls : result.2.calls = s.calls ++
    (startedSpecs env specs ++ (firstFailing env specs).toList).flatMap (startCalls env)
  started : (result.2.instances.filter Instance.started).map Instance.id =
    (s.instances.filter Instance.started).map Instance.id ++
      (startedSpecs env specs).map ComponentNodeSpec.id
  notifications : result.2.notifications = s.notifications
  throws : result.1.isSome =
    (firstFailing env specs).any fun spec => (env.hooks spec.id).startThrows
  fatal : result.1 = none →
    result.2.hasFatalRuntimeError = (s.hasFatalRuntimeError || (firstFailing env specs).isSome)
  instances : firstFailing env specs = none →
    result.2.instances = s.instances ++ specs.map startedInstance

/-- By induction on the components: they start in their order, up to the first that fails. -/
theorem startComponents_spec (env : RunnerEnv) (specs : List ComponentNodeSpec) (s : RunnerState) :
    StartSpec env specs s (startComponents env specs s) := by
  induction specs generalizing s with
  | nil =>
      refine ⟨?_, ?_, rfl, rfl, ?_, ?_⟩ <;>
        simp [startComponents, startedSpecs, firstFailing]
  | cons spec specs ih =>
      by_cases hstarts : (env.hooks spec.id).starts = true
      · -- the component starts, and the rest of the loop follows
        have hhooks : ((env.hooks spec.id).create = none ∧ (env.hooks spec.id).configure = .ok) ∧
            (env.hooks spec.id).activate = .ok := by
          simpa [ComponentHooks.starts] using hstarts
        have hstarted : startedSpecs env (spec :: specs) = spec :: startedSpecs env specs := by
          simp [startedSpecs, hstarts]
        have hfailing : firstFailing env (spec :: specs) = firstFailing env specs := by
          simp [firstFailing, hstarts]
        have hrest := ih (((s.called .configure spec.id .ok).called .activate spec.id
          .ok).rememberInstance (startedInstance spec))
        have hstep : startComponents env (spec :: specs) s = startComponents env specs
            (((s.called .configure spec.id .ok).called .activate spec.id .ok).rememberInstance
              (startedInstance spec)) := by
          simp [startComponents, hhooks, startedInstance]
        rw [hstep]
        constructor
        · rw [hrest.calls, hstarted, hfailing]
          simp [startCalls, hhooks, RunnerState.called, RunnerState.rememberInstance]
        · rw [hrest.started, hstarted]
          simp [RunnerState.called, RunnerState.rememberInstance, startedInstance]
        · exact hrest.notifications
        · rw [hrest.throws, hfailing]
        · rw [hfailing]
          exact hrest.fatal
        · rw [hfailing]
          intro hnone
          rw [hrest.instances hnone]
          simp [RunnerState.called, RunnerState.rememberInstance]
      · -- the loop ends here, by an exception or by an error status
        have hstarted : startedSpecs env (spec :: specs) = [] := by
          simp [startedSpecs, hstarts]
        have hfailing : firstFailing env (spec :: specs) = some spec := by
          simp [firstFailing, hstarts]
        unfold startComponents
        cases hcreate : (env.hooks spec.id).create with
        | some what =>
            refine ⟨?_, ?_, ?_, ?_, ?_, ?_⟩ <;>
              simp [hstarted, hfailing, startCalls, ComponentHooks.startThrows, hcreate]
        | none =>
            cases hconfigure : (env.hooks spec.id).configure with
            | throws what =>
                refine ⟨?_, ?_, ?_, ?_, ?_, ?_⟩ <;>
                  simp [hstarted, hfailing, startCalls, ComponentHooks.startThrows, hcreate,
                    hconfigure, HookAnswer.isThrow, RunnerState.called]
            | error message =>
                refine ⟨?_, ?_, ?_, ?_, ?_, ?_⟩ <;>
                  simp [hstarted, hfailing, startCalls, ComponentHooks.startThrows, hcreate,
                    hconfigure, HookAnswer.isThrow, RunnerState.called, RunnerState.failStart,
                    RunnerState.appendRuntimeError, RunnerState.rememberInstance,
                    RunnerState.hasFatalRuntimeError]
            | ok =>
                cases hactivate : (env.hooks spec.id).activate with
                | throws what =>
                    refine ⟨?_, ?_, ?_, ?_, ?_, ?_⟩ <;>
                      simp [hstarted, hfailing, startCalls, ComponentHooks.startThrows, hcreate,
                        hconfigure, hactivate, HookAnswer.isThrow, RunnerState.called]
                | error message =>
                    refine ⟨?_, ?_, ?_, ?_, ?_, ?_⟩ <;>
                      simp [hstarted, hfailing, startCalls, ComponentHooks.startThrows, hcreate,
                        hconfigure, hactivate, HookAnswer.isThrow, RunnerState.called,
                        RunnerState.failStart, RunnerState.appendRuntimeError,
                        RunnerState.rememberInstance, RunnerState.hasFatalRuntimeError]
                | ok =>
                    exact absurd (by simp [ComponentHooks.starts, hcreate, hconfigure, hactivate])
                      hstarts

/-! ## Restore, reset and snapshots -/

section

variable {α : Type} {body : α → RunnerState → Option String × RunnerState} {a : α} {l : List α}

theorem forEachHook_of_throws {what : String} (h : (body a s).1 = some what) :
    forEachHook body (a :: l) s = body a s := by
  simp [forEachHook, h]

theorem forEachHook_of_none (h : (body a s).1 = none) :
    forEachHook body (a :: l) s = forEachHook body l (body a s).2 := by
  simp [forEachHook, h]

end

/-- One round of a loop over hooks, in states that satisfy `I`. -/
structure HookSpec {α : Type} (I : RunnerState → Prop)
    (body : α → RunnerState → Option String × RunnerState) (throws fails : α → Bool) : Prop where
  quiet : ∀ a s, Interlude s (body a s).2
  kept : ∀ a s, I s → I (body a s).2
  throws : ∀ a s, I s → (body a s).1.isSome = throws a
  fatal : ∀ a s, I s → (body a s).1 = none →
    (body a s).2.hasFatalRuntimeError = (s.hasFatalRuntimeError || fails a)

namespace HookSpec

variable {α : Type} {I : RunnerState → Prop} {body : α → RunnerState → Option String × RunnerState}
  {throws fails : α → Bool}

/-- A loop over a quiet hook is quiet. -/
theorem loop_quiet (h : HookSpec I body throws fails) (l : List α) (s : RunnerState) :
    Interlude s (forEachHook body l s).2 := by
  induction l generalizing s with
  | nil => exact Interlude.refl s
  | cons a l ih =>
      cases hround : (body a s).1 with
      | some what =>
          rw [forEachHook_of_throws hround]
          exact h.quiet a s
      | none =>
          rw [forEachHook_of_none hround]
          exact (h.quiet a s).trans (ih _)

/-- The loop throws if a round does, and otherwise it has seen every failure. -/
theorem loop (h : HookSpec I body throws fails) (l : List α) (s : RunnerState) (hs : I s) :
    I (forEachHook body l s).2 ∧ (forEachHook body l s).1.isSome = l.any throws ∧
      ((forEachHook body l s).1 = none →
        (forEachHook body l s).2.hasFatalRuntimeError =
          (s.hasFatalRuntimeError || l.any fails)) := by
  induction l generalizing s with
  | nil => simpa [forEachHook] using hs
  | cons a l ih =>
      have hthrows := h.throws a s hs
      cases hround : (body a s).1 with
      | some what =>
          rw [hround, Option.isSome_some] at hthrows
          rw [forEachHook_of_throws hround]
          simpa [hround, ← hthrows] using h.kept a s hs
      | none =>
          rw [hround, Option.isSome_none] at hthrows
          rw [forEachHook_of_none hround]
          rcases ih _ (h.kept a s hs) with ⟨hkept, hsome, hfatal⟩
          refine ⟨hkept, ?_, ?_⟩
          · simpa [← hthrows] using hsome
          · intro hnone
            rw [hfatal hnone, h.fatal a s hs hround, List.any_cons, Bool.or_assoc]

end HookSpec

/-- All components have started. -/
def AllStarted (graph : GraphSpec) (s : RunnerState) : Prop :=
  s.instances = graph.components.map startedInstance

theorem AllStarted.quiet (h : AllStarted graph s) (hquiet : Interlude s s') : AllStarted graph s' :=
  hquiet.instances.trans h

/-- The started components are those of the graph, in its order. -/
theorem AllStarted.started (h : AllStarted graph s) :
    (s.instances.filter Instance.started).map Instance.id =
      graph.components.map ComponentNodeSpec.id := by
  rw [h, List.filter_eq_self.mpr (by simp [startedInstance]), List.map_map]
  rfl

/-- Then every declared component can be found. -/
theorem AllStarted.startedSpec (h : AllStarted graph s) (id : String) :
    startedSpec graph s id = graph.components.find? fun spec => spec.id = id := by
  unfold TopoExec.startedSpec
  split_ifs with hany
  · rfl
  · symm
    rw [List.find?_eq_none]
    intro spec hspec hid
    apply hany
    rw [h, List.any_map, List.any_eq_true]
    exact ⟨spec, hspec, by simp [startedInstance, of_decide_eq_true hid]⟩

/-- Restoring the state of a component touches no other. -/
theorem restoreComponent_spec (env : RunnerEnv) (graph : GraphSpec) :
    HookSpec (AllStarted graph) (restoreComponent env graph)
      (fun entry => answerThrows (restoreAnswer env graph entry))
      (fun entry => answerFails (restoreAnswer env graph entry)) := by
  -- the hook is called at most once, and nothing else happens
  have hquiet : ∀ entry s, Interlude s (restoreComponent env graph entry s).2 := by
    intro entry s
    unfold restoreComponent
    split
    · exact Interlude.of_same rfl rfl rfl
    · split_ifs
      · exact Interlude.of_same rfl rfl rfl
      · dsimp only
        split <;> exact Interlude.of_called .restore rfl entry.1 _ rfl rfl rfl
  constructor
  · exact hquiet
  · exact fun entry s hs => hs.quiet (hquiet entry s)
  · intro entry s hs
    unfold restoreComponent restoreAnswer
    rw [hs.startedSpec]
    cases graph.components.find? fun spec => spec.id = entry.1 with
    | none => rfl
    | some spec =>
        dsimp only
        split_ifs
        · rfl
        · cases hanswer : (env.hooks entry.1).restore <;> simp [answerThrows, HookAnswer.isThrow]
  · intro entry s hs
    unfold restoreComponent restoreAnswer
    rw [hs.startedSpec]
    cases graph.components.find? fun spec => spec.id = entry.1 with
    | none =>
        simp [failRestore, RunnerState.failStart, RunnerState.appendRuntimeError,
          RunnerState.hasFatalRuntimeError, answerFails]
    | some spec =>
        dsimp only
        split_ifs
        · simp [failRestore, RunnerState.failStart, RunnerState.appendRuntimeError,
            RunnerState.hasFatalRuntimeError, answerFails]
        · cases hanswer : (env.hooks entry.1).restore <;>
            simp [failRestore, countRestore, RunnerState.called, RunnerState.failStart,
              RunnerState.appendRuntimeError, RunnerState.hasFatalRuntimeError, answerFails,
              HookAnswer.isError]

/-- Resetting a component touches no other. -/
theorem resetComponent_spec (env : RunnerEnv) (graph : GraphSpec) :
    HookSpec (AllStarted graph) (resetComponent env graph)
      (fun id => answerThrows (resetAnswer env graph id))
      (fun id => answerFails (resetAnswer env graph id)) := by
  -- the hook is called at most once, and nothing else happens
  have hquiet : ∀ id s, Interlude s (resetComponent env graph id s).2 := by
    intro id s
    unfold resetComponent
    split
    · exact Interlude.of_same rfl rfl rfl
    · dsimp only
      split <;> exact Interlude.of_called .reset rfl id _ rfl rfl rfl
  constructor
  · exact hquiet
  · exact fun id s hs => hs.quiet (hquiet id s)
  · intro id s hs
    unfold resetComponent resetAnswer
    rw [hs.startedSpec]
    cases graph.components.find? fun spec => spec.id = id with
    | none => rfl
    | some spec =>
        cases hanswer : (env.hooks id).reset <;> simp [answerThrows, HookAnswer.isThrow]
  · intro id s hs
    unfold resetComponent resetAnswer
    rw [hs.startedSpec]
    cases graph.components.find? fun spec => spec.id = id with
    | none =>
        simp [failReset, RunnerState.failStart, RunnerState.appendRuntimeError,
          RunnerState.hasFatalRuntimeError, answerFails]
    | some spec =>
        cases hanswer : (env.hooks id).reset <;>
          simp [failReset, countReset, RunnerState.called, RunnerState.failStart,
            RunnerState.appendRuntimeError, RunnerState.hasFatalRuntimeError, answerFails,
            HookAnswer.isError]

/-- A failed snapshot is not fatal. -/
theorem captureSnapshot_spec (env : RunnerEnv) (graph : GraphSpec) :
    HookSpec (fun _ => True) (captureSnapshot env graph)
      (fun id => (env.hooks id).snapshot.isThrow) (fun _ => false) := by
  constructor
  · intro id s
    unfold captureSnapshot
    dsimp only
    split <;> exact Interlude.of_called .snapshot rfl id _ rfl rfl rfl
  · exact fun _ _ _ => trivial
  · intro id s _
    unfold captureSnapshot
    cases hanswer : (env.hooks id).snapshot <;> simp [HookAnswer.isThrow]
  · intro id s _
    unfold captureSnapshot
    cases hanswer : (env.hooks id).snapshot <;>
      simp [RunnerState.called, RunnerState.appendRuntimeError, RunnerState.hasFatalRuntimeError]

/-- Who is reset does not depend on how often it was asked for. -/
theorem any_resetOnce (options : RuntimeRunnerOptions) (p : String → Bool) :
    (resetOnce options).any p = options.resetComponentIds.any p := by
  rw [Bool.eq_iff_iff, List.any_eq_true, List.any_eq_true]
  simp only [resetOnce, List.mem_reverse, List.mem_dedup]

/-! ## Observers -/

/-- The observers fail when one of them throws, and all of them are called. -/
theorem notifyEach_throws (notification failures : Nat) (first : String)
    (observers : List (Nat → ObserverAnswer)) (s : RunnerState) :
    (∃ what, (notifyEach notification observers failures first s).1 = .error what) ↔
      ∃ observer ∈ observers, (observer notification).isThrow = true := by
  induction observers generalizing failures first s with
  | nil => simp [notifyEach]
  | cons observer rest ih =>
      unfold notifyEach
      cases hanswer : observer notification with
      | throws what => simp [hanswer, ObserverAnswer.isThrow]
      | delivered more firstMore failureCount droppedEventCount =>
          simp [hanswer, ObserverAnswer.isThrow, ih]

/-- The observers write their counters and nothing else. -/
theorem notifyEach_calls (notification failures : Nat) (first : String)
    (observers : List (Nat → ObserverAnswer)) (s : RunnerState) :
    (notifyEach notification observers failures first s).2.calls = s.calls ∧
      (notifyEach notification observers failures first s).2.instances = s.instances := by
  induction observers generalizing failures first s with
  | nil => exact ⟨rfl, rfl⟩
  | cons observer rest ih =>
      unfold notifyEach
      cases observer notification with
      | throws what => exact ⟨rfl, rfl⟩
      | delivered more firstMore failureCount droppedEventCount => exact ih _ _ _

/-- Notifying calls no hook, and starts or stops no component. -/
theorem notifyRuntimeObservers_same (env : RunnerEnv) (s : RunnerState) :
    (notifyRuntimeObservers env s).2.calls = s.calls ∧
      (notifyRuntimeObservers env s).2.instances = s.instances := by
  have hsame := notifyEach_calls s.notifications 0 "" env.observers
    { s with notifications := s.notifications + 1 }
  unfold notifyRuntimeObservers
  split
  · next hnotify =>
      rw [hnotify] at hsame
      exact hsame
  · next hnotify =>
      rw [hnotify] at hsame
      split_ifs <;> exact hsame

theorem notifyRuntimeObservers_calls (env : RunnerEnv) (s : RunnerState) :
    (notifyRuntimeObservers env s).2.calls = s.calls := (notifyRuntimeObservers_same env s).1

theorem notifyRuntimeObservers_instances (env : RunnerEnv) (s : RunnerState) :
    (notifyRuntimeObservers env s).2.instances = s.instances :=
  (notifyRuntimeObservers_same env s).2

/-- The notification goes well when no observer throws. -/
theorem notifyRuntimeObservers_eq_none (env : RunnerEnv) (s : RunnerState) :
    (notifyRuntimeObservers env s).1 = none ↔
      ∀ observer ∈ env.observers, (observer s.notifications).isThrow = false := by
  have hthrows := notifyEach_throws s.notifications 0 "" env.observers
    { s with notifications := s.notifications + 1 }
  unfold notifyRuntimeObservers
  obtain ⟨answer, s', hnotify⟩ : ∃ answer s', notifyEach s.notifications env.observers 0 ""
      { s with notifications := s.notifications + 1 } = (answer, s') := ⟨_, _, rfl⟩
  rw [hnotify] at hthrows ⊢
  cases answer with
  | error what =>
      rcases hthrows.mp ⟨what, rfl⟩ with ⟨observer, hmem, hobserver⟩
      constructor
      · intro h
        cases h
      · intro h
        rw [h observer hmem] at hobserver
        cases hobserver
  | ok counts =>
      constructor
      · intro _ observer hmem
        rw [Bool.eq_false_iff]
        intro hobserver
        rcases hthrows.mpr ⟨observer, hmem, hobserver⟩ with ⟨what, hwhat⟩
        cases hwhat
      · intro _
        dsimp only
        split_ifs <;> rfl

/-! ## Deactivation loops -/

/-- The new calls are calls of `deactivate_status` on the components `done`. -/
def Deactivates (done : List String) (calls calls' : List LifecycleCall) : Prop :=
  ∃ extra, calls' = calls ++ extra ∧ (∀ call ∈ extra, call.hook = .deactivate) ∧
    extra.map LifecycleCall.component = done

namespace Deactivates

variable {done done' : List String} {calls calls' calls'' : List LifecycleCall}

theorem refl (calls : List LifecycleCall) : Deactivates [] calls calls :=
  ⟨[], by simp, by simp, rfl⟩

theorem trans (h : Deactivates done calls calls') (h' : Deactivates done' calls' calls'') :
    Deactivates (done ++ done') calls calls'' := by
  rcases h with ⟨extra, rfl, hhook, rfl⟩
  rcases h' with ⟨extra', rfl, hhook', rfl⟩
  refine ⟨extra ++ extra', List.append_assoc .., ?_, List.map_append⟩
  intro call hcall
  rcases List.mem_append.mp hcall with hin | hin
  · exact hhook call hin
  · exact hhook' call hin

theorem deactivated (h : Deactivates done calls calls') :
    deactivated calls' = deactivated calls ++ done := by
  rcases h with ⟨extra, rfl, hhook, rfl⟩
  rw [deactivated_append, TopoExec.deactivated.eq_1 extra, List.filter_eq_self.mpr]
  intro call hcall
  simpa using hhook call hcall

theorem activated (h : Deactivates done calls calls') : activated calls' = activated calls := by
  rcases h with ⟨extra, rfl, hhook, -⟩
  rw [activated_append, List.append_right_eq_self, TopoExec.activated, List.map_eq_nil_iff,
    List.filter_eq_nil_iff]
  intro call hcall
  simp [hhook call hcall]

end Deactivates

/-- A loop that deactivates the components `done` and does nothing else. -/
structure Pass (done : List String) (s s' : RunnerState) : Prop where
  instances : s'.instances = s.instances
  notifications : s'.notifications = s.notifications
  calls : Deactivates done s.calls s'.calls

/-- Passes one after the other are one. -/
theorem Pass.trans {done done' : List String} {s'' : RunnerState} (h : Pass done s s')
    (h' : Pass done' s' s'') : Pass (done ++ done') s s'' :=
  ⟨h'.instances.trans h.instances, h'.notifications.trans h.notifications, h.calls.trans h'.calls⟩

/-- A pass leaves who has started. -/
theorem Pass.startedReversed {done : List String} (h : Pass done s s') :
    s'.startedReversed = s.startedReversed := by
  rw [RunnerState.startedReversed, RunnerState.startedReversed, h.instances]

/-- One component is deactivated once, whatever its hook answers. -/
theorem deactivateComponent_pass (env : RunnerEnv) (failsRun : Bool) (id : String)
    (s : RunnerState) : Pass [id] s (deactivateComponent env failsRun id s).2 := by
  unfold deactivateComponent
  dsimp only
  split <;> exact ⟨rfl, rfl, [⟨.deactivate, id, _⟩], rfl, by simp, rfl⟩

/-- What the hook throws is thrown on. -/
theorem deactivateComponent_throws (env : RunnerEnv) (failsRun : Bool) (id : String)
    (s : RunnerState) : (deactivateComponent env failsRun id s).1.isSome =
      ((env.hooks id).deactivate (s.deactivations id)).isThrow := by
  unfold deactivateComponent
  cases hanswer : (env.hooks id).deactivate (s.deactivations id) <;> simp [HookAnswer.isThrow]

/-- A loop goes through its list from the front, up to a component that throws. -/
theorem deactivate_loop_pass (env : RunnerEnv) (failsRun : Bool) (l : List String)
    (s : RunnerState) : ∃ done,
      Pass done s (forEachHook (deactivateComponent env failsRun) l s).2 ∧ done <+: l ∧
        (l ≠ [] → done ≠ []) ∧
        ((forEachHook (deactivateComponent env failsRun) l s).1 = none → done = l) := by
  induction l generalizing s with
  | nil => exact ⟨[], ⟨rfl, rfl, Deactivates.refl _⟩, List.prefix_refl _, fun h => h, fun _ => rfl⟩
  | cons id l ih =>
      have hone := deactivateComponent_pass env failsRun id s
      cases hround : (deactivateComponent env failsRun id s).1 with
      | some what =>
          rw [forEachHook_of_throws hround, hround]
          exact ⟨[id], hone, by simp, by simp, by simp⟩
      | none =>
          rw [forEachHook_of_none hround]
          rcases ih (deactivateComponent env failsRun id s).2 with
            ⟨done, hpass, hpre, -, hdone⟩
          refine ⟨id :: done, hone.trans hpass, by simpa using hpre, by simp, ?_⟩
          intro hnone
          rw [hdone hnone]

/-- The first loop: none of the components has been deactivated before, so the
exceptions are those of their first deactivations. -/
theorem deactivate_loop_first (env : RunnerEnv) (failsRun : Bool) (l : List String)
    (hnodup : l.Nodup) (s : RunnerState) (hfresh : ∀ id ∈ l, s.deactivations id = 0) :
    ((forEachHook (deactivateComponent env failsRun) l s).1 = none ↔
      ∀ id ∈ l, ((env.hooks id).deactivate 0).isThrow = false) ∧
    (deactivated (forEachHook (deactivateComponent env failsRun) l s).2.calls =
        deactivated s.calls ++ l ↔
      ∀ id ∈ l.dropLast, ((env.hooks id).deactivate 0).isThrow = false) := by
  induction l generalizing s with
  | nil => simp [forEachHook]
  | cons id l ih =>
      rw [List.nodup_cons] at hnodup
      have hone := deactivateComponent_pass env failsRun id s
      have hthrows := deactivateComponent_throws env failsRun id s
      rw [hfresh id (List.mem_cons_self ..)] at hthrows
      cases hround : (deactivateComponent env failsRun id s).1 with
      | some what =>
          -- the loop ends here, so it is complete only if nothing follows
          rw [hround, Option.isSome_some] at hthrows
          rw [forEachHook_of_throws hround, hround, hone.calls.deactivated]
          constructor
          · simp [← hthrows]
          · cases l <;> simp [← hthrows]
      | none =>
          rw [hround, Option.isSome_none] at hthrows
          have hfresh' : ∀ id' ∈ l,
              (deactivateComponent env failsRun id s).2.deactivations id' = 0 := by
            intro id' hmem
            have hne : id' ≠ id := fun h => hnodup.1 (h ▸ hmem)
            have hold := hfresh id' (List.mem_cons_of_mem _ hmem)
            rw [RunnerState.deactivations_eq] at hold ⊢
            rw [hone.calls.deactivated, List.count_append, hold, List.count_singleton]
            simpa using hne.symm
          rcases ih hnodup.2 _ hfresh' with ⟨hnone, hdone⟩
          rw [forEachHook_of_none hround]
          constructor
          · simpa [← hthrows] using hnone
          · rw [hone.calls.deactivated, List.append_assoc, List.singleton_append] at hdone
            rw [hdone]
            cases l <;> simp [← hthrows]

end TopoExec
