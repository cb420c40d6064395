import Mathlib.Data.List.TakeWhile
import TopoExec.Runtime.Lifecycle

/-! # The calls of a whole run

`runBlock_ending` follows the `try` block to the point where its cleanup begins, and
`run_passes` adds the cleanup: the calls of a run are those of the start, quiet ones,
and the deactivations of at most two loops, each of which goes through the started
components from the last one on.

`cleanup_once_iff` is the result: the components that were activated are deactivated
once each, in reverse order, exactly if `CleansUp` holds of the answers.
-/

namespace TopoExec

variable {env : RunnerEnv} {options : RuntimeRunnerOptions} {graph : GraphSpec}
  {s s' : RunnerState}

/-! ## Before the cleanup -/

/-- The calls of the loop that starts the components. -/
def startupCalls (env : RunnerEnv) (graph : GraphSpec) : List LifecycleCall :=
  (startedSpecs env graph.components ++ (firstFailing env graph.components).toList).flatMap
    (startCalls env)

/-- Starting a component configures and activates that component. -/
theorem mem_startCalls {spec : ComponentNodeSpec} {call : LifecycleCall}
    (h : call ∈ startCalls env spec) :
    call.component = spec.id ∧ (call.hook = .configure ∨ call.hook = .activate) := by
  unfold startCalls at h
  dsimp only at h
  split_ifs at h
  · cases h
  · rcases List.mem_cons.mp h with rfl | h
    · exact ⟨rfl, Or.inl rfl⟩
    · rw [List.mem_singleton] at h
      rw [h]
      exact ⟨rfl, Or.inr rfl⟩
  · rw [List.mem_singleton] at h
    rw [h]
    exact ⟨rfl, Or.inl rfl⟩

/-- Starting deactivates nothing. -/
theorem deactivated_startupCalls (env : RunnerEnv) (graph : GraphSpec) :
    deactivated (startupCalls env graph) = [] := by
  rw [deactivated, List.map_eq_nil_iff, List.filter_eq_nil_iff]
  intro call hcall
  rcases List.mem_flatMap.mp hcall with ⟨spec, -, hspec⟩
  rcases mem_startCalls hspec with ⟨-, hhook | hhook⟩ <;> simp [hhook]

/-- A component that starts is configured and activated. -/
theorem startCalls_of_starts {spec : ComponentNodeSpec}
    (h : (env.hooks spec.id).starts = true) :
    startCalls env spec = [⟨.configure, spec.id, .ok⟩, ⟨.activate, spec.id, .ok⟩] := by
  simp only [ComponentHooks.starts, Bool.and_eq_true, Option.isNone_iff_eq_none,
    decide_eq_true_eq] at h
  simp [startCalls, h]

/-- A component that fails to start is not activated. -/
theorem activated_startCalls_of_not {spec : ComponentNodeSpec}
    (h : (env.hooks spec.id).starts = false) : activated (startCalls env spec) = [] := by
  unfold startCalls
  dsimp only
  split_ifs with hcreate hconfigure
  · rfl
  · have hactivate : (env.hooks spec.id).activate ≠ .ok := by
      intro hok
      simp [ComponentHooks.starts, hconfigure, hok] at h
      simp [h] at hcreate
    simp [activated, hactivate]
  · simp [activated]

theorem starts_of_mem_startedSpecs {spec : ComponentNodeSpec} {specs : List ComponentNodeSpec}
    (h : spec ∈ startedSpecs env specs) : (env.hooks spec.id).starts = true :=
  List.mem_takeWhile_imp (p := fun spec : ComponentNodeSpec => (env.hooks spec.id).starts) h

/-- The components that are activated are those that start. -/
theorem activated_startupCalls (env : RunnerEnv) (graph : GraphSpec) :
    activated (startupCalls env graph) = startedIds env graph := by
  have hstarted : ∀ specs : List ComponentNodeSpec,
      (∀ spec ∈ specs, (env.hooks spec.id).starts = true) →
      activated (specs.flatMap (startCalls env)) = specs.map ComponentNodeSpec.id := by
    intro specs hspecs
    induction specs with
    | nil => rfl
    | cons spec specs ih =>
        rw [List.forall_mem_cons] at hspecs
        rw [List.flatMap_cons, activated_append, ih hspecs.2, startCalls_of_starts hspecs.1]
        rfl
  have hfailing : activated
      ((firstFailing env graph.components).toList.flatMap (startCalls env)) = [] := by
    cases hfirst : firstFailing env graph.components with
    | none => rfl
    | some spec =>
        have hnot := List.find?_some hfirst
        rw [Bool.not_eq_true'] at hnot
        simpa using activated_startCalls_of_not hnot
  rw [startupCalls, List.flatMap_append, activated_append, hfailing, List.append_nil]
  exact hstarted _ fun spec hspec => starts_of_mem_startedSpecs hspec

/-- A state between the start and the first deactivation. -/
structure Running (env : RunnerEnv) (graph : GraphSpec) (s : RunnerState) : Prop where
  calls : ∃ extra, s.calls = startupCalls env graph ++ extra ∧
    ∀ call ∈ extra, call.hook.isQuiet = true
  started : s.startedReversed = (startedIds env graph).reverse
  notifications : s.notifications = 0

namespace Running

theorem quiet (h : Running env graph s) (hquiet : Interlude s s') : Running env graph s' := by
  rcases h.calls with ⟨extra, hcalls, hextra⟩
  rcases hquiet.calls with ⟨extra', hcalls', hextra'⟩
  refine ⟨⟨extra ++ extra', by rw [hcalls', hcalls, List.append_assoc], ?_⟩,
    hquiet.startedReversed.trans h.started, hquiet.notifications.trans h.notifications⟩
  intro call hcall
  rcases List.mem_append.mp hcall with hin | hin
  · exact hextra call hin
  · exact hextra' call hin

theorem activated (h : Running env graph s) : activated s.calls = startedIds env graph := by
  rcases h.calls with ⟨extra, hcalls, hextra⟩
  have hquiet : Interlude { s with calls := startupCalls env graph } s :=
    ⟨rfl, rfl, extra, hcalls, hextra⟩
  rw [hquiet.activated, activated_startupCalls]

theorem deactivated (h : Running env graph s) : deactivated s.calls = [] := by
  rcases h.calls with ⟨extra, hcalls, hextra⟩
  have hquiet : Interlude { s with calls := startupCalls env graph } s :=
    ⟨rfl, rfl, extra, hcalls, hextra⟩
  rw [hquiet.deactivated, deactivated_startupCalls]

/-- After the start the started components are active. -/
theorem of_start (env : RunnerEnv) (graph : GraphSpec) :
    Running env graph (startComponents env graph.components {}).2 := by
  have hspec := startComponents_spec env graph.components {}
  refine ⟨⟨[], ?_, by simp⟩, ?_, hspec.notifications⟩
  · rw [hspec.calls, startupCalls, List.append_nil]
    rfl
  · rw [RunnerState.startedReversed, hspec.started]
    rfl

end Running

theorem andThen_of_throws {phase : Option String × RunnerState}
    {next : RunnerState → BlockEnd × RunnerState} {what : String} (h : phase.1 = some what) :
    andThen phase next = (.threw what, phase.2) := by
  simp [andThen, h]

theorem andThen_of_none {phase : Option String × RunnerState}
    {next : RunnerState → BlockEnd × RunnerState} (h : phase.1 = none) :
    andThen phase next = next phase.2 := by
  simp [andThen, h]

/-- Where the block begins its cleanup, if it does. -/
def ReachesCleanup (env : RunnerEnv) (graph : GraphSpec) (outcome : BlockEnd × RunnerState) :
    RunEnding → Prop
  | .threw => ∃ what s, Running env graph s ∧ outcome = (.threw what, s)
  | .failedEarly => ∃ s, Running env graph s ∧ outcome = finishEarly env s
  | .completed => ∃ s, Running env graph s ∧
      outcome = andThen (deactivateComponents env true s) fun s => (.completed, s)

/-- From the scheduler on, with all components started. -/
theorem runScheduler_ending (options : RuntimeRunnerOptions) (hrunning : Running env graph s)
    (hall : AllStarted graph s) :
    ReachesCleanup env graph (runScheduler env options graph s)
      (if schedulerThrows env || (options.captureComponentStateSnapshots &&
          graph.components.any fun spec => (env.hooks spec.id).snapshot.isThrow) then .threw
        else .completed) := by
  unfold runScheduler schedulerThrows
  cases hscheduler : env.scheduler with
  | error what =>
      simp only [Bool.true_or, if_true]
      exact ⟨what, s, hrunning, rfl⟩
  | ok result =>
      have htaken : Interlude s (takeSchedulerResult result s) := Interlude.of_same rfl rfl rfl
      have hids := (hall.quiet htaken).started
      have hspec := captureSnapshot_spec env graph
      simp only [Bool.false_or, hids]
      -- the block throws with the scheduler or with a snapshot hook
      cases hcapture : options.captureComponentStateSnapshots with
      | false =>
          rw [Bool.false_and]
          exact ⟨_, hrunning.quiet htaken, rfl⟩
      | true =>
          have hquiet := htaken.trans (hspec.loop_quiet
            (graph.components.map ComponentNodeSpec.id) (takeSchedulerResult result s))
          have hthrows := (hspec.loop (graph.components.map ComponentNodeSpec.id)
            (takeSchedulerResult result s) trivial).2.1
          rw [List.any_map] at hthrows
          simp only [if_true, Bool.true_and]
          cases hround : (forEachHook (captureSnapshot env graph)
              (graph.components.map ComponentNodeSpec.id) (takeSchedulerResult result s)).1 with
          | some what =>
              rw [hround, Option.isSome_some] at hthrows
              rw [andThen_of_throws hround]
              simp only [Function.comp_def] at hthrows
              rw [← hthrows]
              exact ⟨what, _, hrunning.quiet hquiet, rfl⟩
          | none =>
              rw [hround, Option.isSome_none] at hthrows
              rw [andThen_of_none hround]
              simp only [Function.comp_def] at hthrows
              rw [← hthrows]
              exact ⟨_, hrunning.quiet hquiet, rfl⟩

/-- From the restores on, with all components started. -/
theorem restore_ending (hrunning : Running env graph s) (hall : AllStarted graph s)
    (hfatal : s.hasFatalRuntimeError = false)
    (hfailing : firstFailing env graph.components = none) :
    ReachesCleanup env graph
      (andThen (forEachHook (restoreComponent env graph) options.restoreComponentStates s) fun s =>
        andThen (forEachHook (resetComponent env graph) (resetOnce options) s) fun s =>
          if s.hasFatalRuntimeError then finishEarly env s else runScheduler env options graph s)
      (ending env options graph) := by
  have hrestore := restoreComponent_spec env graph
  have hreset := resetComponent_spec env graph
  have hquiet := hrestore.loop_quiet options.restoreComponentStates s
  rcases hrestore.loop options.restoreComponentStates s hall with ⟨hall', hthrows, hfails⟩
  simp only [ending, hfailing]
  cases hround : (forEachHook (restoreComponent env graph) options.restoreComponentStates s).1 with
  | some what =>
      rw [hround, Option.isSome_some] at hthrows
      rw [andThen_of_throws hround, ← hthrows, Bool.true_or, if_pos rfl]
      exact ⟨what, _, hrunning.quiet hquiet, rfl⟩
  | none =>
      rw [hround, Option.isSome_none] at hthrows
      rw [andThen_of_none hround, ← hthrows, Bool.false_or]
      have hquiet' := hquiet.trans (hreset.loop_quiet (resetOnce options) _)
      rcases hreset.loop (resetOnce options) _ hall' with ⟨hall'', hthrows', hfails'⟩
      rw [any_resetOnce] at hthrows' hfails'
      cases hround' : (forEachHook (resetComponent env graph) (resetOnce options)
          (forEachHook (restoreComponent env graph) options.restoreComponentStates s).2).1 with
      | some what =>
          rw [hround', Option.isSome_some] at hthrows'
          rw [andThen_of_throws hround', ← hthrows', if_pos rfl]
          exact ⟨what, _, hrunning.quiet hquiet', rfl⟩
      | none =>
          -- every request was answered; a failed one has left a fatal error
          rw [hround', Option.isSome_none] at hthrows'
          rw [andThen_of_none hround', ← hthrows', if_neg Bool.false_ne_true, hfails' hround',
            hfails hround, hfatal, Bool.false_or]
          split_ifs with hany hlate
          · exact ⟨_, hrunning.quiet hquiet', rfl⟩
          · have hsched := runScheduler_ending options (hrunning.quiet hquiet') hall''
            rwa [if_pos hlate] at hsched
          · have hsched := runScheduler_ending options (hrunning.quiet hquiet') hall''
            rwa [if_neg hlate] at hsched

/-- The whole block. -/
theorem runBlock_ending (env : RunnerEnv) (options : RuntimeRunnerOptions) (graph : GraphSpec) :
    ReachesCleanup env graph (runBlock env options graph {}) (ending env options graph) := by
  have hspec := startComponents_spec env graph.components {}
  have hstart := Running.of_start env graph
  have hcount : Interlude (startComponents env graph.components {}).2
      (countInstances (startComponents env graph.components {}).2) := Interlude.of_same rfl rfl rfl
  have hthrows := hspec.throws
  unfold runBlock
  -- an exception at the start leaves the block, an error status makes it return
  cases hround : (startComponents env graph.components {}).1 with
  | some what =>
      rw [hround, Option.isSome_some] at hthrows
      have hending : ending env options graph = .threw := by
        unfold ending
        cases hfailing : firstFailing env graph.components with
        | none => rw [hfailing, Option.any_none] at hthrows; cases hthrows
        | some spec =>
            rw [hfailing, Option.any_some] at hthrows
            simp only [← hthrows, if_true]
      rw [andThen_of_throws hround, hending]
      exact ⟨what, _, hstart, rfl⟩
  | none =>
      rw [hround, Option.isSome_none] at hthrows
      have hfatal :
          (countInstances (startComponents env graph.components {}).2).hasFatalRuntimeError
          = (firstFailing env graph.components).isSome := hspec.fatal hround
      rw [andThen_of_none hround]
      dsimp only
      cases hfailing : firstFailing env graph.components with
      | some spec =>
          rw [hfailing, Option.any_some] at hthrows
          have hending : ending env options graph = .failedEarly := by
            simp only [ending, hfailing, ← hthrows, Bool.false_eq_true, if_false]
          rw [hfatal, hfailing, Option.isSome_some, if_pos rfl, hending]
          exact ⟨_, hstart.quiet hcount, rfl⟩
      | none =>
          rw [hfailing, Option.isSome_none] at hfatal
          rw [if_neg (by rw [hfatal]; exact Bool.false_ne_true)]
          exact restore_ending (hstart.quiet hcount)
            ((hspec.instances hfailing).trans (List.nil_append _)) hfatal hfailing

/-! ## The cleanup -/

namespace Running

/-- The first deactivation loop. -/
theorem first_loop (h : Running env graph s) (failsRun : Bool) : ∃ done,
    Pass done s (deactivateComponents env failsRun s).2 ∧ done <+: (startedIds env graph).reverse ∧
      ((startedIds env graph).reverse ≠ [] → done ≠ []) ∧
      ((deactivateComponents env failsRun s).1 = none → done = (startedIds env graph).reverse) ∧
      ((startedIds env graph).Nodup →
        ((deactivateComponents env failsRun s).1 = none ↔
          ∀ id ∈ startedIds env graph, ((env.hooks id).deactivate 0).isThrow = false) ∧
        (done = (startedIds env graph).reverse ↔
          ∀ id ∈ (startedIds env graph).tail, ((env.hooks id).deactivate 0).isThrow = false)) := by
  unfold deactivateComponents
  rw [h.started]
  rcases deactivate_loop_pass env failsRun (startedIds env graph).reverse s with
    ⟨done, hpass, hpre, hne, hdone⟩
  refine ⟨done, hpass, hpre, hne, hdone, ?_⟩
  intro hnodup
  have hfresh : ∀ id ∈ (startedIds env graph).reverse, s.deactivations id = 0 := by
    intro id _
    rw [RunnerState.deactivations_eq, h.deactivated, List.count_nil]
  rcases deactivate_loop_first env failsRun _ (List.nodup_reverse.mpr hnodup) s hfresh with
    ⟨hnone, hall⟩
  constructor
  · rw [hnone]
    simp only [List.mem_reverse]
  · rw [hpass.calls.deactivated, List.append_cancel_left_eq, List.dropLast_reverse] at hall
    rw [hall]
    simp only [List.mem_reverse]

end Running

/-- The handler makes one loop, whatever the observers do then. -/
theorem handleException_calls (env : RunnerEnv) (what : String) (s : RunnerState) :
    ∃ s₁, s₁.instances = s.instances ∧ s₁.notifications = s.notifications ∧ s₁.calls = s.calls ∧
      (handleException env what s).2.calls = (deactivateComponents env false s₁).2.calls := by
  refine ⟨{ s.appendRuntimeError { phase := "runtime", message := what, code := "exception" } with
    ok := false }, rfl, rfl, rfl, ?_⟩
  unfold handleException
  dsimp only
  split
  · rfl
  · exact notifyRuntimeObservers_calls env _

/-- The loop of the handler starts from the beginning. -/
theorem handleException_deactivates (env : RunnerEnv) (what : String) (s : RunnerState) : ∃ done,
    Deactivates done s.calls (handleException env what s).2.calls ∧ done <+: s.startedReversed ∧
      (s.startedReversed ≠ [] → done ≠ []) := by
  rcases handleException_calls env what s with ⟨s₁, hinstances, -, hcalls, hhandled⟩
  rcases deactivate_loop_pass env false s₁.startedReversed s₁ with ⟨done, hpass, hpre, hne, -⟩
  have hstarted : s₁.startedReversed = s.startedReversed := by
    rw [RunnerState.startedReversed, RunnerState.startedReversed, hinstances]
  rw [hstarted] at hpre hne
  refine ⟨done, ?_, hpre, hne⟩
  rw [hhandled, ← hcalls]
  exact hpass.calls

/-- Two loops that begin with the same component deactivate it twice. -/
theorem append_ne_of_prefixes {l done done' : List String} (hnodup : l.Nodup) (hdone : done <+: l)
    (hne : done ≠ []) (hdone' : done' <+: l) (hne' : done' ≠ []) : done ++ done' ≠ l := by
  intro heq
  cases l with
  | nil => exact hne (List.prefix_nil.mp hdone)
  | cons id l =>
      cases done with
      | nil => exact hne rfl
      | cons first done =>
          cases done' with
          | nil => exact hne' rfl
          | cons first' done' =>
              rw [List.cons_prefix_cons] at hdone hdone'
              rw [hdone.1, hdone'.1, List.cons_append, List.cons.injEq] at heq
              rw [List.nodup_cons, ← heq.2] at hnodup
              exact hnodup.1 (List.mem_append_right _ (List.mem_cons_self ..))

section

variable (validation : GraphValidationResult)

/-- An exception is handled where the run had got to. -/
theorem run_calls_of_threw {what : String} (hok : validation.ok = true)
    (hmode : options.mode = .run) (h : runBlock env options graph {} = (.threw what, s)) :
    (RuntimeRunner.run env options graph validation).2.calls =
      (handleException env what s).2.calls := by
  simp only [RuntimeRunner.run, hok, hmode, h, Bool.true_eq_false, if_false]

theorem run_calls_of_not_threw {outcome : BlockEnd} (hok : validation.ok = true)
    (hmode : options.mode = .run) (hend : outcome = .returned ∨ outcome = .completed)
    (h : runBlock env options graph {} = (outcome, s)) :
    (RuntimeRunner.run env options graph validation).2.calls = s.calls := by
  rcases hend with rfl | rfl
  · simp only [RuntimeRunner.run, hok, hmode, h, Bool.true_eq_false, if_false]
  · simp only [RuntimeRunner.run, hok, hmode, h, Bool.true_eq_false, if_false]
    exact notifyRuntimeObservers_calls env s

end

/-- What the calls of a run consist of, and when the cleanup is complete. -/
structure CleanupSpec (env : RunnerEnv) (options : RuntimeRunnerOptions) (graph : GraphSpec)
    (s : RunnerState) (calls : List LifecycleCall) (done done' : List String) : Prop where
  running : Running env graph s
  calls : Deactivates (done ++ done') s.calls calls
  first : done <+: (startedIds env graph).reverse
  second : done' <+: (startedIds env graph).reverse
  complete : (startedIds env graph).Nodup →
    (done ++ done' = (startedIds env graph).reverse ↔ CleansUp env options graph)

/-- A run whose block is left by an exception before the cleanup. -/
theorem cleanup_of_threw (what : String) (hrunning : Running env graph s)
    (hending : ending env options graph = .threw) : ∃ done,
    CleanupSpec env options graph s (handleException env what s).2.calls done [] := by
  rcases handleException_calls env what s with ⟨s₁, hinstances, hnotifications, hcalls, hhandled⟩
  have hrunning₁ := hrunning.quiet (Interlude.of_same hinstances hnotifications hcalls)
  rcases hrunning₁.first_loop false with ⟨done, hpass, hpre, -, -, hcomplete⟩
  refine ⟨done, hrunning, ?_, hpre, List.nil_prefix, ?_⟩
  · rw [hhandled, ← hcalls, List.append_nil]
    exact hpass.calls
  · intro hnodup
    rw [List.append_nil, (hcomplete hnodup).2, CleansUp, hending]

/-- A first loop that is followed by the one of the handler. -/
theorem deactivates_twice (what : String) {s₁ s₂ : RunnerState} {done : List String}
    (hrunning : Running env graph s) (hpass : Pass done s s₁)
    (hpre : done <+: (startedIds env graph).reverse)
    (hne : (startedIds env graph).reverse ≠ [] → done ≠ [])
    (hinstances : s₂.instances = s₁.instances) (hcalls : s₂.calls = s₁.calls) : ∃ done',
      Deactivates (done ++ done') s.calls (handleException env what s₂).2.calls ∧
        done' <+: (startedIds env graph).reverse ∧
        ((startedIds env graph).Nodup →
          (done ++ done' = (startedIds env graph).reverse ↔ startedIds env graph = [])) := by
  have hstarted : s₂.startedReversed = (startedIds env graph).reverse := by
    rw [RunnerState.startedReversed, hinstances, ← hrunning.started, ← hpass.startedReversed]
    rfl
  rcases handleException_deactivates env what s₂ with ⟨done', hdeactivates, hpre', hne'⟩
  rw [hstarted] at hpre' hne'
  rw [hcalls] at hdeactivates
  refine ⟨done', hpass.calls.trans hdeactivates, hpre', ?_⟩
  intro hnodup
  by_cases hnone : startedIds env graph = []
  · rw [hnone, List.reverse_nil, List.prefix_nil] at hpre hpre'
    simp [hpre, hpre', hnone]
  · have hnone' : (startedIds env graph).reverse ≠ [] := by simpa using hnone
    refine iff_of_false ?_ hnone
    exact append_ne_of_prefixes (List.nodup_reverse.mpr hnodup) hpre (hne hnone') hpre'
      (hne' hnone')

section

variable {validation : GraphValidationResult} (hok : validation.ok = true)
  (hmode : options.mode = .run)

include hok hmode

/-- A run that fails in the start, a restore or a reset. -/
theorem cleanup_of_failedEarly (hrunning : Running env graph s)
    (hblock : runBlock env options graph {} = finishEarly env s)
    (hending : ending env options graph = .failedEarly) : ∃ done done',
      CleanupSpec env options graph s (RuntimeRunner.run env options graph validation).2.calls
        done done' := by
  rcases hrunning.first_loop false with ⟨done, hpass, hpre, hne, hdone, hfirst⟩
  unfold finishEarly at hblock
  cases hloop : (deactivateComponents env false s).1 with
  | some what =>
      rw [andThen_of_throws hloop] at hblock
      rw [run_calls_of_threw validation hok hmode hblock]
      rcases deactivates_twice what hrunning hpass hpre hne rfl rfl with
        ⟨done', hcalls, hpre', htwice⟩
      refine ⟨done, done', hrunning, hcalls, hpre, hpre', ?_⟩
      intro hnodup
      have hthrows : ¬∀ id ∈ startedIds env graph,
          ((env.hooks id).deactivate 0).isThrow = false := by
        intro hall
        rw [(hfirst hnodup).1.mpr hall] at hloop
        cases hloop
      rw [htwice hnodup, CleansUp, hending]
      simp only [hthrows, false_and, or_false]
  | none =>
      rw [andThen_of_none hloop] at hblock
      have hobservers := notifyRuntimeObservers_eq_none env (deactivateComponents env false s).2
      rw [hpass.notifications, hrunning.notifications] at hobservers
      cases hnotify : (notifyRuntimeObservers env (deactivateComponents env false s).2).1 with
      | some what =>
          -- the loop is complete, and the handler repeats it
          rw [andThen_of_throws hnotify] at hblock
          rw [run_calls_of_threw validation hok hmode hblock]
          rcases deactivates_twice what hrunning hpass hpre hne
            (notifyRuntimeObservers_instances env _) (notifyRuntimeObservers_calls env _) with
            ⟨done', hcalls, hpre', htwice⟩
          refine ⟨done, done', hrunning, hcalls, hpre, hpre', ?_⟩
          intro hnodup
          have hthrows : ¬∀ observer ∈ env.observers, (observer 0).isThrow = false := by
            intro hall
            rw [hobservers.mpr hall] at hnotify
            cases hnotify
          rw [htwice hnodup, CleansUp, hending]
          simp only [hthrows, and_false, or_false]
      | none =>
          rw [andThen_of_none hnotify] at hblock
          rw [run_calls_of_not_threw validation hok hmode (Or.inl rfl) hblock,
            notifyRuntimeObservers_calls]
          refine ⟨done, [], hrunning, ?_, hpre, List.nil_prefix, ?_⟩
          · rw [List.append_nil]
            exact hpass.calls
          · intro hnodup
            rw [List.append_nil, CleansUp, hending]
            exact iff_of_true (hdone hloop)
              (Or.inr ⟨(hfirst hnodup).1.mp hloop, hobservers.mp hnotify⟩)

/-- A run that comes to its normal end. -/
theorem cleanup_of_completed (hrunning : Running env graph s)
    (hblock : runBlock env options graph {} =
      andThen (deactivateComponents env true s) fun s => (.completed, s))
    (hending : ending env options graph = .completed) : ∃ done done',
      CleanupSpec env options graph s (RuntimeRunner.run env options graph validation).2.calls
        done done' := by
  rcases hrunning.first_loop true with ⟨done, hpass, hpre, hne, hdone, hfirst⟩
  cases hloop : (deactivateComponents env true s).1 with
  | some what =>
      rw [andThen_of_throws hloop] at hblock
      rw [run_calls_of_threw validation hok hmode hblock]
      -- a hook that throws in the first pass is followed by the pass of the handler
      rcases deactivates_twice what hrunning hpass hpre hne rfl rfl with
        ⟨done', hcalls, hpre', htwice⟩
      refine ⟨done, done', hrunning, hcalls, hpre, hpre', ?_⟩
      intro hnodup
      have hthrows : ¬∀ id ∈ startedIds env graph,
          ((env.hooks id).deactivate 0).isThrow = false := by
        intro hall
        rw [(hfirst hnodup).1.mpr hall] at hloop
        cases hloop
      rw [htwice hnodup, CleansUp, hending]
      refine iff_of_false ?_ hthrows
      intro hnone
      apply hthrows
      simp [hnone]
  | none =>
      rw [andThen_of_none hloop] at hblock
      rw [run_calls_of_not_threw validation hok hmode (Or.inr rfl) hblock]
      refine ⟨done, [], hrunning, ?_, hpre, List.nil_prefix, ?_⟩
      · rw [List.append_nil]
        exact hpass.calls
      · intro hnodup
        rw [List.append_nil, CleansUp, hending]
        exact iff_of_true (hdone hloop) ((hfirst hnodup).1.mp hloop)

/-- The calls of a run. -/
theorem run_cleanup (env : RunnerEnv) (graph : GraphSpec) : ∃ s done done',
    CleanupSpec env options graph s (RuntimeRunner.run env options graph validation).2.calls
      done done' := by
  have hblock := runBlock_ending env options graph
  cases hending : ending env options graph with
  | threw =>
      rw [hending] at hblock
      rcases hblock with ⟨what, s, hrunning, hblock⟩
      rcases cleanup_of_threw what hrunning hending with ⟨done, hcleanup⟩
      rw [run_calls_of_threw validation hok hmode hblock]
      exact ⟨s, done, [], hcleanup⟩
  | failedEarly =>
      rw [hending] at hblock
      rcases hblock with ⟨s, hrunning, hblock⟩
      exact ⟨s, cleanup_of_failedEarly hok hmode hrunning hblock hending⟩
  | completed =>
      rw [hending] at hblock
      rcases hblock with ⟨s, hrunning, hblock⟩
      exact ⟨s, cleanup_of_completed hok hmode hrunning hblock hending⟩

end

/-- In the other modes no hook is called. -/
theorem run_calls_of_mode (env : RunnerEnv) (graph : GraphSpec)
    (validation : GraphValidationResult) (hmode : options.mode ≠ .run) :
    (RuntimeRunner.run env options graph validation).2.calls = [] := by
  unfold RuntimeRunner.run
  split_ifs
  · exact notifyRuntimeObservers_calls env _
  · cases hoption : options.mode with
    | validate => exact notifyRuntimeObservers_calls env _
    | dryRun => exact notifyRuntimeObservers_calls env _
    | run => exact absurd hoption hmode

/-- No component is started twice. -/
theorem startedIds_nodup (env : RunnerEnv) (h : DistinctIds graph) :
    (startedIds env graph).Nodup :=
  h.nodup.sublist ((List.takeWhile_sublist _).map _)

/-- For an accepted graph, all components whose activation succeeded are deactivated
exactly once and in reverse order, and no others, if and only if `CleansUp` holds. -/
theorem cleanup_once_iff {fuel : Nat} {parseDouble : String → Option Double}
    {registry : ComponentRegistry} {validation : GraphValidationResult}
    (hvalidate : validateGraph fuel parseDouble registry graph = some validation)
    (hok : validation.ok = true) (env : RunnerEnv) (options : RuntimeRunnerOptions) :
    deactivated (RuntimeRunner.run env options graph validation).2.calls =
        (activated (RuntimeRunner.run env options graph validation).2.calls).reverse ↔
      (options.mode = .run → CleansUp env options graph) := by
  have hids := (validated_of_ok hvalidate hok).ids
  by_cases hmode : options.mode = .run
  · rcases run_cleanup hok hmode env graph with ⟨s, done, done', hcleanup⟩
    rw [hcleanup.calls.deactivated, hcleanup.calls.activated, hcleanup.running.deactivated,
      hcleanup.running.activated, List.nil_append, hcleanup.complete (startedIds_nodup env hids)]
    simp only [hmode, true_imp_iff]
  · rw [run_calls_of_mode env graph validation hmode]
    exact iff_of_true rfl fun h => absurd h hmode

/-- Two components in the given order; `planner` depends on `driver`. -/
def serviceGraph (order : List String) : GraphSpec where
  schemaVersion := 1
  name := "services"
  lanes := [{ id := "main", type := "event_loop" }]
  components := order.map fun id =>
    { id := id, type := "Service", execution := { lane := "main" }, eventSources := [{}]
      dependsOn := if id = "planner" then ["driver"] else [] }

def serviceRegistry : ComponentRegistry where
  contains := fun _ => true
  describe := fun _ type => .ok { type := type }

/-- A run whose `planner` reports an error when it is activated. -/
def plannerFails : RunnerEnv where
  hooks := fun id => if id = "planner" then { activate := .error "no route" } else {}

/-- A run in which the first deactivation of `driver` throws. -/
def driverThrows : RunnerEnv where
  hooks := fun id =>
    if id = "driver" then { deactivate := fun n => if n = 0 then .throws "busy" else .ok } else {}

theorem serviceGraph_accepted : ∃ validation,
    validateGraph 3 (fun _ => none) serviceRegistry (serviceGraph ["driver", "planner"]) =
      some validation ∧ validation.ok = true :=
  ⟨_, rfl, by decide⟩

/-- Only `driver` was activated, and only `driver` is deactivated. -/
theorem plannerFails_cleans_up : ∃ validation,
    validateGraph 3 (fun _ => none) serviceRegistry (serviceGraph ["driver", "planner"]) =
        some validation ∧ validation.ok = true ∧
      deactivated (RuntimeRunner.run plannerFails {} (serviceGraph ["driver", "planner"])
          validation).2.calls =
        (activated (RuntimeRunner.run plannerFails {} (serviceGraph ["driver", "planner"])
          validation).2.calls).reverse := by
  rcases serviceGraph_accepted with ⟨validation, hvalidate, hok⟩
  refine ⟨validation, hvalidate, hok, (cleanup_once_iff hvalidate hok plannerFails {}).mpr ?_⟩
  intro _
  exact Or.inr ⟨by decide, by decide⟩

/-- At the normal end `planner` is deactivated, `driver` throws, and the handler
deactivates both again. -/
theorem driverThrows_deactivates_twice : ∃ validation,
    validateGraph 3 (fun _ => none) serviceRegistry (serviceGraph ["driver", "planner"]) =
        some validation ∧ validation.ok = true ∧
      activated (RuntimeRunner.run driverThrows {} (serviceGraph ["driver", "planner"])
        validation).2.calls = ["driver", "planner"] ∧
      deactivated (RuntimeRunner.run driverThrows {} (serviceGraph ["driver", "planner"])
        validation).2.calls = ["planner", "driver", "planner", "driver"] :=
  ⟨_, rfl, by decide, by decide, by decide⟩

end TopoExec
