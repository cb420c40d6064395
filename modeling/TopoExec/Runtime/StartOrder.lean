import TopoExec.Lib.History
import TopoExec.Runtime.Cleanup

/-! # Lifecycle dependencies

Validation computes an order of the components in which every component follows the
ones it depends on, but the runner starts the components in the order of their
declarations. `dependency_order_iff` says for which pairs the two agree: a run that
gets as far as a component respects one of its dependencies exactly if the
dependency is declared before the component.
-/

namespace TopoExec

variable {env : RunnerEnv} {options : RuntimeRunnerOptions} {graph : GraphSpec}

/-! ## Statement -/

/-- A call of the run, after the ones in `earlier`, respects the dependency of
`component` on `dependency`: the dependency is configured and activated before the
component is configured, and a component that was activated is deactivated before the
dependency is. -/
def RespectsDependency (dependency component : String) (calls earlier : List LifecycleCall)
    (call : LifecycleCall) : Prop :=
  (call.hook = .configure → call.component = component →
    ⟨.configure, dependency, .ok⟩ ∈ earlier ∧ ⟨.activate, dependency, .ok⟩ ∈ earlier) ∧
  (call.hook = .deactivate → call.component = dependency → component ∈ activated calls →
    component ∈ deactivated earlier)

/-- `dependency` is declared before `component`. -/
def DeclaredBefore (graph : GraphSpec) (dependency component : String) : Prop :=
  ∃ pre spec post, graph.components = pre ++ spec :: post ∧ spec.id = component ∧
    dependency ∈ pre.map ComponentNodeSpec.id

/-- The run gets as far as configuring `component`: all components declared before it
start, and it is created. -/
def ReachesConfigure (env : RunnerEnv) (graph : GraphSpec) (component : String) : Prop :=
  ∃ pre spec post, graph.components = pre ++ spec :: post ∧ spec.id = component ∧
    (∀ earlier ∈ pre, (env.hooks earlier.id).starts = true) ∧ (env.hooks component).create = none

/-! ## The components that the start reaches -/

/-- The components on which the start is attempted. -/
def attempts (env : RunnerEnv) (specs : List ComponentNodeSpec) : List ComponentNodeSpec :=
  startedSpecs env specs ++ (firstFailing env specs).toList

/-- After a component that starts the next one is attempted. -/
theorem attempts_cons_of_starts {spec : ComponentNodeSpec} {specs : List ComponentNodeSpec}
    (h : (env.hooks spec.id).starts = true) :
    attempts env (spec :: specs) = spec :: attempts env specs := by
  simp [attempts, startedSpecs, firstFailing, h]

/-- A component that fails is the last one attempted. -/
theorem attempts_cons_of_not {spec : ComponentNodeSpec} {specs : List ComponentNodeSpec}
    (h : (env.hooks spec.id).starts = false) : attempts env (spec :: specs) = [spec] := by
  simp [attempts, startedSpecs, firstFailing, h]

/-- The attempts follow the declarations. -/
theorem attempts_initial (env : RunnerEnv) (specs : List ComponentNodeSpec) :
    attempts env specs <+: specs := by
  induction specs with
  | nil => exact List.prefix_refl _
  | cons spec specs ih =>
      cases hstarts : (env.hooks spec.id).starts with
      | true =>
          rw [attempts_cons_of_starts hstarts, List.cons_prefix_cons]
          exact ⟨rfl, ih⟩
      | false =>
          rw [attempts_cons_of_not hstarts]
          exact ⟨specs, rfl⟩

/-- Only the last attempt can fail. -/
theorem starts_of_attempts_split {specs pre post : List ComponentNodeSpec}
    {spec : ComponentNodeSpec} (h : attempts env specs = pre ++ spec :: post) :
    ∀ earlier ∈ pre, (env.hooks earlier.id).starts = true := by
  induction specs generalizing pre with
  | nil => simp [attempts, startedSpecs, firstFailing] at h
  | cons first specs ih =>
      cases pre with
      | nil => simp
      | cons earlier pre =>
          cases hstarts : (env.hooks first.id).starts with
          | true =>
              rw [attempts_cons_of_starts hstarts, List.cons_append, List.cons.injEq] at h
              rw [List.forall_mem_cons, ← h.1]
              exact ⟨hstarts, ih h.2⟩
          | false =>
              rw [attempts_cons_of_not hstarts, List.cons_append, List.cons.injEq] at h
              simp at h

/-- The start goes on after components that start. -/
theorem attempts_append {pre : List ComponentNodeSpec}
    (h : ∀ earlier ∈ pre, (env.hooks earlier.id).starts = true) (rest : List ComponentNodeSpec) :
    attempts env (pre ++ rest) = pre ++ attempts env rest := by
  induction pre with
  | nil => rfl
  | cons first pre ih =>
      rw [List.forall_mem_cons] at h
      rw [List.cons_append, attempts_cons_of_starts h.1, ih h.2, List.cons_append]

theorem attempts_cons (env : RunnerEnv) (spec : ComponentNodeSpec)
    (specs : List ComponentNodeSpec) : ∃ rest, attempts env (spec :: specs) = spec :: rest := by
  cases hstarts : (env.hooks spec.id).starts with
  | true => exact ⟨_, attempts_cons_of_starts hstarts⟩
  | false => exact ⟨[], attempts_cons_of_not hstarts⟩

theorem notMem_of_nodup_middle {α : Type} {pre post : List α} {a : α}
    (h : (pre ++ a :: post).Nodup) : a ∉ pre ∧ a ∉ post := by
  have hmiddle := (List.nodup_cons.mp (List.nodup_middle.mp h)).1
  rwa [List.mem_append, not_or] at hmiddle

/-- A component has one place among the declarations. -/
theorem declaration_unique (hids : DistinctIds graph) {pre post pre' post' : List ComponentNodeSpec}
    {spec spec' : ComponentNodeSpec} (h : graph.components = pre ++ spec :: post)
    (h' : graph.components = pre' ++ spec' :: post') (hid : spec.id = spec'.id) :
    pre = pre' ∧ spec = spec' := by
  have hnodup := hids.nodup
  rw [h', List.map_append, List.map_cons] at hnodup
  have hnotin := notMem_of_nodup_middle hnodup
  have hpre : spec ∉ pre' := fun hin => hnotin.1 (hid ▸ List.mem_map_of_mem hin)
  have hpost : spec ∉ post' := fun hin => hnotin.2 (hid ▸ List.mem_map_of_mem hin)
  rcases (List.append_cons_inj_of_notMem hpre hpost).mp (h'.symm.trans h) with ⟨hpre, hspec, -⟩
  exact ⟨hpre.symm, hspec.symm⟩

/-- The calls of the start up to a component that it reaches. -/
theorem startupCalls_split {pre post : List ComponentNodeSpec} {spec : ComponentNodeSpec}
    (h : attempts env graph.components = pre ++ spec :: post) :
    startupCalls env graph = pre.flatMap (startCalls env) ++
      (startCalls env spec ++ post.flatMap (startCalls env)) := by
  rw [startupCalls, ← attempts, h, List.flatMap_append, List.flatMap_cons]

/-- The calls are made to the components. -/
theorem mem_flatMap_startCalls {specs : List ComponentNodeSpec} {call : LifecycleCall}
    (h : call ∈ specs.flatMap (startCalls env)) :
    call.component ∈ specs.map ComponentNodeSpec.id := by
  rcases List.mem_flatMap.mp h with ⟨spec, hspec, hcall⟩
  exact List.mem_map.mpr ⟨spec, hspec, (mem_startCalls hcall).1.symm⟩

/-! ## Start -/

/-- A component on which the start calls a hook is reached. -/
theorem reachesConfigure_of_call {call : LifecycleCall} (h : call ∈ startupCalls env graph) :
    ReachesConfigure env graph call.component := by
  rcases List.mem_flatMap.mp h with ⟨spec, hspec, hcall⟩
  rcases List.append_of_mem hspec with ⟨pre, post, hattempts⟩
  rcases attempts_initial env graph.components with ⟨rest, hrest⟩
  rw [attempts, hattempts, List.append_assoc, List.cons_append] at hrest
  have hid := (mem_startCalls hcall).1
  refine ⟨pre, spec, _, hrest.symm, hid.symm, starts_of_attempts_split hattempts, ?_⟩
  cases hcreate : (env.hooks call.component).create with
  | none => rfl
  | some what =>
      rw [hid] at hcreate
      simp [startCalls, hcreate] at hcall

/-- A dependency that is declared first has started when the component is configured. -/
theorem configure_after {extra earlier later : List LifecycleCall} {call : LifecycleCall}
    {dependency component : String} (hids : DistinctIds graph)
    (hdeclared : DeclaredBefore graph dependency component)
    (hextra : ∀ call ∈ extra, call.hook ≠ .configure)
    (hsplit : startupCalls env graph ++ extra = earlier ++ call :: later)
    (hhook : call.hook = .configure) (hcomponent : call.component = component) :
    ⟨.configure, dependency, .ok⟩ ∈ earlier ∧ ⟨.activate, dependency, .ok⟩ ∈ earlier := by
  rcases hdeclared with ⟨pre, spec, post, hcomponents, hid, hdependency⟩
  -- the call belongs to the start of `spec`
  have hcall : call ∈ startupCalls env graph := by
    have hmem : call ∈ startupCalls env graph ++ extra := by
      rw [hsplit]
      exact List.mem_append_right _ (List.mem_cons_self ..)
    rcases List.mem_append.mp hmem with hin | hin
    · exact hin
    · exact absurd hhook (hextra call hin)
  rcases List.mem_flatMap.mp hcall with ⟨spec', hspec', hcall'⟩
  rcases List.append_of_mem hspec' with ⟨pre', post', hattempts⟩
  rcases attempts_initial env graph.components with ⟨rest, hrest⟩
  rw [attempts, hattempts, List.append_assoc, List.cons_append] at hrest
  rcases declaration_unique hids hcomponents hrest.symm
    (by rw [hid, ← hcomponent, (mem_startCalls hcall').1]) with ⟨rfl, rfl⟩
  -- so the calls of the components before it are earlier
  have hnotin : call ∉ pre.flatMap (startCalls env) := by
    intro hin
    have hnodup := hids.nodup
    rw [hcomponents, List.map_append, List.map_cons] at hnodup
    apply (notMem_of_nodup_middle hnodup).1
    rw [hid, ← hcomponent]
    exact mem_flatMap_startCalls hin
  rw [startupCalls_split hattempts, List.append_assoc] at hsplit
  rcases History.append_split hsplit with ⟨rest', hpre, -⟩ | ⟨rest', rfl, -⟩
  · exact absurd (hpre ▸ List.mem_append_right _ (List.mem_cons_self ..)) hnotin
  · rcases List.mem_map.mp hdependency with ⟨first, hfirst, rfl⟩
    have hcalls := startCalls_of_starts (starts_of_attempts_split hattempts first hfirst)
    constructor <;>
      exact List.mem_append_left _ (List.mem_flatMap.mpr ⟨first, hfirst, by simp [hcalls]⟩)

/-- Conversely, what is configured before the component is declared before it. -/
theorem declaredBefore_of_configure (extra : List LifecycleCall) {dependency component : String}
    (hreaches : ReachesConfigure env graph component)
    (hrespects : ∀ earlier call later, startupCalls env graph ++ extra = earlier ++ call :: later →
      call.hook = .configure → call.component = component →
      ⟨.configure, dependency, .ok⟩ ∈ earlier) :
    DeclaredBefore graph dependency component := by
  rcases hreaches with ⟨pre, spec, post, hcomponents, rfl, hstarts, hcreate⟩
  rcases attempts_cons env spec post with ⟨rest, hrest⟩
  have hattempts : attempts env graph.components = pre ++ spec :: rest := by
    rw [hcomponents, attempts_append hstarts, hrest]
  have hcalls : ∃ others, startCalls env spec =
      ⟨.configure, spec.id, (env.hooks spec.id).configure⟩ :: others := by
    simp [startCalls, hcreate]
  rcases hcalls with ⟨others, hcalls⟩
  have hin := hrespects (pre.flatMap (startCalls env))
    ⟨.configure, spec.id, (env.hooks spec.id).configure⟩
    (others ++ rest.flatMap (startCalls env) ++ extra)
    (by rw [startupCalls_split hattempts, hcalls]; simp) rfl rfl
  exact ⟨pre, spec, post, hcomponents, rfl, mem_flatMap_startCalls hin⟩

/-! ## Cleanup -/

/-- Among the started components the component follows a dependency that is declared
first. -/
theorem startedIds_split {dependency component : String} (hids : DistinctIds graph)
    (hdeclared : DeclaredBefore graph dependency component)
    (hstarted : component ∈ startedIds env graph) :
    ∃ before between after,
      startedIds env graph = before ++ dependency :: (between ++ component :: after) := by
  rcases hdeclared with ⟨pre, spec, post, hcomponents, hid, hdependency⟩
  rcases List.mem_map.mp hstarted with ⟨spec', hspec', hid'⟩
  rcases List.append_of_mem hspec' with ⟨pre', post', hstartedSpecs⟩
  have hinitial : startedSpecs env graph.components <+: graph.components :=
    List.takeWhile_prefix _
  rcases hinitial with ⟨rest, hrest⟩
  rw [hstartedSpecs, List.append_assoc, List.cons_append] at hrest
  rcases declaration_unique hids hcomponents hrest.symm (by rw [hid, hid']) with ⟨rfl, rfl⟩
  rcases List.append_of_mem hdependency with ⟨before, between, hpre⟩
  refine ⟨before, between, post'.map ComponentNodeSpec.id, ?_⟩
  rw [startedIds, hstartedSpecs, List.map_append, List.map_cons, hpre, hid, List.append_assoc,
    List.cons_append]

/-- A loop that deactivates the dependency has deactivated the component before. -/
theorem deactivated_before {done before after : List String} {dependency component : String}
    (hids : DistinctIds graph) (hdeclared : DeclaredBefore graph dependency component)
    (hstarted : component ∈ startedIds env graph)
    (hdone : done <+: (startedIds env graph).reverse)
    (hsplit : done = before ++ dependency :: after) : component ∈ before := by
  rcases startedIds_split hids hdeclared hstarted with ⟨first, between, last, hids'⟩
  rcases hdone with ⟨rest, hrest⟩
  have hnodup := startedIds_nodup env hids
  rw [hids'] at hnodup
  have hmiddle := notMem_of_nodup_middle hnodup
  have hreverse :
      startedIds env graph = (after ++ rest).reverse ++ dependency :: before.reverse := by
    rw [← List.reverse_reverse (startedIds env graph), ← hrest, hsplit]
    simp
  rcases (List.append_cons_inj_of_notMem hmiddle.1 hmiddle.2).mp (hids'.symm.trans hreverse)
    with ⟨-, -, hbefore⟩
  rw [← List.mem_reverse, ← hbefore]
  exact List.mem_append_right _ (List.mem_cons_self ..)

/-! ## Whole runs -/

theorem deactivated_cons {call : LifecycleCall} (h : call.hook = .deactivate)
    (calls : List LifecycleCall) :
    deactivated (call :: calls) = call.component :: deactivated calls := by
  simp [deactivated, h]

/-- The calls of a run after the start. -/
theorem run_calls_split {validation : GraphValidationResult} (hok : validation.ok = true)
    (hmode : options.mode = .run) (env : RunnerEnv) (graph : GraphSpec) : ∃ extra done done',
      (RuntimeRunner.run env options graph validation).2.calls = startupCalls env graph ++ extra ∧
        (∀ call ∈ extra, call.hook ≠ .configure) ∧
        deactivated (RuntimeRunner.run env options graph validation).2.calls = done ++ done' ∧
        activated (RuntimeRunner.run env options graph validation).2.calls =
          startedIds env graph ∧
        done <+: (startedIds env graph).reverse ∧ done' <+: (startedIds env graph).reverse := by
  rcases run_cleanup hok hmode env graph with ⟨s, done, done', hcleanup⟩
  rcases hcleanup.running.calls with ⟨quiet, hquiet, hisQuiet⟩
  have hdeactivated := hcleanup.calls.deactivated
  have hactivated := hcleanup.calls.activated
  rw [hcleanup.running.deactivated, List.nil_append] at hdeactivated
  rw [hcleanup.running.activated] at hactivated
  rcases hcleanup.calls with ⟨loops, hloops, hhook, -⟩
  refine ⟨quiet ++ loops, done, done', by rw [hloops, hquiet, List.append_assoc], ?_,
    hdeactivated, hactivated, hcleanup.first, hcleanup.second⟩
  intro call hcall hconfigure
  rcases List.mem_append.mp hcall with hin | hin
  · have hq := hisQuiet call hin
    rw [hconfigure] at hq
    cases hq
  · rw [hhook call hin] at hconfigure
    cases hconfigure

/-- For an accepted graph, a run respects the order of two components, so also that of a
dependency and the component that depends on it, if and only if the first is declared before the
second, or the run does not get as far as the second. -/
theorem dependency_order_iff {fuel : Nat} {parseDouble : String → Option Double}
    {registry : ComponentRegistry} {validation : GraphValidationResult}
    (hvalidate : validateGraph fuel parseDouble registry graph = some validation)
    (hok : validation.ok = true) (dependency component : String) (env : RunnerEnv)
    (options : RuntimeRunnerOptions) :
    History.Each (RespectsDependency dependency component
        (RuntimeRunner.run env options graph validation).2.calls)
        (RuntimeRunner.run env options graph validation).2.calls ↔
      (options.mode = .run → ReachesConfigure env graph component →
        DeclaredBefore graph dependency component) := by
  have hids := (validated_of_ok hvalidate hok).ids
  by_cases hmode : options.mode = .run
  · rcases run_calls_split hok hmode env graph with
      ⟨extra, done, done', hcalls, hextra, hdeactivated, hactivated, hdone, hdone'⟩
    constructor
    · intro hrespects _ hreaches
      refine declaredBefore_of_configure extra hreaches ?_
      intro earlier call later hsplit hhook hid
      exact ((hrespects earlier call later (hcalls.trans hsplit)).1 hhook hid).1
    · intro hdeclared earlier call later hsplit
      constructor
      · intro hhook hid
        have hcall : call ∈ startupCalls env graph := by
          have hmem := List.mem_append_right earlier (List.mem_cons_self (a := call) (l := later))
          rw [← hsplit, hcalls] at hmem
          exact (List.mem_append.mp hmem).resolve_right fun hin => hextra call hin hhook
        have hreaches := reachesConfigure_of_call hcall
        rw [hid] at hreaches
        exact configure_after hids (hdeclared hmode hreaches) hextra (hcalls.symm.trans hsplit)
          hhook hid
      · intro hhook hid hstarted
        rw [hactivated] at hstarted
        have hreaches : ReachesConfigure env graph component := by
          rw [← activated_startupCalls env graph] at hstarted
          rcases List.mem_map.mp hstarted with ⟨call', hcall', hid'⟩
          rw [← hid']
          exact reachesConfigure_of_call (List.mem_of_mem_filter hcall')
        have hdeclared := hdeclared hmode hreaches
        -- the call is in the first loop or in the second
        rw [hsplit, deactivated_append, deactivated_cons hhook, hid] at hdeactivated
        rcases History.append_split hdeactivated.symm with ⟨rest, hfirst, -⟩ | ⟨rest, hpre, hsecond⟩
        · exact deactivated_before hids hdeclared hstarted hdone hfirst
        · rw [hpre]
          exact List.mem_append_right _
            (deactivated_before hids hdeclared hstarted hdone' hsecond)
  · rw [run_calls_of_mode env graph validation hmode]
    refine iff_of_true ?_ fun h => absurd h hmode
    intro earlier call later hsplit
    simp at hsplit

/-- Declared in this order, `planner` follows `driver`, also in a run that fails. -/
theorem driver_before_planner : ∃ validation,
    validateGraph 3 (fun _ => none) serviceRegistry (serviceGraph ["driver", "planner"]) =
        some validation ∧ validation.ok = true ∧
      History.Each (RespectsDependency "driver" "planner"
        (RuntimeRunner.run plannerFails {} (serviceGraph ["driver", "planner"])
          validation).2.calls)
        (RuntimeRunner.run plannerFails {} (serviceGraph ["driver", "planner"])
          validation).2.calls := by
  rcases serviceGraph_accepted with ⟨validation, hvalidate, hok⟩
  refine ⟨validation, hvalidate, hok, ?_⟩
  refine (dependency_order_iff hvalidate hok "driver" "planner" plannerFails {}).mpr fun _ _ => ?_
  exact ⟨[_], _, [], rfl, rfl, List.mem_singleton.mpr rfl⟩

/-- With the declarations the other way round the graph is accepted too, and `planner`
is configured first. -/
theorem planner_before_driver : ∃ validation,
    validateGraph 3 (fun _ => none) serviceRegistry (serviceGraph ["planner", "driver"]) =
        some validation ∧ validation.ok = true ∧
      (∃ planner ∈ (serviceGraph ["planner", "driver"]).components,
        planner.id = "planner" ∧ planner.dependsOn = ["driver"]) ∧
      ¬History.Each (RespectsDependency "driver" "planner"
        (RuntimeRunner.run {} {} (serviceGraph ["planner", "driver"]) validation).2.calls)
        (RuntimeRunner.run {} {} (serviceGraph ["planner", "driver"]) validation).2.calls := by
  refine ⟨_, rfl, by decide, ⟨_, List.mem_cons_self .., rfl, rfl⟩, ?_⟩
  intro hrespects
  have hfirst := (hrespects [] ⟨.configure, "planner", .ok⟩ _ rfl).1 rfl rfl
  cases hfirst.1

end TopoExec
