import TopoExec.Config.Store

/-! # What a config transaction does

`Progress` says what a number of hook calls leaves behind: the recorded calls, and the
updates staged meanwhile. `ValidateResult` and `ApplyResult` list the ways in which the
two loops end, and `validateConfigs_result` and `applyConfigs_result` say that there
are no others.
-/

namespace TopoExec

variable {env : ConfigEnv} {s s' s'' : ConfigState}

/-! ## Staged updates -/

/-- The config that is staged last for a component. -/
def lastStaged (updates : List (String × ConfigView)) (componentId : String) : Option ConfigView :=
  if componentId = "" then none
  else (updates.reverse.find? fun update => update.1 = componentId).map Prod.snd

/-- The last update of a component counts. -/
theorem lastStaged_append (updates updates' : List (String × ConfigView)) (componentId : String) :
    lastStaged (updates ++ updates') componentId =
      (lastStaged updates' componentId).or (lastStaged updates componentId) := by
  unfold lastStaged
  split_ifs
  · rfl
  · rw [List.reverse_append, List.find?_append]
    cases updates'.reverse.find? fun update => update.1 = componentId <;> rfl

namespace ConfigSnapshotStore

/-- Staging concerns pending updates only. -/
structure OnlyPending (store store' : ConfigSnapshotStore) : Prop where
  configs : store'.componentConfigs = store.componentConfigs
  version : store'.metrics.version = store.metrics.version

/-- Only the pending configs change, over any number of calls. -/
theorem OnlyPending.trans {store store' store'' : ConfigSnapshotStore}
    (h : OnlyPending store store') (h' : OnlyPending store' store'') : OnlyPending store store'' :=
  ⟨h'.configs.trans h.configs, h'.version.trans h.version⟩

/-- Staging touches nothing but the pending configs. -/
theorem stage_onlyPending (store : ConfigSnapshotStore) (componentId : String)
    (config : ConfigView) :
    OnlyPending store (store.stageComponentConfigUpdate componentId config true).2 := by
  unfold stageComponentConfigUpdate
  by_cases hempty : componentId = ""
  · rw [if_pos hempty]
    exact ⟨rfl, rfl⟩
  · rw [if_neg hempty, if_pos rfl]
    exact ⟨rfl, rfl⟩

/-- By induction on the updates. -/
theorem stageAll_onlyPending (store : ConfigSnapshotStore)
    (updates : List (String × ConfigView)) : OnlyPending store (store.stageAll updates) := by
  induction updates generalizing store with
  | nil => exact ⟨rfl, rfl⟩
  | cons update updates ih => exact (stage_onlyPending store update.1 update.2).trans (ih _)

/-- Staging sets the pending config of its component. -/
theorem stage_pending (store : ConfigSnapshotStore) (update : String × ConfigView)
    (componentId : String) :
    (store.stageComponentConfigUpdate update.1 update.2 true).2.pendingComponentConfigs.find
        componentId =
      (lastStaged [update] componentId).or (store.pendingComponentConfigs.find componentId) := by
  unfold stageComponentConfigUpdate lastStaged
  by_cases hempty : update.1 = ""
  · -- the update is rejected, and no component has an empty id
    rw [if_pos hempty]
    split_ifs with hid
    · rfl
    · have hne : update.1 ≠ componentId := fun h => hid (h.symm.trans hempty)
      simp [hne]
  · rw [if_neg hempty, if_pos rfl, OrderedMap.find_insert]
    by_cases hid : update.1 = componentId
    · simp [hid ▸ hempty, hid]
    · simp [hid]

/-- What is pending is what was staged last. -/
theorem stageAll_pending (store : ConfigSnapshotStore) (updates : List (String × ConfigView))
    (componentId : String) :
    (store.stageAll updates).pendingComponentConfigs.find componentId =
      (lastStaged updates componentId).or (store.pendingComponentConfigs.find componentId) := by
  induction updates generalizing store with
  | nil => simp [stageAll, lastStaged]
  | cons update updates ih =>
      -- the first update is staged, and the others over it
      rw [stageAll, List.foldl_cons, ← stageAll, ih, stage_pending, ← Option.or_assoc,
        ← lastStaged_append, List.singleton_append]

end ConfigSnapshotStore

/-! ## Progress -/

/-- The updates staged during `count` hook calls, from the `first` one on. -/
def stagedDuring (env : ConfigEnv) (first count : Nat) : List (String × ConfigView) :=
  (List.range count).flatMap fun n => (env.hook (first + n)).staged

/-- What the hooks stage in two parts of a transaction. -/
theorem stagedDuring_add (env : ConfigEnv) (first count count' : Nat) :
    stagedDuring env first (count + count') =
      stagedDuring env first count ++ stagedDuring env (first + count) count' := by
  rw [stagedDuring, List.range_add, List.flatMap_append, List.flatMap_map]
  simp only [stagedDuring, Nat.add_assoc]

/-- A part of a transaction that calls `count` hooks and records `events`. -/
structure Progress (env : ConfigEnv) (count : Nat) (events : List ConfigEvent)
    (s s' : ConfigState) : Prop where
  hookCalls : s'.hookCalls = s.hookCalls + count
  transactions : s'.transactions = s.transactions
  events : s'.events = s.events ++ events
  pending : ∀ id, s'.store.pendingComponentConfigs.find id =
    (lastStaged (stagedDuring env s.hookCalls count) id).or
      (s.store.pendingComponentConfigs.find id)
  store : ConfigSnapshotStore.OnlyPending s.store s'.store

namespace Progress

variable {count count' : Nat} {events events' : List ConfigEvent}

/-- Parts of a transaction put together. -/
theorem trans (h : Progress env count events s s') (h' : Progress env count' events' s' s'') :
    Progress env (count + count') (events ++ events') s s'' := by
  constructor
  · rw [h'.hookCalls, h.hookCalls, Nat.add_assoc]
  · rw [h'.transactions, h.transactions]
  · rw [h'.events, h.events, List.append_assoc]
  · intro id
    rw [h'.pending, h.pending, ← Option.or_assoc, ← lastStaged_append, h.hookCalls,
      ← stagedDuring_add]
  · exact h.store.trans h'.store

/-- A call of a hook is one event, with what it stages. -/
theorem call (env : ConfigEnv) (s : ConfigState) (hook : ConfigHook) (componentId : String)
    (config : ConfigView) :
    Progress env 1 [.called s.transactions hook componentId config (env.hook s.hookCalls).answer] s
      (s.call env hook componentId config).2 := by
  refine ⟨rfl, rfl, rfl, ?_, ConfigSnapshotStore.stageAll_onlyPending _ _⟩
  intro id
  have hstaged : stagedDuring env s.hookCalls 1 = (env.hook s.hookCalls).staged := by
    simp [stagedDuring]
  rw [hstaged]
  exact ConfigSnapshotStore.stageAll_pending _ _ id

/-- A step that calls no hook and leaves the pending updates and the configs alone. -/
theorem silent (hhooks : s'.hookCalls = s.hookCalls)
    (htransactions : s'.transactions = s.transactions)
    (hevents : s'.events = s.events)
    (hpending : s'.store.pendingComponentConfigs = s.store.pendingComponentConfigs)
    (hstore : ConfigSnapshotStore.OnlyPending s.store s'.store) : Progress env 0 [] s s' := by
  refine ⟨hhooks, htransactions, by rw [hevents, List.append_nil], ?_, hstore⟩
  intro id
  rw [hpending]
  simp [stagedDuring, lastStaged]

theorem report (h : Progress env count events s s') (message : String) :
    Progress env count events s (s'.report message) :=
  ⟨h.hookCalls, h.transactions, h.events, h.pending, h.store⟩

/-- Reading a config is counted, and changes nothing else. -/
theorem read (h : Progress env count events s s') (componentId : String) :
    Progress env count events s
      { s' with store := (s'.store.componentConfig componentId).2 } :=
  ⟨h.hookCalls, h.transactions, h.events, h.pending, ⟨h.store.configs, h.store.version⟩⟩

end Progress

/-! ## The first loop -/

/-- The calls of one hook on a list of configs, all successful. -/
def succeeded (transaction : Nat) (hook : ConfigHook) (configs : List (String × ConfigView)) :
    List ConfigEvent :=
  configs.map fun entry => .called transaction hook entry.1 entry.2 .ok

/-- `count` hook calls from the `first` one on succeed. -/
def AnswersOk (env : ConfigEnv) (first count : Nat) : Prop :=
  ∀ n < count, (env.hook (first + n)).answer = .ok

/-- One more hook that answers well, in front. -/
theorem AnswersOk.succ {first count : Nat} (hfirst : (env.hook first).answer = .ok)
    (h : AnswersOk env (first + 1) count) : AnswersOk env first (count + 1) := by
  intro n hn
  cases n with
  | zero => exact hfirst
  | succ n =>
      have hok := h n (by omega)
      rwa [Nat.add_assoc, Nat.add_comm 1] at hok

/-- Two stretches of hooks that answer well. -/
theorem AnswersOk.append {first count count' : Nat} (h : AnswersOk env first count)
    (h' : AnswersOk env (first + count) count') : AnswersOk env first (count + count') := by
  intro n hn
  by_cases hlt : n < count
  · exact h n hlt
  · have hok := h' (n - count) (by omega)
    rwa [show first + count + (n - count) = first + n by omega] at hok

/-- The current config of a component. -/
def currentConfig (store : ConfigSnapshotStore) (componentId : String) : ConfigView :=
  (store.componentConfigs.find componentId).getD {}

/-- The ways in which the first loop ends. -/
inductive ValidateResult (env : ConfigEnv) (pending : List (String × ConfigView))
    (previous : OrderedMap String ConfigView) (s : ConfigState) :
    Except ConfigOutcome (OrderedMap String ConfigView) × ConfigState → Prop
  | valid (s' : ConfigState) (hpresent : ∀ entry ∈ pending, entry.1 ∈ env.components)
      (hok : AnswersOk env s.hookCalls pending.length)
      (hprogress : Progress env pending.length
        (succeeded s.transactions .validateConfig pending) s s')
      (herrors : s'.errors = s.errors) :
      ValidateResult env pending previous s
        (.ok (previous.insertAll
          (pending.map fun entry => (entry.1, currentConfig s.store entry.1))), s')
  | missing (checked rest : List (String × ConfigView)) (componentId : String)
      (config : ConfigView) (message : String) (s' : ConfigState)
      (hpending : pending = checked ++ (componentId, config) :: rest)
      (hmissing : componentId ∉ env.components)
      (hprogress : Progress env checked.length
        (succeeded s.transactions .validateConfig checked) s s') :
      ValidateResult env pending previous s (.error .failed, s'.rollback.report message)
  | invalid (checked rest : List (String × ConfigView)) (componentId : String)
      (config : ConfigView) (reason message : String) (s' : ConfigState)
      (hpending : pending = checked ++ (componentId, config) :: rest)
      (hanswer : (env.hook (s.hookCalls + checked.length)).answer = .error reason)
      (hprogress : Progress env (checked.length + 1)
        (succeeded s.transactions .validateConfig checked ++
          [.called s.transactions .validateConfig componentId config (.error reason)]) s s') :
      ValidateResult env pending previous s (.error .failed, s'.rollback.report message)
  | threw (checked rest : List (String × ConfigView)) (componentId : String)
      (config : ConfigView) (what : String) (s' : ConfigState)
      (hpending : pending = checked ++ (componentId, config) :: rest)
      (hanswer : (env.hook (s.hookCalls + checked.length)).answer = .throws what)
      (hprogress : Progress env (checked.length + 1)
        (succeeded s.transactions .validateConfig checked ++
          [.called s.transactions .validateConfig componentId config (.throws what)]) s s') :
      ValidateResult env pending previous s (.error (.threw what), s')

/-- A valid config in front. -/
theorem ValidateResult.cons {pending : List (String × ConfigView)}
    {previous : OrderedMap String ConfigView} {componentId : String} {config : ConfigView}
    {current : ConfigView}
    {result : Except ConfigOutcome (OrderedMap String ConfigView) × ConfigState}
    (h : ValidateResult env pending (previous.insert componentId current) s' result)
    (hpresent : componentId ∈ env.components) (hanswer : (env.hook s.hookCalls).answer = .ok)
    (hprogress :
      Progress env 1 [.called s.transactions .validateConfig componentId config .ok] s s')
    (hcurrent : current = currentConfig s.store componentId)
    (herrors : s'.errors = s.errors) :
    ValidateResult env ((componentId, config) :: pending) previous s result := by
  have hcalls := hprogress.hookCalls
  have htransactions := hprogress.transactions
  cases h with
  | valid s'' hpresent' hok hprogress' herrors' =>
      -- the configs to restore are read from the store, which the hooks leave as it is
      have hconfigs : ∀ id, currentConfig s'.store id = currentConfig s.store id := by
        intro id
        rw [currentConfig, currentConfig, hprogress.store.configs]
      rw [htransactions] at hprogress'
      rw [hcalls] at hok
      simp only [hconfigs]
      rw [hcurrent]
      refine .valid s'' (List.forall_mem_cons.mpr ⟨hpresent, hpresent'⟩) (hok.succ hanswer) ?_
        (herrors'.trans herrors)
      rw [List.length_cons, Nat.add_comm]
      exact hprogress.trans hprogress'
  | missing checked rest id config' message s'' hpending hmissing hprogress' =>
      rw [htransactions] at hprogress'
      refine .missing ((componentId, config) :: checked) rest id config' message s''
        (by rw [hpending, List.cons_append]) hmissing ?_
      rw [List.length_cons, Nat.add_comm]
      exact hprogress.trans hprogress'
  | invalid checked rest id config' reason message s'' hpending hanswer' hprogress' =>
      rw [htransactions] at hprogress'
      rw [hcalls] at hanswer'
      refine .invalid ((componentId, config) :: checked) rest id config' reason message s''
        (by rw [hpending, List.cons_append]) ?_ ?_
      · rw [List.length_cons, Nat.add_comm checked.length, ← Nat.add_assoc]
        exact hanswer'
      · rw [List.length_cons, Nat.add_comm checked.length, Nat.add_assoc]
        exact hprogress.trans hprogress'
  | threw checked rest id config' what s'' hpending hanswer' hprogress' =>
      rw [htransactions] at hprogress'
      rw [hcalls] at hanswer'
      refine .threw ((componentId, config) :: checked) rest id config' what s''
        (by rw [hpending, List.cons_append]) ?_ ?_
      · rw [List.length_cons, Nat.add_comm checked.length, ← Nat.add_assoc]
        exact hanswer'
      · rw [List.length_cons, Nat.add_comm checked.length, Nat.add_assoc]
        exact hprogress.trans hprogress'

/-- By induction on the pending configs: they are validated in their order, up to the first
refusal. -/
theorem validateConfigs_result (env : ConfigEnv) (pending : List (String × ConfigView))
    (previous : OrderedMap String ConfigView) (s : ConfigState) :
    ValidateResult env pending previous s (validateConfigs env pending previous s) := by
  induction pending generalizing previous s with
  | nil =>
      refine .valid s (by simp) (fun n hn => absurd hn (Nat.not_lt_zero n)) ?_ rfl
      exact Progress.silent rfl rfl rfl rfl ⟨rfl, rfl⟩
  | cons entry pending ih =>
      rcases entry with ⟨componentId, config⟩
      unfold validateConfigs
      by_cases hpresent : componentId ∈ env.components
      swap
      · rw [if_pos hpresent]
        exact .missing [] pending componentId config _ s rfl hpresent
          (Progress.silent rfl rfl rfl rfl ⟨rfl, rfl⟩)
      rw [if_neg (not_not.mpr hpresent)]
      have hcall := Progress.call env s .validateConfig componentId config
      have hfirst : (s.call env .validateConfig componentId config).1 =
        (env.hook s.hookCalls).answer := rfl
      dsimp only
      rw [hfirst]
      cases hanswer : (env.hook s.hookCalls).answer with
      | throws what =>
          rw [hanswer] at hcall
          exact .threw [] pending componentId config what _ rfl hanswer hcall
      | error reason =>
          rw [hanswer] at hcall
          exact .invalid [] pending componentId config reason _ _ rfl hanswer hcall
      | ok =>
          rw [hanswer] at hcall
          refine (ih _ _).cons hpresent hanswer (hcall.read componentId) ?_ rfl
          exact congrArg (fun configs => (OrderedMap.find configs componentId).getD {})
            hcall.store.configs

/-! ## The second loop -/

/-- The calls that restore components, the answers being those from the `first` hook call
on. -/
def restoreEvents (env : ConfigEnv) (transaction : Nat) (previous : OrderedMap String ConfigView) :
    Nat → List String → List ConfigEvent
  | _, [] => []
  | first, componentId :: rest =>
      .called transaction .applyConfig componentId ((previous.find componentId).getD {})
          (env.hook first).answer ::
        restoreEvents env transaction previous (first + 1) rest

/-- Calls of hooks in one transaction. -/
def OnlyCalls (transaction : Nat) (events : List ConfigEvent) : Prop :=
  ∀ event ∈ events, ∃ hook componentId config answer,
    event = .called transaction hook componentId config answer

/-- Calls of one transaction, put together. -/
theorem OnlyCalls.append {transaction : Nat} {events events' : List ConfigEvent}
    (h : OnlyCalls transaction events) (h' : OnlyCalls transaction events') :
    OnlyCalls transaction (events ++ events') := by
  intro event hevent
  rcases List.mem_append.mp hevent with hin | hin
  · exact h event hin
  · exact h' event hin

theorem onlyCalls_singleton (transaction : Nat) (hook : ConfigHook) (componentId : String)
    (config : ConfigView) (answer : HookAnswer) :
    OnlyCalls transaction [.called transaction hook componentId config answer] := by
  intro event hevent
  exact ⟨hook, componentId, config, answer, List.mem_singleton.mp hevent⟩

theorem onlyCalls_succeeded (transaction : Nat) (hook : ConfigHook)
    (configs : List (String × ConfigView)) :
    OnlyCalls transaction (succeeded transaction hook configs) := by
  intro event hevent
  rcases List.mem_map.mp hevent with ⟨entry, -, rfl⟩
  exact ⟨hook, entry.1, entry.2, .ok, rfl⟩

/-- A rollback consists of calls of its transaction. -/
theorem onlyCalls_restoreEvents (env : ConfigEnv) (transaction : Nat)
    (previous : OrderedMap String ConfigView) (first : Nat) (components : List String) :
    OnlyCalls transaction (restoreEvents env transaction previous first components) := by
  induction components generalizing first with
  | nil => simp [OnlyCalls, restoreEvents]
  | cons componentId rest ih =>
      exact (onlyCalls_singleton transaction .applyConfig componentId _ _).append (ih _)

/-- The ways in which restoring components ends. -/
inductive RestoreResult (env : ConfigEnv) (previous : OrderedMap String ConfigView)
    (components : List String) (s : ConfigState) : Option String × ConfigState → Prop
  | restored (s' : ConfigState)
      (hprogress : Progress env components.length
        (restoreEvents env s.transactions previous s.hookCalls components) s s') :
      RestoreResult env previous components s (none, s')
  | threw (n count : Nat) (events : List ConfigEvent) (what : String) (s' : ConfigState)
      (hn : n < components.length)
      (hanswer : (env.hook (s.hookCalls + n)).answer = .throws what)
      (hcalls : OnlyCalls s.transactions events) (hprogress : Progress env count events s s') :
      RestoreResult env previous components s (some what, s')

/-- One component. -/
theorem restoreConfig_result (env : ConfigEnv) (previous : OrderedMap String ConfigView)
    (componentId : String) (s : ConfigState) :
    RestoreResult env previous [componentId] s (restoreConfig env previous componentId s) := by
  have hcall := Progress.call env s .applyConfig componentId ((previous.find componentId).getD {})
  have hfirst : (s.call env .applyConfig componentId ((previous.find componentId).getD {})).1 =
    (env.hook s.hookCalls).answer := rfl
  unfold restoreConfig
  dsimp only
  rw [hfirst]
  cases hanswer : (env.hook s.hookCalls).answer with
  | throws what =>
      exact .threw 0 1 _ what _ Nat.one_pos hanswer (onlyCalls_singleton _ _ _ _ _) hcall
  | ok => exact .restored _ hcall
  | error message => exact .restored _ (hcall.report _)

/-- A restored component in front. -/
theorem RestoreResult.cons {previous : OrderedMap String ConfigView} {componentId : String}
    {components : List String} {result : Option String × ConfigState}
    (h : RestoreResult env previous components s' result)
    (hprogress : Progress env 1
      (restoreEvents env s.transactions previous s.hookCalls [componentId]) s s') :
    RestoreResult env previous (componentId :: components) s result := by
  have hcalls := hprogress.hookCalls
  have htransactions := hprogress.transactions
  cases h with
  | restored s'' hprogress' =>
      rw [htransactions, hcalls] at hprogress'
      refine .restored s'' ?_
      rw [List.length_cons, Nat.add_comm]
      exact hprogress.trans hprogress'
  | threw n count events what s'' hn hanswer honly hprogress' =>
      rw [htransactions] at honly
      rw [hcalls, Nat.add_assoc, Nat.add_comm 1] at hanswer
      exact .threw (n + 1) (1 + count) _ what s'' (Nat.succ_lt_succ hn) hanswer
        ((onlyCalls_restoreEvents _ _ _ _ _).append honly) (hprogress.trans hprogress')

/-- By induction on the components to be restored, the last applied first. -/
theorem restoreConfigs_result (env : ConfigEnv) (previous : OrderedMap String ConfigView)
    (components : List String) (hpresent : ∀ id ∈ components, id ∈ env.components)
    (s : ConfigState) :
    RestoreResult env previous components s (restoreConfigs env previous components s) := by
  induction components generalizing s with
  | nil => exact .restored s (Progress.silent rfl rfl rfl rfl ⟨rfl, rfl⟩)
  | cons componentId components ih =>
      rw [List.forall_mem_cons] at hpresent
      unfold restoreConfigs
      rw [if_neg (not_not.mpr hpresent.1)]
      have hone := restoreConfig_result env previous componentId s
      dsimp only
      generalize restoreConfig env previous componentId s = restored at hone
      cases hone with
      | restored s' hprogress => exact (ih hpresent.2 s').cons hprogress
      | threw n count events what s' hn hanswer honly hprogress =>
          exact .threw n count events what s' (Nat.lt_of_lt_of_le hn (by simp)) hanswer honly
            hprogress

/-- The ways in which the second loop ends. -/
inductive ApplyResult (env : ConfigEnv) (previous : OrderedMap String ConfigView)
    (pending : List (String × ConfigView)) (applied : List String) (s : ConfigState) :
    ConfigOutcome × ConfigState → Prop
  | applied (s' : ConfigState) (hok : AnswersOk env s.hookCalls pending.length)
      (hprogress : Progress env pending.length
        (succeeded s.transactions .applyConfig pending) s s') (herrors : s'.errors = s.errors) :
      ApplyResult env previous pending applied s (.applied, s'.commit)
  | failed (done rest : List (String × ConfigView)) (componentId : String) (config : ConfigView)
      (reason message : String) (count : Nat) (s' : ConfigState)
      (hpending : pending = done ++ (componentId, config) :: rest)
      (hanswer : (env.hook (s.hookCalls + done.length)).answer = .error reason)
      (hprogress : Progress env count
        (succeeded s.transactions .applyConfig done ++
          [.called s.transactions .applyConfig componentId config (.error reason)] ++
          restoreEvents env s.transactions previous (s.hookCalls + (done.length + 1))
            (componentId :: (applied ++ done.map Prod.fst).reverse)) s s') :
      ApplyResult env previous pending applied s (.failed, s'.rollback.report message)
  | threw (n count : Nat) (events : List ConfigEvent) (what : String) (s' : ConfigState)
      (hanswer : (env.hook (s.hookCalls + n)).answer = .throws what)
      (hsome : ¬AnswersOk env s.hookCalls pending.length)
      (hcalls : OnlyCalls s.transactions events) (hprogress : Progress env count events s s') :
      ApplyResult env previous pending applied s (.threw what, s')

/-- An applied config in front. -/
theorem ApplyResult.cons {previous : OrderedMap String ConfigView}
    {pending : List (String × ConfigView)} {applied : List String} {componentId : String}
    {config : ConfigView} {result : ConfigOutcome × ConfigState}
    (h : ApplyResult env previous pending (applied ++ [componentId]) s' result)
    (hanswer : (env.hook s.hookCalls).answer = .ok)
    (hprogress : Progress env 1 [.called s.transactions .applyConfig componentId config .ok] s s')
    (herrors : s'.errors = s.errors) :
    ApplyResult env previous ((componentId, config) :: pending) applied s result := by
  have hcalls := hprogress.hookCalls
  have htransactions := hprogress.transactions
  -- one more applied config in front, whatever becomes of the rest
  cases h with
  | applied s'' hok hprogress' herrors' =>
      rw [hcalls] at hok
      rw [htransactions] at hprogress'
      refine .applied s'' (hok.succ hanswer) ?_ (herrors'.trans herrors)
      rw [List.length_cons, Nat.add_comm]
      exact hprogress.trans hprogress'
  | failed done rest id config' reason message count s'' hpending hanswer' hprogress' =>
      rw [hcalls] at hanswer'
      rw [htransactions, hcalls] at hprogress'
      refine .failed ((componentId, config) :: done) rest id config' reason message (1 + count) s''
        (by rw [hpending, List.cons_append]) ?_ ?_
      · rw [List.length_cons, Nat.add_comm done.length, ← Nat.add_assoc]
        exact hanswer'
      · rw [List.append_assoc applied, List.singleton_append, Nat.add_assoc,
          Nat.add_comm 1] at hprogress'
        exact hprogress.trans hprogress'
  | threw n count events what s'' hanswer' hsome honly hprogress' =>
      rw [hcalls, Nat.add_assoc, Nat.add_comm 1] at hanswer'
      rw [htransactions] at honly
      refine .threw (n + 1) _ _ what s'' hanswer' ?_ ((onlyCalls_singleton _ _ _ _ _).append honly)
        (hprogress.trans hprogress')
      intro hok
      apply hsome
      intro i hi
      rw [hcalls, Nat.add_assoc, Nat.add_comm 1]
      exact hok (i + 1) (Nat.succ_lt_succ hi)

/-- The first call fails, and everything that was applied is restored. -/
theorem applyConfigs_error {previous : OrderedMap String ConfigView}
    {pending : List (String × ConfigView)} {applied : List String} {componentId : String}
    {config : ConfigView} {reason : String}
    (happlied : ∀ id ∈ applied, id ∈ env.components)
    (hanswer : (env.hook s.hookCalls).answer = .error reason) :
    ApplyResult env previous ((componentId, config) :: pending) applied s
      (applyConfigs env previous ((componentId, config) :: pending) applied s) := by
  have hcall := Progress.call env s .applyConfig componentId config
  rw [hanswer] at hcall
  have hfirst : (s.call env .applyConfig componentId config).1 = .error reason := hanswer
  have hcalls := hcall.hookCalls
  have htransactions := hcall.transactions
  have hnot : ¬AnswersOk env s.hookCalls ((componentId, config) :: pending).length := by
    intro hok
    have hzero := hok 0 (Nat.succ_pos _)
    rw [Nat.add_zero, hanswer] at hzero
    cases hzero
  unfold applyConfigs
  simp only [hfirst]
  have hone := restoreConfig_result env previous componentId
    (s.call env .applyConfig componentId config).2
  generalize restoreConfig env previous componentId
    (s.call env .applyConfig componentId config).2 = failed at hone
  -- the failed component is restored first, then the applied ones, the last one first
  cases hone with
  | threw n count events what s₁ hn hanswer₁ honly hprogress =>
      rw [hcalls, Nat.add_assoc] at hanswer₁
      rw [htransactions] at honly
      exact .threw (1 + n) _ _ what s₁ hanswer₁ hnot
        ((onlyCalls_singleton _ _ _ _ _).append honly) (hcall.trans hprogress)
  | restored s₁ hprogress₁ =>
      dsimp only
      have hrest := restoreConfigs_result env previous applied.reverse
        (fun id hid => happlied id (List.mem_reverse.mp hid)) s₁
      generalize restoreConfigs env previous applied.reverse s₁ = restored at hrest
      have hboth := hcall.trans hprogress₁
      have hcalls₁ := hboth.hookCalls
      have htransactions₁ := hboth.transactions
      rw [htransactions, hcalls] at hboth
      cases hrest with
      | threw n count events what s₂ hn hanswer₂ honly hprogress₂ =>
          rw [hcalls₁, Nat.add_assoc] at hanswer₂
          rw [htransactions₁] at honly
          refine .threw _ _ _ what s₂ hanswer₂ hnot ?_ (hboth.trans hprogress₂)
          exact ((onlyCalls_singleton _ _ _ _ _).append
            (onlyCalls_restoreEvents _ _ _ _ _)).append honly
      | restored s₂ hprogress₂ =>
          rw [htransactions₁, hcalls₁] at hprogress₂
          have hall := hboth.trans hprogress₂
          rw [List.append_assoc] at hall
          refine .failed [] pending componentId config reason _
            (1 + 1 + applied.reverse.length) s₂ rfl hanswer ?_
          rw [List.map_nil, List.append_nil]
          exact hall

/-- By induction on the pending configs: they are applied in their order, and on a failure the
applied ones are restored. -/
theorem applyConfigs_result (env : ConfigEnv) (previous : OrderedMap String ConfigView)
    (pending : List (String × ConfigView)) (hpresent : ∀ entry ∈ pending, entry.1 ∈ env.components)
    (applied : List String) (happlied : ∀ id ∈ applied, id ∈ env.components) (s : ConfigState) :
    ApplyResult env previous pending applied s (applyConfigs env previous pending applied s) := by
  induction pending generalizing applied s with
  | nil =>
      exact .applied s (fun n hn => absurd hn (Nat.not_lt_zero n))
        (Progress.silent rfl rfl rfl rfl ⟨rfl, rfl⟩) rfl
  | cons entry pending ih =>
      rcases entry with ⟨componentId, config⟩
      rw [List.forall_mem_cons] at hpresent
      cases hanswer : (env.hook s.hookCalls).answer with
      | error reason => exact applyConfigs_error happlied hanswer
      | throws what =>
          have hcall := Progress.call env s .applyConfig componentId config
          have hfirst : (s.call env .applyConfig componentId config).1 = .throws what := hanswer
          unfold applyConfigs
          simp only [hfirst]
          refine .threw 0 1 _ what _ hanswer ?_ (onlyCalls_singleton _ _ _ _ _) hcall
          intro hok
          have hzero := hok 0 (Nat.succ_pos _)
          rw [Nat.add_zero, hanswer] at hzero
          cases hzero
      | ok =>
          have hcall := Progress.call env s .applyConfig componentId config
          rw [hanswer] at hcall
          have hfirst : (s.call env .applyConfig componentId config).1 = .ok := hanswer
          unfold applyConfigs
          simp only [hfirst]
          -- the config is applied, and its component joins those that a failure restores
          refine (ih hpresent.2 _ ?_ _).cons hanswer hcall rfl
          intro id hid
          rcases List.mem_append.mp hid with hin | hin
          · exact happlied id hin
          · rw [List.mem_singleton.mp hin]
            exact hpresent.1

/-! ## The whole transaction -/

/-- All hooks of a transaction on the given updates succeed. -/
def Succeeds (env : ConfigEnv) (pending : List (String × ConfigView)) : Prop :=
  (∀ entry ∈ pending, entry.1 ∈ env.components) ∧
    AnswersOk env 0 (pending.length + pending.length)

/-- One hook that does not answer well fails the transaction. -/
theorem not_succeeds_of_answer {pending : List (String × ConfigView)} {n : Nat}
    (hn : n < pending.length + pending.length) (hanswer : (env.hook n).answer ≠ .ok) :
    ¬Succeeds env pending := by
  intro hsucceeds
  apply hanswer
  have hok := hsucceeds.2 n hn
  rwa [Nat.zero_add] at hok

/-- The configs that are current when a transaction validates its updates. -/
def previousConfigs (store : ConfigSnapshotStore) (pending : List (String × ConfigView)) :
    OrderedMap String ConfigView :=
  OrderedMap.empty.insertAll (pending.map fun entry => (entry.1, currentConfig store entry.1))

/-- The ways in which a transaction ends. Its first hook call has number 0. -/
inductive TransactionResult (env : ConfigEnv) (s : ConfigState)
    (pending : List (String × ConfigView)) : ConfigOutcome × ConfigState → Prop
  | committed (s' : ConfigState) (hsucceeds : Succeeds env pending)
      (hprogress : Progress env (pending.length + pending.length)
        (succeeded (s.transactions + 1) .validateConfig pending ++
          succeeded (s.transactions + 1) .applyConfig pending)
        (s.beginTransaction.stageAll env.afterCopy) s')
      (herrors : s'.errors = []) : TransactionResult env s pending (.applied, s'.commit)
  | missing (checked rest : List (String × ConfigView)) (componentId : String)
      (config : ConfigView) (message : String) (s' : ConfigState)
      (hpending : pending = checked ++ (componentId, config) :: rest)
      (hmissing : componentId ∉ env.components)
      (hprogress : Progress env checked.length
        (succeeded (s.transactions + 1) .validateConfig checked)
        (s.beginTransaction.stageAll env.afterCopy) s') :
      TransactionResult env s pending (.failed, s'.rollback.report message)
  | invalid (checked rest : List (String × ConfigView)) (componentId : String)
      (config : ConfigView) (reason message : String) (s' : ConfigState)
      (hpending : pending = checked ++ (componentId, config) :: rest)
      (hfails : ¬Succeeds env pending)
      (hprogress : Progress env (checked.length + 1)
        (succeeded (s.transactions + 1) .validateConfig checked ++
          [.called (s.transactions + 1) .validateConfig componentId config (.error reason)])
        (s.beginTransaction.stageAll env.afterCopy) s') :
      TransactionResult env s pending (.failed, s'.rollback.report message)
  | applyFailed (done rest : List (String × ConfigView)) (componentId : String)
      (config : ConfigView) (reason message : String) (count : Nat) (s' : ConfigState)
      (hpending : pending = done ++ (componentId, config) :: rest)
      (hpresent : ∀ entry ∈ pending, entry.1 ∈ env.components) (hfails : ¬Succeeds env pending)
      (hprogress : Progress env count
        (succeeded (s.transactions + 1) .validateConfig pending ++
          (succeeded (s.transactions + 1) .applyConfig done ++
            [.called (s.transactions + 1) .applyConfig componentId config (.error reason)] ++
            restoreEvents env (s.transactions + 1) (previousConfigs s.store pending)
              (pending.length + (done.length + 1)) (componentId :: (done.map Prod.fst).reverse)))
        (s.beginTransaction.stageAll env.afterCopy) s') :
      TransactionResult env s pending (.failed, s'.rollback.report message)
  | threw (count : Nat) (events : List ConfigEvent) (n : Nat) (what : String) (s' : ConfigState)
      (hfails : ¬Succeeds env pending) (hanswer : (env.hook n).answer = .throws what)
      (hcalls : OnlyCalls (s.transactions + 1) events)
      (hprogress : Progress env count events (s.beginTransaction.stageAll env.afterCopy) s') :
      TransactionResult env s pending (.threw what, s')

/-- The second loop, after all updates have been validated. -/
theorem apply_transaction {pending : List (String × ConfigView)} {s' : ConfigState}
    (hpresent : ∀ entry ∈ pending, entry.1 ∈ env.components)
    (hok : AnswersOk env 0 pending.length)
    (hprogress : Progress env pending.length
      (succeeded (s.transactions + 1) .validateConfig pending)
      (s.beginTransaction.stageAll env.afterCopy) s') (herrors : s'.errors = []) :
    TransactionResult env s pending
      (applyConfigs env (previousConfigs s.store pending) pending [] s') := by
  have hcalls : s'.hookCalls = 0 + pending.length := hprogress.hookCalls
  have htransactions : s'.transactions = s.transactions + 1 := hprogress.transactions
  have happly := applyConfigs_result env (previousConfigs s.store pending) pending hpresent []
    (by simp) s'
  generalize applyConfigs env (previousConfigs s.store pending) pending [] s' = applied at happly
  -- all were valid, so the transaction ends as the applications do
  cases happly with
  | applied s'' hok' hprogress' herrors' =>
      rw [hcalls] at hok'
      rw [htransactions] at hprogress'
      exact .committed s'' ⟨hpresent, hok.append hok'⟩ (hprogress.trans hprogress')
        (herrors'.trans herrors)
  | failed done rest componentId config reason message count s'' hpending hanswer hprogress' =>
      rw [hcalls, Nat.zero_add] at hanswer
      rw [htransactions, hcalls, Nat.zero_add] at hprogress'
      refine .applyFailed done rest componentId config reason message _ s'' hpending hpresent ?_
        (hprogress.trans hprogress')
      refine not_succeeds_of_answer ?_ (by rw [hanswer]; simp)
      nth_rewrite 2 [hpending]
      simp only [List.length_append, List.length_cons]
      omega
  | threw n count events what s'' hanswer hsome honly hprogress' =>
      rw [htransactions] at honly
      refine .threw _ _ _ what s'' ?_ hanswer ((onlyCalls_succeeded _ _ _).append honly)
        (hprogress.trans hprogress')
      intro hsucceeds
      apply hsome
      intro i hi
      have hanswers := hsucceeds.2 (pending.length + i) (Nat.add_lt_add_left hi _)
      rwa [← Nat.add_assoc, ← hcalls] at hanswers

/-- The whole of a transaction: what was called, what the store holds after it and what is
reported. -/
theorem applyConfigTransaction_result (env : ConfigEnv) (s : ConfigState) :
    TransactionResult env s s.store.pendingComponentConfigs.entries
      (applyConfigTransaction env s) := by
  unfold applyConfigTransaction
  dsimp only
  by_cases hempty : s.store.pendingComponentConfigs.entries = []
  · -- nothing is validated or applied, but something may have been staged
    rw [hempty]
    exact .committed _ ⟨by simp, fun n hn => absurd hn (Nat.not_lt_zero n)⟩
      (Progress.silent rfl rfl rfl rfl ⟨rfl, rfl⟩) rfl
  · rw [if_neg (by rwa [List.isEmpty_iff])]
    have hvalidate := validateConfigs_result env s.store.pendingComponentConfigs.entries .empty
      (s.beginTransaction.stageAll env.afterCopy)
    generalize validateConfigs env s.store.pendingComponentConfigs.entries .empty
      (s.beginTransaction.stageAll env.afterCopy) = validated at hvalidate
    have hzero : (s.beginTransaction.stageAll env.afterCopy).hookCalls = 0 := rfl
    cases hvalidate with
    | missing checked rest componentId config message s' hpending hmissing hprogress =>
        exact .missing checked rest componentId config message s' hpending hmissing hprogress
    | invalid checked rest componentId config reason message s' hpending hanswer hprogress =>
        rw [hzero, Nat.zero_add] at hanswer
        refine .invalid checked rest componentId config reason message s' hpending ?_ hprogress
        refine not_succeeds_of_answer (n := checked.length) ?_ (by simp [hanswer])
        rw [hpending, List.length_append, List.length_cons]
        omega
    | threw checked rest componentId config what s' hpending hanswer hprogress =>
        rw [hzero, Nat.zero_add] at hanswer
        refine .threw _ _ checked.length what s' ?_ hanswer
          ((onlyCalls_succeeded _ _ _).append (onlyCalls_singleton _ _ _ _ _)) hprogress
        refine not_succeeds_of_answer (n := checked.length) ?_ (by simp [hanswer])
        rw [hpending, List.length_append, List.length_cons]
        omega
    | valid s' hpresent hok hprogress herrors =>
        -- staging between the copy and the hooks leaves the current configs
        have hconfigs : ∀ id, currentConfig (s.beginTransaction.stageAll env.afterCopy).store id =
            currentConfig s.store id := by
          intro id
          rw [currentConfig, currentConfig]
          exact congrArg (fun configs => (OrderedMap.find configs id).getD {})
            (ConfigSnapshotStore.stageAll_onlyPending s.store env.afterCopy).configs
        simp only [hconfigs]
        exact apply_transaction hpresent hok hprogress herrors

end TopoExec
