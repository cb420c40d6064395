import TopoExec.Config.Transaction
import TopoExec.Lib.History

/-! # What a config transaction commits

The transaction validates and applies a copy of the pending updates, but commits what is
pending at its end. `config_commit_iff` says for which runs this makes no difference: in
every transaction that succeeds, what is staged meanwhile for a component ends as the
update in the copy.
-/

namespace TopoExec

variable {env : ConfigEnv} {s : ConfigState}

/-! ## Statement -/

/-- A commit after the events in `earlier`: every config that becomes current has been
validated and applied with success in the same transaction. -/
def CommitsApplied (earlier : List ConfigEvent) : ConfigEvent → Prop
  | .called .. => True
  | .committed transaction configs => ∀ entry ∈ configs,
      .called transaction .validateConfig entry.1 entry.2 .ok ∈ earlier ∧
        .called transaction .applyConfig entry.1 entry.2 .ok ∈ earlier

/-- The updates staged between the copy of the pending ones and the commit. -/
def stagedMeanwhile (env : ConfigEnv) (pending : List (String × ConfigView)) :
    List (String × ConfigView) :=
  env.afterCopy ++ stagedDuring env 0 (pending.length + pending.length)

/-- If the transaction succeeds, the components for which updates are staged meanwhile
end with the update that was pending before. -/
def KeepsCopy (env : ConfigEnv) (pending : OrderedMap String ConfigView) : Prop :=
  Succeeds env pending.entries → ∀ componentId config,
    lastStaged (stagedMeanwhile env pending.entries) componentId = some config →
      pending.find componentId = some config

/-! ## One transaction -/

/-- What is pending when the first loop begins. -/
theorem begin_pending (env : ConfigEnv) (s : ConfigState) (componentId : String) :
    (s.beginTransaction.stageAll env.afterCopy).store.pendingComponentConfigs.find componentId =
      (lastStaged env.afterCopy componentId).or
        (s.store.pendingComponentConfigs.find componentId) :=
  ConfigSnapshotStore.stageAll_pending s.store env.afterCopy componentId

/-- What a transaction records. -/
inductive TransactionEvents (env : ConfigEnv) (s : ConfigState) : List ConfigEvent → Prop
  | commits (configs : List (String × ConfigView))
      (hsucceeds : Succeeds env s.store.pendingComponentConfigs.entries)
      (hconfigs : ∀ entry, entry ∈ configs ↔
        (lastStaged (stagedMeanwhile env s.store.pendingComponentConfigs.entries) entry.1).or
          (s.store.pendingComponentConfigs.find entry.1) = some entry.2) :
      TransactionEvents env s
        (succeeded (s.transactions + 1) .validateConfig s.store.pendingComponentConfigs.entries ++
          succeeded (s.transactions + 1) .applyConfig s.store.pendingComponentConfigs.entries ++
          [.committed (s.transactions + 1) configs])
  | fails (events : List ConfigEvent)
      (hfails : ¬Succeeds env s.store.pendingComponentConfigs.entries)
      (hcalls : OnlyCalls (s.transactions + 1) events) : TransactionEvents env s events

/-- A transaction adds its events to those before. -/
theorem transaction_events (env : ConfigEnv) (s : ConfigState) : ∃ events,
    (applyConfigTransaction env s).2.events = s.events ++ events ∧
      TransactionEvents env s events := by
  have hresult := applyConfigTransaction_result env s
  generalize applyConfigTransaction env s = result at hresult
  cases hresult with
  | committed s' hsucceeds hprogress herrors =>
      have htransactions : s'.transactions = s.transactions + 1 := hprogress.transactions
      have hevents : s'.events = s.events ++ _ := hprogress.events
      refine ⟨_, ?_, .commits s'.store.pendingComponentConfigs.entries hsucceeds ?_⟩
      · rw [ConfigState.commit, hevents, htransactions, List.append_assoc]
      · intro entry
        rw [OrderedMap.mem_entries, hprogress.pending, begin_pending, ← Option.or_assoc,
          ← lastStaged_append]
        rfl
  | missing checked rest componentId config message s' hpending hmissing hprogress =>
      refine ⟨_, hprogress.events, .fails _ ?_ (onlyCalls_succeeded _ _ _)⟩
      intro hsucceeds
      apply hmissing
      refine hsucceeds.1 (componentId, config) ?_
      rw [hpending]
      exact List.mem_append_right _ (List.mem_cons_self ..)
  | invalid checked rest componentId config reason message s' hpending hfails hprogress =>
      exact ⟨_, hprogress.events, .fails _ hfails
        ((onlyCalls_succeeded _ _ _).append (onlyCalls_singleton _ _ _ _ _))⟩
  | applyFailed done rest componentId config reason message count s' hpending _ hfails hprogress =>
      refine ⟨_, hprogress.events, .fails _ hfails ?_⟩
      exact (onlyCalls_succeeded _ _ _).append (((onlyCalls_succeeded _ _ _).append
        (onlyCalls_singleton _ _ _ _ _)).append (onlyCalls_restoreEvents _ _ _ _ _))
  | threw count events n what s' hfails hanswer honly hprogress =>
      exact ⟨_, hprogress.events, .fails _ hfails honly⟩

/-- A transaction has the next number. -/
theorem transaction_number (env : ConfigEnv) (s : ConfigState) :
    (applyConfigTransaction env s).2.transactions = s.transactions + 1 := by
  have hresult := applyConfigTransaction_result env s
  generalize applyConfigTransaction env s = result at hresult
  cases hresult with
  | committed s' _ hprogress _ => exact hprogress.transactions
  | missing _ _ _ _ _ s' _ _ hprogress => exact hprogress.transactions
  | invalid _ _ _ _ _ _ s' _ _ hprogress => exact hprogress.transactions
  | applyFailed _ _ _ _ _ _ _ s' _ _ _ hprogress => exact hprogress.transactions
  | threw _ _ _ _ s' _ _ _ hprogress => exact hprogress.transactions

/-! ## Events and their numbers -/

def ConfigEvent.transaction : ConfigEvent → Nat
  | .called transaction .. => transaction
  | .committed transaction _ => transaction

/-- The recorded events belong to the transactions so far. -/
def NumberedEvents (s : ConfigState) : Prop :=
  ∀ event ∈ s.events, event.transaction ≤ s.transactions

theorem OnlyCalls.transaction {transaction : Nat} {events : List ConfigEvent}
    (h : OnlyCalls transaction events) : ∀ event ∈ events, event.transaction = transaction := by
  intro event hevent
  rcases h event hevent with ⟨hook, componentId, config, answer, rfl⟩
  rfl

theorem TransactionEvents.transaction {events : List ConfigEvent}
    (h : TransactionEvents env s events) :
    ∀ event ∈ events, event.transaction = s.transactions + 1 := by
  cases h with
  | fails _ _ hcalls => exact hcalls.transaction
  | commits configs _ _ =>
      intro event hevent
      rcases List.mem_append.mp hevent with hin | hin
      · exact ((onlyCalls_succeeded _ _ _).append (onlyCalls_succeeded _ _ _)).transaction event hin
      · rw [List.mem_singleton.mp hin]
        rfl

/-- Every step keeps the events numbered. -/
theorem NumberedEvents.exec (h : NumberedEvents s) (step : ConfigStep) :
    NumberedEvents (step.exec s) := by
  cases step with
  | stage componentId config applyOnEpochBoundary => exact h
  | boundary env =>
      rcases transaction_events env s with ⟨events, hevents, htransaction⟩
      intro event hevent
      rw [ConfigStep.exec, hevents] at hevent
      rw [ConfigStep.exec, transaction_number]
      rcases List.mem_append.mp hevent with hin | hin
      · exact Nat.le_succ_of_le (h event hin)
      · exact (htransaction.transaction event hin).le

/-- An event of this transaction is not among the earlier ones. -/
theorem NumberedEvents.notMem (h : NumberedEvents s) (event : ConfigEvent)
    (hevent : event.transaction = s.transactions + 1) : event ∉ s.events := by
  intro hin
  have hle := h event hin
  omega

/-- The calls that succeeded are those of the configs. -/
theorem mem_succeeded {transaction : Nat} {hook hook' : ConfigHook}
    {configs : List (String × ConfigView)} {entry : String × ConfigView} :
    .called transaction hook' entry.1 entry.2 .ok ∈ succeeded transaction hook configs ↔
      hook = hook' ∧ entry ∈ configs := by
  simp only [succeeded, List.mem_map, ConfigEvent.called.injEq, true_and, and_true]
  constructor
  · rintro ⟨entry', hentry', hhook, hid, hconfig⟩
    rw [← Prod.ext hid hconfig]
    exact ⟨hhook, hentry'⟩
  · rintro ⟨hhook, hentry⟩
    exact ⟨entry, hentry, hhook, rfl, rfl⟩

/-- After the calls of a transaction that succeeds, exactly the configs of its copy are
validated and applied. -/
theorem applied_iff_mem (hnumbered : NumberedEvents s) {pending : List (String × ConfigView)}
    (entry : String × ConfigView) :
    (.called (s.transactions + 1) .validateConfig entry.1 entry.2 .ok ∈
        s.events ++ (succeeded (s.transactions + 1) .validateConfig pending ++
          succeeded (s.transactions + 1) .applyConfig pending) ∧
      .called (s.transactions + 1) .applyConfig entry.1 entry.2 .ok ∈
        s.events ++ (succeeded (s.transactions + 1) .validateConfig pending ++
          succeeded (s.transactions + 1) .applyConfig pending)) ↔ entry ∈ pending := by
  have hvalidate := hnumbered.notMem (.called (s.transactions + 1) .validateConfig
    entry.1 entry.2 .ok) rfl
  have happly := hnumbered.notMem (.called (s.transactions + 1) .applyConfig
    entry.1 entry.2 .ok) rfl
  simp [mem_succeeded, hvalidate, happly]

/-! ## Runs -/

/-- One transaction commits what it applied exactly if it keeps its copy. -/
theorem transaction_commits_iff (hnumbered : NumberedEvents s) (env : ConfigEnv) :
    History.Each CommitsApplied (applyConfigTransaction env s).2.events ↔
      History.Each CommitsApplied s.events ∧ KeepsCopy env s.store.pendingComponentConfigs := by
  rcases transaction_events env s with ⟨events, hevents, htransaction⟩
  rw [hevents]
  cases htransaction with
  | fails _ hfails hcalls =>
      refine ⟨fun h => ⟨h.of_append, fun hsucceeds => absurd hsucceeds hfails⟩, fun h => ?_⟩
      refine h.1.append_free ?_
      intro event hevent earlier
      rcases hcalls event hevent with ⟨hook, componentId, config, answer, rfl⟩
      trivial
  | commits configs hsucceeds hconfigs =>
      rw [← List.append_assoc]
      -- the commit takes what is pending now: the copy, unless a hook has staged over it
      have hcommit : CommitsApplied
          (s.events ++ (succeeded (s.transactions + 1) .validateConfig
            s.store.pendingComponentConfigs.entries ++ succeeded (s.transactions + 1) .applyConfig
            s.store.pendingComponentConfigs.entries))
          (.committed (s.transactions + 1) configs) ↔
          KeepsCopy env s.store.pendingComponentConfigs := by
        simp only [CommitsApplied, applied_iff_mem hnumbered, hconfigs, OrderedMap.mem_entries]
        constructor
        · intro h _ componentId config hstaged
          exact h (componentId, config) (by rw [hstaged]; rfl)
        · intro h entry hentry
          cases hstaged : lastStaged
              (stagedMeanwhile env s.store.pendingComponentConfigs.entries) entry.1 with
          | none => rwa [hstaged, Option.none_or] at hentry
          | some config =>
              rw [hstaged, Option.some_or, Option.some.injEq] at hentry
              rw [← hentry]
              exact h hsucceeds entry.1 config hstaged
      rw [← hcommit]
      constructor
      · intro h
        exact ⟨h.of_append.of_append, h _ _ [] rfl⟩
      · intro h
        refine History.Each.append_one (h.1.append_free ?_) h.2
        intro event hevent earlier
        rcases ((onlyCalls_succeeded _ _ _).append (onlyCalls_succeeded _ _ _)) event hevent with
          ⟨hook, componentId, config, answer, rfl⟩
        trivial

/-- By induction on the steps. -/
theorem run_commits_iff (steps : List ConfigStep) (hnumbered : NumberedEvents s) :
    History.Each CommitsApplied (runConfig steps s).events ↔
      History.Each CommitsApplied s.events ∧ ∀ pre env post, steps = pre ++ .boundary env :: post →
        KeepsCopy env (runConfig pre s).store.pendingComponentConfigs := by
  induction steps generalizing s with
  | nil => simp [runConfig]
  | cons step steps ih =>
      have hrun : runConfig (step :: steps) s = runConfig steps (step.exec s) := rfl
      rw [hrun, ih (hnumbered.exec step)]
      -- a boundary is this step, or one of the steps after it
      have hsplit : (∀ pre env post, step :: steps = pre ++ .boundary env :: post →
            KeepsCopy env (runConfig pre s).store.pendingComponentConfigs) ↔
          (∀ env, step = .boundary env → KeepsCopy env s.store.pendingComponentConfigs) ∧
            ∀ pre env post, steps = pre ++ .boundary env :: post →
              KeepsCopy env (runConfig pre (step.exec s)).store.pendingComponentConfigs := by
        constructor
        · intro h
          refine ⟨fun env hstep => h [] env steps (by rw [hstep]; rfl), ?_⟩
          intro pre env post hsteps
          exact h (step :: pre) env post (by rw [hsteps]; rfl)
        · rintro ⟨hfirst, hrest⟩ pre env post hsteps
          cases pre with
          | nil =>
              rw [List.nil_append, List.cons.injEq] at hsteps
              exact hfirst env hsteps.1
          | cons first pre =>
              rw [List.cons_append, List.cons.injEq] at hsteps
              rw [← hsteps.1]
              exact hrest pre env post hsteps.2
      rw [hsplit, ← and_assoc]
      refine and_congr ?_ Iff.rfl
      cases step with
      | stage componentId config applyOnEpochBoundary => simp [ConfigStep.exec]
      | boundary env =>
          rw [ConfigStep.exec, transaction_commits_iff hnumbered]
          simp

/-- In a run, whatever the hooks do and whatever is staged meanwhile, every config that is
committed was validated and applied in the same transaction if and only if every
transaction that succeeds keeps its copy. -/
theorem config_commit_iff (store : ConfigSnapshotStore) (steps : List ConfigStep) :
    History.Each CommitsApplied (runConfig steps { store := store }).events ↔
      ∀ pre env post, steps = pre ++ .boundary env :: post →
        KeepsCopy env (runConfig pre { store := store }).store.pendingComponentConfigs := by
  have hnumbered : NumberedEvents { store := store } := by
    intro event hevent
    cases hevent
  rw [run_commits_iff steps hnumbered]
  refine ⟨fun h => h.2, fun h => ⟨?_, h⟩⟩
  intro pre event post hsplit
  simp at hsplit

/-- A run in which `apply_config` of `planner` stages a second config. -/
def restagingSteps : List ConfigStep :=
  [.stage "planner" { values := [("gain", "1")] } true,
   .boundary
    { components := ["planner"]
      hook := fun n =>
        if n = 1 then { staged := [("planner", { values := [("gain", "2")] })] } else {} }]

/-- The second config is committed, although no hook has seen it. -/
theorem restaged_config_committed :
    (runConfig restagingSteps {}).events =
        [.called 1 .validateConfig "planner" { values := [("gain", "1")] } .ok,
         .called 1 .applyConfig "planner" { values := [("gain", "1")] } .ok,
         .committed 1 [("planner", { values := [("gain", "2")] })]] ∧
      ¬History.Each CommitsApplied (runConfig restagingSteps {}).events := by
  have hevents : (runConfig restagingSteps {}).events =
      [.called 1 .validateConfig "planner" { values := [("gain", "1")] } .ok,
       .called 1 .applyConfig "planner" { values := [("gain", "1")] } .ok,
       .committed 1 [("planner", { values := [("gain", "2")] })]] := by decide
  refine ⟨hevents, ?_⟩
  rw [hevents]
  intro hcommits
  have hcommit := (hcommits [_, _] _ [] rfl _ (List.mem_singleton.mpr rfl)).1
  revert hcommit
  decide

end TopoExec
