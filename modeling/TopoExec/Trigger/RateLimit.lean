import TopoExec.Trigger.Run

/-! # The rate limit

With a minimal interval every policy makes at most one invocation per collection, and
only `recordInvocation` moves the time of the last one. So the times of the collections
of a run that made an invocation keep the interval, whatever their order was. A
suppressed collection only drains, prunes and bounds the queues.
-/

namespace TopoExec

open Queues

/-! ## One policy -/

section

variable {context : TickContext} {component : ComponentNodeSpec} {lane : SchedulerGroupConfig}

/-- At most one invocation, and what the rate limit reads and counts is not touched. -/
def AtMostOne (s : TriggerState) (result : Except TriggerFault (List Invocation × TriggerState)) :
    Prop :=
  ∀ r, result = .ok r → r.1.length ≤ 1 ∧ r.2.lastInvoked = s.lastInvoked ∧
    r.2.stats.rateLimitSuppressedCount = s.stats.rateLimitSuppressedCount

theorem AtMostOne.of_ok {s : TriggerState} {r : List Invocation × TriggerState}
    (hlength : r.1.length ≤ 1) (hlast : r.2.lastInvoked = s.lastInvoked)
    (hcount : r.2.stats.rateLimitSuppressedCount = s.stats.rateLimitSuppressedCount) :
    AtMostOne s (.ok r) := by
  rintro _ ⟨⟩
  exact ⟨hlength, hlast, hcount⟩

/-- Counting what is suppressed is no emission. -/
theorem AtMostOne.countSuppressed {s : TriggerState}
    {result : Except TriggerFault (List Invocation × TriggerState)} (h : AtMostOne s result) :
    AtMostOne s (result.map countSuppressed) := by
  cases result with
  | error fault =>
      rintro r ⟨⟩
  | ok r =>
      obtain ⟨hlength, hlast, hcount⟩ := h r rfl
      refine .of_ok ?_ ?_ ?_
      · rw [(countSuppressed_keeps r).1]
        exact hlength
      · unfold TopoExec.countSuppressed
        split_ifs <;> exact hlast
      · unfold TopoExec.countSuppressed
        split_ifs <;> exact hcount

/-- The fronts make one invocation. -/
theorem invokeWithFronts_one {trigger : TriggerKind} {messages : List PortMessage}
    {pending : PendingMessages} {result : List Invocation × PendingMessages}
    (h : invokeWithFronts context component lane trigger messages pending = .ok result) :
    result.1.length = 1 := by
  unfold invokeWithFronts at h
  cases hconsume : consumeFrontMessages (triggerPolicyInputsFor component) pending with
  | error fault =>
      rw [hconsume] at h
      cases h
  | ok after =>
      rw [hconsume] at h
      cases h
      rfl

/-- One front of each input, once. -/
theorem collectAllInputsState_atMostOne (s : TriggerState) :
    AtMostOne s (collectAllInputsState context component lane s) := by
  unfold collectAllInputsState collectAllInputs
  cases frontMessagesForInputs s.pending (triggerPolicyInputsFor component) with
  | none => exact .of_ok (Nat.zero_le 1) rfl rfl
  | some messages =>
      dsimp only
      cases hinvoke : invokeWithFronts context component lane
          (triggerKindForPolicy component.triggerPolicy .message) messages s.pending with
      | error fault =>
          rintro r ⟨⟩
      | ok result => exact .of_ok (invokeWithFronts_one hinvoke).le rfl rfl

/-- The loop ends with its first invocation. -/
theorem collectTimeSyncLoop_atMostOne (fuel : Nat) :
    ∀ (pending : PendingMessages) (dropped : Nat)
      (result : List Invocation × PendingMessages × Nat),
      collectTimeSyncLoop context component lane fuel pending dropped = .ok result →
        result.1.length ≤ 1 := by
  induction fuel with
  | zero =>
      intro pending dropped result h
      cases h
  | succ fuel ih =>
      intro pending dropped result h
      unfold collectTimeSyncLoop at h
      cases hfronts : frontMessagesForInputs pending (triggerPolicyInputsFor component) with
      | none =>
          rw [hfronts] at h
          cases h
          exact Nat.zero_le 1
      | some messages =>
          rw [hfronts] at h
          dsimp only at h
          -- the loop ends with its first invocation, or drops the earliest front and goes on
          split_ifs at h with hsync
          · cases hinvoke : invokeWithFronts context component lane .timeSync messages pending with
            | error fault =>
                rw [hinvoke] at h
                cases h
            | ok r =>
                rw [hinvoke] at h
                cases h
                exact (invokeWithFronts_one hinvoke).le
          · cases messages with
            | nil =>
                cases h
                exact Nat.zero_le 1
            | cons first rest =>
                dsimp only at h
                cases hpop : popFront pending (minItem first rest).1 with
                | error fault =>
                    rw [hpop] at h
                    cases h
                | ok after =>
                    rw [hpop] at h
                    exact ih after (dropped + 1) result h

/-- The loop ends with its first invocation. -/
theorem collectTimestampedLoop_atMostOne (fuel : Nat) :
    ∀ (pending : PendingMessages) (dropped : Nat)
      (result : List Invocation × PendingMessages × Nat),
      collectTimestampedLoop context component lane fuel pending dropped = .ok result →
        result.1.length ≤ 1 := by
  induction fuel with
  | zero =>
      intro pending dropped result h
      cases h
  | succ fuel ih =>
      intro pending dropped result h
      unfold collectTimestampedLoop at h
      cases hfronts : frontMessagesForInputs pending (triggerPolicyInputsFor component) with
      | none =>
          rw [hfronts] at h
          cases h
          exact Nat.zero_le 1
      | some messages =>
          rw [hfronts] at h
          dsimp only at h
          -- the loop ends with its first invocation, or drops the fronts without a timestamp
          split_ifs at h with hmissing
          · cases hinvoke : invokeWithFronts context component lane .condition messages pending with
            | error fault =>
                rw [hinvoke] at h
                cases h
            | ok r =>
                rw [hinvoke] at h
                cases h
                exact (invokeWithFronts_one hinvoke).le
          · cases hconsume : consumeFrontMessages
                ((messages.filter fun item => item.2.eventTimestamp.isNone).map Prod.fst)
                  pending with
            | error fault =>
                rw [hconsume] at h
                cases h
            | ok after =>
                rw [hconsume] at h
                exact ih after _ result h

/-- The loop over the ports is left after the first invocation. -/
theorem collectAnyInputFrom_atMostOne (hinterval : 0 < component.triggerPolicy.minIntervalMs)
    (ports : List String) (pending : PendingMessages) :
    (collectAnyInputFrom context component lane ports pending).1.length ≤ 1 := by
  induction ports with
  | nil => exact Nat.zero_le 1
  | cons port rest ih =>
      unfold collectAnyInputFrom
      cases pending.queue port with
      | nil => exact ih
      | cons message queue =>
          dsimp only
          rw [if_pos hinterval]
          exact Nat.le_refl 1

theorem collectCoalescedAnyInput_atMostOne (pending : PendingMessages) :
    (collectCoalescedAnyInput context component lane pending).1.length ≤ 1 := by
  unfold collectCoalescedAnyInput
  dsimp only
  split_ifs
  · exact Nat.zero_le 1
  · exact Nat.le_refl 1

/-- A collection under `time_sync` emits at most once. -/
theorem collectTimeSync_atMostOne (s : TriggerState) :
    AtMostOne s (collectTimeSync context component lane s) := by
  unfold collectTimeSync
  cases hloop : collectTimeSyncLoop context component lane (s.pending.size + 1) s.pending
      s.stats.timeSyncDropCount with
  | error fault =>
      rintro r ⟨⟩
  | ok result => exact .of_ok (collectTimeSyncLoop_atMostOne _ _ _ _ hloop) rfl rfl

/-- A collection under `batch` emits at most once. -/
theorem collectBatch_atMostOne (s : TriggerState) :
    AtMostOne s (.ok (collectBatch context component lane s)) := by
  unfold collectBatch
  dsimp only
  split_ifs
  · exact .of_ok (Nat.zero_le 1) rfl rfl
  · exact .of_ok (Nat.zero_le 1) rfl rfl
  · exact .of_ok (Nat.le_refl 1) rfl rfl

/-- With an interval the condition takes the first message only. -/
theorem collectCondition_atMostOne (hinterval : 0 < component.triggerPolicy.minIntervalMs)
    (s : TriggerState) : AtMostOne s (collectCondition context component lane s) := by
  unfold collectCondition
  dsimp only
  split_ifs
  · have hany : AtMostOne s (.ok ((collectAnyInput context component lane s.pending).1,
        { s with pending := (collectAnyInput context component lane s.pending).2 })) :=
      .of_ok (collectAnyInputFrom_atMostOne hinterval _ _) rfl rfl
    exact hany.countSuppressed
  · exact (collectAllInputsState_atMostOne s).countSuppressed
  · cases hloop : collectTimestampedLoop context component lane (s.pending.size + 1) s.pending
        s.stats.pendingDropCount with
    | error fault =>
        rintro r ⟨⟩
    | ok result =>
        have hone : AtMostOne s (.ok (result.1, { s with
            pending := result.2.1, stats := { s.stats with pendingDropCount := result.2.2 } })) :=
          .of_ok (collectTimestampedLoop_atMostOne _ _ _ _ hloop) rfl rfl
        exact hone.countSuppressed
  · have hnone : AtMostOne s (.ok ([], s)) := .of_ok (Nat.zero_le 1) rfl rfl
    exact hnone.countSuppressed

/-- With an interval no policy emits twice in a collection. -/
theorem collectByPolicy_atMostOne (hinterval : 0 < component.triggerPolicy.minIntervalMs)
    (s : TriggerState) : AtMostOne s (collectByPolicy context component lane s) := by
  unfold collectByPolicy
  dsimp only
  split_ifs
  · exact collectAllInputsState_atMostOne s
  · exact collectTimeSync_atMostOne s
  · exact collectBatch_atMostOne s
  · exact .of_ok (collectAnyInputFrom_atMostOne hinterval _ _) rfl rfl
  · exact collectCondition_atMostOne hinterval s
  · exact .of_ok (collectCoalescedAnyInput_atMostOne _) rfl rfl
  · exact .of_ok (collectAnyInputFrom_atMostOne hinterval _ _) rfl rfl

end

/-! ## One collection -/

/-- The minimal interval in nanoseconds. -/
def minIntervalNs (component : ComponentNodeSpec) : Int :=
  component.triggerPolicy.minIntervalMs * nanosecondsPerMillisecond

/-- The time of the last invocation before and after a collection at `now`. -/
structure IntervalStep (component : ComponentNodeSpec) (before after : Option Int) (now : Int)
    (invocations : List Invocation) : Prop where
  atMostOne : invocations.length ≤ 1
  moves : invocations ≠ [] →
    after = some now ∧ ∀ last, before = some last → last + minIntervalNs component ≤ now
  stays : invocations = [] → after = before

theorem collectUnlessRateLimited_interval {context : TickContext} {component : ComponentNodeSpec}
    {lane : SchedulerGroupConfig} (hinterval : 0 < component.triggerPolicy.minIntervalMs)
    {s : TriggerState} {r : List Invocation × TriggerState}
    (h : collectUnlessRateLimited context component lane s = .ok r) :
    IntervalStep component s.lastInvoked r.2.lastInvoked context.startedAt r.1 := by
  unfold collectUnlessRateLimited at h
  split_ifs at h with hlimited
  · cases h
    exact ⟨Nat.zero_le 1, fun hne => absurd rfl hne, fun _ => rfl⟩
  · cases hpolicy : collectByPolicy context component lane s with
    | error fault =>
        rw [hpolicy] at h
        cases h
    | ok collected =>
        rw [hpolicy] at h
        cases h
        obtain ⟨hlength, hlast, -⟩ := collectByPolicy_atMostOne hinterval s collected hpolicy
        unfold recordInvocation
        split_ifs with hempty
        · exact ⟨hlength, fun hne => absurd hempty hne, fun _ => hlast⟩
        · refine ⟨hlength, fun _ => ⟨rfl, ?_⟩, fun hnil => absurd hnil hempty⟩
          intro last hbefore
          have hpositive : ¬ component.triggerPolicy.minIntervalMs ≤ 0 := by omega
          have hdue : ¬ context.startedAt - last < minIntervalNs component := by
            simpa [rateLimited, hpositive, hbefore, minIntervalNs] using hlimited
          omega

namespace TriggerPolicyEngine

variable {clock : Nat → Int} {context : TickContext} {component : ComponentNodeSpec}
  {lane : SchedulerGroupConfig} {engine engine' : TriggerPolicyEngine} {record : CollectRecord}

/-- A message-driven collection, from the drained state to its record. -/
theorem collectReadyInvocations_driven (hdriven : messageDriven component = true)
    (h : engine.collectReadyInvocations clock context component lane = .ok (record, engine')) :
    ∃ drained r, drainInputs clock component.id (triggerPolicyInputsFor component)
        (engine.state component.id).pending engine.bus = drained ∧
      collectUnlessRateLimited context component lane
        (beforePolicy context component drained.2.2 drained.2.1 (engine.state component.id)) =
          .ok r ∧
      record.drained = drained.1 ∧ record.invocations = r.1 ∧ record.stats = r.2.stats ∧
      engine'.state component.id = r.2 := by
  simp only [messageDriven, Bool.and_eq_true, Bool.not_eq_true'] at hdriven
  unfold collectReadyInvocations at h
  rw [if_neg (by simp [hdriven.1]), if_neg (by simp [hdriven.2])] at h
  dsimp only at h
  generalize hdrain : drainInputs clock component.id (triggerPolicyInputsFor component)
    (engine.state component.id).pending engine.bus = drained at h
  cases hcollect : collectUnlessRateLimited context component lane
      (beforePolicy context component drained.2.2 drained.2.1 (engine.state component.id)) with
  | error fault =>
      rw [hcollect] at h
      cases h
  | ok r =>
      rw [hcollect] at h
      cases h
      exact ⟨drained, r, rfl, hcollect, rfl, rfl, rfl, Function.update_self ..⟩

/-- Otherwise there are no messages and nothing changes. -/
theorem collectReadyInvocations_undriven (hdriven : messageDriven component = false)
    (h : engine.collectReadyInvocations clock context component lane = .ok (record, engine')) :
    carriedBy record.invocations = [] ∧ record.stats = {} ∧ engine' = engine := by
  unfold collectReadyInvocations at h
  cases htimer : hasTimerEventSource component with
  | true =>
      rw [if_pos htimer] at h
      cases h
      exact ⟨rfl, rfl, rfl⟩
  | false =>
      have hmessage : hasMessageEventSource component = false := by
        simpa [messageDriven, htimer] using hdriven
      rw [if_neg (by simp [htimer]), if_pos (by simp [hmessage])] at h
      cases h
      exact ⟨rfl, rfl, rfl⟩

/-- A collection that emits comes at least the interval after the last one that did. -/
theorem collectReadyInvocations_interval (hdriven : messageDriven component = true)
    (hinterval : 0 < component.triggerPolicy.minIntervalMs)
    (h : engine.collectReadyInvocations clock context component lane = .ok (record, engine')) :
    IntervalStep component (engine.state component.id).lastInvoked
      (engine'.state component.id).lastInvoked context.startedAt record.invocations := by
  obtain ⟨drained, r, -, hcollect, -, hinvocations, -, hstate⟩ :=
    collectReadyInvocations_driven hdriven h
  have hstep := collectUnlessRateLimited_interval hinterval hcollect
  rw [hinvocations, hstate]
  exact hstep

/-- A suppressed collection loses what the two counters say and nothing else. -/
theorem collectReadyInvocations_suppressed (hdriven : messageDriven component = true)
    (hinterval : 0 < component.triggerPolicy.minIntervalMs)
    (h : engine.collectReadyInvocations clock context component lane = .ok (record, engine'))
    (hsuppressed : record.stats.rateLimitSuppressedCount ≠ 0) :
    record.invocations = [] ∧
      (∀ port, ((engine'.state component.id).pending.queue port).Sublist
        ((engine.state component.id).pending.queue port ++ carriedOn port record.drained)) ∧
      (engine'.state component.id).pending.size + record.stats.timeoutDropCount +
          record.stats.pendingDropCount =
        (engine.state component.id).pending.size + record.drained.length := by
  obtain ⟨drained, r, hdrain, hcollect, hrecord, hinvocations, hstats, hstate⟩ :=
    collectReadyInvocations_driven hdriven h
  have hdrained : DrainStep component.id (engine.state component.id).pending drained.2.1 engine.bus
      drained.2.2 drained.1 := hdrain ▸ drainInputs_step clock component.id _ _ _
  -- what was drained is pending, up to what timeouts and bounds have dropped
  generalize hbefore : beforePolicy context component drained.2.2 drained.2.1
    (engine.state component.id) = s at hcollect
  have hflow : Flow drained.2.1 s.pending [] s.stats.drops := hbefore ▸ beforePolicy_flow ..
  have hdrops : s.stats.drops = s.stats.timeoutDropCount + s.stats.pendingDropCount := by
    rw [← hbefore]
    rfl
  unfold collectUnlessRateLimited at hcollect
  split_ifs at hcollect with hlimited
  · cases hcollect
    rw [hinvocations, hrecord, hstats, hstate]
    refine ⟨rfl, ?_, ?_⟩
    · intro port
      have horder := hflow.order port
      rw [hdrained.queue] at horder
      simpa using horder
    · have hbalance := hflow.balance
      have hsize := hdrained.size
      rw [hdrops, List.length_nil] at hbalance
      show s.pending.size + s.stats.timeoutDropCount + s.stats.pendingDropCount = _
      omega
  · -- a collection that asks its policy is not counted as suppressed
    exfalso
    cases hpolicy : collectByPolicy context component lane s with
    | error fault =>
        rw [hpolicy] at hcollect
        cases hcollect
    | ok collected =>
        rw [hpolicy] at hcollect
        cases hcollect
        obtain ⟨-, -, hcount⟩ := collectByPolicy_atMostOne hinterval s collected hpolicy
        have hzero : s.stats.rateLimitSuppressedCount = 0 := by
          rw [← hbefore]
          rfl
        apply hsuppressed
        rw [hstats, ← hzero, ← hcount]
        unfold recordInvocation
        split_ifs <;> rfl

end TriggerPolicyEngine

/-! ## Runs -/

/-- When an operation made an invocation of the component: the time of the collection. -/
def emissionTime (component : ComponentNodeSpec) : TriggerOp → Option CollectRecord → List Int
  | .collect context other _, some record =>
      if other.id = component.id ∧ record.invocations ≠ [] then [context.startedAt] else []
  | _, _ => []

/-- The times of the collections of a run that invoked the component. A run that faults
ends there. -/
def emissionTimes (clock : Nat → Int) (component : ComponentNodeSpec) :
    List TriggerOp → TriggerPolicyEngine → List Int
  | [], _ => []
  | op :: ops, engine =>
      match op.exec clock engine with
      | .error _ => []
      | .ok (record, engine') =>
          emissionTime component op record ++ emissionTimes clock component ops engine'

/-- What an operation does to the time of the last invocation: a collection of the
component at `now` that invokes it waits for the interval, everything else leaves the
time alone. -/
theorem TriggerOp.exec_interval {clock : Nat → Int} {component : ComponentNodeSpec}
    (hdriven : TriggerPolicyEngine.messageDriven component = true)
    (hinterval : 0 < component.triggerPolicy.minIntervalMs) {op : TriggerOp}
    (hown : ∀ context other lane, op = .collect context other lane →
      other.id = component.id → other = component)
    {engine engine' : TriggerPolicyEngine} {record : Option CollectRecord}
    (hop : op.exec clock engine = .ok (record, engine')) :
    (emissionTime component op record = [] ∧
        (engine'.state component.id).lastInvoked = (engine.state component.id).lastInvoked) ∨
      ∃ now, emissionTime component op record = [now] ∧
        (engine'.state component.id).lastInvoked = some now ∧
        ∀ last, (engine.state component.id).lastInvoked = some last →
          last + minIntervalNs component ≤ now := by
  rcases TriggerOp.exec_cases hown hop with ⟨context, lane, result, rfl, rfl, hcollect⟩ | helsewhere
  · have hstep := TriggerPolicyEngine.collectReadyInvocations_interval hdriven hinterval hcollect
    by_cases hempty : result.invocations = []
    · exact Or.inl ⟨by simp [emissionTime, hempty], hstep.stays hempty⟩
    · exact Or.inr ⟨context.startedAt, by simp [emissionTime, hempty], hstep.moves hempty⟩
  · obtain ⟨stats, hstate⟩ := helsewhere.state
    refine Or.inl ⟨?_, by rw [hstate]⟩
    unfold emissionTime
    split
    · next context other lane _ =>
        simp [helsewhere.foreign context other lane rfl]
    · rfl

/-- The run from any state: the times keep the interval among themselves and to the last
invocation before the run. -/
theorem emissionTimes_interval {clock : Nat → Int} {component : ComponentNodeSpec}
    (hdriven : TriggerPolicyEngine.messageDriven component = true)
    (hinterval : 0 < component.triggerPolicy.minIntervalMs) {ops : List TriggerOp}
    (hown : ∀ context other lane, .collect context other lane ∈ ops →
      other.id = component.id → other = component) (engine : TriggerPolicyEngine) :
    (emissionTimes clock component ops engine).Pairwise
        (fun t t' => t + minIntervalNs component ≤ t') ∧
      ∀ last, (engine.state component.id).lastInvoked = some last →
        ∀ t ∈ emissionTimes clock component ops engine, last + minIntervalNs component ≤ t := by
  induction ops generalizing engine with
  | nil => exact ⟨List.Pairwise.nil, fun _ _ _ ht => absurd ht List.not_mem_nil⟩
  | cons op ops ih =>
      unfold emissionTimes
      cases hop : op.exec clock engine with
      | error fault => exact ⟨List.Pairwise.nil, fun _ _ _ ht => absurd ht List.not_mem_nil⟩
      | ok result =>
          obtain ⟨record, engine'⟩ := result
          obtain ⟨hpairwise, hlast⟩ := ih (fun context other lane hmem =>
            hown context other lane (List.mem_cons_of_mem _ hmem)) engine'
          have hpositive : 0 < minIntervalNs component := by
            unfold minIntervalNs nanosecondsPerMillisecond
            omega
          -- the step emits nothing and keeps the last time, or emits once and sets it
          rcases TriggerOp.exec_interval hdriven hinterval (fun context other lane heq =>
            hown context other lane (heq ▸ List.mem_cons_self ..)) hop with
            ⟨hnone, hstays⟩ | ⟨now, hnow, hmoves, hwaits⟩
          · dsimp only
            rw [hnone, List.nil_append, ← hstays]
            exact ⟨hpairwise, hlast⟩
          · dsimp only
            rw [hnow]
            refine ⟨List.pairwise_cons.mpr ⟨hlast now hmoves, hpairwise⟩, ?_⟩
            intro last hbefore t ht
            have hfirst := hwaits last hbefore
            rcases List.mem_cons.mp ht with rfl | hlater
            · exact hfirst
            · have hnext := hlast now hmoves t hlater
              omega

/-- With a minimal interval, the collections of a run that invoke the component keep it,
each of them makes one invocation, and a suppressed collection makes none and loses only
the messages its counters for timeouts and bounds say. A collection returns unless its
policy takes the first message of a repeated input twice. -/
theorem rate_limit_respected (clock : Nat → Int) {component : ComponentNodeSpec}
    (hdriven : TriggerPolicyEngine.messageDriven component = true)
    (hinterval : 0 < component.triggerPolicy.minIntervalMs) :
    (∀ ops engine, (∀ context other lane, .collect context other lane ∈ ops →
        other.id = component.id → other = component) →
      (emissionTimes clock component ops engine).Pairwise fun t t' =>
        t + component.triggerPolicy.minIntervalMs * nanosecondsPerMillisecond ≤ t') ∧
      (FrontsDefined component → ∀ (engine : TriggerPolicyEngine) context lane,
        ∃ result, engine.collectReadyInvocations clock context component lane = .ok result) ∧
      ∀ (engine : TriggerPolicyEngine) context lane record engine',
        engine.collectReadyInvocations clock context component lane = .ok (record, engine') →
          record.invocations.length ≤ 1 ∧
          (record.stats.rateLimitSuppressedCount ≠ 0 →
            record.invocations = [] ∧
            (∀ port, ((engine'.state component.id).pending.queue port).Sublist
              ((engine.state component.id).pending.queue port ++ carriedOn port record.drained)) ∧
            (engine'.state component.id).pending.size + record.stats.timeoutDropCount +
                record.stats.pendingDropCount =
              (engine.state component.id).pending.size + record.drained.length) := by
  refine ⟨?_, ?_, ?_⟩
  · intro ops engine hown
    exact (emissionTimes_interval hdriven hinterval hown engine).1
  · intro hfronts engine context lane
    obtain ⟨record, engine', hcollect, -⟩ := TriggerPolicyEngine.collectReadyInvocations_spec clock
      context lane hdriven hfronts engine
    exact ⟨(record, engine'), hcollect⟩
  · intro engine context lane record engine' h
    exact ⟨(TriggerPolicyEngine.collectReadyInvocations_interval hdriven hinterval h).atMostOne,
      TriggerPolicyEngine.collectReadyInvocations_suppressed hdriven hinterval h⟩

/-- A component that is invoked every five milliseconds at most. -/
def throttledComponent : ComponentNodeSpec :=
  { joinComponent with triggerPolicy := { type := "any_input", minIntervalMs := 5 } }

/-- Three messages and collections after zero, one and five milliseconds. -/
def throttledRound : List TriggerOp :=
  [.bus (.publishSharedFrom "source.a" (some {}) {} none),
   .bus (.publishSharedFrom "source.b" (some {}) {} none),
   .collect { startedAt := 0 } throttledComponent { id := "main" },
   .bus (.publishSharedFrom "source.a" (some {}) {} none),
   .collect { startedAt := 1000000 } throttledComponent { id := "main" },
   .collect { startedAt := 5000000 } throttledComponent { id := "main" }]

theorem throttledRound_respected :
    emissionTimes (fun n => n) throttledComponent throttledRound
        { bus := .ofEdges (joinGraph ["left", "right"]).edges } = [0, 5000000] ∧
      ([0, 5000000] : List Int).Pairwise fun t t' => t + 5 * nanosecondsPerMillisecond ≤ t' := by
  have htimes : emissionTimes (fun n => n) throttledComponent throttledRound
      { bus := .ofEdges (joinGraph ["left", "right"]).edges } = [0, 5000000] := by decide
  have hown : ∀ context other lane, TriggerOp.collect context other lane ∈ throttledRound →
      other.id = throttledComponent.id → other = throttledComponent := by
    intro context other lane hmem _
    simp only [throttledRound, List.mem_cons, List.not_mem_nil, or_false, reduceCtorEq, false_or,
      TriggerOp.collect.injEq] at hmem
    rcases hmem with ⟨-, rfl, -⟩ | ⟨-, rfl, -⟩ | ⟨-, rfl, -⟩ <;> rfl
  refine ⟨htimes, ?_⟩
  rw [← htimes]
  exact (rate_limit_respected (fun n => n) (by decide) (by decide)).1 throttledRound _ hown

end TopoExec
