import TopoExec.Channel.Stamps
import TopoExec.Trigger.Run

/-! # What an invocation inherits

An invocation takes the correlation and the transaction of its first message, and one
without a message has neither. This holds for whatever the engine collects as long as
the messages it drains are stamped, and those of a bus always are.
-/

namespace TopoExec

open Queues

variable {context : TickContext} {component : ComponentNodeSpec} {lane : SchedulerGroupConfig}
  {pending after : PendingMessages} {s : TriggerState}

/-- Correlation and transaction are those of the first message, or empty without one. -/
structure Inherits (invocation : Invocation) : Prop where
  first : ∀ item, invocation.messages.head? = some item →
    invocation.metadata.correlationId = item.2.metadata.correlationId ∧
      invocation.metadata.transactionId = item.2.metadata.transactionId
  none : invocation.messages = [] →
    invocation.metadata.correlationId = "" ∧ invocation.metadata.transactionId = ""
  stamped : ∀ item ∈ invocation.messages, Stamped item.2

/-- Without a message there is nothing to inherit. -/
theorem eventInvocationFor_inherits (context : TickContext) (component : ComponentNodeSpec)
    (lane : SchedulerGroupConfig) (event : EventKind) :
    Inherits (eventInvocationFor context component lane event) :=
  ⟨by simp [eventInvocationFor], fun _ => ⟨rfl, rfl⟩, by simp [eventInvocationFor]⟩

/-- Once there is a payload the metadata stay. -/
theorem addMessage_foldl_metadata (trigger : TriggerKind) (messages : List PortMessage)
    (invocation : Invocation) (h : invocation.payload.isSome = true) :
    (messages.foldl (addMessage context trigger) invocation).metadata = invocation.metadata := by
  induction messages generalizing invocation with
  | nil => rfl
  | cons item messages ih =>
      have hsome : ¬ invocation.payload.isNone = true := by
        rw [Option.isNone_iff_eq_none]
        exact Option.isSome_iff_ne_none.mp h
      rw [List.foldl_cons, ih]
      all_goals
        unfold addMessage
        rw [if_neg hsome]
      exact h

/-- The invocation takes its ids from its first message, which has some. -/
theorem invocationFromMessages_inherits (event : EventKind) (trigger : TriggerKind)
    {messages : List PortMessage} (h : ∀ item ∈ messages, Stamped item.2) :
    Inherits (invocationFromMessages context component lane event trigger messages) := by
  refine ⟨?_, ?_, ?_⟩
  · intro item hitem
    rw [invocationFromMessages_messages] at hitem
    cases messages with
    | nil => cases hitem
    | cons first rest =>
        cases hitem
        have hstamped := h item (List.mem_cons_self ..)
        unfold invocationFromMessages
        dsimp only
        rw [List.foldl_cons, addMessage_foldl_metadata trigger rest _ rfl]
        exact ⟨orElse_of_ne hstamped.correlation _, orElse_of_ne hstamped.transaction _⟩
  · intro hnil
    rw [invocationFromMessages_messages] at hnil
    subst hnil
    exact ⟨rfl, rfl⟩
  · rw [invocationFromMessages_messages]
    exact h

/-! ## The policies -/

section

variable {σ τ : Type} {pendingOf : σ → PendingMessages} {pendingOf' : τ → PendingMessages}

/-- The call only makes invocations that inherit, and leaves stamped messages. -/
def Gathers (pendingOf : σ → PendingMessages)
    (result : Except TriggerFault (List Invocation × σ)) : Prop :=
  ∀ invocations s, result = .ok (invocations, s) →
    (∀ invocation ∈ invocations, Inherits invocation) ∧ (pendingOf s).All Stamped

theorem Gathers.ok {invocations : List Invocation} {s : σ}
    (hinvocations : ∀ invocation ∈ invocations, Inherits invocation)
    (hpending : (pendingOf s).All Stamped) : Gathers pendingOf (.ok (invocations, s)) := by
  intro invocations' s' h
  cases h
  exact ⟨hinvocations, hpending⟩

theorem Gathers.none {s : σ} (hpending : (pendingOf s).All Stamped) :
    Gathers pendingOf (.ok ([], s)) :=
  .ok (by simp) hpending

theorem Gathers.error (fault : TriggerFault) : Gathers pendingOf (.error fault) := by
  intro invocations s h
  cases h

/-- What is done to the counters afterwards changes no id. -/
theorem Gathers.map {result : Except TriggerFault (List Invocation × σ)}
    (h : Gathers pendingOf result) {f : List Invocation × σ → List Invocation × τ}
    (hf : ∀ r, (f r).1 = r.1 ∧ pendingOf' (f r).2 = pendingOf r.2) :
    Gathers pendingOf' (result.map f) := by
  cases result with
  | error fault => exact .error fault
  | ok r =>
      obtain ⟨hinvocations, hpending⟩ := h r.1 r.2 rfl
      rw [← (hf r).1] at hinvocations
      rw [← (hf r).2] at hpending
      exact .ok hinvocations hpending

end

/-! ## The first messages of the inputs -/

/-- The fronts are pending messages. -/
theorem frontMessagesForInputs_all {P : RuntimeChannelMessage → Prop} (h : pending.All P)
    {inputs : List String} {messages : List PortMessage}
    (hfronts : frontMessagesForInputs pending inputs = some messages) :
    ∀ item ∈ messages, P item.2 := by
  induction inputs generalizing messages with
  | nil =>
      cases hfronts
      simp
  | cons input inputs ih =>
      unfold frontMessagesForInputs at hfronts
      cases hqueue : pending.queue input with
      | nil => simp [hqueue] at hfronts
      | cons message queue =>
          simp only [hqueue, Option.map_eq_some_iff] at hfronts
          obtain ⟨others, hothers, rfl⟩ := hfronts
          intro item hitem
          rcases List.mem_cons.mp hitem with rfl | hitem
          · exact h input message (hqueue ▸ List.mem_cons_self ..)
          · exact ih hothers item hitem

/-- What is left is pending still. -/
theorem popFront_all {P : RuntimeChannelMessage → Prop} (h : pending.All P) {input : String}
    (hpop : popFront pending input = .ok after) : after.All P := by
  unfold popFront at hpop
  cases hqueue : pending.queue input with
  | nil => simp [hqueue] at hpop
  | cons message queue =>
      simp only [hqueue, Except.ok.injEq] at hpop
      subst hpop
      exact h.set fun item hitem => h input item (hqueue ▸ List.mem_cons_of_mem _ hitem)

/-- What is left after the fronts is pending still. -/
theorem consumeFrontMessages_all {P : RuntimeChannelMessage → Prop} {inputs : List String}
    (h : pending.All P) (hconsume : consumeFrontMessages inputs pending = .ok after) :
    after.All P := by
  induction inputs generalizing pending with
  | nil =>
      cases hconsume
      exact h
  | cons input inputs ih =>
      unfold consumeFrontMessages at hconsume
      cases hpop : popFront pending input with
      | error fault => simp [hpop] at hconsume
      | ok middle =>
          simp only [hpop] at hconsume
          exact ih (popFront_all h hpop) hconsume

/-- The fronts are handed over, with their ids. -/
theorem invokeWithFronts_gathers (trigger : TriggerKind) (h : pending.All Stamped)
    {messages : List PortMessage} (hmessages : ∀ item ∈ messages, Stamped item.2) :
    Gathers id (invokeWithFronts context component lane trigger messages pending) := by
  unfold invokeWithFronts
  cases hconsume : consumeFrontMessages (triggerPolicyInputsFor component) pending with
  | error fault => exact .error fault
  | ok middle =>
      refine .ok ?_ (consumeFrontMessages_all h hconsume)
      intro invocation hinvocation
      rw [List.mem_singleton.mp hinvocation]
      exact invocationFromMessages_inherits _ _ hmessages

theorem collectAllInputs_gathers (h : pending.All Stamped) :
    Gathers id (collectAllInputs context component lane pending) := by
  unfold collectAllInputs
  cases hfronts : frontMessagesForInputs pending (triggerPolicyInputsFor component) with
  | none => exact .none h
  | some messages => exact invokeWithFronts_gathers _ h (frontMessagesForInputs_all h hfronts)

/-- Each round drops a front or hands the fronts over. -/
theorem collectTimeSyncLoop_gathers (fuel : Nat) (dropped : Nat) (h : pending.All Stamped) :
    Gathers Prod.fst (collectTimeSyncLoop context component lane fuel pending dropped) := by
  induction fuel generalizing pending dropped with
  | zero => exact .error _
  | succ fuel ih =>
      unfold collectTimeSyncLoop
      cases hfronts : frontMessagesForInputs pending (triggerPolicyInputsFor component) with
      | none => exact .none h
      | some messages =>
          have hmessages := frontMessagesForInputs_all h hfronts
          dsimp only
          split_ifs
          · exact (invokeWithFronts_gathers .timeSync h hmessages).map fun r => ⟨rfl, rfl⟩
          · cases messages with
            | nil => exact .none h
            | cons first rest =>
                dsimp only
                cases hpop : popFront pending (minItem first rest).1 with
                | error fault => exact .error fault
                | ok middle => exact ih (dropped + 1) (popFront_all h hpop)

/-- Each round drops a front or hands the fronts over. -/
theorem collectTimestampedLoop_gathers (fuel : Nat) (dropped : Nat) (h : pending.All Stamped) :
    Gathers Prod.fst (collectTimestampedLoop context component lane fuel pending dropped) := by
  induction fuel generalizing pending dropped with
  | zero => exact .error _
  | succ fuel ih =>
      unfold collectTimestampedLoop
      cases hfronts : frontMessagesForInputs pending (triggerPolicyInputsFor component) with
      | none => exact .none h
      | some messages =>
          have hmessages := frontMessagesForInputs_all h hfronts
          dsimp only
          split_ifs
          · exact (invokeWithFronts_gathers .condition h hmessages).map fun r => ⟨rfl, rfl⟩
          · split
            · exact .error _
            · rename_i middle hconsume
              exact ih _ (consumeFrontMessages_all h hconsume)

/-! ## Single messages and batches -/

theorem eventInvocationFromMessages_inherits {messages : List PortMessage}
    (h : ∀ item ∈ messages, Stamped item.2) :
    Inherits (eventInvocationFromMessages context component lane messages) :=
  invocationFromMessages_inherits _ _ h

/-- One invocation for each message, port after port. -/
theorem collectAnyInputFrom_gathers (ports : List String) (h : pending.All Stamped) :
    Gathers id (.ok (collectAnyInputFrom context component lane ports pending)) := by
  induction ports generalizing pending with
  | nil => exact .none h
  | cons port ports ih =>
      unfold collectAnyInputFrom
      cases hqueue : pending.queue port with
      | nil => exact ih h
      | cons message queue =>
          have hstamped : ∀ item ∈ message :: queue, Stamped item :=
            fun item hitem => h port item (hqueue ▸ hitem)
          have hone : ∀ item ∈ message :: queue,
              Inherits (eventInvocationFromMessages context component lane [(port, item)]) :=
            fun item hitem =>
              eventInvocationFromMessages_inherits (by simpa using hstamped item hitem)
          dsimp only
          split_ifs
          · refine .ok ?_ (h.set fun item hitem => hstamped item (List.mem_cons_of_mem _ hitem))
            intro invocation hinvocation
            rw [List.mem_singleton.mp hinvocation]
            exact hone message (List.mem_cons_self ..)
          · have hcleared : (pending.set port []).All Stamped := h.set (by simp)
            obtain ⟨hinvocations, hpending⟩ := ih hcleared _ _ rfl
            refine .ok ?_ hpending
            intro invocation hinvocation
            rcases List.mem_append.mp hinvocation with hhere | hthere
            · obtain ⟨item, hitem, rfl⟩ := List.mem_map.mp hhere
              exact hone item hitem
            · exact hinvocations invocation hthere

/-- The policies that serve whatever waits. -/
theorem collectAny_gathers (h : s.pending.All Stamped) :
    Gathers TriggerState.pending
      (.ok ((collectAnyInput context component lane s.pending).1,
        { s with pending := (collectAnyInput context component lane s.pending).2 })) := by
  have hcollected : Gathers id (.ok (collectAnyInput context component lane s.pending)) :=
    collectAnyInputFrom_gathers s.pending.keys h
  obtain ⟨hinvocations, hpending⟩ := hcollected _ _ rfl
  exact .ok hinvocations hpending

/-- Only the last message of each port is handed over. -/
theorem collectCoalescedAnyInput_gathers (h : pending.All Stamped) :
    Gathers id (.ok (collectCoalescedAnyInput context component lane pending)) := by
  have hswept := sweep_rule coalesceQueue pending []
    (I := fun _ bank messages => bank.All Stamped ∧ ∀ item ∈ messages, Stamped item.2)
    (by
      rintro done port bank messages _ ⟨hbank, hmessages⟩
      unfold coalesceQueue
      cases hlast : (bank.queue port).getLast? with
      | none => exact ⟨hbank.set (hbank port), hmessages⟩
      | some message =>
          refine ⟨hbank.set (by simp), ?_⟩
          intro item hitem
          rcases List.mem_append.mp hitem with hold | hnew
          · exact hmessages item hold
          · rw [List.mem_singleton.mp hnew]
            exact hbank port message (List.mem_of_getLast? hlast))
    ⟨h, by simp⟩
  unfold collectCoalescedAnyInput
  dsimp only
  split_ifs
  · exact .none hswept.1
  · refine .ok ?_ hswept.1
    intro invocation hinvocation
    rw [List.mem_singleton.mp hinvocation]
    exact eventInvocationFromMessages_inherits hswept.2

/-- The batch is made of pending messages. -/
theorem collectBatch_gathers (h : s.pending.All Stamped) :
    Gathers TriggerState.pending (.ok (collectBatch context component lane s)) := by
  obtain ⟨taken, htaken, hflow⟩ := fillBatch_flow (batchTargetCount context component s.pending)
    (triggerPolicyInputsFor component) [] s.pending
  obtain ⟨hpending, hmessages⟩ := hflow.all h
  rw [List.nil_append] at htaken
  unfold collectBatch
  dsimp only
  split_ifs
  · exact .none h
  · exact .none hpending
  · refine .ok ?_ hpending
    intro invocation hinvocation
    rw [List.mem_singleton.mp hinvocation, htaken]
    exact invocationFromMessages_inherits _ _ hmessages

/-- Late messages are dropped, and the others are handed over. -/
theorem collectWatermark_gathers (h : s.pending.All Stamped) :
    Gathers TriggerState.pending (.ok (collectWatermark context component lane s)) := by
  have htimely := ((dropLateMessages_flow component s.pending s.watermarks).all h).1
  have hcollected : Gathers id (.ok (collectAnyInput context component lane
      (dropLateMessages component s.pending s.watermarks).1)) :=
    collectAnyInputFrom_gathers _ htimely
  obtain ⟨hinvocations, hpending⟩ := hcollected _ _ rfl
  exact .ok hinvocations hpending

/-! ## The engine -/

theorem collectAllInputsState_gathers (h : s.pending.All Stamped) :
    Gathers TriggerState.pending (collectAllInputsState context component lane s) :=
  (collectAllInputs_gathers h).map fun _ => ⟨rfl, rfl⟩

theorem countSuppressed_gathers {result : Except TriggerFault (List Invocation × TriggerState)}
    (h : Gathers TriggerState.pending result) :
    Gathers TriggerState.pending (result.map countSuppressed) :=
  h.map fun r => ⟨(countSuppressed_keeps r).1, (countSuppressed_keeps r).2.1⟩

/-- Whatever the condition asks for is gathered from what is pending. -/
theorem collectCondition_gathers (h : s.pending.All Stamped) :
    Gathers TriggerState.pending (collectCondition context component lane s) := by
  unfold collectCondition
  dsimp only
  split_ifs
  · exact countSuppressed_gathers (collectAny_gathers h)
  · exact countSuppressed_gathers (collectAllInputsState_gathers h)
  · refine (collectTimestampedLoop_gathers _ s.stats.pendingDropCount h).map fun r => ?_
    exact ⟨(countSuppressed_keeps _).1, (countSuppressed_keeps _).2.1⟩
  · exact countSuppressed_gathers (.none h)

/-- Each policy gathers from what is pending. -/
theorem collectByPolicy_gathers (h : s.pending.All Stamped) :
    Gathers TriggerState.pending (collectByPolicy context component lane s) := by
  unfold collectByPolicy
  dsimp only
  split_ifs
  · exact collectAllInputsState_gathers h
  · exact (collectTimeSyncLoop_gathers _ s.stats.timeSyncDropCount h).map fun _ => ⟨rfl, rfl⟩
  · exact collectBatch_gathers h
  · exact collectWatermark_gathers h
  · exact collectCondition_gathers h
  · obtain ⟨hinvocations, hpending⟩ := collectCoalescedAnyInput_gathers h _ _ rfl
    exact .ok hinvocations hpending
  · exact collectAny_gathers h

theorem collectUnlessRateLimited_gathers (h : s.pending.All Stamped) :
    Gathers TriggerState.pending (collectUnlessRateLimited context component lane s) := by
  unfold collectUnlessRateLimited
  split_ifs
  · exact .none h
  · exact (collectByPolicy_gathers h).map fun r =>
      ⟨(recordInvocation_keeps r).1, (recordInvocation_keeps r).2.1⟩

/-- What is drained has its ids, since the bus has stamped it. -/
theorem drainInputs_all (clock : Nat → Int) (componentId : String) (inputs : List String)
    {bus : RuntimeChannelBus} (hbus : StampedBus bus) (h : pending.All Stamped) :
    (drainInputs clock componentId inputs pending bus).2.1.All Stamped := by
  induction inputs generalizing pending bus with
  | nil => exact h
  | cons input inputs ih =>
      have hevolves : Evolves anyStep bus (bus.drainForComponentPort clock componentId input 0).2 :=
        (exec_evolves clock bus (.drainForComponentPort componentId input 0)).mono
          fun _ _ => trivial
      refine ih (hbus.evolves hevolves) (h.set ?_)
      intro message hmessage
      rcases List.mem_append.mp hmessage with hold | hnew
      · exact h input message hold
      · exact bus.drainForComponentPort_stamped clock hbus componentId input 0 message hnew

/-- The messages that wait in the engine and those of its bus are stamped. -/
structure StampedEngine (engine : TriggerPolicyEngine) : Prop where
  bus : StampedBus engine.bus
  pending : ∀ id, (engine.state id).pending.All Stamped

open TriggerPolicyEngine in
/-- A collection hands over ids that the bus has given. -/
theorem collectReadyInvocations_inherits {clock : Nat → Int} {engine engine' : TriggerPolicyEngine}
    {record : CollectRecord} (h : StampedEngine engine)
    (hcollect : engine.collectReadyInvocations clock context component lane =
      .ok (record, engine')) :
    (∀ invocation ∈ record.invocations, Inherits invocation) ∧ StampedEngine engine' := by
  have hbus : StampedBus engine'.bus := h.bus.evolves (collectReadyInvocations_frame hcollect).2.1
  unfold collectReadyInvocations at hcollect
  split_ifs at hcollect
  · cases hcollect
    refine ⟨?_, hbus, h.pending⟩
    intro invocation hinvocation
    rw [List.mem_singleton.mp hinvocation]
    exact eventInvocationFor_inherits context component lane .timer
  · cases hcollect
    refine ⟨?_, hbus, h.pending⟩
    intro invocation hinvocation
    rw [List.mem_singleton.mp hinvocation]
    exact eventInvocationFor_inherits context component lane .manual
  · dsimp only at hcollect
    -- the drained messages are stamped like those that were pending, and the policies only
    -- regroup them
    have hdrained := drainInputs_all clock component.id (triggerPolicyInputsFor component) h.bus
      (h.pending component.id)
    generalize drainInputs clock component.id (triggerPolicyInputsFor component)
      (engine.state component.id).pending engine.bus = drained at hcollect hdrained
    have hready : (beforePolicy context component drained.2.2 drained.2.1
        (engine.state component.id)).pending.All Stamped :=
      ((beforePolicy_flow drained.2.2 drained.2.1 (engine.state component.id)).all hdrained).1
    have hgathers : Gathers TriggerState.pending (collectUnlessRateLimited context component lane
        (beforePolicy context component drained.2.2 drained.2.1 (engine.state component.id))) :=
      collectUnlessRateLimited_gathers hready
    generalize collectUnlessRateLimited context component lane (beforePolicy context component
      drained.2.2 drained.2.1 (engine.state component.id)) = result at hcollect hgathers
    cases result with
    | error fault => cases hcollect
    | ok result =>
        obtain ⟨hinvocations, hpending⟩ := hgathers _ _ rfl
        cases hcollect
        refine ⟨hinvocations, hbus, fun id => ?_⟩
        by_cases hid : id = component.id
        · subst hid
          simpa using hpending
        · simpa [Function.update_of_ne hid] using h.pending id

end TopoExec
