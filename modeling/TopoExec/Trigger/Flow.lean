import TopoExec.Lib.OrderedMap
import TopoExec.Trigger.State

/-! # Every collection is a flow

Whatever a policy does to the pending queues is a `Queues.Flow`: it carries
messages away in invocations, from the front of their queues, and counts each one
that it drops. This is shown for the two passes before the policies, for the eight
collection algorithms and for their dispatch (`collectByPolicy_spec`).

Consuming the fronts of the inputs is the only partial step. It is defined if the
inputs are pairwise distinct (`consumeFrontMessages_spec`).
-/

namespace TopoExec

open Queues

variable {context : TickContext} {component : ComponentNodeSpec} {lane : SchedulerGroupConfig}
  {pending pending' : PendingMessages}

/-! ## Messages of an invocation -/

/-- An invocation reports exactly the messages it was made from. -/
theorem addMessage_foldl (trigger : TriggerKind) (messages : List PortMessage)
    (invocation : Invocation) :
    (messages.foldl (addMessage context trigger) invocation).messages =
      invocation.messages ++ messages := by
  induction messages generalizing invocation with
  | nil => simp
  | cons item messages ih =>
      have hstep : (addMessage context trigger invocation item).messages =
          invocation.messages ++ [item] := by
        unfold addMessage withFirstMessage
        split_ifs <;> rfl
      rw [List.foldl_cons, ih, hstep, List.append_assoc, List.singleton_append]

/-- The messages are kept in their order. -/
@[simp]
theorem invocationFromMessages_messages (event : EventKind) (trigger : TriggerKind)
    (messages : List PortMessage) :
    (invocationFromMessages context component lane event trigger messages).messages = messages := by
  unfold invocationFromMessages
  rw [addMessage_foldl trigger messages _]
  rfl

/-- The messages are kept in their order. -/
@[simp]
theorem eventInvocationFromMessages_messages (messages : List PortMessage) :
    (eventInvocationFromMessages context component lane messages).messages = messages :=
  invocationFromMessages_messages ..

/-- An invocation hands over its messages: their ports and payloads in order, for every port
the payload of its last message, and what the first message determines. -/
structure Faithful (invocation : Invocation) : Prop where
  readyInputs : invocation.readyInputs = invocation.messages.map Prod.fst
  batchPayloads : invocation.batchPayloads = invocation.messages.map fun item => item.2.payload
  payloadsByPort : ∀ port,
    (invocation.payloadsByPort.find? fun entry => entry.1 = port).map Prod.snd =
      (invocation.messages.reverse.find? fun item => item.1 = port).map fun item =>
        item.2.payload
  payload : invocation.payload = invocation.messages.head?.map fun item => item.2.payload
  first : ∀ item ∈ invocation.messages.head?, invocation.port = item.1 ∧
    invocation.channelId = item.2.channelId ∧ invocation.receivedAt = item.2.receivedAt ∧
    invocation.publishedAt = item.2.publishedAt ∧
    invocation.deadlineMissed = item.2.deadlineMissed ∧
    invocation.eventTimestamp = item.2.eventTimestamp

theorem assign_eq_put {β : Type} (key : String) (value : β) (entries : List (String × β)) :
    assign key value entries = OrderedMap.put key value entries := by
  induction entries with
  | nil => rfl
  | cons entry rest ih => rw [assign, OrderedMap.put, ih]

/-- A message more is handed over like those before it. -/
theorem Faithful.addMessage {invocation : Invocation} (h : Faithful invocation)
    (trigger : TriggerKind) (item : PortMessage) :
    Faithful (addMessage context trigger invocation item) := by
  have hports : ∀ port, ((assign item.1 item.2.payload invocation.payloadsByPort).find?
      fun entry => entry.1 = port).map Prod.snd =
        ((invocation.messages ++ [item]).reverse.find? fun item => item.1 = port).map
          fun item => item.2.payload := by
    intro port
    rw [assign_eq_put, OrderedMap.find?_put, List.reverse_append, List.reverse_singleton,
      List.singleton_append, List.find?_cons]
    by_cases hport : item.1 = port
    · simp [hport]
    · simp [hport, h.payloadsByPort port]
  cases hmessages : invocation.messages with
  | nil =>
      -- the first message: the invocation has no payload yet
      have hnone : invocation.payload = none := by rw [h.payload, hmessages]; rfl
      have hready : invocation.readyInputs = [] := by rw [h.readyInputs, hmessages]; rfl
      have hbatch : invocation.batchPayloads = [] := by rw [h.batchPayloads, hmessages]; rfl
      rw [hmessages] at hports
      unfold TopoExec.addMessage
      rw [hnone, Option.isNone_none, if_pos rfl]
      refine ⟨?_, ?_, ?_, ?_, ?_⟩
      · simp [withFirstMessage, hready, hmessages]
      · simp [withFirstMessage, hbatch, hmessages]
      · simpa [withFirstMessage, hmessages] using hports
      · simp [withFirstMessage, hmessages]
      · simp [withFirstMessage, hmessages]
  | cons head rest =>
      have hsome : invocation.payload = some head.2.payload := by
        rw [h.payload, hmessages]
        rfl
      have hfirst := h.first head (by rw [hmessages]; rfl)
      rw [hmessages] at hports
      unfold TopoExec.addMessage
      rw [hsome, Option.isNone_some, if_neg (by simp)]
      refine ⟨?_, ?_, ?_, ?_, ?_⟩
      · simp [h.readyInputs]
      · simp [h.batchPayloads]
      · simpa [hmessages] using hports
      · simp [hsome, hmessages]
      · simpa [hmessages] using hfirst

/-- An invocation that no message has triggered hands over nothing. -/
theorem eventInvocationFor_faithful (event : EventKind) :
    Faithful (eventInvocationFor context component lane event) :=
  ⟨rfl, rfl, fun _ => rfl, rfl, by simp [eventInvocationFor]⟩

/-- Whatever a policy selects is handed over as it was selected. -/
theorem invocationFromMessages_faithful (event : EventKind) (trigger : TriggerKind)
    (messages : List PortMessage) :
    Faithful (invocationFromMessages context component lane event trigger messages) := by
  unfold invocationFromMessages
  -- starts without messages and adds them one by one
  refine List.foldlRecOn (motive := Faithful) messages _ ?_
    fun invocation h item _ => h.addMessage trigger item
  have hnone : Faithful (eventInvocationFor context component lane event) :=
    eventInvocationFor_faithful event
  exact ⟨hnone.readyInputs, hnone.batchPayloads, hnone.payloadsByPort, hnone.payload, hnone.first⟩

/-- The messages that a list of invocations carries. -/
def carriedBy (invocations : List Invocation) : List PortMessage :=
  invocations.flatMap Invocation.messages

@[simp]
theorem carriedBy_singleton (invocation : Invocation) :
    carriedBy [invocation] = invocation.messages := by
  simp [carriedBy]

/-- The outcome of a collection: a flow that carries what the invocations hold. -/
structure Collected (before after : PendingMessages) (invocations : List Invocation)
    (dropped : Nat) : Prop where
  flow : Flow before after (carriedBy invocations) dropped
  faithful : ∀ invocation ∈ invocations, Faithful invocation

theorem Collected.nothing {before after : PendingMessages} {dropped : Nat}
    (h : Flow before after [] dropped) : Collected before after [] dropped :=
  ⟨h, by simp⟩

/-- One invocation carries what flows out. -/
theorem Collected.one {before after : PendingMessages} {dropped : Nat} {event : EventKind}
    {trigger : TriggerKind} {messages : List PortMessage}
    (h : Flow before after messages dropped) :
    Collected before after [invocationFromMessages context component lane event trigger messages]
      dropped := by
  constructor
  · simpa using h
  · intro invocation hmem
    rw [List.mem_singleton] at hmem
    rw [hmem]
    exact invocationFromMessages_faithful event trigger messages

/-- A collection after a pass that only drops. -/
theorem Collected.after {before middle after : PendingMessages} {invocations : List Invocation}
    {dropped dropped' : Nat} (h : Flow before middle [] dropped)
    (h' : Collected middle after invocations dropped') :
    Collected before after invocations (dropped + dropped') :=
  ⟨by simpa using h.trans h'.flow, h'.faithful⟩

/-! ## Passes before the policy -/

/-- What has timed out is dropped, and the order stays. -/
theorem pruneTimedOutMessages_flow (pending : PendingMessages) (policy : TriggerPolicySpec)
    (now : Int) :
    Flow pending (pruneTimedOutMessages policy now pending).1 []
      (pruneTimedOutMessages policy now pending).2 := by
  unfold pruneTimedOutMessages
  split_ifs
  · exact Flow.refl pending
  · refine sweep_rule _ pending 0 (I := fun _ bank dropped => Flow pending bank [] dropped) ?_
      (.refl pending)
    intro done port bank dropped _ h
    have hsub := List.filter_sublist (p := fun message : RuntimeChannelMessage =>
      decide (now - message.receivedAt ≤ policy.maxLatencyMs * nanosecondsPerMillisecond))
      (l := bank.queue port)
    have hstep := Flow.drop hsub (Nat.add_sub_cancel' hsub.length_le)
    simpa using h.trans hstep

/-- What is over the bound is dropped from the front. -/
theorem enforcePendingBounds_flow (bus : RuntimeChannelBus) (component : ComponentNodeSpec)
    (pending : PendingMessages) :
    Flow pending (enforcePendingBounds bus component pending).1 []
      (enforcePendingBounds bus component pending).2 := by
  unfold enforcePendingBounds
  refine sweep_rule _ pending 0 (I := fun _ bank dropped => Flow pending bank [] dropped) ?_
    (.refl pending)
  intro done port bank dropped _ h
  have hstep : Flow bank
      (bank.set port ((bank.queue port).drop
        ((bank.queue port).length - pendingLimit bus component port))) []
      ((bank.queue port).length - pendingLimit bus component port) :=
    Flow.drop (List.drop_sublist _ _) (by rw [List.length_drop]; omega)
  simpa using h.trans hstep

/-- Afterwards every queue is within its bound. -/
theorem enforcePendingBounds_bounded (bus : RuntimeChannelBus) (port : String) :
    ((enforcePendingBounds bus component pending).1.queue port).length ≤
      pendingLimit bus component port := by
  by_cases hport : port ∈ pending.keys
  · have hpassed := sweep_rule
      (fun port (queue : List RuntimeChannelMessage) dropped =>
        let excess := queue.length - pendingLimit bus component port
        (queue.drop excess, dropped + excess))
      pending 0 (I := fun done bank _ => ∀ port ∈ done,
        (bank.queue port).length ≤ pendingLimit bus component port)
      (by
        intro done port bank dropped hnew h other hother
        by_cases hsame : other = port
        · rw [hsame, Bank.queue_set, List.length_drop]
          omega
        · rw [Bank.queue_set_of_ne _ hsame]
          refine h other ?_
          simpa [hsame] using hother)
      (by simp)
    exact hpassed port hport
  · have hflow := enforcePendingBounds_flow bus component pending
    have hempty := pending.absent port hport
    have hle := hflow.length_le port
    rw [hempty] at hle
    exact hle.trans (Nat.zero_le _)

/-! ## Consuming the fronts -/

/-- The fronts are a matter of the queues of the inputs. -/
theorem frontMessagesForInputs_congr {inputs : List String}
    (h : ∀ input ∈ inputs, pending.queue input = pending'.queue input) :
    frontMessagesForInputs pending inputs = frontMessagesForInputs pending' inputs := by
  induction inputs with
  | nil => rfl
  | cons input inputs ih =>
      unfold frontMessagesForInputs
      rw [h input (List.mem_cons_self ..), ih fun i hi => h i (List.mem_cons_of_mem _ hi)]

/-- The fronts that are found belong to the inputs, which are not empty. -/
theorem frontMessagesForInputs_some {inputs : List String} {messages : List PortMessage}
    (h : frontMessagesForInputs pending inputs = some messages) :
    messages.map Prod.fst = inputs ∧ ∀ input ∈ inputs, pending.queue input ≠ [] := by
  induction inputs generalizing messages with
  | nil =>
      cases h
      simp
  | cons input inputs ih =>
      unfold frontMessagesForInputs at h
      cases hqueue : pending.queue input with
      | nil => simp [hqueue] at h
      | cons message rest =>
          simp only [hqueue, Option.map_eq_some_iff] at h
          rcases h with ⟨tail, htail, rfl⟩
          obtain ⟨hports, hready⟩ := ih htail
          refine ⟨by simp [hports], ?_⟩
          intro other hother
          rcases List.mem_cons.mp hother with rfl | hin
          · simp [hqueue]
          · exact hready other hin

/-- With distinct inputs the readiness check covers the whole consumption. -/
theorem consumeFrontMessages_spec {inputs : List String} (hnd : inputs.Nodup)
    {messages : List PortMessage} (h : frontMessagesForInputs pending inputs = some messages) :
    ∃ after, consumeFrontMessages inputs pending = .ok after ∧ Flow pending after messages 0 := by
  induction inputs generalizing pending messages with
  | nil =>
      cases h
      exact ⟨pending, rfl, .refl pending⟩
  | cons input inputs ih =>
      rw [List.nodup_cons] at hnd
      unfold frontMessagesForInputs at h
      cases hqueue : pending.queue input with
      | nil => simp [hqueue] at h
      | cons message rest =>
          simp only [hqueue, Option.map_eq_some_iff] at h
          rcases h with ⟨tail, htail, rfl⟩
          -- the other queues are as they were when they were checked
          have hsame : frontMessagesForInputs (pending.set input rest) inputs = some tail := by
            rw [← htail]
            refine frontMessagesForInputs_congr fun other hother => ?_
            refine pending.queue_set_of_ne ?_ rest
            rintro rfl
            exact hnd.1 hother
          rcases ih hnd.2 hsame with ⟨after, hafter, hflow⟩
          refine ⟨after, ?_, by simpa using (Flow.take hqueue).trans hflow⟩
          simp [consumeFrontMessages, popFront, hqueue, hafter]

/-- Dropping the fronts of distinct, non-empty queues. -/
theorem consumeFrontMessages_drops {inputs : List String} (hnd : inputs.Nodup)
    (hready : ∀ input ∈ inputs, pending.queue input ≠ []) :
    ∃ after, consumeFrontMessages inputs pending = .ok after ∧
      Flow pending after [] inputs.length := by
  induction inputs generalizing pending with
  | nil => exact ⟨pending, rfl, .refl pending⟩
  | cons input inputs ih =>
      rw [List.nodup_cons] at hnd
      cases hqueue : pending.queue input with
      | nil => exact absurd hqueue (hready input (List.mem_cons_self ..))
      | cons message rest =>
          have hrest : ∀ other ∈ inputs, (pending.set input rest).queue other ≠ [] := by
            intro other hother
            rw [pending.queue_set_of_ne (by rintro rfl; exact hnd.1 hother)]
            exact hready other (List.mem_cons_of_mem _ hother)
          rcases ih hnd.2 hrest with ⟨after, hafter, hflow⟩
          have hfirst : Flow pending (pending.set input rest) [] 1 :=
            Flow.drop (by rw [hqueue]; exact List.sublist_cons_self ..) (by rw [hqueue]; simp)
          refine ⟨after, ?_, ?_⟩
          · simp [consumeFrontMessages, popFront, hqueue, hafter]
          · have := hfirst.trans hflow
            rwa [List.nil_append, Nat.add_comm] at this

/-! ## The collection algorithms -/

/-- One invocation for each message. -/
theorem carriedBy_each (port : String) (messages : List RuntimeChannelMessage) :
    carriedBy (messages.map fun message =>
        eventInvocationFromMessages context component lane [(port, message)]) =
      messages.map fun message => (port, message) := by
  rw [carriedBy, List.flatMap_map, List.map_eq_flatMap]
  simp only [eventInvocationFromMessages_messages]

/-- Every pending message is carried, port after port. -/
theorem collectAnyInputFrom_collected (ports : List String) (pending : PendingMessages) :
    Collected pending (collectAnyInputFrom context component lane ports pending).2
      (collectAnyInputFrom context component lane ports pending).1 0 := by
  induction ports generalizing pending with
  | nil => exact .nothing (.refl pending)
  | cons port ports ih =>
      unfold collectAnyInputFrom
      cases hqueue : pending.queue port with
      | nil => exact ih pending
      | cons message rest =>
          dsimp only
          split_ifs
          · exact .one (Flow.take hqueue)
          · -- the whole queue goes out
            have hserve : Flow pending (pending.set port [])
                ((message :: rest).map fun message => (port, message)) 0 :=
              Flow.serve (by rw [hqueue, List.append_nil]) (by rw [hqueue]; simp)
            obtain ⟨hflow, hfaithful⟩ := ih (pending.set port [])
            constructor
            · have := hserve.trans hflow
              rw [carriedBy, List.flatMap_append]
              rw [← carriedBy_each] at this
              exact this
            · intro invocation hmem
              rcases List.mem_append.mp hmem with hhere | hlater
              · rcases List.mem_map.mp hhere with ⟨m, -, rfl⟩
                exact invocationFromMessages_faithful ..
              · exact hfaithful invocation hlater

theorem collectAnyInput_collected :
    Collected pending (collectAnyInput context component lane pending).2
      (collectAnyInput context component lane pending).1 0 :=
  collectAnyInputFrom_collected pending.keys pending

/-- Coalescing keeps the newest message; with at most one in each queue it loses
none. -/
theorem collectCoalescedAnyInput_collected
    (hone : ∀ port, (pending.queue port).length ≤ 1) :
    Collected pending (collectCoalescedAnyInput context component lane pending).2
      (collectCoalescedAnyInput context component lane pending).1 0 := by
  have hswept := sweep_rule coalesceQueue pending []
    (I := fun _ bank messages => Flow pending bank messages 0)
    (by
      intro done port bank messages _ h
      have hlen := (h.length_le port).trans (hone port)
      cases hqueue : bank.queue port with
      | nil =>
          have hstep : Flow bank (bank.set port []) [] 0 :=
            Flow.drop (by rw [hqueue]) (by rw [hqueue]; rfl)
          simpa [hqueue, coalesceQueue] using h.trans hstep
      | cons message rest =>
          have hrest : rest = [] := by
            rw [hqueue, List.length_cons] at hlen
            exact List.length_eq_zero_iff.mp (by omega)
          subst hrest
          simpa [hqueue, coalesceQueue] using h.trans (Flow.take hqueue))
    (.refl pending)
  unfold collectCoalescedAnyInput
  dsimp only
  split_ifs with hnone
  · rw [hnone] at hswept
    exact .nothing hswept
  · exact .one hswept

/-- The fronts leave their queues and are carried. -/
theorem invokeWithFronts_collected (context : TickContext) (lane : SchedulerGroupConfig)
    (trigger : TriggerKind) (hnd : (triggerPolicyInputsFor component).Nodup)
    {messages : List PortMessage}
    (h : frontMessagesForInputs pending (triggerPolicyInputsFor component) = some messages) :
    ∃ invocations after,
      invokeWithFronts context component lane trigger messages pending =
        .ok (invocations, after) ∧ Collected pending after invocations 0 := by
  rcases consumeFrontMessages_spec hnd h with ⟨after, hafter, hflow⟩
  unfold invokeWithFronts
  rw [hafter]
  exact ⟨_, after, rfl, .one hflow⟩

/-- A front of each input, or nothing where one has none. -/
theorem collectAllInputs_collected (context : TickContext) (lane : SchedulerGroupConfig)
    (pending : PendingMessages) (hnd : (triggerPolicyInputsFor component).Nodup) :
    ∃ invocations after,
      collectAllInputs context component lane pending = .ok (invocations, after) ∧
        Collected pending after invocations 0 := by
  unfold collectAllInputs
  cases hfronts : frontMessagesForInputs pending (triggerPolicyInputsFor component) with
  | none => exact ⟨[], pending, rfl, .nothing (.refl pending)⟩
  | some messages => exact invokeWithFronts_collected context lane _ hnd hfronts

theorem minItem_mem (first : PortMessage) (rest : List PortMessage) :
    minItem first rest ∈ first :: rest := by
  unfold minItem
  induction rest generalizing first with
  | nil => simp
  | cons item rest ih =>
      rw [List.foldl_cons]
      split_ifs
      · exact List.mem_cons_of_mem _ (ih item)
      · rcases List.mem_cons.mp (ih first) with h | h
        · rw [h]
          exact List.mem_cons_self ..
        · exact List.mem_cons_of_mem _ (List.mem_cons_of_mem _ h)

/-- Each round drops one message, so the loop ends before its fuel does. -/
theorem collectTimeSyncLoop_collected (context : TickContext) (lane : SchedulerGroupConfig)
    (hnd : (triggerPolicyInputsFor component).Nodup) (fuel : Nat) :
    ∀ (pending : PendingMessages) (count : Nat), pending.size < fuel →
      ∃ invocations after dropped,
        collectTimeSyncLoop context component lane fuel pending count =
          .ok (invocations, after, count + dropped) ∧
        Collected pending after invocations dropped := by
  induction fuel with
  | zero =>
      intro pending count hsize
      omega
  | succ fuel ih =>
      intro pending count hsize
      unfold collectTimeSyncLoop
      cases hfronts : frontMessagesForInputs pending (triggerPolicyInputsFor component) with
      | none => exact ⟨[], pending, 0, rfl, .nothing (.refl pending)⟩
      | some messages =>
          dsimp only
          split_ifs with hsync
          · rcases invokeWithFronts_collected context lane .timeSync hnd hfronts with
              ⟨invocations, after, hinvoke, hcollected⟩
            rw [hinvoke]
            exact ⟨invocations, after, 0, rfl, hcollected⟩
          · cases messages with
            | nil => exact ⟨[], pending, 0, rfl, .nothing (.refl pending)⟩
            | cons first rest =>
                -- the oldest front is one of the fronts, so its queue has a message
                obtain ⟨hports, hready⟩ := frontMessagesForInputs_some hfronts
                have hinput : (minItem first rest).1 ∈ triggerPolicyInputsFor component := by
                  rw [← hports]
                  exact List.mem_map_of_mem (minItem_mem first rest)
                cases hqueue : pending.queue (minItem first rest).1 with
                | nil => exact absurd hqueue (hready _ hinput)
                | cons message queue =>
                    have hdrop : Flow pending (pending.set (minItem first rest).1 queue) [] 1 :=
                      Flow.drop (by rw [hqueue]; exact List.sublist_cons_self ..)
                        (by rw [hqueue]; simp)
                    have hless := hdrop.balance
                    rcases ih (pending.set (minItem first rest).1 queue) (count + 1)
                      (by simp at hless; omega) with
                      ⟨invocations, after, dropped, hloop, hcollected⟩
                    refine ⟨invocations, after, 1 + dropped, ?_, hcollected.after hdrop⟩
                    simp [popFront, hqueue, hloop, Nat.add_assoc]

/-- Each round drops at least one message here as well. -/
theorem collectTimestampedLoop_collected (context : TickContext) (lane : SchedulerGroupConfig)
    (hnd : (triggerPolicyInputsFor component).Nodup) (fuel : Nat) :
    ∀ (pending : PendingMessages) (count : Nat), pending.size < fuel →
      ∃ invocations after dropped,
        collectTimestampedLoop context component lane fuel pending count =
          .ok (invocations, after, count + dropped) ∧
        Collected pending after invocations dropped := by
  induction fuel with
  | zero =>
      intro pending count hsize
      omega
  | succ fuel ih =>
      intro pending count hsize
      unfold collectTimestampedLoop
      cases hfronts : frontMessagesForInputs pending (triggerPolicyInputsFor component) with
      | none => exact ⟨[], pending, 0, rfl, .nothing (.refl pending)⟩
      | some messages =>
          dsimp only
          split_ifs with hmissing
          · rcases invokeWithFronts_collected context lane .condition hnd hfronts with
              ⟨invocations, after, hinvoke, hcollected⟩
            rw [hinvoke]
            exact ⟨invocations, after, 0, rfl, hcollected⟩
          · obtain ⟨hports, hready⟩ := frontMessagesForInputs_some hfronts
            -- the inputs without a timestamp are some of the inputs
            have hsub : ((messages.filter fun item => item.2.eventTimestamp.isNone).map
                Prod.fst).Sublist (triggerPolicyInputsFor component) := by
              rw [← hports]
              exact List.filter_sublist.map _
            rcases consumeFrontMessages_drops (hnd.sublist hsub)
              (fun input hinput => hready input (hsub.subset hinput)) with
              ⟨rest, hrest, hdrop⟩
            have hless := hdrop.balance
            have hpos := List.length_pos_of_ne_nil hmissing
            rcases ih rest
              (count + ((messages.filter fun item => item.2.eventTimestamp.isNone).map
                Prod.fst).length) (by simp only [List.length_nil] at hless; omega) with
              ⟨invocations, after, dropped, hloop, hcollected⟩
            refine ⟨invocations, after, _, ?_, hcollected.after hdrop⟩
            rw [hrest]
            dsimp only
            rw [hloop, Nat.add_assoc]

/-- What goes into the batch leaves its queue. -/
theorem fillBatch_flow (target : Nat) (inputs : List String) :
    ∀ (messages : List PortMessage) (pending : PendingMessages), ∃ taken,
      (fillBatch target inputs messages pending).1 = messages ++ taken ∧
        Flow pending (fillBatch target inputs messages pending).2 taken 0 := by
  induction inputs with
  | nil =>
      intro messages pending
      exact ⟨[], (List.append_nil messages).symm, .refl pending⟩
  | cons input inputs ih =>
      intro messages pending
      unfold fillBatch
      dsimp only
      have hserve : Flow pending
          (pending.set input ((pending.queue input).drop (target - messages.length)))
          (((pending.queue input).take (target - messages.length)).map
            fun message => (input, message)) 0 :=
        Flow.serve (by rw [List.take_append_drop])
          (by rw [List.length_take, List.length_drop]; omega)
      rcases ih (messages ++ ((pending.queue input).take (target - messages.length)).map
          fun message => (input, message))
        (pending.set input ((pending.queue input).drop (target - messages.length))) with
        ⟨taken, htaken, hflow⟩
      refine ⟨_, ?_, hserve.trans hflow⟩
      rw [htaken, List.append_assoc]

/-- Late messages go, and the others keep their order. -/
theorem retainTimely_sublist (latenessNs : Int) (queue : List RuntimeChannelMessage)
    (s : (String → Option Int) × Nat) :
    (retainTimely latenessNs queue s).1.Sublist queue ∧
      (retainTimely latenessNs queue s).1.length + (retainTimely latenessNs queue s).2.2 =
        queue.length + s.2 := by
  induction queue generalizing s with
  | nil => exact ⟨List.Sublist.refl _, rfl⟩
  | cons message queue ih =>
      unfold retainTimely
      cases message.eventTimestamp with
      | none =>
          obtain ⟨hsub, hcount⟩ := ih s
          refine ⟨hsub.cons_cons _, ?_⟩
          simp only [List.length_cons]
          omega
      | some timestamp =>
          dsimp only
          split_ifs with hlate hmark
          · obtain ⟨hsub, hcount⟩ := ih (s.1, s.2 + 1)
            refine ⟨hsub.cons _, ?_⟩
            rw [List.length_cons]
            omega
          · obtain ⟨hsub, hcount⟩ := ih (Function.update s.1 timestamp.domain
              (some timestamp.nanoseconds), s.2)
            refine ⟨hsub.cons_cons _, ?_⟩
            simp only [List.length_cons]
            omega
          · obtain ⟨hsub, hcount⟩ := ih (s.1, s.2)
            refine ⟨hsub.cons_cons _, ?_⟩
            simp only [List.length_cons]
            omega

/-- Each queue loses its late messages. -/
theorem dropLateMessages_flow (component : ComponentNodeSpec) (pending : PendingMessages)
    (watermarks : String → Option Int) :
    Flow pending (dropLateMessages component pending watermarks).1 []
      (dropLateMessages component pending watermarks).2.2 := by
  unfold dropLateMessages
  refine sweep_rule _ pending _ (I := fun _ bank (s : (String → Option Int) × Nat) =>
    Flow pending bank [] s.2) ?_ (.refl pending)
  intro done port bank s _ h
  obtain ⟨hsub, hcount⟩ := retainTimely_sublist
    (component.triggerPolicy.watermarkLatenessMs * nanosecondsPerMillisecond) (bank.queue port) s
  have hle := hsub.length_le
  have hstep := Flow.drop hsub (Nat.add_sub_cancel' hle)
  have := h.trans hstep
  rw [List.nil_append] at this
  convert this using 1
  omega

/-! ## The dispatch -/

/-- The messages dropped since the counters were reset. -/
def TriggerRuntimeMetrics.drops (stats : TriggerRuntimeMetrics) : Nat :=
  stats.timeoutDropCount + stats.pendingDropCount + stats.timeSyncDropCount + stats.lateDropCount

/-- The policies that take the first message of every input at once. -/
def frontConsuming (policy : TriggerPolicySpec) : Bool :=
  policy.type = "all_inputs" || policy.type = "time_sync" ||
    (policy.type = "condition" && orElse policy.condition "all_inputs_ready" ≠ "any_input_ready")

/-- Where the first messages of the inputs are taken, the inputs are distinct. -/
def FrontsDefined (component : ComponentNodeSpec) : Prop :=
  frontConsuming component.triggerPolicy = true → (triggerPolicyInputsFor component).Nodup

/-- The call returns, what it takes off the queues goes into invocations, and the
counters account for the rest. -/
def Collects (s : TriggerState)
    (result : Except TriggerFault (List Invocation × TriggerState)) : Prop :=
  ∃ invocations s' dropped, result = .ok (invocations, s') ∧
    Collected s.pending s'.pending invocations dropped ∧
    s'.stats.drops = s.stats.drops + dropped

variable {s : TriggerState}

/-- Only pending messages and drop counters matter. -/
theorem Collects.map {result : Except TriggerFault (List Invocation × TriggerState)}
    (h : Collects s result)
    (f : List Invocation × TriggerState → List Invocation × TriggerState)
    (hf : ∀ r, (f r).1 = r.1 ∧ (f r).2.pending = r.2.pending ∧
      (f r).2.stats.drops = r.2.stats.drops) :
    Collects s (result.map f) := by
  rcases h with ⟨invocations, s', dropped, rfl, hcollected, hdrops⟩
  obtain ⟨hinvocations, hpending, hstats⟩ := hf (invocations, s')
  refine ⟨(f (invocations, s')).1, (f (invocations, s')).2, dropped, rfl, ?_, ?_⟩
  · rw [hinvocations, hpending]
    exact hcollected
  · rw [hstats]
    exact hdrops

/-- The counter of what is suppressed is not a drop. -/
theorem countSuppressed_keeps (r : List Invocation × TriggerState) :
    (countSuppressed r).1 = r.1 ∧ (countSuppressed r).2.pending = r.2.pending ∧
      (countSuppressed r).2.stats.drops = r.2.stats.drops := by
  unfold countSuppressed
  split_ifs <;> exact ⟨rfl, rfl, rfl⟩

/-- The time of the last invocation is no part of the accounts. -/
theorem recordInvocation_keeps (r : List Invocation × TriggerState) :
    (recordInvocation context r).1 = r.1 ∧
      (recordInvocation context r).2.pending = r.2.pending ∧
      (recordInvocation context r).2.stats.drops = r.2.stats.drops := by
  unfold recordInvocation
  split_ifs <;> exact ⟨rfl, rfl, rfl⟩

theorem collectAllInputsState_collects (hnd : (triggerPolicyInputsFor component).Nodup) :
    Collects s (collectAllInputsState context component lane s) := by
  rcases collectAllInputs_collected context lane s.pending hnd with
    ⟨invocations, after, hcollect, hcollected⟩
  unfold collectAllInputsState
  rw [hcollect]
  exact ⟨invocations, _, 0, rfl, hcollected, rfl⟩

/-- The fronts that the search has dropped are counted. -/
theorem collectTimeSync_collects (hnd : (triggerPolicyInputsFor component).Nodup) :
    Collects s (collectTimeSync context component lane s) := by
  rcases collectTimeSyncLoop_collected context lane hnd (s.pending.size + 1) s.pending
    s.stats.timeSyncDropCount (by omega) with
    ⟨invocations, after, dropped, hloop, hcollected⟩
  unfold collectTimeSync
  rw [hloop]
  refine ⟨invocations, _, dropped, rfl, hcollected, ?_⟩
  simp only [TriggerRuntimeMetrics.drops]
  omega

/-- A batch carries what it takes and drops nothing. -/
theorem collectBatch_collects : Collects s (.ok (collectBatch context component lane s)) := by
  unfold collectBatch
  dsimp only
  rcases fillBatch_flow (batchTargetCount context component s.pending)
    (triggerPolicyInputsFor component) [] s.pending with ⟨taken, htaken, hflow⟩
  rw [List.nil_append] at htaken
  split_ifs with hnone hempty
  · exact ⟨[], s, 0, rfl, .nothing (.refl s.pending), rfl⟩
  · rw [htaken] at hempty
    subst hempty
    exact ⟨[], _, 0, rfl, .nothing hflow, rfl⟩
  · rw [htaken]
    exact ⟨_, _, 0, rfl, .one hflow, rfl⟩

/-- The late messages are counted, and the others are carried. -/
theorem collectWatermark_collects :
    Collects s (.ok (collectWatermark context component lane s)) := by
  have hlate := dropLateMessages_flow component s.pending s.watermarks
  refine ⟨_, _, _, rfl, collectAnyInput_collected.after hlate, ?_⟩
  simp only [TriggerRuntimeMetrics.drops]
  omega

theorem collectAny_collects :
    Collects s (.ok ((collectAnyInput context component lane s.pending).1,
      { s with pending := (collectAnyInput context component lane s.pending).2 })) :=
  ⟨_, _, 0, rfl, collectAnyInput_collected, rfl⟩

/-- An unknown condition never fires and takes nothing. -/
theorem collectCondition_collects
    (hnd : orElse component.triggerPolicy.condition "all_inputs_ready" ≠ "any_input_ready" →
      (triggerPolicyInputsFor component).Nodup) :
    Collects s (collectCondition context component lane s) := by
  unfold collectCondition
  dsimp only
  split_ifs with hany hall htimestamp
  · exact (collectAny_collects (s := s)).map countSuppressed countSuppressed_keeps
  · exact (collectAllInputsState_collects (hnd hany)).map countSuppressed countSuppressed_keeps
  · rcases collectTimestampedLoop_collected context lane (hnd hany) (s.pending.size + 1) s.pending
      s.stats.pendingDropCount (by omega) with
      ⟨invocations, after, dropped, hloop, hcollected⟩
    rw [hloop]
    have hcollects : Collects s (.ok (invocations,
        { s with
          pending := after
          stats := { s.stats with pendingDropCount := s.stats.pendingDropCount + dropped } })) := by
      refine ⟨invocations, _, dropped, rfl, hcollected, ?_⟩
      simp only [TriggerRuntimeMetrics.drops]
      omega
    exact hcollects.map countSuppressed countSuppressed_keeps
  · have hnothing : Collects s (.ok ([], s)) :=
      ⟨[], s, 0, rfl, .nothing (.refl s.pending), rfl⟩
    exact hnothing.map countSuppressed countSuppressed_keeps

/-- All policies at once. Coalescing relies on the bound of one message that has
just been enforced for it. -/
theorem collectByPolicy_spec (hfronts : FrontsDefined component)
    (hone : (component.triggerPolicy.type = "debounce" || component.triggerPolicy.coalesce) →
      ∀ port, (s.pending.queue port).length ≤ 1) :
    Collects s (collectByPolicy context component lane s) := by
  unfold collectByPolicy
  dsimp only
  split_ifs with hall hsync hbatch hwatermark hcondition hcoalesce
  · exact collectAllInputsState_collects (hfronts (by simp [frontConsuming, hall]))
  · exact collectTimeSync_collects (hfronts (by simp [frontConsuming, hsync]))
  · exact collectBatch_collects
  · exact collectWatermark_collects
  · refine collectCondition_collects fun hne => hfronts ?_
    simp [frontConsuming, hcondition, hne]
  · exact ⟨_, _, 0, rfl, collectCoalescedAnyInput_collected (hone hcoalesce), rfl⟩
  · exact collectAny_collects

end TopoExec
