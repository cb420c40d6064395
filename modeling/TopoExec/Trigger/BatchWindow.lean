import Mathlib.Algebra.GroupWithZero.Nat
import TopoExec.Trigger.Watermark

/-! # Batches

`collect_batch` flushes a batch of `batch_size` messages, or all the waiting messages when
the window of the oldest one is over. It takes the age from the fronts of the queues. A
port that several channels feed is filled channel by channel, so that an older message can
stand behind a younger one; then the batch is late. `batch_readiness_iff` says that this
is the only way in which it is.
-/

namespace TopoExec

open Queues

section

variable (context : TickContext) (component : ComponentNodeSpec) (pending : PendingMessages)

/-- The messages waiting for the inputs of the component, input by input. -/
def batchMessages : List PortMessage := scanOrder pending (triggerPolicyInputsFor component)

/-- There is a batch of the full size. -/
def FullBatch : Prop :=
  0 < component.triggerPolicy.batchSize ∧
    component.triggerPolicy.batchSize ≤ (batchMessages component pending).length

/-- The window of the message is over. -/
def Aged (message : RuntimeChannelMessage) : Prop :=
  component.triggerPolicy.batchWindowMs * nanosecondsPerMillisecond ≤
    context.startedAt - message.receivedAt

/-- There is a window, and it is over for one of the messages. -/
def WindowOver : Prop :=
  0 < component.triggerPolicy.batchWindowMs ∧
    ∃ input ∈ triggerPolicyInputsFor component, ∃ message ∈ pending.queue input,
      Aged context component message

/-- The window is over for a message behind the front of its queue, and for none of the
fronts. -/
def HiddenAge : Prop :=
  ¬ FullBatch component pending ∧ WindowOver context component pending ∧
    ∀ input ∈ triggerPolicyInputsFor component, ∀ message ∈ (pending.queue input).head?,
      ¬ Aged context component message

instance : Decidable (FullBatch component pending) := inferInstanceAs (Decidable (_ ∧ _))

instance (message : RuntimeChannelMessage) : Decidable (Aged context component message) :=
  inferInstanceAs (Decidable (_ ≤ _))

instance : Decidable (WindowOver context component pending) := inferInstanceAs (Decidable (_ ∧ _))

instance : Decidable (HiddenAge context component pending) := inferInstanceAs (Decidable (_ ∧ _))

/-- What a call of `collect_batch` should do: flush a full batch if there is one, else all
the messages if the window is over, else nothing. -/
structure BatchReadiness (lane : SchedulerGroupConfig) (s : TriggerState) : Prop where
  full : FullBatch component s.pending →
    ∃ invocation, (collectBatch context component lane s).1 = [invocation] ∧
      Faithful invocation ∧
      (invocation.batchPayloads.length : Int) = component.triggerPolicy.batchSize ∧
      invocation.messages <+: batchMessages component s.pending
  window : ¬ FullBatch component s.pending → WindowOver context component s.pending →
    ∃ invocation, (collectBatch context component lane s).1 = [invocation] ∧
      Faithful invocation ∧ invocation.messages = batchMessages component s.pending
  nothing : ¬ FullBatch component s.pending → ¬ WindowOver context component s.pending →
    (collectBatch context component lane s).1 = [] ∧
      (collectBatch context component lane s).2.pending = s.pending

end

section

variable {context : TickContext} {component : ComponentNodeSpec} {lane : SchedulerGroupConfig}
  {pending : PendingMessages}

/-! ## The oldest front -/

/-- The older of the time found so far and the front of an input. -/
def olderFront (pending : PendingMessages) (oldest : Option Int) (input : String) : Option Int :=
  match (pending.queue input).head?, oldest with
  | none, _ => oldest
  | some message, none => some message.receivedAt
  | some message, some time =>
      if message.receivedAt < time then some message.receivedAt else oldest

/-- The minimum is over the window if one of the fronts is. -/
theorem olderFront_aged_iff {found : Option Int} {input : String} {now window : Int} :
    (∃ oldest ∈ olderFront pending found input, window ≤ now - oldest) ↔
      (∃ time ∈ found, window ≤ now - time) ∨
        ∃ message ∈ (pending.queue input).head?, window ≤ now - message.receivedAt := by
  unfold olderFront
  cases hfront : (pending.queue input).head? with
  | none => simp
  | some message =>
      cases found with
      | none => simp
      | some time =>
          dsimp only
          split_ifs with hless
          · simp only [Option.mem_some_iff, exists_eq_left']
            omega
          · simp only [Option.mem_some_iff, exists_eq_left']
            omega

/-- The window is over for the oldest front iff it is over for one of the fronts. -/
theorem oldestPendingBatchTime_aged_iff {inputs : List String} {now window : Int} :
    (∃ oldest ∈ oldestPendingBatchTime inputs pending, window ≤ now - oldest) ↔
      ∃ input ∈ inputs, ∃ message ∈ (pending.queue input).head?,
        window ≤ now - message.receivedAt := by
  have hloop : ∀ found : Option Int,
      (∃ oldest ∈ inputs.foldl (olderFront pending) found, window ≤ now - oldest) ↔
        (∃ time ∈ found, window ≤ now - time) ∨
          ∃ input ∈ inputs, ∃ message ∈ (pending.queue input).head?,
            window ≤ now - message.receivedAt := by
    induction inputs with
    | nil => simp
    | cons input inputs ih =>
        intro found
        rw [List.foldl_cons, ih, olderFront_aged_iff, or_assoc]
        simp only [List.mem_cons, exists_eq_or_imp]
  have hfresh := hloop none
  rw [or_iff_right (by simp)] at hfresh
  exact hfresh

/-- The number of the pending messages, input by input. -/
theorem batchMessages_length :
    (batchMessages component pending).length =
      ((triggerPolicyInputsFor component).map fun input => (pending.queue input).length).sum := by
  simp [batchMessages, scanOrder, List.length_flatMap]

/-! ## Filling a batch -/

theorem scanOrder_congr {pending' : PendingMessages} {ports : List String}
    (h : ∀ port ∈ ports, pending.queue port = pending'.queue port) :
    scanOrder pending ports = scanOrder pending' ports := by
  unfold scanOrder
  exact List.flatMap_congr fun port hport => by rw [h port hport]

/-- The batch is the first messages in the order of the inputs. -/
theorem fillBatch_messages (target : Nat) {inputs : List String} (hnd : inputs.Nodup)
    (messages : List PortMessage) (pending : PendingMessages) :
    (fillBatch target inputs messages pending).1 =
      messages ++ (scanOrder pending inputs).take (target - messages.length) := by
  induction inputs generalizing messages pending with
  | nil => simp [fillBatch, scanOrder]
  | cons input inputs ih =>
      rw [List.nodup_cons] at hnd
      unfold fillBatch
      dsimp only
      have hsame : scanOrder (pending.set input
          ((pending.queue input).drop (target - messages.length))) inputs =
          scanOrder pending inputs := by
        refine scanOrder_congr fun port hport => pending.queue_set_of_ne ?_ _
        rintro rfl
        exact hnd.1 hport
      have hsplit : scanOrder pending (input :: inputs) =
          (pending.queue input).map (fun message => (input, message)) ++
            scanOrder pending inputs := by
        simp [scanOrder]
      rw [ih hnd.2, hsame, hsplit, List.take_append, List.length_map, List.append_assoc,
        ← List.map_take]
      congr 3
      rw [List.length_append, List.length_map, List.length_take]
      omega

/-! ## The target -/

/-- The window is over for one of the fronts. -/
def FrontAged (context : TickContext) (component : ComponentNodeSpec) (pending : PendingMessages) :
    Prop :=
  0 < component.triggerPolicy.batchWindowMs ∧
    ∃ input ∈ triggerPolicyInputsFor component, ∃ message ∈ (pending.queue input).head?,
      Aged context component message

/-- The front is one of the pending messages. -/
theorem FrontAged.windowOver (h : FrontAged context component pending) :
    WindowOver context component pending := by
  obtain ⟨hwindow, input, hinput, message, hfront, haged⟩ := h
  exact ⟨hwindow, input, hinput, message, List.mem_of_mem_head? hfront, haged⟩

/-- A window that is over is that of some message. -/
theorem WindowOver.messages (h : WindowOver context component pending) :
    batchMessages component pending ≠ [] := by
  obtain ⟨-, input, hinput, message, hmessage, -⟩ := h
  have hmem : (input, message) ∈ batchMessages component pending :=
    List.mem_flatMap.mpr ⟨input, hinput, List.mem_map_of_mem hmessage⟩
  exact List.ne_nil_of_mem hmem

/-- A full batch takes `batch_size` messages. -/
theorem batchTargetCount_full (context : TickContext) (h : FullBatch component pending) :
    batchTargetCount context component pending = component.triggerPolicy.batchSize.toNat := by
  obtain ⟨hsize, henough⟩ := h
  rw [batchMessages_length] at henough
  unfold batchTargetCount
  dsimp only
  rw [if_pos ⟨hsize, by omega⟩]

/-- Otherwise the window decides, by the fronts alone. -/
theorem batchTargetCount_notFull (h : ¬ FullBatch component pending) :
    batchTargetCount context component pending =
      if 0 < component.triggerPolicy.batchWindowMs ∧
        ∃ oldest ∈ oldestPendingBatchTime (triggerPolicyInputsFor component) pending,
          component.triggerPolicy.batchWindowMs * nanosecondsPerMillisecond ≤
            context.startedAt - oldest
      then (batchMessages component pending).length else 0 := by
  unfold FullBatch at h
  rw [batchMessages_length] at h ⊢
  unfold batchTargetCount
  dsimp only
  generalize ((triggerPolicyInputsFor component).map fun input =>
    (pending.queue input).length).sum = available at *
  rw [if_neg (by omega)]
  by_cases hwindow : 0 < component.triggerPolicy.batchWindowMs
  · rw [if_pos hwindow]
    cases oldestPendingBatchTime (triggerPolicyInputsFor component) pending with
    | none => simp
    | some oldest =>
        simp only [hwindow, true_and, Option.mem_some_iff, exists_eq_left']
        split_ifs
        · omega
        · rfl
        · rfl
  · rw [if_neg hwindow, if_neg fun hboth => hwindow hboth.1]

/-- With a front that is old enough everything is taken. -/
theorem batchTargetCount_aged (hnotFull : ¬ FullBatch component pending)
    (haged : FrontAged context component pending) :
    batchTargetCount context component pending = (batchMessages component pending).length := by
  have holdest := oldestPendingBatchTime_aged_iff.mpr haged.2
  rw [batchTargetCount_notFull hnotFull, if_pos ⟨haged.1, holdest⟩]

/-- With young fronts nothing is taken, whatever stands behind them. -/
theorem batchTargetCount_young (hnotFull : ¬ FullBatch component pending)
    (hyoung : ¬ FrontAged context component pending) :
    batchTargetCount context component pending = 0 := by
  rw [batchTargetCount_notFull hnotFull]
  apply if_neg
  rintro ⟨hwindow, holdest⟩
  exact hyoung ⟨hwindow, oldestPendingBatchTime_aged_iff.mp holdest⟩

/-! ## The call -/

/-- A batch of some target: that many messages from the front. -/
theorem collectBatch_target (lane : SchedulerGroupConfig)
    (hnd : (triggerPolicyInputsFor component).Nodup) {s : TriggerState}
    (hpositive : 0 < batchTargetCount context component s.pending)
    (henough : batchTargetCount context component s.pending ≤
      (batchMessages component s.pending).length) :
    ∃ invocation, (collectBatch context component lane s).1 = [invocation] ∧
      Faithful invocation ∧
      invocation.messages = (batchMessages component s.pending).take
        (batchTargetCount context component s.pending) := by
  have hfill := fillBatch_messages (batchTargetCount context component s.pending) hnd [] s.pending
  rw [List.nil_append, List.length_nil, Nat.sub_zero, ← batchMessages] at hfill
  have hlength := congrArg List.length hfill
  rw [List.length_take, Nat.min_eq_left henough] at hlength
  unfold collectBatch
  dsimp only
  rw [if_neg (by omega), if_neg ?_]
  · exact ⟨_, rfl, invocationFromMessages_faithful .., by
      rw [invocationFromMessages_messages, hfill]⟩
  · intro hempty
    rw [hempty, List.length_nil] at hlength
    omega

/-- A batch of no message is none. -/
theorem collectBatch_nothing {s : TriggerState}
    (h : batchTargetCount context component s.pending = 0) :
    collectBatch context component lane s = ([], s) := by
  unfold collectBatch
  dsimp only
  rw [if_pos h]

/-- A call of `collect_batch` does what it should, unless the age is hidden. -/
theorem batchReadiness_iff (hnd : (triggerPolicyInputsFor component).Nodup) (s : TriggerState) :
    BatchReadiness context component lane s ↔ ¬ HiddenAge context component s.pending := by
  constructor
  · rintro hready ⟨hnotFull, hover, hyoung⟩
    have hfront : ¬ FrontAged context component s.pending := by
      rintro ⟨-, input, hinput, message, hmessage, haged⟩
      exact hyoung input hinput message hmessage haged
    obtain ⟨invocation, hemits, -⟩ := hready.window hnotFull hover
    rw [collectBatch_nothing (batchTargetCount_young hnotFull hfront)] at hemits
    cases hemits
  · intro hshown
    constructor
    · intro hfull
      have htarget := batchTargetCount_full context hfull
      obtain ⟨hsize, henough⟩ := hfull
      have hpositive : 0 < batchTargetCount context component s.pending := by omega
      obtain ⟨invocation, hemits, hfaithful, hmessages⟩ :=
        collectBatch_target lane hnd hpositive (by omega)
      refine ⟨invocation, hemits, hfaithful, ?_, ?_⟩
      · rw [hfaithful.batchPayloads, List.length_map, hmessages, List.length_take, htarget]
        omega
      · rw [hmessages]
        exact List.take_prefix ..
    · intro hnotFull hover
      -- the window is over for a front, since the age is not hidden
      have hfront : FrontAged context component s.pending := by
        by_contra hyoung
        refine hshown ⟨hnotFull, hover, ?_⟩
        intro input hinput message hmessage haged
        exact hyoung ⟨hover.1, input, hinput, message, hmessage, haged⟩
      have htarget := batchTargetCount_aged hnotFull hfront
      have hmessages := List.length_pos_of_ne_nil hover.messages
      have hpositive : 0 < batchTargetCount context component s.pending := by omega
      obtain ⟨invocation, hemits, hfaithful, hmessages⟩ :=
        collectBatch_target lane hnd hpositive htarget.le
      refine ⟨invocation, hemits, hfaithful, ?_⟩
      rw [hmessages, htarget, List.take_length]
    · intro hnotFull hyoung
      have hfront : ¬ FrontAged context component s.pending := mt FrontAged.windowOver hyoung
      rw [collectBatch_nothing (batchTargetCount_young hnotFull hfront)]
      exact ⟨rfl, rfl⟩

/-- A collection that asks its policy calls `collect_batch` in that state. -/
theorem TriggerPolicyEngine.collectReadyInvocations_batch {clock : Nat → Int}
    (hdriven : messageDriven component = true) (htype : component.triggerPolicy.type = "batch")
    {engine : TriggerPolicyEngine}
    (hdue : rateLimited component.triggerPolicy
      (policyState clock context component engine).lastInvoked context.startedAt = false) :
    ∃ record engine', engine.collectReadyInvocations clock context component lane =
        .ok (record, engine') ∧
      record.invocations =
        (collectBatch context component lane (policyState clock context component engine)).1 ∧
      (engine'.state component.id).pending =
        (collectBatch context component lane
          (policyState clock context component engine)).2.pending := by
  have hfronts : FrontsDefined component := by
    intro hconsuming
    simp [frontConsuming, htype] at hconsuming
  obtain ⟨record, engine', hcollect, -⟩ :=
    collectReadyInvocations_spec clock context lane hdriven hfronts engine
  refine ⟨record, engine', hcollect, ?_⟩
  obtain ⟨drained, r, hdrain, hpolicy, -, hinvocations, -, hstate⟩ :=
    collectReadyInvocations_driven hdriven hcollect
  have hasked : beforePolicy context component drained.2.2 drained.2.1
      (engine.state component.id) = policyState clock context component engine := by
    rw [policyState, hdrain]
  have hdispatch : collectByPolicy context component lane
      (policyState clock context component engine) =
        .ok (collectBatch context component lane (policyState clock context component engine)) := by
    simp [collectByPolicy, htype]
  rw [hasked, collectUnlessRateLimited, if_neg (by simp [hdue]), hdispatch] at hpolicy
  cases hpolicy
  obtain ⟨hsame, -, -, hpending⟩ := recordInvocation_frame context
    (collectBatch context component lane (policyState clock context component engine))
  exact ⟨hinvocations.trans hsame, by rw [hstate, hpending]⟩

/-- In every state of the engine, a collection of a batch component that asks its policy
flushes what it should iff the age is not hidden in the state in which it asks. -/
theorem batch_readiness_iff (clock : Nat → Int)
    (hdriven : TriggerPolicyEngine.messageDriven component = true)
    (htype : component.triggerPolicy.type = "batch")
    (hnd : (triggerPolicyInputsFor component).Nodup) (engine : TriggerPolicyEngine)
    (context : TickContext) (lane : SchedulerGroupConfig) :
    (BatchReadiness context component lane (policyState clock context component engine) ↔
        ¬ HiddenAge context component (policyState clock context component engine).pending) ∧
      (rateLimited component.triggerPolicy
          (policyState clock context component engine).lastInvoked context.startedAt = false →
        ∃ record engine', engine.collectReadyInvocations clock context component lane =
            .ok (record, engine') ∧
          record.invocations = (collectBatch context component lane
            (policyState clock context component engine)).1 ∧
          (engine'.state component.id).pending = (collectBatch context component lane
            (policyState clock context component engine)).2.pending) :=
  ⟨batchReadiness_iff hnd _,
    TriggerPolicyEngine.collectReadyInvocations_batch hdriven htype⟩

end

/-- A batch component with a window of two milliseconds. -/
def batchComponent : ComponentNodeSpec :=
  { id := "batch", type := "Batch", execution := { lane := "main" }
    eventSources := [{ type := "message", inputs := ["left"] }]
    triggerPolicy := { type := "batch", batchWindowMs := 2 } }

/-- Two edges into its input. -/
def batchGraph : GraphSpec where
  schemaVersion := 1
  name := "batch"
  lanes := [{ id := "main", type := "event_loop" }]
  components :=
    [{ id := "source", type := "Source", execution := { lane := "main" }
       eventSources := [{}] },
     batchComponent]
  edges :=
    [{ id := "a", fromEndpoint := "source.a", toEndpoint := "batch.left", hasKind := true },
     { id := "b", fromEndpoint := "source.b", toEndpoint := "batch.left", hasKind := true }]

def batchRegistry : ComponentRegistry where
  contains := fun _ => true
  describe := fun _ type =>
    .ok { type := type
          inputs := [{ name := "left", multiplicity := .multiple }]
          outputs := [{ name := "a" }, { name := "b" }] }

/-- A message on the second edge, then one on the first. -/
def batchRound : List TriggerOp :=
  [.bus (.publishSharedFrom "source.b" (some {}) {} none),
   .bus (.publishSharedFrom "source.a" (some {}) {} none)]

/-- A clock that moves by a millisecond whenever it is read. -/
def tickingClock (n : Nat) : Int := n * nanosecondsPerMillisecond

/-- After six milliseconds the window is over for both messages. -/
theorem batchRound_ready :
    ∃ records engine, runTriggers tickingClock batchRound { bus := .ofEdges batchGraph.edges } =
        .ok (records, engine) ∧
      BatchReadiness { startedAt := 6000000 } batchComponent { id := "main" }
        (policyState tickingClock { startedAt := 6000000 } batchComponent engine) := by
  have hrun : runTriggers tickingClock batchRound { bus := .ofEdges batchGraph.edges } =
    .ok (_, _) := rfl
  have hdriven : TriggerPolicyEngine.messageDriven batchComponent = true := rfl
  refine ⟨_, _, hrun, ?_⟩
  exact (batch_readiness_iff tickingClock hdriven rfl (by decide) _ { startedAt := 6000000 }
    { id := "main" }).1.mpr (by decide)

/-- After four milliseconds the window is over for the older message, which stands behind
the younger one. -/
theorem batchRound_not_ready :
    (∃ result, validateGraph 3 (fun _ => none) batchRegistry batchGraph = some result ∧
      result.ok = true) ∧
    ∃ records engine, runTriggers tickingClock batchRound { bus := .ofEdges batchGraph.edges } =
        .ok (records, engine) ∧
      ¬ BatchReadiness { startedAt := 4000000 } batchComponent { id := "main" }
        (policyState tickingClock { startedAt := 4000000 } batchComponent engine) := by
  refine ⟨⟨_, rfl, by decide⟩, _, _, rfl, ?_⟩
  rw [batchReadiness_iff (by decide)]
  decide

end TopoExec
