import TopoExec.Trigger.Flow
import TopoExec.Graph.Validated

/-! # Runs of the trigger engine

`CollectStep` says everything one message-driven collection does: it returns, it is
a flow from the old queues and the messages just drained, its counters account for
what is missing, every queue ends within its bound, and nothing else changes. Two
results about whole runs follow, with any use of the bus and any other collections
in between:

* `trigger_run_defined`: no run pops from an empty queue, if every collection takes
  the first messages of pairwise distinct inputs or does not take them that way;
* `trigger_queues_accounted`: bounds, balance and order for a component with
  distinct inputs.
-/

namespace TopoExec

open Queues

/-! ## Draining -/

/-- The bus before and after, and the messages of each input behind those that
were waiting. -/
structure DrainStep (componentId : String) (before after : PendingMessages)
    (bus bus' : RuntimeChannelBus) (drained : List PortMessage) : Prop where
  queue : ∀ port, after.queue port = before.queue port ++ carriedOn port drained
  size : after.size = before.size + drained.length
  evolves : Evolves anyStep bus bus'
  wired : ∀ port, bus.channelIdsForComponentPort componentId port = [] →
    carriedOn port drained = []

/-- The index of channels is part of what an operation leaves alone. -/
theorem Evolves.channelIdsForComponentPort {allowed : StepKind → Prop}
    {bus bus' : RuntimeChannelBus} (h : Evolves allowed bus bus') (componentId port : String) :
    bus'.channelIdsForComponentPort componentId port =
      bus.channelIdsForComponentPort componentId port := by
  unfold RuntimeChannelBus.channelIdsForComponentPort
  rw [h.components, h.config]

/-- The bound is a matter of the configs, which stay. -/
theorem Evolves.pendingLimit {allowed : StepKind → Prop} {bus bus' : RuntimeChannelBus}
    (h : Evolves allowed bus bus') (component : ComponentNodeSpec) (port : String) :
    pendingLimit bus' component port = pendingLimit bus component port := by
  unfold TopoExec.pendingLimit RuntimeChannelBus.configuredCapacityForComponentPort
  rw [h.channelIdsForComponentPort, h.config]

/-- What is drained joins the queues of its ports, at the end. -/
theorem drainInputs_step (clock : Nat → Int) (componentId : String) (inputs : List String)
    (pending : PendingMessages) (bus : RuntimeChannelBus) :
    DrainStep componentId pending (drainInputs clock componentId inputs pending bus).2.1 bus
      (drainInputs clock componentId inputs pending bus).2.2
      (drainInputs clock componentId inputs pending bus).1 := by
  induction inputs generalizing pending bus with
  | nil => exact ⟨fun port => by simp [drainInputs], rfl, .refl bus, fun port _ => rfl⟩
  | cons input inputs ih =>
      unfold drainInputs
      dsimp only
      generalize hdrained : bus.drainForComponentPort clock componentId input 0 = drained
      have hbus : Evolves anyStep bus drained.2 := by
        rw [← hdrained]
        exact RuntimeChannelBus.drainChannels_evolves clock (fun _ => trivial)
          (fun _ => trivial) _ _ _ _ bus
      -- the messages of the first input are appended to its queue, and then the others
      have htail := ih (pending.set input (pending.queue input ++ drained.1)) drained.2
      constructor
      · intro port
        rw [htail.queue, carriedOn_append, ← List.append_assoc]
        congr 1
        by_cases hport : port = input
        · rw [hport, Bank.queue_set, carriedOn_map_self]
        · rw [Bank.queue_set_of_ne _ hport, carriedOn_map_of_ne hport, List.append_nil]
      · have hsize := pending.size_set input (pending.queue input ++ drained.1)
        rw [htail.size, List.length_append, List.length_map]
        rw [List.length_append] at hsize
        omega
      · exact hbus.trans htail.evolves
      · intro port hport
        rw [carriedOn_append, htail.wired port (by rw [hbus.channelIdsForComponentPort, hport]),
          List.append_nil]
        by_cases hsame : port = input
        · -- an input without channels drains nothing
          subst hsame
          have hnothing : drained.1 = [] := by
            rw [← hdrained, RuntimeChannelBus.drainForComponentPort, hport]
            rfl
          rw [hnothing]
          rfl
        · exact carriedOn_map_of_ne hsame _

/-! ## One collection -/

/-- What a message-driven collection of `component` does. -/
structure CollectStep (component : ComponentNodeSpec) (engine : TriggerPolicyEngine)
    (record : CollectRecord) (engine' : TriggerPolicyEngine) : Prop where
  id : record.componentId = component.id
  order : ∀ port, (carriedOn port (carriedBy record.invocations) ++
      (engine'.state component.id).pending.queue port).Sublist
    ((engine.state component.id).pending.queue port ++ carriedOn port record.drained)
  balance : (engine'.state component.id).pending.size + (carriedBy record.invocations).length +
      record.stats.drops =
    (engine.state component.id).pending.size + record.drained.length
  faithful : ∀ invocation ∈ record.invocations, Faithful invocation
  bounded : ∀ port, ((engine'.state component.id).pending.queue port).length ≤
    pendingLimit engine.bus component port
  wired : ∀ port, engine.bus.channelIdsForComponentPort component.id port = [] →
    carriedOn port record.drained = []

namespace TriggerPolicyEngine

variable {clock : Nat → Int} {context : TickContext} {component : ComponentNodeSpec}
  {lane : SchedulerGroupConfig}

/-- The passes before the policy, as one flow. -/
theorem beforePolicy_flow (bus : RuntimeChannelBus) (pending : PendingMessages)
    (s : TriggerState) :
    Flow pending (beforePolicy context component bus pending s).pending []
      (beforePolicy context component bus pending s).stats.drops := by
  have hprune := pruneTimedOutMessages_flow pending component.triggerPolicy context.startedAt
  have henforce := enforcePendingBounds_flow bus component
    (pruneTimedOutMessages component.triggerPolicy context.startedAt pending).1
  simpa [beforePolicy, TriggerRuntimeMetrics.drops] using hprune.trans henforce

/-- A rate-limited collection collects nothing and drops nothing. -/
theorem collectUnlessRateLimited_collects (context : TickContext) (lane : SchedulerGroupConfig)
    {s : TriggerState} (hfronts : FrontsDefined component)
    (hone : (component.triggerPolicy.type = "debounce" || component.triggerPolicy.coalesce) →
      ∀ port, (s.pending.queue port).length ≤ 1) :
    Collects s (collectUnlessRateLimited context component lane s) := by
  unfold collectUnlessRateLimited
  split_ifs
  · exact ⟨[], _, 0, rfl, .nothing (.refl s.pending), rfl⟩
  · exact (collectByPolicy_spec hfronts hone).map _ recordInvocation_keeps

/-- A message-driven collection returns and is a `CollectStep`. -/
theorem collectReadyInvocations_spec (clock : Nat → Int) (context : TickContext)
    (lane : SchedulerGroupConfig) (hdriven : messageDriven component = true)
    (hfronts : FrontsDefined component) (engine : TriggerPolicyEngine) :
    ∃ record engine', engine.collectReadyInvocations clock context component lane =
      .ok (record, engine') ∧ CollectStep component engine record engine' := by
  simp only [messageDriven, Bool.and_eq_true, Bool.not_eq_true'] at hdriven
  unfold collectReadyInvocations
  rw [if_neg (by simp [hdriven.1]), if_neg (by simp [hdriven.2])]
  dsimp only
  generalize hdrain : drainInputs clock component.id (triggerPolicyInputsFor component)
    (engine.state component.id).pending engine.bus = drained
  have hdrained : DrainStep component.id (engine.state component.id).pending drained.2.1 engine.bus
      drained.2.2 drained.1 := hdrain ▸ drainInputs_step clock component.id _ _ _
  generalize hbefore : beforePolicy context component drained.2.2 drained.2.1
    (engine.state component.id) = s
  -- drained, bounded, and then handed to the policy: three flows, one after the other
  have hflow : Flow drained.2.1 s.pending [] s.stats.drops := hbefore ▸ beforePolicy_flow ..
  have hlimit : ∀ port, (s.pending.queue port).length ≤ pendingLimit engine.bus component port := by
    intro port
    rw [← hbefore, ← hdrained.evolves.pendingLimit]
    exact enforcePendingBounds_bounded drained.2.2 port
  rcases collectUnlessRateLimited_collects context lane (s := s) hfronts
    (fun hcoalesce port => by simpa [pendingLimit, hcoalesce] using hlimit port) with
    ⟨invocations, s', dropped, hresult, hcollected, hdrops⟩
  rw [hresult]
  refine ⟨_, _, rfl, rfl, ?_, ?_, hcollected.faithful, ?_, hdrained.wired⟩
  · intro port
    have := (hflow.trans hcollected.flow).order port
    rw [hdrained.queue] at this
    simpa using this
  · have hbalance := (hflow.trans hcollected.flow).balance
    have hsize := hdrained.size
    simp only [Function.update_self]
    rw [List.nil_append] at hbalance
    omega
  · intro port
    simp only [Function.update_self]
    exact (hcollected.flow.length_le port).trans (hlimit port)

/-- The rest of the engine and the shape of the bus do not change. -/
theorem collectReadyInvocations_frame {engine engine' : TriggerPolicyEngine}
    {record : CollectRecord}
    (h : engine.collectReadyInvocations clock context component lane = .ok (record, engine')) :
    record.componentId = component.id ∧ Evolves anyStep engine.bus engine'.bus ∧
      ∀ other, other ≠ component.id → engine'.state other = engine.state other := by
  unfold collectReadyInvocations at h
  split_ifs at h
  · cases h
    exact ⟨rfl, .refl _, fun _ _ => rfl⟩
  · cases h
    exact ⟨rfl, .refl _, fun _ _ => rfl⟩
  · dsimp only at h
    cases hcollect : collectUnlessRateLimited context component lane
        (beforePolicy context component
          (drainInputs clock component.id (triggerPolicyInputsFor component)
            (engine.state component.id).pending engine.bus).2.2
          (drainInputs clock component.id (triggerPolicyInputsFor component)
            (engine.state component.id).pending engine.bus).2.1 (engine.state component.id)) with
    | error fault =>
        rw [hcollect] at h
        cases h
    | ok result =>
        rw [hcollect] at h
        cases h
        refine ⟨rfl, (drainInputs_step clock component.id _ _ _).evolves, fun other hother => ?_⟩
        exact Function.update_of_ne hother ..

/-- A collection that needs no messages always returns, with one empty invocation. -/
theorem collectReadyInvocations_of_not_driven (clock : Nat → Int) (context : TickContext)
    (lane : SchedulerGroupConfig) (hdriven : messageDriven component = false)
    (engine : TriggerPolicyEngine) :
    ∃ record engine', engine.collectReadyInvocations clock context component lane =
        .ok (record, engine') ∧
      ∀ invocation ∈ record.invocations, Faithful invocation := by
  unfold collectReadyInvocations
  split_ifs with htimer hmessage
  · exact ⟨_, _, rfl, by
      simpa [timerInvocationFor] using eventInvocationFor_faithful .timer⟩
  · exact ⟨_, _, rfl, by simpa using eventInvocationFor_faithful .manual⟩
  · simp [messageDriven, htimer] at hdriven
    simp [hdriven] at hmessage

end TriggerPolicyEngine

/-! ## No run pops from an empty queue -/

/-- An operation that meets the condition runs through. -/
theorem TriggerOp.exec_defined (clock : Nat → Int) (engine : TriggerPolicyEngine) (op : TriggerOp)
    (h : ∀ context component lane, op = .collect context component lane →
      TriggerPolicyEngine.messageDriven component = true → FrontsDefined component) :
    ∃ result, op.exec clock engine = .ok result := by
  cases op with
  | bus op => exact ⟨_, rfl⟩
  | takeLastStats componentId => exact ⟨_, rfl⟩
  | collect context component lane =>
      cases hdriven : TriggerPolicyEngine.messageDriven component with
      | false =>
          rcases TriggerPolicyEngine.collectReadyInvocations_of_not_driven clock context lane
            hdriven engine with ⟨record, engine', hresult, -⟩
          exact ⟨(some record, engine'), by simp [TriggerOp.exec, hresult, Except.map]⟩
      | true =>
          rcases TriggerPolicyEngine.collectReadyInvocations_spec clock context lane hdriven
            (h context component lane rfl hdriven) engine with ⟨record, engine', hresult, -⟩
          exact ⟨(some record, engine'), by simp [TriggerOp.exec, hresult, Except.map]⟩

/-- A run goes through to its end, without a pop from an empty queue and without a
loop that does not stop, if each message-driven collection that takes the first
messages of its inputs has pairwise distinct inputs. -/
theorem trigger_run_defined (clock : Nat → Int) {ops : List TriggerOp}
    (hops : ∀ context component lane, .collect context component lane ∈ ops →
      TriggerPolicyEngine.messageDriven component = true → FrontsDefined component)
    (engine : TriggerPolicyEngine) :
    ∃ records engine', runTriggers clock ops engine = .ok (records, engine') := by
  induction ops generalizing engine with
  | nil => exact ⟨[], engine, rfl⟩
  | cons op ops ih =>
      rcases TriggerOp.exec_defined clock engine op (by
        rintro context component lane rfl
        exact hops context component lane (List.mem_cons_self ..)) with
        ⟨⟨record, engine₁⟩, hop⟩
      rcases ih (fun context component lane hmem =>
        hops context component lane (List.mem_cons_of_mem _ hmem)) engine₁ with
        ⟨records, engine', hrun⟩
      refine ⟨record.toList ++ records, engine', ?_⟩
      simp [runTriggers, hop, hrun, Except.map]

/-- Two edges from a source into a component that waits for all of `inputs`. -/
def joinGraph (inputs : List String) : GraphSpec where
  schemaVersion := 1
  name := "join"
  lanes := [{ id := "main", type := "event_loop" }]
  components :=
    [{ id := "source", type := "Source", execution := { lane := "main" }
       eventSources := [{}] },
     { id := "join", type := "Join", execution := { lane := "main" }
       eventSources := [{ type := "message", inputs := inputs }]
       triggerPolicy := { type := "all_inputs" } }]
  edges :=
    [{ id := "a", fromEndpoint := "source.a", toEndpoint := "join.left", hasKind := true },
     { id := "b", fromEndpoint := "source.b", toEndpoint := "join.right", hasKind := true }]

/-- A registry in which every type is registered and describes the ports of
`joinGraph`. -/
def joinRegistry : ComponentRegistry where
  contains := fun _ => true
  describe := fun _ type =>
    .ok { type := type
          inputs := [{ name := "left" }, { name := "right" }]
          outputs := [{ name := "a" }, { name := "b" }] }

/-- One message for the left input, then a collection of `join`. -/
def joinOps (inputs : List String) : List TriggerOp :=
  [.bus (.publishSharedFrom "source.a" (some {}) {} none)] ++
    ((joinGraph inputs).components.drop 1).map fun component =>
      .collect {} component { id := "main" }

theorem distinctInputs_defined :
    (∃ result, validateGraph 3 (fun _ => none) joinRegistry (joinGraph ["left", "right"]) =
      some result ∧ result.ok = true) ∧
    ∃ records engine, runTriggers (fun n => n) (joinOps ["left", "right"])
      { bus := .ofEdges (joinGraph ["left", "right"]).edges } = .ok (records, engine) := by
  refine ⟨⟨_, rfl, by decide⟩, trigger_run_defined (fun n => n) ?_ _⟩
  intro context component lane hmem _ _
  simp only [joinOps, joinGraph, List.mem_append, List.mem_singleton, List.drop_succ_cons,
    List.drop_zero, List.map_cons, List.map_nil, TriggerOp.collect.injEq, reduceCtorEq,
    false_or] at hmem
  rw [hmem.2.1]
  decide

/-- `join` waits twice for the same input. The graph is accepted, and with one
message waiting the second `pop_front` finds an empty queue. -/
theorem repeatedInput_pops_empty :
    (∃ result, validateGraph 3 (fun _ => none) joinRegistry (joinGraph ["left", "left"]) =
      some result ∧ result.ok = true) ∧
    runTriggers (fun n => n) (joinOps ["left", "left"])
      { bus := .ofEdges (joinGraph ["left", "left"]).edges } = .error .emptyPop :=
  ⟨⟨_, rfl, by decide⟩, rfl⟩

/-! ## Bounds, balance and order -/

/-- What a pending queue may hold: as much as its channels or as one batch, and one
message more; a single message where only the newest counts. -/
def pendingBound (bus : RuntimeChannelBus) (component : ComponentNodeSpec) (port : String) : Nat :=
  if component.triggerPolicy.type = "debounce" || component.triggerPolicy.coalesce then 1
  else
    max (bus.configuredCapacityForComponentPort component.id port)
      component.triggerPolicy.batchSize.toNat + 1

/-- The engine enforces that bound wherever there is a channel. -/
theorem pendingLimit_le {bus : RuntimeChannelBus} {component : ComponentNodeSpec} {port : String}
    (hwired : bus.channelIdsForComponentPort component.id port ≠ []) :
    pendingLimit bus component port ≤ pendingBound bus component port := by
  have hcapacity : 1 ≤ bus.configuredCapacityForComponentPort component.id port := by
    unfold RuntimeChannelBus.configuredCapacityForComponentPort
    cases hids : bus.channelIdsForComponentPort component.id port with
    | nil => exact absurd hids hwired
    | cons id ids =>
        rw [List.map_cons, List.sum_cons]
        omega
  unfold pendingLimit pendingBound kTriggerPendingCapacityCushion
  dsimp only
  split_ifs <;> omega

/-- The books of one component over its collections so far. -/
structure TriggerAccounts (bus₀ : RuntimeChannelBus) (component : ComponentNodeSpec)
    (past : List CollectRecord) (engine : TriggerPolicyEngine) : Prop where
  evolves : Evolves anyStep bus₀ engine.bus
  bounded : ∀ port, ((engine.state component.id).pending.queue port).length ≤
    pendingBound bus₀ component port
  unwired : ∀ port, bus₀.channelIdsForComponentPort component.id port = [] →
    (engine.state component.id).pending.queue port = []
  balance : (engine.state component.id).pending.size +
      (carriedBy (past.flatMap CollectRecord.invocations)).length +
      (past.map fun record => record.stats.drops).sum =
    (past.flatMap CollectRecord.drained).length
  order : ∀ port, (carriedOn port (carriedBy (past.flatMap CollectRecord.invocations)) ++
      (engine.state component.id).pending.queue port).Sublist
    (carriedOn port (past.flatMap CollectRecord.drained))
  faithful : ∀ invocation ∈ past.flatMap CollectRecord.invocations, Faithful invocation

namespace TriggerAccounts

variable {bus₀ : RuntimeChannelBus} {component : ComponentNodeSpec} {past : List CollectRecord}
  {engine engine' : TriggerPolicyEngine}

/-- A new engine has drained nothing. -/
theorem init (bus : RuntimeChannelBus) (component : ComponentNodeSpec) :
    TriggerAccounts bus component [] { bus := bus } :=
  ⟨.refl bus, fun _ => Nat.zero_le _, fun _ _ => rfl, rfl, fun _ => List.Sublist.refl _, by simp⟩

/-- Whatever leaves the pending messages of the component alone. -/
theorem frame (h : TriggerAccounts bus₀ component past engine)
    (hbus : Evolves anyStep engine.bus engine'.bus)
    (hpending : (engine'.state component.id).pending = (engine.state component.id).pending) :
    TriggerAccounts bus₀ component past engine' := by
  constructor
  · exact h.evolves.trans hbus
  · rw [hpending]
    exact h.bounded
  · rw [hpending]
    exact h.unwired
  · rw [hpending]
    exact h.balance
  · rw [hpending]
    exact h.order
  · exact h.faithful

/-- A collection of the component itself. -/
theorem collect {record : CollectRecord} (h : TriggerAccounts bus₀ component past engine)
    (hstep : CollectStep component engine record engine')
    (hbus : Evolves anyStep engine.bus engine'.bus) :
    TriggerAccounts bus₀ component (past ++ [record]) engine' := by
  have hunwired : ∀ port, bus₀.channelIdsForComponentPort component.id port = [] →
      (engine'.state component.id).pending.queue port = [] := by
    intro port hport
    have hsub := hstep.order port
    rw [h.unwired port hport,
      hstep.wired port (by rw [h.evolves.channelIdsForComponentPort, hport])] at hsub
    exact (List.append_eq_nil_iff.mp (List.sublist_nil.mp hsub)).2
  constructor
  · exact h.evolves.trans hbus
  · intro port
    by_cases hport : bus₀.channelIdsForComponentPort component.id port = []
    · rw [hunwired port hport]
      exact Nat.zero_le _
    · refine (hstep.bounded port).trans ?_
      rw [h.evolves.pendingLimit]
      exact pendingLimit_le hport
  · exact hunwired
  · have hold := h.balance
    have hnew := hstep.balance
    simp only [carriedBy, List.flatMap_append, List.flatMap_singleton, List.map_append,
      List.map_singleton, List.sum_append, List.sum_singleton, List.length_append] at hold hnew ⊢
    omega
  · intro port
    -- the old books, with what was drained now behind what was waiting
    have hold := (h.order port).append_right (carriedOn port record.drained)
    have hnew := (hstep.order port).append_left
      (carriedOn port (carriedBy (past.flatMap CollectRecord.invocations)))
    simp only [carriedBy, List.flatMap_append, List.flatMap_singleton, carriedOn_append,
      List.append_assoc] at hold hnew ⊢
    exact hnew.trans hold
  · intro invocation hmem
    rw [List.flatMap_append, List.flatMap_singleton] at hmem
    rcases List.mem_append.mp hmem with hpast | hnow
    · exact h.faithful invocation hpast
    · exact hstep.faithful invocation hnow

/-- The payloads of the invocations are as many as the messages they carry. -/
theorem batchPayloads_length (h : TriggerAccounts bus₀ component past engine) :
    ((past.flatMap CollectRecord.invocations).flatMap Invocation.batchPayloads).length =
      (carriedBy (past.flatMap CollectRecord.invocations)).length := by
  rw [carriedBy, List.length_flatMap, List.length_flatMap]
  congr 1
  refine List.map_congr_left fun invocation hmem => ?_
  rw [(h.faithful invocation hmem).batchPayloads, List.length_map]

end TriggerAccounts

/-- The collections of one component. -/
def ownRecords (component : ComponentNodeSpec) (records : List CollectRecord) :
    List CollectRecord :=
  records.filter fun record => record.componentId = component.id

/-- A collection of the component is one entry of the record. -/
theorem TriggerOp.exec_collect {clock : Nat → Int} {engine engine' : TriggerPolicyEngine}
    {context : TickContext} {other : ComponentNodeSpec} {lane : SchedulerGroupConfig}
    {record : Option CollectRecord}
    (h : (TriggerOp.collect context other lane).exec clock engine = .ok (record, engine')) :
    ∃ result, record = some result ∧
      engine.collectReadyInvocations clock context other lane = .ok (result, engine') := by
  simp only [TriggerOp.exec] at h
  cases hcollect : engine.collectReadyInvocations clock context other lane with
  | error fault =>
      rw [hcollect] at h
      cases h
  | ok result =>
      rw [hcollect] at h
      cases h
      exact ⟨result.1, rfl, rfl⟩

/-- The operation is no collection of the component. Of its state, it can change the
statistics. -/
structure Elsewhere (component : ComponentNodeSpec) (op : TriggerOp)
    (record : Option CollectRecord) (engine engine' : TriggerPolicyEngine) : Prop where
  foreign : ∀ context other lane, op = .collect context other lane → other.id ≠ component.id
  record : ∀ result ∈ record, result.componentId ≠ component.id
  bus : Evolves anyStep engine.bus engine'.bus
  state : ∃ stats, engine'.state component.id = { engine.state component.id with stats }

/-- An operation of a run, seen from one component. -/
theorem TriggerOp.exec_cases {clock : Nat → Int} {component : ComponentNodeSpec} {op : TriggerOp}
    (hown : ∀ context other lane, op = .collect context other lane →
      other.id = component.id → other = component)
    {engine engine' : TriggerPolicyEngine} {record : Option CollectRecord}
    (hop : op.exec clock engine = .ok (record, engine')) :
    (∃ context lane result, op = .collect context component lane ∧ record = some result ∧
        engine.collectReadyInvocations clock context component lane = .ok (result, engine')) ∨
      Elsewhere component op record engine engine' := by
  cases op with
  | bus op =>
      cases hop
      have hbus : Evolves anyStep engine.bus (op.exec clock engine.bus).2 :=
        (exec_evolves clock engine.bus op).mono fun _ _ => trivial
      exact Or.inr ⟨by simp, by simp, hbus, _, rfl⟩
  | takeLastStats componentId =>
      cases hop
      refine Or.inr ⟨by simp, by simp, .refl engine.bus, ?_⟩
      by_cases hid : component.id = componentId
      · exact ⟨{}, by simp [TriggerPolicyEngine.takeLastStats, hid]⟩
      · exact ⟨(engine.state component.id).stats,
          by simp [TriggerPolicyEngine.takeLastStats, Function.update_of_ne hid]⟩
  | collect context other lane =>
      obtain ⟨result, rfl, hcollect⟩ := TriggerOp.exec_collect hop
      -- a collection for another component leaves the queues of this one
      by_cases hsame : other.id = component.id
      · obtain rfl := hown context other lane rfl hsame
        exact Or.inl ⟨context, lane, result, rfl, rfl, hcollect⟩
      · obtain ⟨hid, hbus, hothers⟩ :=
          TriggerPolicyEngine.collectReadyInvocations_frame hcollect
        refine Or.inr ⟨?_, ?_, hbus, _, hothers component.id (Ne.symm hsame)⟩
        · rintro _ _ _ ⟨⟩
          exact hsame
        · rintro _ ⟨⟩
          rw [hid]
          exact hsame

/-- A run is its first operation and then the rest. -/
theorem runTriggers_cons {clock : Nat → Int} {op : TriggerOp} {ops : List TriggerOp}
    {engine engine' : TriggerPolicyEngine} {records : List CollectRecord}
    (h : runTriggers clock (op :: ops) engine = .ok (records, engine')) :
    ∃ record middle rest, op.exec clock engine = .ok (record, middle) ∧
      runTriggers clock ops middle = .ok (rest, engine') ∧ records = record.toList ++ rest := by
  unfold runTriggers at h
  cases hop : op.exec clock engine with
  | error fault =>
      rw [hop] at h
      cases h
  | ok result =>
      rw [hop] at h
      dsimp only at h
      cases hrest : runTriggers clock ops result.2 with
      | error fault =>
          rw [hrest] at h
          cases h
      | ok final =>
          rw [hrest] at h
          cases h
          exact ⟨result.1, result.2, final.1, rfl, hrest, rfl⟩

/-- Every operation of a run keeps the books. -/
theorem TriggerOp.exec_accounts {clock : Nat → Int} {bus₀ : RuntimeChannelBus}
    {component : ComponentNodeSpec}
    (hdriven : TriggerPolicyEngine.messageDriven component = true)
    (hnd : (triggerPolicyInputsFor component).Nodup) {past : List CollectRecord}
    {engine engine' : TriggerPolicyEngine} {op : TriggerOp} {record : Option CollectRecord}
    (hown : ∀ context other lane, op = .collect context other lane →
      other.id = component.id → other = component)
    (hop : op.exec clock engine = .ok (record, engine'))
    (h : TriggerAccounts bus₀ component past engine) :
    TriggerAccounts bus₀ component (past ++ ownRecords component record.toList) engine' := by
  rcases TriggerOp.exec_cases hown hop with ⟨context, lane, result, rfl, rfl, hcollect⟩ | helsewhere
  · obtain ⟨-, hbus, -⟩ := TriggerPolicyEngine.collectReadyInvocations_frame hcollect
    obtain ⟨record, engine', hresult, hstep⟩ :=
      TriggerPolicyEngine.collectReadyInvocations_spec clock context lane hdriven (fun _ => hnd)
        engine
    rw [hcollect] at hresult
    cases hresult
    simpa [ownRecords, hstep.id] using h.collect hstep hbus
  · obtain ⟨stats, hstate⟩ := helsewhere.state
    have hnone : ownRecords component record.toList = [] := by
      refine List.filter_eq_nil_iff.mpr ?_
      intro result hresult
      simpa using helsewhere.record result (Option.mem_toList.mp hresult)
    rw [hnone, List.append_nil]
    exact h.frame helsewhere.bus (by rw [hstate])

/-- Bounds, balance and order of the pending queues of a message-driven component
with pairwise distinct inputs, in every run in which its id belongs to it alone. What its
invocations hand over are the messages that the order speaks of. The next collection of the
component returns as well. -/
theorem trigger_queues_accounted (clock : Nat → Int) (edges : List EdgeSpec)
    {component : ComponentNodeSpec}
    (hdriven : TriggerPolicyEngine.messageDriven component = true)
    (hnd : (triggerPolicyInputsFor component).Nodup) {ops : List TriggerOp}
    (hown : ∀ context other lane, .collect context other lane ∈ ops →
      other.id = component.id → other = component)
    {records : List CollectRecord} {engine : TriggerPolicyEngine}
    (hrun : runTriggers clock ops { bus := .ofEdges edges } = .ok (records, engine)) :
    let own := ownRecords component records
    let pending := (engine.state component.id).pending
    (∀ port, (pending.queue port).length ≤ pendingBound (.ofEdges edges) component port) ∧
      (own.flatMap CollectRecord.drained).length =
        ((own.flatMap CollectRecord.invocations).flatMap Invocation.batchPayloads).length +
          pending.size + (own.map fun record => record.stats.drops).sum ∧
      (∀ port, (carriedOn port (carriedBy (own.flatMap CollectRecord.invocations)) ++
          pending.queue port).Sublist (carriedOn port (own.flatMap CollectRecord.drained))) ∧
      (∀ invocation ∈ own.flatMap CollectRecord.invocations, Faithful invocation) ∧
      ∀ context lane, ∃ result,
        engine.collectReadyInvocations clock context component lane = .ok result := by
  have hall : ∀ ops past engine₀ records engine,
      (∀ context other lane, TriggerOp.collect context other lane ∈ ops →
        other.id = component.id → other = component) →
      TriggerAccounts (.ofEdges edges) component past engine₀ →
      runTriggers clock ops engine₀ = .ok (records, engine) →
      TriggerAccounts (.ofEdges edges) component (past ++ ownRecords component records) engine := by
    intro ops
    induction ops with
    | nil =>
        intro past engine₀ records engine _ h hrun
        cases hrun
        simpa [ownRecords] using h
    | cons op ops ih =>
        intro past engine₀ records engine hown h hrun
        obtain ⟨record, middle, rest, hop, hrest, rfl⟩ := runTriggers_cons hrun
        have hstep := TriggerOp.exec_accounts hdriven hnd (fun context other lane heq =>
          hown context other lane (heq ▸ List.mem_cons_self ..)) hop h
        have hlater := ih _ _ rest engine (fun context other lane hmem =>
          hown context other lane (List.mem_cons_of_mem _ hmem)) hstep hrest
        simpa [ownRecords, List.filter_append] using hlater
  have h := hall ops [] _ records engine hown (.init _ component) hrun
  rw [List.nil_append] at h
  refine ⟨h.bounded, ?_, h.order, h.faithful, ?_⟩
  · have hbalance := h.balance
    rw [h.batchPayloads_length]
    omega
  · intro context lane
    rcases TriggerPolicyEngine.collectReadyInvocations_spec clock context lane hdriven
      (fun _ => hnd) engine with ⟨record, engine', hresult, -⟩
    exact ⟨(record, engine'), hresult⟩

/-- `join` with distinct inputs. -/
def joinComponent : ComponentNodeSpec :=
  { id := "join", type := "Join", execution := { lane := "main" }
    eventSources := [{ type := "message", inputs := ["left", "right"] }]
    triggerPolicy := { type := "all_inputs" } }

/-- A message for each input of `join` and a second one for the left, then a
collection. -/
def joinRound : List TriggerOp :=
  [.bus (.publishSharedFrom "source.a" (some {}) {} none),
   .bus (.publishSharedFrom "source.b" (some {}) {} none),
   .collect {} joinComponent { id := "main" },
   .bus (.publishSharedFrom "source.a" (some {}) {} none),
   .collect {} joinComponent { id := "main" }]

/-- Three messages are drained: two leave in one invocation and the third waits. -/
theorem joinRound_accounted :
    ∃ records engine, runTriggers (fun n => n) joinRound
        { bus := .ofEdges (joinGraph ["left", "right"]).edges } = .ok (records, engine) ∧
      ((ownRecords joinComponent records).flatMap CollectRecord.drained).length = 3 ∧
      (engine.state "join").pending.size = 1 ∧
      ((ownRecords joinComponent records).flatMap CollectRecord.drained).length =
        (((ownRecords joinComponent records).flatMap CollectRecord.invocations).flatMap
            Invocation.batchPayloads).length +
          (engine.state "join").pending.size +
          ((ownRecords joinComponent records).map fun record => record.stats.drops).sum ∧
      ∀ invocation ∈ (ownRecords joinComponent records).flatMap CollectRecord.invocations,
        Faithful invocation := by
  refine ⟨_, _, rfl, by decide, by decide, ?_⟩
  have hown : ∀ context other lane, TriggerOp.collect context other lane ∈ joinRound →
      other.id = joinComponent.id → other = joinComponent := by
    intro context other lane hmem _
    simp only [joinRound, List.mem_cons, List.not_mem_nil, or_false, reduceCtorEq, false_or,
      TriggerOp.collect.injEq] at hmem
    rcases hmem with ⟨-, rfl, -⟩ | ⟨-, rfl, -⟩ <;> rfl
  obtain ⟨-, hbalance, -, hfaithful, -⟩ := trigger_queues_accounted (fun n => n)
    (joinGraph ["left", "right"]).edges (by decide) (by decide) hown rfl
  exact ⟨hbalance, hfaithful⟩

end TopoExec
