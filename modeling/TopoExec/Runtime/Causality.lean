import TopoExec.Trigger.Inheritance
import TopoExec.Runtime.EdgeVisibility
import TopoExec.Runtime.Provenance

/-! # Causal metadata

An invocation passes its correlation and its transaction on to whatever its publish
calls lead to. The trigger engine hands a message to a component, the component
publishes, the router stages, and the bus stores; along any number of such links the
two ids stay those of the message that the chain began with. The id of each message
itself goes with it as its causation.

The trace of a run holds the bus as it is before each collection of triggers.
`collectedAlong` lets a trigger engine collect at these points, so that the invocations
of the run are among its results.
-/

namespace TopoExec

open RuntimePublicationRouter

variable {clock : Nat → Int}

/-! ## The invocations of a run -/

/-- What `collect_ready_invocations` is called with. -/
structure Collection where
  context : TickContext
  component : ComponentNodeSpec
  lane : SchedulerGroupConfig

/-- The invocations that a trigger engine makes at the collection points of a trace; the
first argument says with what it is called each time. The trace ends for an engine that
pops an empty queue. -/
def collectedAlong (clock : Nat → Int) (collection : Nat → Collection) :
    List TraceEvent → Nat → (String → TriggerState) → List Invocation
  | [], _, _ => []
  | .reached (.collect _ _) (some bus) :: rest, k, state =>
      match TriggerPolicyEngine.collectReadyInvocations clock (collection k).context
          (collection k).component (collection k).lane { state := state, bus := bus } with
      | .error _ => []
      | .ok (record, engine) =>
          record.invocations ++ collectedAlong clock collection rest (k + 1) engine.state
  | _ :: rest, k, state => collectedAlong clock collection rest k state

/-- The buses that a trace holds have stamped messages. -/
def StampedTrace (trace : List TraceEvent) : Prop :=
  ∀ point bus, .reached point (some bus) ∈ trace → StampedBus bus

theorem collectedAlong_inherits (collection : Nat → Collection) {trace : List TraceEvent}
    (htrace : StampedTrace trace) (k : Nat) {state : String → TriggerState}
    (hstate : ∀ id, (state id).pending.All Stamped) :
    ∀ invocation ∈ collectedAlong clock collection trace k state, Inherits invocation := by
  induction trace, k, state using collectedAlong.induct clock collection with
  | case1 => simp [collectedAlong]
  | case2 iteration id bus rest k state fault hcollect =>
      simp [collectedAlong, hcollect]
  | case3 iteration id bus rest k state record engine hcollect ih =>
      have hbus : StampedBus bus := htrace _ bus (List.mem_cons_self ..)
      obtain ⟨hinvocations, hengine⟩ := collectReadyInvocations_inherits ⟨hbus, hstate⟩ hcollect
      have hrest := ih (fun point bus' hmem => htrace point bus' (List.mem_cons_of_mem _ hmem))
        hengine.pending
      intro invocation hmem
      rw [collectedAlong, hcollect] at hmem
      rcases List.mem_append.mp hmem with hhere | hthere
      · exact hinvocations invocation hhere
      · exact hrest invocation hthere
  | case4 k state event rest hother ih =>
      rw [collectedAlong]
      · exact ih (fun point bus hmem => htrace point bus (List.mem_cons_of_mem _ hmem)) hstate
      · exact hother

/-! ## Stamped messages all along -/

/-- The messages of the router's bus and of those in its trace are stamped. -/
def StampedRouter (router : RuntimePublicationRouter) : Prop := EveryBus StampedBus router

theorem stampedRouter_ofEdges (specs : List EdgeSpec) :
    StampedRouter (.ofEdges (some (.ofEdges specs)) specs) :=
  everyBus_ofEdges specs (stampedBus_ofEdges specs)

theorem stampedRouter_stable (clock : Nat → Int) : RunStable clock StampedRouter :=
  everyBus_stable fun _ _ hstamped hevolves =>
    hstamped.evolves (hevolves.mono fun _ _ => trivial)

/-! ## Runs -/

/-- The message belongs to the correlation and the transaction of the first message of
the invocation; without one it begins both. -/
structure InheritsFrom (invocation : Invocation) (message : RuntimeChannelMessage) : Prop where
  first : ∀ item, invocation.messages.head? = some item →
    message.metadata.correlationId = item.2.metadata.correlationId ∧
      message.metadata.transactionId = item.2.metadata.transactionId
  none : invocation.messages = [] →
    message.metadata.correlationId = message.ownId ∧
      message.metadata.transactionId = message.ownId

/-- What is stored for a publish call of an invocation inherits from it. -/
theorem StoredFor.inheritsFrom {call : ComponentPublish} {message : RuntimeChannelMessage}
    {invocation : Invocation} (h : StoredFor call message) (hinherits : Inherits invocation)
    (hmade : call.metadata = invocation.metadata) : InheritsFrom invocation message := by
  have hcorrelation := h.correlation
  have htransaction := h.transaction
  rw [hmade] at hcorrelation htransaction
  constructor
  · intro item hitem
    obtain ⟨hsameCorrelation, hsameTransaction⟩ := hinherits.first item hitem
    have hstamped := hinherits.stamped item (List.mem_of_head? hitem)
    rw [hsameCorrelation, orElse_of_ne hstamped.correlation] at hcorrelation
    rw [hsameTransaction, orElse_of_ne hstamped.transaction,
      orElse_of_ne hstamped.transaction] at htransaction
    exact ⟨hcorrelation, htransaction⟩
  · intro hnil
    obtain ⟨hnoCorrelation, hnoTransaction⟩ := hinherits.none hnil
    rw [hnoCorrelation] at hcorrelation
    rw [hnoTransaction, hnoCorrelation] at htransaction
    exact ⟨hcorrelation, htransaction.trans hcorrelation⟩

/-- In every run the messages carry ids of their own, no two the same, as their
causation. A run is a list of calls, and whatever list it is, every message was stored for a
publish call of it that a component made. The message inherits from the invocation that made the
call: the one whose metadata the call has, among those that the trigger engine collects in the
run. -/
theorem causal_metadata (clock : Nat → Int) (env : Env) (options : SchedulerRunOptions)
    (runtime : EventRuntime) (specs : List EdgeSpec) :
    let start : RuntimePublicationRouter := .ofEdges (some (.ofEdges specs)) specs
    let router := (EventRuntime.run clock env options runtime start).router
    HasHistory clock env start router ∧ ∃ bus : RuntimeChannelBus,
      router.channels = some bus ∧
      (∀ id, ∀ message ∈ (bus.channels id).ledger.stored,
        message.metadata.causationId = message.ownId) ∧
      (∀ (id id' : String) (i j : Nat) (message message' : RuntimeChannelMessage),
        (bus.channels id).ledger.stored[i]? = some message →
        (bus.channels id').ledger.stored[j]? = some message' →
        message.metadata.causationId = message'.metadata.causationId → id = id' ∧ i = j) ∧
      ∀ calls, IsHistory clock env start router calls →
        ∀ id, ∀ message ∈ (bus.channels id).ledger.stored, ∃ tag call,
          message.tag = some tag ∧ (play clock calls start).publishers[tag]? = some call ∧
          MadeIn env call ∧
          ∀ collection, ∀ invocation ∈ collectedAlong clock collection router.trace 0 fun _ => {},
            call.metadata = invocation.metadata → InheritsFrom invocation message := by
  intro start router
  have hstamped : StampedRouter router :=
    EventRuntime.runIterations_keeps ((stampedRouter_stable clock).keeps env) _ _
      (stampedRouter_ofEdges specs)
  obtain ⟨bus, hbus, hmessages⟩ := hstamped.bus
  refine ⟨run_history clock env options runtime start, bus, hbus, ?_, ?_, ?_⟩
  · intro id message hmessage
    exact ((hmessages.channel id).stamped message hmessage).causation
  · intro id id' i j message message' hi hj hsame
    exact hmessages.causationId_injective hi hj hsame
  · intro calls hhistory id message hmessage
    have htraced : Traced (play clock calls start) := play_traced clock calls specs
    have hchannels : (play clock calls start).router.channels = some bus := by
      rw [hhistory.played]
      exact hbus
    -- the tag of the message names its call, and a component made that call
    obtain ⟨tag, call, htag, hcall, hstored⟩ := htraced.stored bus hchannels id message hmessage
    have hmadeIn := hhistory.made call (mem_play_publishers (List.mem_of_getElem? hcall))
    refine ⟨tag, call, htag, hcall, hmadeIn, ?_⟩
    intro collection invocation hinvocation hmade
    have hinherits : Inherits invocation := by
      refine collectedAlong_inherits collection hstamped.trace 0 ?_ invocation hinvocation
      intro id' port item hitem
      cases hitem
    exact hstored.inheritsFrom hinherits hmade

/-! ## A chain of two -/

/-- A relay between a source and a sink. -/
def relayChain : GraphSpec where
  components :=
    [{ id := "source" },
     { id := "relay", eventSources := [{ type := "message", inputs := ["input"] }]
       triggerPolicy := { type := "any_input", inputs := ["input"] } },
     { id := "sink" }]
  edges :=
    [{ id := "feed", fromEndpoint := "source.out", toEndpoint := "relay.input", hasKind := true },
     { id := "onward", fromEndpoint := "relay.out", toEndpoint := "sink.input", hasKind := true }]

/-- The source begins the chain, and the relay publishes with what its trigger collects. -/
def relayChainEnv : Env where
  collectReadyInvocations := fun _ => ([⟨.drainForComponentPort "relay" "input" 0, rfl⟩], .ok [{}])
  execute := fun n =>
    if n = 5 then [.publish "out" (some {}) { triggerKind := "manual" } none]
    else if n = 7 then
      [.publish "out" (some {})
        { correlationId := "feed#1", causationId := "feed#1", transactionId := "feed#1"
          sourceComponent := "source", sourcePort := "out", triggerKind := "any_input" } none]
    else []

def relayChainRun : RuntimePublicationRouter :=
  ((smallRuntime relayChain).run (fun n => n) relayChainEnv { tickIterations := 1 }
    (.ofEdges (some (.ofEdges relayChain.edges)) relayChain.edges)).router

/-- The triggers collect for the components in their order. -/
def relayChainCollection (k : Nat) : Collection where
  context := {}
  component := relayChain.components[k]?.getD { id := "" }
  lane := { id := "main" }

-- the relay's invocation carries the source's message, and its own message inherits from it
example :
    (collectedAlong (fun n => n) relayChainCollection relayChainRun.trace 0 fun _ => {}).map
        (fun invocation => (invocation.metadata.correlationId, invocation.messages.length)) =
      [("", 0), ("feed#1", 1), ("", 0)] := by decide

example :
    relayChainRun.channels.map (fun bus => (bus.channels "onward").ledger.stored.map fun message =>
        (message.metadata.correlationId, message.metadata.causationId)) =
      some [("feed#1", "onward#1")] := by decide

end TopoExec
