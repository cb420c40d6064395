import Mathlib.Logic.Relation
import TopoExec.Channel.Bus

/-! # Runs of the bus, channel by channel

`ChannelStep` lists what can happen to one channel. Every operation of the bus
does to each of its channels a sequence of such steps and leaves the rest of the
bus alone (`exec_evolves`), so an invariant of the steps is an invariant of every
channel in every run (`run_invariant`).
-/

namespace TopoExec

open Relation

/-- The kinds of channel steps. What reads a channel looks at the time. -/
inductive StepKind where
  | publish
  | advance
  | observe (now : Int)
  | drain (now : Int)

/-- One step of a channel, of one of the allowed kinds.
`consume_latest_from_state` only ever sees latest-style channels and
`consume_from_state` only the others. -/
inductive ChannelStep (allowed : StepKind → Prop) (config : ChannelConfig) :
    ChannelState → ChannelState → Prop where
  | preflightPayload (hkind : allowed .publish) (state : ChannelState) (payload : RuntimePayload) :
      ChannelStep allowed config state (preflightPayloadForState config state payload).2
  | preflightPublish (hkind : allowed .publish) (state : ChannelState) (planned : Nat) :
      ChannelStep allowed config state (preflightPublishToState config state planned).2
  | preparePayload (hkind : allowed .publish) (state : ChannelState) (source : RuntimePayload) :
      ChannelStep allowed config state (preparePayloadForState config state source).2
  | publish (hkind : allowed .publish) (now : Int) (state : ChannelState) (prepared : Prepared) :
      ChannelStep allowed config state (publishToState config now state prepared).2
  | advance (hkind : allowed .advance) (state : ChannelState) :
      ChannelStep allowed config state (advanceState config state).2
  | consumeLatest (now : Int) (hkind : allowed (.observe now)) (readerId : String)
      (state : ChannelState) (htype : config.type.isLatestStyle = true) :
      ChannelStep allowed config state (consumeLatestFromState config now readerId state).2
  | snapshot (now : Int) (hkind : allowed (.observe now)) (maxBatch : Nat)
      (state : ChannelState) :
      ChannelStep allowed config state (snapshotFromState config now maxBatch state).2
  | consume (now : Int) (hkind : allowed (.drain now)) (readerId : String) (maxBatch : Nat)
      (state : ChannelState) (htype : config.type.isLatestStyle = false) :
      ChannelStep allowed config state (consumeFromState config now readerId maxBatch state).2

/-- A step stays one when more kinds are allowed. -/
theorem ChannelStep.mono {allowed allowed' : StepKind → Prop} {config : ChannelConfig}
    {s s' : ChannelState} (hle : ∀ kind, allowed kind → allowed' kind)
    (h : ChannelStep allowed config s s') : ChannelStep allowed' config s s' := by
  cases h with
  | preflightPayload hkind => exact .preflightPayload (hle _ hkind) _ _
  | preflightPublish hkind => exact .preflightPublish (hle _ hkind) _ _
  | preparePayload hkind => exact .preparePayload (hle _ hkind) _ _
  | publish hkind => exact .publish (hle _ hkind) _ _ _
  | advance hkind => exact .advance (hle _ hkind) _
  | consumeLatest _ hkind _ _ htype => exact .consumeLatest _ (hle _ hkind) _ _ htype
  | snapshot _ hkind => exact .snapshot _ (hle _ hkind) _ _
  | consume _ hkind _ _ _ htype => exact .consume _ (hle _ hkind) _ _ _ htype

/-- Any number of steps. -/
abbrev ChannelSteps (allowed : StepKind → Prop) (config : ChannelConfig) :
    ChannelState → ChannelState → Prop :=
  ReflTransGen (ChannelStep allowed config)

/-- An invariant of the steps holds after any number of them. -/
theorem ChannelSteps.invariant {allowed : StepKind → Prop} {config : ChannelConfig}
    {P : ChannelState → Prop} (hstep : ∀ s s', ChannelStep allowed config s s' → P s → P s')
    {s s' : ChannelState} (hsteps : ChannelSteps allowed config s s') (h : P s) : P s' := by
  induction hsteps with
  | refl => exact h
  | tail _ hlast ih => exact hstep _ _ hlast ih

/-! ## What an operation does to the bus -/

/-- The bus keeps its shape, and each channel moves by steps of its own. -/
structure Evolves (allowed : StepKind → Prop) (bus bus' : RuntimeChannelBus) : Prop where
  channelIds : bus'.channelIds = bus.channelIds
  config : bus'.config = bus.config
  sources : bus'.sourceToChannels = bus.sourceToChannels
  components : bus'.componentToChannels = bus.componentToChannels
  steps : ∀ id, ChannelSteps allowed (bus.config id) (bus.channels id) (bus'.channels id)

namespace Evolves

variable {allowed : StepKind → Prop}

theorem refl (bus : RuntimeChannelBus) : Evolves allowed bus bus :=
  ⟨rfl, rfl, rfl, rfl, fun _ => .refl⟩

theorem trans {bus₁ bus₂ bus₃ : RuntimeChannelBus} (h : Evolves allowed bus₁ bus₂)
    (h' : Evolves allowed bus₂ bus₃) : Evolves allowed bus₁ bus₃ where
  channelIds := h'.channelIds.trans h.channelIds
  config := h'.config.trans h.config
  sources := h'.sources.trans h.sources
  components := h'.components.trans h.components
  steps := fun id => (h.steps id).trans (h.config ▸ h'.steps id)

/-- The counter of updates is not part of any channel. -/
theorem announce {bus bus' : RuntimeChannelBus} (h : Evolves allowed bus bus')
    (updateSequence : Nat) : Evolves allowed bus { bus' with updateSequence := updateSequence } :=
  ⟨h.channelIds, h.config, h.sources, h.components, h.steps⟩

/-- A run of a channel stays one when more kinds are allowed. -/
theorem mono {allowed' : StepKind → Prop} (hle : ∀ kind, allowed kind → allowed' kind)
    {bus bus' : RuntimeChannelBus} (h : Evolves allowed bus bus') : Evolves allowed' bus bus' :=
  ⟨h.channelIds, h.config, h.sources, h.components,
    fun id => (h.steps id).lift (fun s => s) fun _ _ => ChannelStep.mono hle⟩

end Evolves

namespace RuntimeChannelBus

variable {allowed : StepKind → Prop} (clock : Nat → Int)

/-- A call on one channel leaves the others. -/
theorem onChannel_evolves {α : Type} (bus : RuntimeChannelBus) (id : String)
    {f : ChannelConfig → Int → ChannelState → α × ChannelState}
    (hf : ∀ n s, ChannelStep allowed (bus.config id) s (f (bus.config id) (clock n) s).2) :
    Evolves allowed bus (bus.onChannel clock id f).2 where
  channelIds := rfl
  config := rfl
  sources := rfl
  components := rfl
  steps := by
    intro id'
    by_cases h : id' = id
    · subst h
      simp only [onChannel, Function.update_self]
      exact .single (hf _ _)
    · simp only [onChannel, Function.update_of_ne h]
      exact .refl

/-- A publication to one edge is a publish step of its channel. -/
theorem publishExpanded_evolves (hkind : allowed .publish) (bus : RuntimeChannelBus)
    (publication : ExpandedPublication) :
    Evolves allowed bus (bus.publishExpanded clock publication).2 := by
  have hprepare := onChannel_evolves clock bus publication.channelId
    (f := fun config _ state => preparePayloadForState config state publication.payload)
    fun _ s => .preparePayload hkind s _
  unfold publishExpanded
  dsimp only
  split
  · -- the payload is refused, and nothing is published
    exact hprepare
  · -- the copy may be counted even where the capacity then refuses the message
    refine hprepare.trans ?_
    refine Evolves.announce ?_ _
    exact onChannel_evolves clock _ _ fun _ s => .publish hkind _ s _

/-- By induction on the publications. -/
theorem publishAll_evolves (hkind : allowed .publish) (publications : List ExpandedPublication)
    (bus : RuntimeChannelBus) :
    Evolves allowed bus (publishAll clock publications bus).2 := by
  induction publications generalizing bus with
  | nil => exact .refl bus
  | cons publication rest ih =>
      have hone := publishExpanded_evolves clock hkind bus publication
      unfold publishAll
      dsimp only
      split_ifs
      · exact hone.trans (ih _)
      · exact hone

theorem publishSharedWithMetadata_evolves (hkind : allowed .publish) (bus : RuntimeChannelBus)
    (channelId : String)
    (payload : Option RuntimePayload) (metadata : InvocationMetadata)
    (eventTimestamp : Option EventTimestamp) :
    Evolves allowed bus
      (bus.publishSharedWithMetadata clock channelId payload metadata eventTimestamp).2 := by
  unfold publishSharedWithMetadata
  cases payload with
  | none => exact .refl bus
  | some payload =>
      dsimp only
      split_ifs
      · exact publishExpanded_evolves clock hkind bus _
      · exact .refl bus

/-- A preflight counts what it refuses, as a publish does. -/
theorem preflightOne_evolves (hkind : allowed .publish) (s : Preflight) (payload : RuntimePayload)
    (channelId : String) :
    Evolves allowed s.bus (preflightOne clock s payload channelId).2.bus := by
  have hpayload := onChannel_evolves clock s.bus channelId
    (f := fun config _ state => preflightPayloadForState config state payload)
    fun _ s => .preflightPayload hkind s _
  have hcapacity := onChannel_evolves clock (s.bus.onChannel clock channelId
      fun config _ state => preflightPayloadForState config state payload).2 channelId
    (f := fun config _ state => preflightPublishToState config state (s.planned channelId))
    fun _ s => .preflightPublish hkind s _
  unfold preflightOne
  dsimp only
  split_ifs
  · exact hpayload
  · exact hpayload.trans hcapacity
  · exact hpayload.trans hcapacity

theorem preflightAll_evolves (hkind : allowed .publish) (publications : List ExpandedPublication)
    (s : Preflight) :
    Evolves allowed s.bus (preflightAll clock publications s).2.bus := by
  induction publications generalizing s with
  | nil => exact .refl _
  | cons publication rest ih =>
      have hone := preflightOne_evolves clock hkind s publication.payload publication.channelId
      unfold preflightAll
      dsimp only
      split_ifs
      · exact hone.trans (ih _)
      · exact hone

theorem publishSharedFromWithMetadata_evolves (hkind : allowed .publish) (bus : RuntimeChannelBus)
    (sourceEndpoint : String)
    (payload : Option RuntimePayload) (metadata : InvocationMetadata)
    (eventTimestamp : Option EventTimestamp) :
    Evolves allowed bus
      (bus.publishSharedFromWithMetadata clock sourceEndpoint payload metadata
        eventTimestamp).2 := by
  unfold publishSharedFromWithMetadata
  cases payload with
  | none => exact .refl bus
  | some payload =>
      dsimp only
      cases bus.sourceToChannels sourceEndpoint with
      | none => exact .refl bus
      | some channelIds =>
          dsimp only
          split_ifs
          · exact (preflightAll_evolves clock hkind _ { bus := bus }).trans
              (publishAll_evolves clock hkind _ _)
          · exact preflightAll_evolves clock hkind _ { bus := bus }
          · exact publishAll_evolves clock hkind _ bus
          · exact .refl bus

theorem preflightBatch_evolves (hkind : allowed .publish)
    (publications : List RuntimeChannelPublication) (s : Preflight) :
    Evolves allowed s.bus (preflightBatch clock publications s).2.2.bus := by
  induction publications generalizing s with
  | nil => exact .refl _
  | cons publication rest ih =>
      unfold preflightBatch
      split
      · exact .refl _
      · dsimp only
        split_ifs
        · exact (preflightAll_evolves clock hkind _ s).trans (ih _)
        · exact preflightAll_evolves clock hkind _ s

/-- A batch publishes all or counts its refusals. -/
theorem publishBatch_evolves (hkind : allowed .publish) (bus : RuntimeChannelBus)
    (publications : List RuntimeChannelPublication) :
    Evolves allowed bus (bus.publishBatch clock publications).2 := by
  have hpreflight := preflightBatch_evolves clock hkind publications { bus := bus }
  unfold publishBatch
  dsimp only
  split_ifs
  · exact hpreflight.trans (publishAll_evolves clock hkind _ _)
  · exact hpreflight

/-- A new epoch advances every channel. -/
theorem advanceEpoch_evolves (hkind : allowed .advance) (bus : RuntimeChannelBus) :
    Evolves allowed bus bus.advanceEpoch where
  channelIds := rfl
  config := rfl
  sources := rfl
  components := rfl
  steps := by
    intro id
    simp only [advanceEpoch]
    split_ifs
    · exact .single (.advance hkind _)
    · exact .refl

/-- A read is a look at the channel at the time of the call. -/
theorem readLatest_evolves (hkind : ∀ n, allowed (.observe (clock n)))
    (bus : RuntimeChannelBus) (id readerId : String)
    (htype : (bus.config id).type.isLatestStyle = true) :
    Evolves allowed bus (bus.onChannel clock id fun config now state =>
      consumeLatestFromState config now readerId state).2 :=
  onChannel_evolves clock bus id fun n s => .consumeLatest _ (hkind n) readerId s htype

theorem readLatestForReader_evolves (hkind : ∀ n, allowed (.observe (clock n)))
    (bus : RuntimeChannelBus) (channelId readerId : String) :
    Evolves allowed bus (bus.readLatestForReader clock channelId readerId).2 := by
  unfold readLatestForReader
  split_ifs with _ htype
  · exact .refl bus
  · exact readLatest_evolves clock hkind bus channelId readerId (by simpa using htype)
  · exact .refl bus

theorem firstUpdate_evolves (hkind : ∀ n, allowed (.observe (clock n)))
    (readerId : String) (ids : List String) (bus : RuntimeChannelBus) :
    Evolves allowed bus (firstUpdate clock readerId ids bus).2 := by
  induction ids generalizing bus with
  | nil => exact .refl bus
  | cons id rest ih =>
      unfold firstUpdate
      dsimp only
      split_ifs with htype
      · exact ih bus
      · exact readLatest_evolves clock hkind bus id readerId (by simpa using htype)
      · exact (readLatest_evolves clock hkind bus id readerId (by simpa using htype)).trans (ih _)

/-- A snapshot observes its channel. -/
theorem snapshot_evolves (hkind : ∀ n, allowed (.observe (clock n)))
    (bus : RuntimeChannelBus) (id : String) (maxBatch : Nat) :
    Evolves allowed bus (bus.onChannel clock id fun config now state =>
      snapshotFromState config now maxBatch state).2 :=
  onChannel_evolves clock bus id fun n s => .snapshot _ (hkind n) maxBatch s

theorem firstPeek_evolves (hkind : ∀ n, allowed (.observe (clock n)))
    (ids : List String) (bus : RuntimeChannelBus) :
    Evolves allowed bus (firstPeek clock ids bus).2 := by
  induction ids generalizing bus with
  | nil => exact .refl bus
  | cons id rest ih =>
      have hone := snapshot_evolves clock hkind bus id 1
      unfold firstPeek
      dsimp only
      split
      · exact hone.trans (ih _)
      · exact hone

/-- Consuming a channel observes or drains it, as its type says. -/
theorem consumeChannel_evolves (hobserve : ∀ n, allowed (.observe (clock n)))
    (hdrain : ∀ n, allowed (.drain (clock n)))
    (bus : RuntimeChannelBus) (id readerId : String) (maxBatch : Nat) :
    Evolves allowed bus (bus.consumeChannel clock id readerId maxBatch).2 := by
  refine onChannel_evolves clock bus id fun n s => ?_
  split_ifs with htype
  · exact .consumeLatest _ (hobserve n) readerId s htype
  · exact .consume _ (hdrain n) readerId maxBatch s (by simpa using htype)

theorem drainForReader_evolves (hobserve : ∀ n, allowed (.observe (clock n)))
    (hdrain : ∀ n, allowed (.drain (clock n)))
    (bus : RuntimeChannelBus) (channelId readerId : String)
    (maxBatch : Nat) :
    Evolves allowed bus (bus.drainForReader clock channelId readerId maxBatch).2 := by
  unfold drainForReader
  split_ifs
  · exact consumeChannel_evolves clock hobserve hdrain bus channelId readerId maxBatch
  · exact .refl bus

theorem snapshotChannels_evolves (hkind : ∀ n, allowed (.observe (clock n)))
    (maxBatch : Nat) (ids : List String)
    (messages : List RuntimeChannelMessage) (bus : RuntimeChannelBus) :
    Evolves allowed bus (snapshotChannels clock maxBatch ids messages bus).2 := by
  induction ids generalizing messages bus with
  | nil => exact .refl bus
  | cons id rest ih =>
      unfold snapshotChannels
      dsimp only
      split_ifs
      · exact .refl bus
      · exact (snapshot_evolves clock hkind bus id _).trans (ih _ _)
      · exact (snapshot_evolves clock hkind bus id _).trans (ih _ _)

theorem drainChannels_evolves (hobserve : ∀ n, allowed (.observe (clock n)))
    (hdrain : ∀ n, allowed (.drain (clock n)))
    (readerId : String) (maxBatch : Nat) (ids : List String)
    (messages : List RuntimeChannelMessage) (bus : RuntimeChannelBus) :
    Evolves allowed bus (drainChannels clock readerId maxBatch ids messages bus).2 := by
  induction ids generalizing messages bus with
  | nil => exact .refl bus
  | cons id rest ih =>
      unfold drainChannels
      dsimp only
      split_ifs
      · exact .refl bus
      · exact (consumeChannel_evolves clock hobserve hdrain bus id readerId _).trans (ih _ _)
      · exact (consumeChannel_evolves clock hobserve hdrain bus id readerId _).trans (ih _ _)

end RuntimeChannelBus

/-! ## Operations and runs -/

/-- The public operations of the bus that change it. -/
inductive BusOp where
  | publishShared (channelId : String) (payload : Option RuntimePayload)
      (metadata : InvocationMetadata) (eventTimestamp : Option EventTimestamp)
  | publishSharedFrom (sourceEndpoint : String) (payload : Option RuntimePayload)
      (metadata : InvocationMetadata) (eventTimestamp : Option EventTimestamp)
  | publishBatch (publications : List RuntimeChannelPublication)
  | advanceEpoch
  | readLatestForReader (channelId readerId : String)
  | readLatestUpdateForComponentPort (componentId portName : String)
  | peekLatestForComponentPort (componentId portName : String)
  | drainForReader (channelId readerId : String) (maxBatch : Nat)
  | snapshotForComponentPort (componentId portName : String) (maxBatch : Nat)
  | drainForComponentPort (componentId portName : String) (maxBatch : Nat)
  | consumeForComponent (componentId : String)

inductive BusOutput where
  | published (result : RuntimeChannelPublishResult)
  | read (result : RuntimeChannelBus.RuntimeChannelReadResult)
  | messages (messages : List RuntimeChannelMessage)
  | none

/-- The operation on a bus, with what it returns. -/
def BusOp.exec (clock : Nat → Int) (bus : RuntimeChannelBus) :
    BusOp → BusOutput × RuntimeChannelBus
  | .publishShared channelId payload metadata eventTimestamp =>
      let r := bus.publishSharedWithMetadata clock channelId payload metadata eventTimestamp
      (.published r.1, r.2)
  | .publishSharedFrom sourceEndpoint payload metadata eventTimestamp =>
      let r := bus.publishSharedFromWithMetadata clock sourceEndpoint payload metadata
        eventTimestamp
      (.published r.1, r.2)
  | .publishBatch publications =>
      let r := bus.publishBatch clock publications
      (.published r.1, r.2)
  | .advanceEpoch => (.none, bus.advanceEpoch)
  | .readLatestForReader channelId readerId =>
      let r := bus.readLatestForReader clock channelId readerId
      (.read r.1, r.2)
  | .readLatestUpdateForComponentPort componentId portName =>
      let r := bus.readLatestUpdateForComponentPort clock componentId portName
      (.read r.1, r.2)
  | .peekLatestForComponentPort componentId portName =>
      let r := bus.peekLatestForComponentPort clock componentId portName
      (.read r.1, r.2)
  | .drainForReader channelId readerId maxBatch =>
      let r := bus.drainForReader clock channelId readerId maxBatch
      (.messages r.1, r.2)
  | .snapshotForComponentPort componentId portName maxBatch =>
      let r := bus.snapshotForComponentPort clock componentId portName maxBatch
      (.messages r.1, r.2)
  | .drainForComponentPort componentId portName maxBatch =>
      let r := bus.drainForComponentPort clock componentId portName maxBatch
      (.messages r.1, r.2)
  | .consumeForComponent componentId =>
      let r := bus.consumeForComponent clock componentId
      (.messages r.1, r.2)

/-- The kinds of channel steps an operation is made of; the times are readings of the
clock. -/
def BusOp.kinds (clock : Nat → Int) : BusOp → StepKind → Prop
  | .publishShared .., kind | .publishSharedFrom .., kind | .publishBatch .., kind =>
      kind = .publish
  | .advanceEpoch, kind => kind = .advance
  | .readLatestForReader .., kind | .readLatestUpdateForComponentPort .., kind
  | .peekLatestForComponentPort .., kind | .snapshotForComponentPort .., kind =>
      ∃ n, kind = .observe (clock n)
  | .drainForReader .., kind | .drainForComponentPort .., kind | .consumeForComponent .., kind =>
      ∃ n, kind = .observe (clock n) ∨ kind = .drain (clock n)

open RuntimeChannelBus in
/-- Every operation of the bus moves its channels by steps of its own kinds. -/
theorem exec_evolves (clock : Nat → Int) (bus : RuntimeChannelBus) (op : BusOp) :
    Evolves (op.kinds clock) bus (op.exec clock bus).2 := by
  cases op with
  | publishShared => exact publishSharedWithMetadata_evolves clock (by exact rfl) bus _ _ _ _
  | publishSharedFrom =>
      exact publishSharedFromWithMetadata_evolves clock (by exact rfl) bus _ _ _ _
  | publishBatch publications => exact publishBatch_evolves clock (by exact rfl) bus publications
  | advanceEpoch => exact advanceEpoch_evolves (by exact rfl) bus
  | readLatestForReader => exact readLatestForReader_evolves clock (fun n => ⟨n, rfl⟩) bus _ _
  | readLatestUpdateForComponentPort =>
      exact firstUpdate_evolves clock (fun n => ⟨n, rfl⟩) _ _ bus
  | peekLatestForComponentPort => exact firstPeek_evolves clock (fun n => ⟨n, rfl⟩) _ bus
  | drainForReader =>
      exact drainForReader_evolves clock (fun n => ⟨n, .inl rfl⟩) (fun n => ⟨n, .inr rfl⟩) bus
        _ _ _
  | snapshotForComponentPort =>
      exact snapshotChannels_evolves clock (fun n => ⟨n, rfl⟩) _ _ _ bus
  | drainForComponentPort =>
      exact drainChannels_evolves clock (fun n => ⟨n, .inl rfl⟩) (fun n => ⟨n, .inr rfl⟩)
        _ _ _ _ bus
  | consumeForComponent =>
      exact drainChannels_evolves clock (fun n => ⟨n, .inl rfl⟩) (fun n => ⟨n, .inr rfl⟩)
        _ _ _ _ bus

/-- Every kind of step. -/
abbrev anyStep : StepKind → Prop := fun _ => True

/-- Every kind of step, at times that the clock shows. -/
def clockStep (clock : Nat → Int) : StepKind → Prop
  | .publish | .advance => True
  | .observe now | .drain now => ∃ n, now = clock n

/-- The readings of the clock that a step uses are those of the run. -/
theorem clockStep_of_kinds {clock : Nat → Int} {op : BusOp} {kind : StepKind}
    (h : op.kinds clock kind) : clockStep clock kind := by
  cases op with
  | publishShared | publishSharedFrom | publishBatch | advanceEpoch =>
      cases h
      trivial
  | readLatestForReader | readLatestUpdateForComponentPort | peekLatestForComponentPort
  | snapshotForComponentPort =>
      rcases h with ⟨n, rfl⟩
      exact ⟨n, rfl⟩
  | drainForReader | drainForComponentPort | consumeForComponent =>
      rcases h with ⟨n, rfl | rfl⟩
      · exact ⟨n, rfl⟩
      · exact ⟨n, rfl⟩

/-- Every operation moves the channels at readings of the clock. -/
theorem exec_clockEvolves (clock : Nat → Int) (bus : RuntimeChannelBus) (op : BusOp) :
    Evolves (clockStep clock) bus (op.exec clock bus).2 :=
  (exec_evolves clock bus op).mono fun _ => clockStep_of_kinds

/-- The bus after a list of operations. -/
def runBus (clock : Nat → Int) (bus : RuntimeChannelBus) (ops : List BusOp) : RuntimeChannelBus :=
  ops.foldl (fun bus op => (op.exec clock bus).2) bus

/-- By induction on the operations. -/
theorem runBus_clockEvolves (clock : Nat → Int) (bus : RuntimeChannelBus) (ops : List BusOp) :
    Evolves (clockStep clock) bus (runBus clock bus ops) := by
  induction ops generalizing bus with
  | nil => exact .refl bus
  | cons op ops ih => exact (exec_clockEvolves clock bus op).trans (ih _)

theorem runBus_evolves (clock : Nat → Int) (bus : RuntimeChannelBus) (ops : List BusOp) :
    Evolves anyStep bus (runBus clock bus ops) :=
  (runBus_clockEvolves clock bus ops).mono fun _ _ => trivial

/-- The channels of a new bus are empty. -/
theorem channels_ofEdges (specs : List EdgeSpec) (id : String) :
    (RuntimeChannelBus.ofEdges specs).channels id = {} := by
  have hfold : ∀ (specs : List EdgeSpec) (bus : RuntimeChannelBus),
      (∀ id, bus.channels id = {}) →
        ∀ id, (specs.foldl RuntimeChannelBus.addEdge bus).channels id = {} := by
    intro specs
    induction specs with
    | nil => exact fun bus h => h
    | cons spec specs ih =>
        intro bus h
        refine ih _ fun id => ?_
        by_cases hid : id = spec.id
        · simp [RuntimeChannelBus.addEdge, hid]
        · simp [RuntimeChannelBus.addEdge, hid, h id]
  exact hfold specs .empty (fun _ => rfl) id

/-- What holds of a new channel and is kept by every step, at the times of the clock,
holds of every channel in every run. -/
theorem run_clockInvariant {P : ChannelConfig → ChannelState → Prop} {clock : Nat → Int}
    (hinit : ∀ config, P config {})
    (hstep : ∀ config s s', ChannelStep (clockStep clock) config s s' → P config s → P config s')
    (specs : List EdgeSpec) (ops : List BusOp) (id : String) :
    P ((runBus clock (.ofEdges specs) ops).config id)
      ((runBus clock (.ofEdges specs) ops).channels id) := by
  have hrun := runBus_clockEvolves clock (.ofEdges specs) ops
  rw [hrun.config]
  refine ChannelSteps.invariant (hstep _) (hrun.steps id) ?_
  rw [channels_ofEdges]
  exact hinit _

/-- What holds of an empty channel and is kept by every step holds in every run. -/
theorem run_invariant {P : ChannelConfig → ChannelState → Prop} (hinit : ∀ config, P config {})
    (hstep : ∀ config s s', ChannelStep anyStep config s s' → P config s → P config s')
    (clock : Nat → Int) (specs : List EdgeSpec) (ops : List BusOp) (id : String) :
    P ((runBus clock (.ofEdges specs) ops).config id)
      ((runBus clock (.ofEdges specs) ops).channels id) :=
  run_clockInvariant hinit (fun config s s' h => hstep config s s' (h.mono fun _ _ => trivial))
    specs ops id

end TopoExec
