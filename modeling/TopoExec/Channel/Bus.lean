import Mathlib.Algebra.GroupWithZero.Nat
import TopoExec.Channel.State

/-! # The channel bus

`RuntimeChannelBus`: the channels of a graph under their ids, and the two
indexes from source endpoints and from destination components to channel ids.
All public operations hold the bus's mutex from beginning to end, so each is one
step here.

`clock` gives the readings of the steady clock in order. Every operation on a
channel is a new moment of it, whether or not that operation looks at the time.
-/

namespace TopoExec

/-- `enum class RuntimeChannelPublishTarget`. -/
inductive RuntimeChannelPublishTarget where
  | channel
  | sourceEndpoint
deriving DecidableEq, Repr

structure RuntimeChannelPublication where
  target : RuntimeChannelPublishTarget := .sourceEndpoint
  id : String
  payload : Option RuntimePayload
  kind : EdgeKind := .immediate
  eventTimestamp : Option EventTimestamp := none
  metadata : InvocationMetadata := {}
  tag : Option Nat := none
deriving DecidableEq, Repr

/-- `channelIds` are the keys of `channels_`; `channels` and `config` are only
looked up at those. -/
structure RuntimeChannelBus where
  channelIds : List String := []
  config : String → ChannelConfig
  channels : String → ChannelState := fun _ => {}
  sourceToChannels : String → Option (List String) := fun _ => none
  componentToChannels : String → Option (List String) := fun _ => none
  updateSequence : Nat := 0
  moment : Nat := 0
  config_id : ∀ id ∈ channelIds, (config id).id = id
  source_known : ∀ endpoint ids, sourceToChannels endpoint = some ids →
    ∀ id ∈ ids, id ∈ channelIds
  component_known : ∀ component ids, componentToChannels component = some ids →
    ∀ id ∈ ids, id ∈ channelIds

/-- `map[key].push_back(value)`. -/
def pushBack (map : String → Option (List String)) (key value : String) :
    String → Option (List String) :=
  Function.update map key (some ((map key).getD [] ++ [value]))

theorem mem_pushBack {map : String → Option (List String)} {key value k id : String}
    {ids : List String} (h : pushBack map key value k = some ids) (hid : id ∈ ids) :
    id = value ∨ ∃ old, map k = some old ∧ id ∈ old := by
  unfold pushBack at h
  by_cases hk : k = key
  · subst hk
    rw [Function.update_self, Option.some.injEq] at h
    subst h
    rcases List.mem_append.mp hid with hold | hnew
    · cases hm : map k with
      | none => simp [hm] at hold
      | some old => exact Or.inr ⟨old, rfl, by simpa [hm] using hold⟩
    · exact Or.inl (List.mem_singleton.mp hnew)
  · rw [Function.update_of_ne hk] at h
    exact Or.inr ⟨ids, h, hid⟩

namespace RuntimeChannelBus

/-- A bus without channels. -/
def empty : RuntimeChannelBus where
  config := fun id => { id := id, fromEndpoint := "", toEndpoint := "", capacity_pos := by decide }
  config_id := by simp
  source_known := by simp
  component_known := by simp

/-- One edge of the constructor: a repeated edge id replaces the channel and is
listed again. -/
def addEdge (bus : RuntimeChannelBus) (spec : EdgeSpec) : RuntimeChannelBus where
  channelIds := if spec.id ∈ bus.channelIds then bus.channelIds else bus.channelIds ++ [spec.id]
  config := Function.update bus.config spec.id (.ofEdge spec)
  channels := Function.update bus.channels spec.id {}
  sourceToChannels := pushBack bus.sourceToChannels spec.fromEndpoint spec.id
  componentToChannels :=
    pushBack bus.componentToChannels (componentIdFromEndpoint spec.toEndpoint) spec.id
  updateSequence := bus.updateSequence
  moment := bus.moment
  config_id := by
    intro id hid
    by_cases h : id = spec.id
    · subst h
      simp [ChannelConfig.ofEdge]
    · rw [Function.update_of_ne h]
      refine bus.config_id id ?_
      split_ifs at hid
      · exact hid
      · simpa [h] using hid
  source_known := by
    intro endpoint ids hids id hid
    rcases mem_pushBack hids hid with rfl | ⟨old, hold, hmem⟩
    · split_ifs <;> simp_all
    · have := bus.source_known endpoint old hold id hmem
      split_ifs <;> simp_all
  component_known := by
    intro component ids hids id hid
    rcases mem_pushBack hids hid with rfl | ⟨old, hold, hmem⟩
    · split_ifs <;> simp_all
    · have := bus.component_known component old hold id hmem
      split_ifs <;> simp_all

/-- `RuntimeChannelBus::RuntimeChannelBus(specs)`. -/
def ofEdges (specs : List EdgeSpec) : RuntimeChannelBus := specs.foldl addEdge empty

section

variable (clock : Nat → Int)

/-- Run a channel function on one channel. -/
def onChannel {α : Type} (bus : RuntimeChannelBus) (id : String)
    (f : ChannelConfig → Int → ChannelState → α × ChannelState) : α × RuntimeChannelBus :=
  let result := f (bus.config id) (clock bus.moment) (bus.channels id)
  (result.1,
    { bus with
      channels := Function.update bus.channels id result.2
      moment := bus.moment + 1 })

/-! ## Publishing -/

/-- `ExpandedPublication`: one payload for one channel. -/
structure ExpandedPublication where
  channelId : String
  payload : RuntimePayload
  eventTimestamp : Option EventTimestamp := none
  metadata : InvocationMetadata := {}
  tag : Option Nat := none
deriving DecidableEq, Repr

/-- Prepare the payload for the channel and publish it there. -/
def publishExpanded (bus : RuntimeChannelBus) (publication : ExpandedPublication) :
    RuntimeChannelPublishResult × RuntimeChannelBus :=
  let prepared := bus.onChannel clock publication.channelId fun config _ state =>
    preparePayloadForState config state publication.payload
  match prepared.1 with
  | .error reason => (⟨false, reason⟩, prepared.2)
  | .ok (payload, copied) =>
      let published := prepared.2.onChannel clock publication.channelId fun config now state =>
        publishToState config now state
          { payload := payload
            payloadWasCopied := copied
            eventTimestamp := publication.eventTimestamp
            metadata := publication.metadata
            tag := publication.tag }
      let announced := published.1.accepted &&
        (bus.config publication.channelId).type ≠ .previousTick
      (published.1,
        { published.2 with
          updateSequence := published.2.updateSequence + (if announced then 1 else 0) })

/-- The second phase of a fan-out: stop at the first rejection. -/
def publishAll : List ExpandedPublication → RuntimeChannelBus →
    RuntimeChannelPublishResult × RuntimeChannelBus
  | [], bus => (⟨true, ""⟩, bus)
  | publication :: rest, bus =>
      let result := bus.publishExpanded clock publication
      if result.1.accepted then publishAll rest result.2 else result

def publishSharedWithMetadata (bus : RuntimeChannelBus) (channelId : String)
    (payload : Option RuntimePayload) (metadata : InvocationMetadata := {})
    (eventTimestamp : Option EventTimestamp := none) :
    RuntimeChannelPublishResult × RuntimeChannelBus :=
  match payload with
  | none => (⟨false, "payload must not be null"⟩, bus)
  | some payload =>
      if channelId ∉ bus.channelIds then (⟨false, "unknown channel: " ++ channelId⟩, bus)
      else bus.publishExpanded clock
        { channelId := channelId, payload := payload, eventTimestamp := eventTimestamp,
          metadata := metadata }

/-- The bus during a preflight, with `planned_publications`. -/
structure Preflight where
  bus : RuntimeChannelBus
  planned : String → Nat := fun _ => 0

/-- Preflight one payload for one channel. -/
def preflightOne (s : Preflight) (payload : RuntimePayload) (channelId : String) :
    RuntimeChannelPublishResult × Preflight :=
  let payloadPreflight := s.bus.onChannel clock channelId fun config _ state =>
    preflightPayloadForState config state payload
  if !payloadPreflight.1.accepted then
    (payloadPreflight.1, { s with bus := payloadPreflight.2 })
  else
    let capacityPreflight := payloadPreflight.2.onChannel clock channelId fun config _ state =>
      preflightPublishToState config state (s.planned channelId)
    if !capacityPreflight.1.accepted then
      (capacityPreflight.1, { s with bus := capacityPreflight.2 })
    else
      (⟨true, ""⟩,
        { bus := capacityPreflight.2
          planned := Function.update s.planned channelId (s.planned channelId + 1) })

/-- Preflight a list of publications, up to the first rejection. -/
def preflightAll : List ExpandedPublication → Preflight → RuntimeChannelPublishResult × Preflight
  | [], s => (⟨true, ""⟩, s)
  | publication :: rest, s =>
      let result := preflightOne clock s publication.payload publication.channelId
      if result.1.accepted then preflightAll rest result.2 else result

/-- The publications of one payload to a list of channels. -/
def fanOut (channelIds : List String) (payload : RuntimePayload)
    (eventTimestamp : Option EventTimestamp) (metadata : InvocationMetadata) (tag : Option Nat) :
    List ExpandedPublication :=
  channelIds.map fun id =>
    { channelId := id, payload := payload, eventTimestamp := eventTimestamp, metadata := metadata,
      tag := tag }

def publishSharedFromWithMetadata (bus : RuntimeChannelBus) (sourceEndpoint : String)
    (payload : Option RuntimePayload) (metadata : InvocationMetadata := {})
    (eventTimestamp : Option EventTimestamp := none) :
    RuntimeChannelPublishResult × RuntimeChannelBus :=
  match payload with
  | none => (⟨false, "payload must not be null"⟩, bus)
  | some payload =>
      match bus.sourceToChannels sourceEndpoint with
      | none => (⟨false, "unknown source endpoint: " ++ sourceEndpoint⟩, bus)
      | some channelIds =>
          let publications := fanOut channelIds payload eventTimestamp
            (metadataForSourceEndpoint metadata sourceEndpoint) none
          let preflight :=
            if 1 < channelIds.length then preflightAll clock publications { bus := bus }
            else (⟨true, ""⟩, { bus := bus })
          if preflight.1.accepted then publishAll clock publications preflight.2.bus
          else (preflight.1, preflight.2.bus)

/-- The channels that one publication of a batch goes to, or why there are
none. -/
def expand (bus : RuntimeChannelBus) (publication : RuntimeChannelPublication) :
    Except String (List ExpandedPublication) :=
  match publication.payload with
  | none => .error "payload must not be null"
  | some payload =>
      match publication.target with
      | .channel =>
          if publication.id ∉ bus.channelIds then .error ("unknown channel: " ++ publication.id)
          else
            .ok (fanOut [publication.id] payload publication.eventTimestamp publication.metadata
              publication.tag)
      | .sourceEndpoint =>
          match bus.sourceToChannels publication.id with
          | none => .error ("unknown source endpoint: " ++ publication.id)
          | some channelIds =>
              .ok (fanOut channelIds payload publication.eventTimestamp
                (metadataForSourceEndpoint publication.metadata publication.id) publication.tag)

/-- The first phase of `publish_batch`, with the expanded publications. -/
def preflightBatch : List RuntimeChannelPublication → Preflight →
    RuntimeChannelPublishResult × List ExpandedPublication × Preflight
  | [], s => (⟨true, ""⟩, [], s)
  | publication :: rest, s =>
      match s.bus.expand publication with
      | .error reason => (⟨false, reason⟩, [], s)
      | .ok expanded =>
          let result := preflightAll clock expanded s
          if result.1.accepted then
            let tail := preflightBatch rest result.2
            (tail.1, expanded ++ tail.2.1, tail.2.2)
          else (result.1, [], result.2)

def publishBatch (bus : RuntimeChannelBus) (publications : List RuntimeChannelPublication) :
    RuntimeChannelPublishResult × RuntimeChannelBus :=
  let preflight := preflightBatch clock publications { bus := bus }
  if preflight.1.accepted then publishAll clock preflight.2.1 preflight.2.2.bus
  else (preflight.1, preflight.2.2.bus)

def advanceEpoch (bus : RuntimeChannelBus) : RuntimeChannelBus :=
  let advanced := fun id => advanceState (bus.config id) (bus.channels id)
  { bus with
    channels := fun id => if id ∈ bus.channelIds then (advanced id).2 else bus.channels id
    updateSequence :=
      bus.updateSequence + (if bus.channelIds.any fun id => (advanced id).1 then 1 else 0) }

/-! ## Reading -/

structure RuntimeChannelReadResult where
  ok : Bool
  message : Option RuntimeChannelMessage := none
  reason : String := ""
deriving DecidableEq, Repr

def readLatestForReader (bus : RuntimeChannelBus) (channelId readerId : String) :
    RuntimeChannelReadResult × RuntimeChannelBus :=
  if channelId ∉ bus.channelIds then
    ({ ok := false, reason := "unknown channel: " ++ channelId }, bus)
  else if !(bus.config channelId).type.isLatestStyle then
    ({ ok := false, reason := "channel is not latest-style: " ++ channelId }, bus)
  else
    let read := bus.onChannel clock channelId fun config now state =>
      consumeLatestFromState config now readerId state
    ({ ok := true, message := read.1 }, read.2)

def channelIdsForComponentPort (bus : RuntimeChannelBus) (componentId portName : String) :
    List String :=
  ((bus.componentToChannels componentId).getD []).filter fun id =>
    portName = "" || portNameFromEndpoint (bus.config id).toEndpoint = portName

def configuredCapacityForComponentPort (bus : RuntimeChannelBus) (componentId portName : String) :
    Nat :=
  ((bus.channelIdsForComponentPort componentId portName).map fun id =>
    max 1 (bus.config id).capacity).sum

/-- The first update among the latest-style channels of the list. -/
def firstUpdate (readerId : String) : List String → RuntimeChannelBus →
    Option RuntimeChannelMessage × RuntimeChannelBus
  | [], bus => (none, bus)
  | id :: rest, bus =>
      if !(bus.config id).type.isLatestStyle then firstUpdate readerId rest bus
      else
        let read := bus.onChannel clock id fun config now state =>
          consumeLatestFromState config now readerId state
        if read.1.isSome then read else firstUpdate readerId rest read.2

def readLatestUpdateForComponentPort (bus : RuntimeChannelBus) (componentId portName : String) :
    RuntimeChannelReadResult × RuntimeChannelBus :=
  let read := firstUpdate clock (endpointOf componentId portName)
    (bus.channelIdsForComponentPort componentId portName) bus
  ({ ok := true, message := read.1 }, read.2)

/-- The first message of the first channel of the list that has one. -/
def firstPeek : List String → RuntimeChannelBus → Option RuntimeChannelMessage × RuntimeChannelBus
  | [], bus => (none, bus)
  | id :: rest, bus =>
      let snapshot := bus.onChannel clock id fun config now state =>
        snapshotFromState config now 1 state
      match snapshot.1 with
      | [] => firstPeek rest snapshot.2
      | message :: _ => (some message, snapshot.2)

def peekLatestForComponentPort (bus : RuntimeChannelBus) (componentId portName : String) :
    RuntimeChannelReadResult × RuntimeChannelBus :=
  let peek := firstPeek clock (bus.channelIdsForComponentPort componentId portName) bus
  ({ ok := true, message := peek.1 }, peek.2)

/-- Consume from one channel in the way its type asks for. -/
def consumeChannel (bus : RuntimeChannelBus) (id readerId : String) (maxBatch : Nat) :
    List RuntimeChannelMessage × RuntimeChannelBus :=
  bus.onChannel clock id fun config now state =>
    if config.type.isLatestStyle then
      let latest := consumeLatestFromState config now readerId state
      (latest.1.toList, latest.2)
    else consumeFromState config now readerId maxBatch state

def drainForReader (bus : RuntimeChannelBus) (channelId readerId : String) (maxBatch : Nat) :
    List RuntimeChannelMessage × RuntimeChannelBus :=
  if channelId ∈ bus.channelIds then bus.consumeChannel clock channelId readerId maxBatch
  else ([], bus)

/-- The loop of `snapshot_for_component_port`; `messages` is what it has so
far. -/
def snapshotChannels (maxBatch : Nat) : List String → List RuntimeChannelMessage →
    RuntimeChannelBus → List RuntimeChannelMessage × RuntimeChannelBus
  | [], messages, bus => (messages, bus)
  | id :: rest, messages, bus =>
      if batchFull maxBatch messages.length then (messages, bus)
      else
        let snapshot := bus.onChannel clock id fun config now state =>
          snapshotFromState config now (maxBatch - messages.length) state
        let room := if maxBatch = 0 then snapshot.1.length else maxBatch - messages.length
        snapshotChannels maxBatch rest (messages ++ snapshot.1.take room) snapshot.2

def snapshotForComponentPort (bus : RuntimeChannelBus) (componentId portName : String)
    (maxBatch : Nat) : List RuntimeChannelMessage × RuntimeChannelBus :=
  snapshotChannels clock maxBatch (bus.channelIdsForComponentPort componentId portName) [] bus

/-- The loop of `drain_for_component_port`. A latest-style channel adds its value
without looking at the room left, since the loop has just seen that there is
some. -/
def drainChannels (readerId : String) (maxBatch : Nat) : List String →
    List RuntimeChannelMessage → RuntimeChannelBus → List RuntimeChannelMessage × RuntimeChannelBus
  | [], messages, bus => (messages, bus)
  | id :: rest, messages, bus =>
      if batchFull maxBatch messages.length then (messages, bus)
      else
        let drained := bus.consumeChannel clock id readerId (maxBatch - messages.length)
        let room := if maxBatch = 0 then drained.1.length else maxBatch - messages.length
        drainChannels readerId maxBatch rest (messages ++ drained.1.take room) drained.2

def drainForComponentPort (bus : RuntimeChannelBus) (componentId portName : String)
    (maxBatch : Nat) : List RuntimeChannelMessage × RuntimeChannelBus :=
  drainChannels clock (endpointOf componentId portName) maxBatch
    (bus.channelIdsForComponentPort componentId portName) [] bus

def consumeForComponent (bus : RuntimeChannelBus) (componentId : String) :
    List RuntimeChannelMessage × RuntimeChannelBus :=
  drainChannels clock componentId 0 ((bus.componentToChannels componentId).getD []) [] bus

end

end RuntimeChannelBus

end TopoExec
