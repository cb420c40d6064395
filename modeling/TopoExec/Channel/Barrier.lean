import TopoExec.Channel.Accounting
import TopoExec.Channel.DeliveryLaw

/-! # Batches of a barrier

A barrier with one reader should hand out its messages in batches of `capacity`.
`consume_from_state` decides from the length of the queue, before it takes the
expired messages out, so a full queue in which some messages have expired is
delivered as a shorter batch. `barrier_batch_complete_iff` shows that this is the
only way in which a batch can be incomplete.
-/

namespace TopoExec

open RuntimeChannelBus

/-- A batch is empty or consists of the `capacity` oldest queued messages that
have not expired, in order. -/
def CompleteBatch (config : ChannelConfig) (now : Int) (queue batch : List RuntimeChannelMessage) :
    Prop :=
  batch ≠ [] → batch.length = config.capacity ∧
    batch = ((unexpired config now queue).take config.capacity).map (deliveredMessage config now)

/-- The places at which an unbounded drain takes messages from the channel `id`:
the bus at that moment and the batch. -/
inductive TakesBatch (clock : Nat → Int) (id : String) (bus : RuntimeChannelBus) :
    BusOp → RuntimeChannelBus → List RuntimeChannelMessage → Prop
  | reader {readerId : String} (hknown : id ∈ bus.channelIds) :
      TakesBatch clock id bus (.drainForReader id readerId 0) bus
        (bus.consumeChannel clock id readerId 0).1
  | port {componentId portName : String} {before after : List String} {bus' : RuntimeChannelBus}
      (hids : bus.channelIdsForComponentPort componentId portName = before ++ id :: after)
      (hat : bus' = (drainChannels clock (endpointOf componentId portName) 0 before [] bus).2) :
      TakesBatch clock id bus (.drainForComponentPort componentId portName 0) bus'
        (bus'.consumeChannel clock id (endpointOf componentId portName) 0).1
  | component {componentId : String} {before after : List String} {bus' : RuntimeChannelBus}
      (hids : (bus.componentToChannels componentId).getD [] = before ++ id :: after)
      (hat : bus' = (drainChannels clock componentId 0 before [] bus).2) :
      TakesBatch clock id bus (.consumeForComponent componentId) bus'
        (bus'.consumeChannel clock id componentId 0).1

/-- Each batch is a drain of the channel in a bus that the operation reaches. -/
theorem TakesBatch.spec {clock : Nat → Int} {id : String} {bus bus' : RuntimeChannelBus}
    {op : BusOp} {batch : List RuntimeChannelMessage} (h : TakesBatch clock id bus op bus' batch) :
    Evolves anyStep bus bus' ∧ ∃ readerId, batch = (bus'.consumeChannel clock id readerId 0).1 := by
  cases h with
  | reader hknown => exact ⟨.refl bus, _, rfl⟩
  | port hids hat =>
      subst hat
      exact ⟨drainChannels_evolves clock (fun _ => trivial) (fun _ => trivial) _ _ _ _ bus, _, rfl⟩
  | component hids hat =>
      subst hat
      exact ⟨drainChannels_evolves clock (fun _ => trivial) (fun _ => trivial) _ _ _ _ bus, _, rfl⟩

/-! ## One drain -/

/-- The batch of a barrier that is full. -/
theorem barrier_batch_full {config : ChannelConfig} {s : ChannelState} (now : Int)
    (readerId : String) (hsingle : isMultiReader config.readers = false)
    (hfull : ¬ s.queue.length < config.capacity) :
    (consumeFromState config now readerId 0 s).1 =
      (unexpired config now s.queue).map (deliveredMessage config now) := by
  have hdrain := (drained_foldl config now readerId (lastDelivered config s readerId) 0 s.queue
    { state := s }).finish
  unfold consumeFromState
  rw [if_neg (by tauto), hdrain.1, takeBatch, if_pos rfl, freshFor_single hsingle]

/-- A barrier with too few messages gives none. -/
theorem barrier_batch_short {config : ChannelConfig} {s : ChannelState} (now : Int)
    (readerId : String) (htype : config.type = .barrier)
    (hshort : s.queue.length < config.capacity) :
    (consumeFromState config now readerId 0 s).1 = [] := by
  unfold consumeFromState
  rw [if_pos ⟨htype, hshort⟩]

/-- A drain of a barrier hands out a complete batch exactly if the queue is
short, nothing in it has expired or everything has. -/
theorem completeBatch_iff {config : ChannelConfig} {s : ChannelState} (now : Int)
    (readerId : String) (htype : config.type = .barrier)
    (hsingle : isMultiReader config.readers = false)
    (hbound : s.queue.length ≤ config.capacity) :
    CompleteBatch config now s.queue (consumeFromState config now readerId 0 s).1 ↔
      s.queue.length < config.capacity ∨
        (∀ message ∈ s.queue, messageExpired config message now = false) ∨
        ∀ message ∈ s.queue, messageExpired config message now = true := by
  by_cases hshort : s.queue.length < config.capacity
  · rw [barrier_batch_short now readerId htype hshort]
    simp [CompleteBatch, hshort]
  · rw [barrier_batch_full now readerId hsingle hshort]
    have hlen : s.queue.length = config.capacity := by omega
    have hle : (unexpired config now s.queue).length ≤ s.queue.length := List.length_filter_le ..
    have htake : (unexpired config now s.queue).take config.capacity =
        unexpired config now s.queue := List.take_of_length_le (by omega)
    -- the batch is complete if it is empty or as long as the queue
    have hcomplete : CompleteBatch config now s.queue
        ((unexpired config now s.queue).map (deliveredMessage config now)) ↔
          unexpired config now s.queue = [] ∨
            (unexpired config now s.queue).length = s.queue.length := by
      unfold CompleteBatch
      rw [htake, List.length_map, hlen]
      simp only [ne_eq, List.map_eq_nil_iff, and_true]
      tauto
    rw [hcomplete]
    have hnone : unexpired config now s.queue = [] ↔
        ∀ message ∈ s.queue, messageExpired config message now = true := by
      simp [unexpired, List.filter_eq_nil_iff]
    have hall : (unexpired config now s.queue).length = s.queue.length ↔
        ∀ message ∈ s.queue, messageExpired config message now = false := by
      simp [unexpired, List.length_filter_eq_length_iff]
    rw [hnone, hall]
    tauto

/-! ## Every run -/

/-- In every run, each batch that an unbounded drain takes from a barrier with
one reader is complete exactly if the queue was short at that moment, or none of
its messages had expired, or all of them had. -/
theorem barrier_batch_complete_iff (clock : Nat → Int) (specs : List EdgeSpec) (ops : List BusOp)
    (id : String) (htype : ((RuntimeChannelBus.ofEdges specs).config id).type = .barrier)
    (hsingle : isMultiReader ((RuntimeChannelBus.ofEdges specs).config id).readers = false)
    (op : BusOp) (bus' : RuntimeChannelBus) (batch : List RuntimeChannelMessage)
    (htakes : TakesBatch clock id (runBus clock (.ofEdges specs) ops) op bus' batch) :
    let config := (RuntimeChannelBus.ofEdges specs).config id
    let now := clock bus'.moment
    let queue := (bus'.channels id).queue
    CompleteBatch config now queue batch ↔
      queue.length < config.capacity ∨
        (∀ message ∈ queue, messageExpired config message now = false) ∨
        ∀ message ∈ queue, messageExpired config message now = true := by
  intro config now queue
  obtain ⟨hevolves, readerId, rfl⟩ := htakes.spec
  have hqueue : config.type.isLatestStyle = false := by
    rw [show config.type = _ from htype]
    rfl
  have hrun := (runBus_evolves clock (.ofEdges specs) ops).trans hevolves
  have hconfig : bus'.config id = config := by rw [hrun.config]
  -- the queue never exceeds the capacity, in any state of the run
  have haccounts : QueueAccounts config (bus'.channels id) := by
    apply ChannelSteps.invariant (fun _ _ => queueAccounts_step hqueue) (hrun.steps id)
    rw [channels_ofEdges]
    exact queueAccounts_init config
  have hbatch : (bus'.consumeChannel clock id readerId 0).1 =
      (consumeFromState config now readerId 0 (bus'.channels id)).1 := by
    simp only [consumeChannel, onChannel, hconfig, hqueue, Bool.false_eq_true, if_false, now]
  rw [hbatch]
  exact completeBatch_iff now readerId htype hsingle haccounts.bounded

/-- A barrier for pairs whose messages live for one millisecond. -/
def pairBarrier : List EdgeSpec :=
  [{ id := "pair", fromEndpoint := "a.out", toEndpoint := "b.in"
     policy := { mode := "barrier", capacity := 2, lifespanMs := 1, copyPolicy := "shared_view" } }]

/-- Two publications. -/
def pairOps : List BusOp :=
  [.publishShared "pair" (some {}) {} none, .publishShared "pair" (some {}) {} none]

theorem pairBarrier_batches :
    CompleteBatch ((RuntimeChannelBus.ofEdges pairBarrier).config "pair") 400000
      ((runBus (fun n => 100000 * n) (.ofEdges pairBarrier) pairOps).channels "pair").queue
      ((runBus (fun n => 100000 * n) (.ofEdges pairBarrier) pairOps).consumeChannel
        (fun n => 100000 * n) "pair" "b.in" 0).1 :=
  (barrier_batch_complete_iff (fun n => 100000 * n) pairBarrier pairOps "pair" (by decide)
    (by decide) _ _ _ (.reader (by decide))).mpr (Or.inr (Or.inl (by decide)))

/-- With half a millisecond between the moments the first message has expired
when the pair is taken: the batch has one message. -/
theorem pairBarrier_incomplete :
    ¬ ∀ (clock : Nat → Int), Monotone clock → ∀ (specs : List EdgeSpec) (ops : List BusOp)
      (id : String), ((RuntimeChannelBus.ofEdges specs).config id).type = .barrier →
      isMultiReader ((RuntimeChannelBus.ofEdges specs).config id).readers = false →
      ∀ op bus' batch, TakesBatch clock id (runBus clock (.ofEdges specs) ops) op bus' batch →
        CompleteBatch ((RuntimeChannelBus.ofEdges specs).config id) (clock bus'.moment)
          (bus'.channels id).queue batch := by
  intro hbatches
  have hmono : Monotone fun n : Nat => (500000 * n : Int) := by
    intro a b hab
    have : (a : Int) ≤ b := by exact_mod_cast hab
    dsimp only
    omega
  have hcomplete := hbatches (fun n => 500000 * n) hmono pairBarrier pairOps "pair" (by decide)
    (by decide) _ _ _ (@TakesBatch.reader _ "pair" _ "b.in" (by decide))
  have hlen := (hcomplete (by decide)).1
  revert hlen
  decide

end TopoExec
