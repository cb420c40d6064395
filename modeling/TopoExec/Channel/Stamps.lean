import Mathlib.Data.List.Basic
import TopoExec.Channel.Stored

/-! # The ids that messages carry

`finalize_message_metadata` gives every message its own id, channel and sequence
number, and fills in a correlation and a transaction where the publication has none.
The id names the message: it can be taken apart again whatever the channel is called
(`metadataId_injective`), and no channel gives a sequence number twice. What readers
get is what was stored, up to the mark of a missed deadline.
-/

namespace TopoExec

/-! ## Ids -/

theorem orElse_ne_empty {text value : String} (h : value ≠ "") : orElse text value ≠ "" := by
  unfold orElse
  split_ifs with htext
  · exact h
  · exact htext

theorem orElse_of_ne {text : String} (h : text ≠ "") (value : String) : orElse text value = text :=
  if_neg h

/-- An id that the bus makes up is never empty. -/
theorem metadataId_ne_empty (channelId : String) (sequence : Nat) :
    metadataId channelId sequence ≠ "" := by
  intro h
  have hlength := congrArg String.length h
  simp [metadataId] at hlength

/-- The sequence number cannot be taken for a part of the channel's name. -/
theorem hash_notMem_toString (n : Nat) : '#' ∉ (toString n).toList := by
  intro hmem
  rw [Nat.toString_eq_ofList_toDigits, String.toList_ofList] at hmem
  have hdigit := Nat.isDigit_of_mem_toDigits (by decide) (by decide) hmem
  revert hdigit
  decide

/-- The last `#` of an id separates the channel from the sequence number. -/
theorem metadataId_injective {channelId channelId' : String} {sequence sequence' : Nat}
    (h : metadataId channelId sequence = metadataId channelId' sequence') :
    channelId = channelId' ∧ sequence = sequence' := by
  have hlists := congrArg (fun id => id.toList.reverse) h
  simp only [metadataId, String.toList_append, List.reverse_append] at hlists
  have hparts : (toString sequence).toList.reverse ++ '#' :: channelId.toList.reverse =
      (toString sequence').toList.reverse ++ '#' :: channelId'.toList.reverse := hlists
  have hdigits : ∀ n : Nat, '#' ∉ (toString n).toList.reverse := by
    intro n hmem
    exact hash_notMem_toString n (List.mem_reverse.mp hmem)
  -- the digits reach up to the separator on both sides
  rw [List.append_eq_append_iff] at hparts
  have hsplit : (toString sequence).toList.reverse = (toString sequence').toList.reverse ∧
      channelId.toList.reverse = channelId'.toList.reverse := by
    rcases hparts with ⟨extra, hleft, hright⟩ | ⟨extra, hleft, hright⟩
    · cases extra with
      | nil => simp_all
      | cons c extra =>
          obtain ⟨rfl, -⟩ := List.cons.inj hright
          exact absurd (by rw [hleft]; simp) (hdigits sequence')
    · cases extra with
      | nil => simp_all
      | cons c extra =>
          obtain ⟨rfl, -⟩ := List.cons.inj hright
          exact absurd (by rw [hleft]; simp) (hdigits sequence)
  obtain ⟨hsequence, hchannel⟩ := hsplit
  have hvalues := congrArg (fun digits => Nat.ofDigitChars 10 digits.reverse 0) hsequence
  refine ⟨String.toList_inj.mp (List.reverse_inj.mp hchannel), ?_⟩
  simpa [Nat.toString_eq_ofList_toDigits] using hvalues

/-! ## Stamped messages -/

/-- The id of a message. -/
def RuntimeChannelMessage.ownId (message : RuntimeChannelMessage) : String :=
  metadataId message.channelId message.sequence

/-- The message carries its own id and belongs to a correlation and a transaction. -/
structure Stamped (message : RuntimeChannelMessage) : Prop where
  causation : message.metadata.causationId = message.ownId
  correlation : message.metadata.correlationId ≠ ""
  transaction : message.metadata.transactionId ≠ ""

/-- A message that is published has its ids. -/
theorem messageOf_stamped (config : ChannelConfig) (s : ChannelState) (now : Int)
    (prepared : Prepared) : Stamped (messageOf config s now prepared) := by
  have hcorrelation : orElse prepared.metadata.correlationId
      (metadataId config.id s.nextSequence) ≠ "" :=
    orElse_ne_empty (metadataId_ne_empty _ _)
  exact ⟨rfl, hcorrelation, orElse_ne_empty hcorrelation⟩

/-- Delivering a message leaves its ids alone. -/
theorem Stamped.delivered {message : RuntimeChannelMessage} (h : Stamped message)
    (config : ChannelConfig) (now : Int) : Stamped (deliveredMessage config now message) :=
  ⟨h.causation, h.correlation, h.transaction⟩

/-! ## What a channel shows -/

variable {allowed : StepKind → Prop} {config : ChannelConfig} {s s' : ChannelState}

/-- The message can still reach a reader. -/
def Shown (s : ChannelState) (message : RuntimeChannelMessage) : Prop :=
  message ∈ s.latest ∨ message ∈ s.pendingPreviousTick ∨ message ∈ s.queue

/-- What a step does to the messages of a channel: it stores a new one, or takes some
out of sight. -/
inductive StoreStep (config : ChannelConfig) (s s' : ChannelState) : Prop where
  | quiet (stored : s'.ledger.stored = s.ledger.stored) (next : s.nextSequence ≤ s'.nextSequence)
      (shown : ∀ message, Shown s' message → Shown s message)
  | store (now : Int) (prepared : Prepared)
      (stored : s'.ledger.stored = s.ledger.stored ++ [messageOf config s now prepared])
      (next : s'.nextSequence = s.nextSequence + 1)
      (shown : ∀ message, Shown s' message →
        Shown s message ∨ message = messageOf config s now prepared)

/-- The slots stay as they are and the queue gets no new messages. -/
theorem StoreStep.kept (hstored : s'.ledger.stored = s.ledger.stored)
    (hnext : s.nextSequence ≤ s'.nextSequence) (hlatest : s'.latest = s.latest)
    (hpending : s'.pendingPreviousTick = s.pendingPreviousTick)
    (hqueue : s'.queue.Sublist s.queue) : StoreStep config s s' := by
  refine .quiet hstored hnext ?_
  rintro message (hmem | hmem | hmem)
  · exact Or.inl (hlatest ▸ hmem)
  · exact Or.inr (Or.inl (hpending ▸ hmem))
  · exact Or.inr (Or.inr (hqueue.subset hmem))

theorem SameQueueSide.stores (h : SameQueueSide s s') (hqueue : s'.queue.Sublist s.queue) :
    StoreStep config s s' :=
  .kept h.stored h.nextSequence.ge h.latest h.pending hqueue

/-- Every step stores nothing, or one message with its ids. -/
theorem ChannelStep.stores (hstep : ChannelStep allowed config s s') : StoreStep config s s' := by
  cases hstep.effect with
  | unaffected hu =>
      exact .kept hu.stored hu.nextSequence hu.latest hu.pending (hu.queue ▸ .refl _)
  | enqueued _ _ now prepared he =>
      refine .store now prepared he.stored he.nextSequence ?_
      rintro message (hlatest | hpending | hqueue)
      · rw [he.latest] at hlatest
        exact Or.inr (Option.some.inj hlatest).symm
      · rw [he.pending] at hpending
        exact Or.inl (Or.inr (Or.inl hpending))
      · rw [he.queue] at hqueue
        -- whatever eviction leaves was there before or is the new message
        rcases List.mem_append.mp (List.mem_of_mem_drop hqueue) with hold | hnew
        · exact Or.inl (Or.inr (Or.inr hold))
        · exact Or.inr (List.mem_singleton.mp hnew)
  | replaced _ htype _ now prepared =>
      rw [acceptLatest_eq htype]
      refine .store now prepared rfl rfl ?_
      rintro message (hlatest | hpending | hqueue)
      · exact Or.inr (Option.some.inj hlatest).symm
      · exact Or.inl (Or.inr (Or.inl hpending))
      · exact absurd hqueue List.not_mem_nil
  | staged _ _ now prepared =>
      refine .store now prepared rfl rfl ?_
      rintro message (hlatest | hpending | hqueue)
      · exact Or.inl (Or.inl hlatest)
      · exact Or.inr (Option.some.inj hpending).symm
      · exact Or.inl (Or.inr (Or.inr hqueue))
  | advanced _ _ pending hwaiting =>
      -- what waited becomes the latest
      refine .quiet rfl (Nat.le_refl _) ?_
      rintro message (hlatest | hnone | hqueue)
      · exact Or.inr (Or.inl (hwaiting.trans hlatest))
      · cases hnone
      · exact Or.inr (Or.inr hqueue)
  | expired now _ _ message =>
      refine .quiet rfl (Nat.le_refl _) ?_
      rintro other (hlatest | hpending | hqueue)
      · cases hlatest
      · exact Or.inr (Or.inl hpending)
      · exact Or.inr (Or.inr hqueue)
  | delivered => exact .kept rfl (Nat.le_refl _) rfl rfl (.refl _)
  | snapshotted now _ _ hc => exact hc.frame.stores (hc.queue ▸ List.filter_sublist)
  | consumed now _ _ readerId maxBatch hc => exact hc.frame.stores hc.queue_sublist

/-- The channel has stored stamped messages under increasing sequence numbers, and it
shows no others. -/
structure StampedChannel (config : ChannelConfig) (s : ChannelState) : Prop where
  stamped : ∀ message ∈ s.ledger.stored, Stamped message
  channelId : ∀ message ∈ s.ledger.stored, message.channelId = config.id
  below : ∀ message ∈ s.ledger.stored, message.sequence < s.nextSequence
  increasing : (s.ledger.stored.map RuntimeChannelMessage.sequence).Pairwise (· < ·)
  shown : ∀ message, Shown s message → message ∈ s.ledger.stored

theorem stampedChannel_init (config : ChannelConfig) : StampedChannel config {} := by
  refine ⟨by simp, by simp, by simp, .nil, ?_⟩
  rintro message (hmem | hmem | hmem) <;> cases hmem

/-- The messages of a channel keep their ids. -/
theorem stampedChannel_step (hstep : StoreStep config s s') (h : StampedChannel config s) :
    StampedChannel config s' := by
  cases hstep with
  | quiet stored next shown =>
      refine ⟨?_, ?_, ?_, ?_, ?_⟩ <;> rw [stored]
      · exact h.stamped
      · exact h.channelId
      · exact fun message hm => (h.below message hm).trans_le next
      · exact h.increasing
      · exact fun message hm => h.shown message (shown message hm)
  | store now prepared stored next shown =>
      have hnew : messageOf config s now prepared ∈ s'.ledger.stored := by
        rw [stored]
        exact List.mem_append_right _ (List.mem_singleton_self _)
      -- one message is new, and it takes the next sequence number
      have hcases : ∀ message ∈ s'.ledger.stored,
          message ∈ s.ledger.stored ∨ message = messageOf config s now prepared := by
        intro message hm
        rw [stored] at hm
        exact (List.mem_append.mp hm).imp_right List.mem_singleton.mp
      refine ⟨?_, ?_, ?_, ?_, ?_⟩
      · intro message hm
        rcases hcases message hm with hold | rfl
        · exact h.stamped message hold
        · exact messageOf_stamped config s now prepared
      · intro message hm
        rcases hcases message hm with hold | rfl
        · exact h.channelId message hold
        · rfl
      · intro message hm
        rw [next]
        rcases hcases message hm with hold | rfl
        · exact (h.below message hold).trans (Nat.lt_succ_self _)
        · exact Nat.lt_succ_self _
      · rw [stored, List.map_append, List.pairwise_append]
        refine ⟨h.increasing, List.pairwise_singleton .., ?_⟩
        intro n hn m hm
        -- so its number is above all the numbers in use
        obtain ⟨message, hmessage, rfl⟩ := List.mem_map.mp hn
        rw [List.map_singleton, List.mem_singleton] at hm
        subst hm
        exact h.below message hmessage
      · intro message hm
        rcases shown message hm with hold | rfl
        · rw [stored]
          exact List.mem_append_left _ (h.shown message hold)
        · exact hnew

/-! ## The bus -/

structure StampedBus (bus : RuntimeChannelBus) : Prop where
  configId : ∀ id, (bus.config id).id = id
  channel : ∀ id, StampedChannel (bus.config id) (bus.channels id)

/-- However the bus evolves, its messages have their ids. -/
theorem StampedBus.evolves {bus bus' : RuntimeChannelBus} (h : StampedBus bus)
    (hevolves : Evolves allowed bus bus') : StampedBus bus' := by
  constructor
  · rw [hevolves.config]
    exact h.configId
  · intro id
    rw [hevolves.config]
    exact ChannelSteps.invariant (fun _ _ hstep hs => stampedChannel_step hstep.stores hs)
      (hevolves.steps id) (h.channel id)

/-- A channel knows its own name. -/
theorem configId_ofEdges (specs : List EdgeSpec) (id : String) :
    ((RuntimeChannelBus.ofEdges specs).config id).id = id := by
  have hfold : ∀ (specs : List EdgeSpec) (bus : RuntimeChannelBus),
      (∀ id, (bus.config id).id = id) →
        ∀ id, ((specs.foldl RuntimeChannelBus.addEdge bus).config id).id = id := by
    intro specs
    induction specs with
    | nil => exact fun bus h => h
    | cons spec specs ih =>
        intro bus h
        refine ih _ fun id => ?_
        by_cases hid : id = spec.id
        · simp [RuntimeChannelBus.addEdge, hid, ChannelConfig.ofEdge]
        · simp [RuntimeChannelBus.addEdge, hid, h id]
  exact hfold specs .empty (fun _ => rfl) id

theorem stampedBus_ofEdges (specs : List EdgeSpec) : StampedBus (.ofEdges specs) := by
  refine ⟨configId_ofEdges specs, fun id => ?_⟩
  rw [channels_ofEdges]
  exact stampedChannel_init _

/-- No two messages that a bus has stored carry the same id. -/
theorem StampedBus.causationId_injective {bus : RuntimeChannelBus} (h : StampedBus bus)
    {id id' : String} {i j : Nat} {message message' : RuntimeChannelMessage}
    (hi : (bus.channels id).ledger.stored[i]? = some message)
    (hj : (bus.channels id').ledger.stored[j]? = some message')
    (hsame : message.metadata.causationId = message'.metadata.causationId) :
    id = id' ∧ i = j := by
  have hmem := List.mem_of_getElem? hi
  have hmem' := List.mem_of_getElem? hj
  rw [((h.channel id).stamped message hmem).causation,
    ((h.channel id').stamped message' hmem').causation] at hsame
  obtain ⟨hchannel, hsequence⟩ := metadataId_injective hsame
  have hid : id = id' := by
    rw [← h.configId id, ← h.configId id', ← (h.channel id).channelId message hmem, hchannel]
    exact (h.channel id').channelId message' hmem'
  subst hid
  refine ⟨rfl, ?_⟩
  -- the sequence numbers of one channel increase
  have hnodup : ((bus.channels id).ledger.stored.map RuntimeChannelMessage.sequence).Nodup :=
    (h.channel id).increasing.imp fun hlt => hlt.ne
  have hbound := (List.getElem?_eq_some_iff.mp hi).1
  refine (List.getElem?_inj (by rw [List.length_map]; exact hbound) hnodup).mp ?_
  rw [List.getElem?_map, List.getElem?_map, hi, hj, Option.map_some, Option.map_some, hsequence]

/-! ## What readers get -/

namespace RuntimeChannelBus

variable {bus : RuntimeChannelBus} (clock : Nat → Int)

/-- What a drain hands out has its ids. -/
theorem consumeChannel_stamped (h : StampedBus bus) (id readerId : String) (maxBatch : Nat) :
    ∀ message ∈ (bus.consumeChannel clock id readerId maxBatch).1, Stamped message := by
  have hshown : ∀ message, Shown (bus.channels id) message → Stamped message :=
    fun message hm => (h.channel id).stamped message ((h.channel id).shown message hm)
  intro message hm
  unfold consumeChannel onChannel at hm
  dsimp only at hm
  split_ifs at hm
  · unfold consumeLatestFromState at hm
    cases hlatest : (bus.channels id).latest with
    | none => simp [hlatest] at hm
    | some latest =>
        simp only [hlatest] at hm
        split_ifs at hm
        · simp at hm
        · simp at hm
        all_goals
          rw [Option.toList_some, List.mem_singleton] at hm
          rw [hm]
          exact (hshown latest (Or.inl hlatest)).delivered _ _
  · rcases consumeFromState_spec (bus.config id) (clock bus.moment) readerId maxBatch
      (bus.channels id) with ⟨_, heq⟩ | ⟨hout, _⟩
    · rw [heq] at hm
      cases hm
    · rw [hout] at hm
      obtain ⟨original, horiginal, rfl⟩ := List.mem_map.mp hm
      refine (hshown original (Or.inr (Or.inr ?_))).delivered _ _
      -- a batch is taken from the queue
      unfold takeBatch at horiginal
      split_ifs at horiginal
      · exact (List.filter_sublist.trans List.filter_sublist).subset horiginal
      · exact (List.filter_sublist.trans List.filter_sublist).subset
          (List.mem_of_mem_take horiginal)

/-- Channel after channel the messages have their ids. -/
theorem drainChannels_stamped (readerId : String) (maxBatch : Nat) (ids : List String)
    (messages : List RuntimeChannelMessage) (bus : RuntimeChannelBus) (h : StampedBus bus)
    (hmessages : ∀ message ∈ messages, Stamped message) :
    ∀ message ∈ (drainChannels clock readerId maxBatch ids messages bus).1, Stamped message := by
  induction ids generalizing messages bus with
  | nil => exact hmessages
  | cons id rest ih =>
      unfold drainChannels
      dsimp only
      split_ifs
      · exact hmessages
      all_goals
        have hevolves : Evolves anyStep bus
            (bus.consumeChannel clock id readerId (maxBatch - messages.length)).2 :=
          consumeChannel_evolves clock (fun _ => trivial) (fun _ => trivial) bus id readerId _
        refine ih _ _ (h.evolves hevolves) ?_
        intro message hm
        rcases List.mem_append.mp hm with hold | hnew
        · exact hmessages message hold
        · exact consumeChannel_stamped clock h id readerId _ message (List.mem_of_mem_take hnew)

theorem drainForComponentPort_stamped (h : StampedBus bus) (componentId portName : String)
    (maxBatch : Nat) :
    ∀ message ∈ (bus.drainForComponentPort clock componentId portName maxBatch).1,
      Stamped message :=
  drainChannels_stamped clock _ maxBatch _ [] bus h (by simp)

end RuntimeChannelBus

/-! ## What a batch stores -/

/-- The message that a publication of a batch became. -/
structure PublishedAs (publication : RuntimeChannelPublication) (message : RuntimeChannelMessage) :
    Prop where
  payload : publication.payload = some message.payload
  eventTimestamp : message.eventTimestamp = publication.eventTimestamp
  tag : message.tag = publication.tag
  correlation : message.metadata.correlationId =
    orElse publication.metadata.correlationId message.ownId
  transaction : message.metadata.transactionId =
    orElse publication.metadata.transactionId message.metadata.correlationId

namespace RuntimeChannelBus

variable {bus : RuntimeChannelBus}

/-- The metadata of a message is that of its publication. -/
theorem StoredAs.publishedAs {config : ChannelConfig} {e : ExpandedPublication}
    {message : RuntimeChannelMessage} (h : StoredAs config e message)
    {p : RuntimeChannelPublication} (hexpands : ExpandsTo p e) : PublishedAs p message := by
  refine ⟨?_, h.eventTimestamp.trans hexpands.eventTimestamp, h.tag.trans hexpands.tag, ?_, ?_⟩
  · rw [hexpands.payload, h.payload]
  · rw [h.metadata, hexpands.metadata, RuntimeChannelMessage.ownId, h.channelId]
    rfl
  · rw [h.metadata, hexpands.metadata]
    rfl

/-- Whatever is in a channel after a batch was there before or came with the batch. -/
theorem publishBatch_stored (clock : Nat → Int) {publications : List RuntimeChannelPublication}
    (htarget : ∀ p ∈ publications, p.target = .channel) {id : String}
    {message : RuntimeChannelMessage}
    (hmem : message ∈ ((bus.publishBatch clock publications).2.channels id).ledger.stored) :
    message ∈ (bus.channels id).ledger.stored ∨ ∃ p ∈ publications, PublishedAs p message := by
  obtain ⟨-, hbatch⟩ := publishBatch_allOrNothing clock bus publications
  cases haccepted : (bus.publishBatch clock publications).1.accepted with
  | false =>
      rw [(hbatch.rejected haccepted id).stored] at hmem
      exact Or.inl hmem
  | true =>
      obtain ⟨expanded, hexpanded, hstored⟩ := hbatch.accepted haccepted
      obtain ⟨new, hnew, hall, -⟩ := (hstored id).stored
      rw [hnew] at hmem
      rcases List.mem_append.mp hmem with hold | hmem
      · exact Or.inl hold
      right
      -- the new messages are the publications of the batch, one by one
      obtain ⟨e, he, hstored⟩ := Paired.exists_left hall hmem
      obtain ⟨p, hp, hexpands⟩ := Paired.exists_left (expandAll_channels htarget hexpanded)
        (List.mem_of_mem_filter he)
      exact ⟨p, hp, hstored.publishedAs hexpands⟩

end RuntimeChannelBus

end TopoExec
