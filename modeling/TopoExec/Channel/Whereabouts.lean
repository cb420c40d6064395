import TopoExec.Channel.Accounting
import TopoExec.Channel.Slots

/-! # Where a stored message is

The ledger of a channel records what has been stored and what has become of it. `Located`
ties that record to the queue and the slots, which is all that readers are served from:
what they hold was stored, and a message that was stored is still there unless there is a
reason for its being gone (`Gone`).
-/

namespace TopoExec

/-- The channel has the message where its readers look: in the queue, or in one of the two
slots. A queue channel keeps its last message in `latest` as well, where nobody looks. -/
def ChannelState.Contains (config : ChannelConfig) (s : ChannelState)
    (message : RuntimeChannelMessage) : Prop :=
  if config.type.isLatestStyle then
    s.latest = some message ∨ s.pendingPreviousTick = some message
  else message ∈ s.queue

/-- At some reading of the clock the message is older than the lifespan of its channel. -/
def Outlived (clock : Nat → Int) (config : ChannelConfig) (message : RuntimeChannelMessage) :
    Prop :=
  0 < config.lifespan ∧
    ∃ n, config.lifespan * nanosecondsPerMillisecond < clock n - message.publishedAt

/-- How many messages have been stored after this one. -/
def ChannelState.newerThan (s : ChannelState) (message : RuntimeChannelMessage) : Nat :=
  s.ledger.stored.countP fun newer => message.sequence < newer.sequence

/-- Why a stored message can be gone. -/
inductive Gone (clock : Nat → Int) (config : ChannelConfig) (s : ChannelState)
    (message : RuntimeChannelMessage) : Prop where
  /-- A full queue of newer messages pushed it out. -/
  | evicted (type : config.type.isLatestStyle = false)
      (recorded : message.sequence ∈ s.ledger.evicted)
      (full : config.capacity ≤ s.newerThan message)
  /-- The only reader took it. -/
  | taken (type : config.type.isLatestStyle = false)
      (single : isMultiReader config.readers = false)
      (recorded : message.sequence ∈ s.ledger.delivered.map Prod.snd)
  | expired (recorded : message.sequence ∈ s.ledger.expired) (old : Outlived clock config message)
  /-- A newer value took its slot. -/
  | replaced (type : config.type.isLatestStyle = true) (newer : RuntimeChannelMessage)
      (stored : newer ∈ s.ledger.stored) (later : message.sequence < newer.sequence)

/-! ## The record grows -/

structure Grows (s s' : ChannelState) : Prop where
  stored : s.ledger.stored <+: s'.ledger.stored
  evicted : s.ledger.evicted <+: s'.ledger.evicted
  expired : s.ledger.expired <+: s'.ledger.expired
  delivered : s.ledger.delivered <+: s'.ledger.delivered

variable {clock : Nat → Int} {allowed : StepKind → Prop} {config : ChannelConfig}
  {s s' : ChannelState} {message : RuntimeChannelMessage}

/-- Nothing that was noted is taken back. -/
theorem ChannelEffect.grows (h : ChannelEffect allowed config s s') : Grows s s' := by
  have hrefl : ∀ {α : Type} (l : List α), l <+: l := List.prefix_refl
  cases h with
  | unaffected hu =>
      refine ⟨?_, ?_, ?_, ?_⟩
      · rw [hu.stored]
      · rw [hu.evicted]
      · rw [hu.expired]
      · rw [hu.delivered]
  | enqueued _ _ now prepared he =>
      refine ⟨he.stored ▸ List.prefix_append .., he.evicted ▸ List.prefix_append .., ?_, ?_⟩
      · rw [he.expired]
      · rw [he.delivered]
  | replaced _ htype _ now prepared =>
      rw [acceptLatest_eq htype]
      exact ⟨List.prefix_append .., hrefl _, hrefl _, hrefl _⟩
  | staged => exact ⟨List.prefix_append .., hrefl _, hrefl _, hrefl _⟩
  | advanced => exact ⟨hrefl _, hrefl _, hrefl _, hrefl _⟩
  | expired => exact ⟨hrefl _, hrefl _, List.prefix_append .., hrefl _⟩
  | delivered => exact ⟨hrefl _, hrefl _, hrefl _, List.prefix_append ..⟩
  | snapshotted now _ _ hc =>
      refine ⟨?_, ?_, hc.expired ▸ List.prefix_append .., ?_⟩
      · rw [hc.frame.stored]
      · rw [hc.frame.evicted]
      · rw [hc.delivered]
  | consumed now _ _ readerId maxBatch hc =>
      refine ⟨?_, ?_, hc.expired ▸ List.prefix_append .., hc.delivered ▸ List.prefix_append ..⟩
      · rw [hc.frame.stored]
      · rw [hc.frame.evicted]

/-- What is gone stays gone. -/
theorem Gone.mono (hgrows : Grows s s') (h : Gone clock config s message) :
    Gone clock config s' message := by
  cases h with
  | evicted type recorded full =>
      exact .evicted type (hgrows.evicted.subset recorded)
        (full.trans hgrows.stored.sublist.countP_le)
  | taken type single recorded =>
      exact .taken type single ((hgrows.delivered.map Prod.snd).subset recorded)
  | expired recorded old => exact .expired (hgrows.expired.subset recorded) old
  | replaced type newer stored later =>
      exact .replaced type newer (hgrows.stored.subset stored) later

/-! ## The invariant -/

/-- The record of the channel is true. -/
structure Located (clock : Nat → Int) (config : ChannelConfig) (s : ChannelState) : Prop where
  slots : Slots config s
  accounts : config.type.isLatestStyle = false → QueueAccounts config s
  genuine : ∀ message, s.Contains config message → message ∈ s.ledger.stored
  whereabouts : ∀ message ∈ s.ledger.stored,
    s.Contains config message ∨ Gone clock config s message

/-- A queue holds what it has queued. -/
theorem contains_queue (htype : config.type.isLatestStyle = false) :
    s.Contains config message ↔ message ∈ s.queue := by
  simp [ChannelState.Contains, htype]

/-- A latest-style channel holds one value, or two of which one is pending. -/
theorem contains_latest (htype : config.type.isLatestStyle = true) :
    s.Contains config message ↔
      s.latest = some message ∨ s.pendingPreviousTick = some message := by
  simp [ChannelState.Contains, htype]

theorem located_init (clock : Nat → Int) (config : ChannelConfig) : Located clock config {} where
  slots := slots_init config
  accounts := fun _ => queueAccounts_init config
  genuine := by
    intro message h
    unfold ChannelState.Contains at h
    split_ifs at h
    · simp at h
    · simp at h
  whereabouts := by simp

/-! ## What a step moves -/

/-- What is expired at a time of the clock has outlived its lifespan. -/
theorem outlived_of_expired {now : Int} (hnow : ∃ n, now = clock n)
    (h : messageExpired config message now = true) : Outlived clock config message := by
  rcases hnow with ⟨n, rfl⟩
  rw [messageExpired, Bool.and_eq_true, decide_eq_true_eq, decide_eq_true_eq] at h
  exact ⟨h.1, n, h.2⟩

/-- What a walk over the queue drops has expired. -/
theorem gone_or_unexpired {now : Int} (hnow : ∃ n, now = clock n)
    (hexpired : s'.ledger.expired = s.ledger.expired ++
      (expiredIn config now s.queue).map RuntimeChannelMessage.sequence)
    (h : message ∈ s.queue) :
    Gone clock config s' message ∨ message ∈ unexpired config now s.queue := by
  cases hlate : messageExpired config message now with
  | true =>
      refine Or.inl (.expired ?_ (outlived_of_expired hnow hlate))
      rw [hexpired]
      exact List.mem_append_right _ (List.mem_map_of_mem (List.mem_filter.mpr ⟨h, hlate⟩))
  | false => exact Or.inr (List.mem_filter.mpr ⟨h, by simp [hlate]⟩)

/-- The queue with the new message, which is in front of what stays, and what is popped. -/
theorem Enqueued.queue_split (h : Enqueued config message s s') :
    (s.queue ++ [message]).take (s.queue.length + 1 - config.capacity) ++ s'.queue =
      s.queue ++ [message] := by
  rw [h.queue, List.take_append_drop]

/-- The queue keeps the message, or as many newer ones as it has room for. -/
theorem Located.enqueued {new : RuntimeChannelMessage} (h : Located clock config s)
    (htype : config.type.isLatestStyle = false) (hseq : new.sequence = s.nextSequence)
    (he : Enqueued config new s s') (hmem : message ∈ s.queue ++ [new]) :
    s'.Contains config message ∨ Gone clock config s' message := by
  have haccounts := h.accounts htype
  have hsplit := he.queue_split
  have hordered : ((s.queue ++ [new]).map RuntimeChannelMessage.sequence).Pairwise (· < ·) := by
    rw [List.map_append, List.pairwise_append]
    refine ⟨haccounts.ordered, by simp, fun a ha b hb => ?_⟩
    rcases List.mem_map.mp ha with ⟨m, hm, rfl⟩
    rw [List.map_singleton, List.mem_singleton] at hb
    rw [hb, hseq]
    exact haccounts.below m hm
  have hstored : ∀ m ∈ s'.queue, m ∈ s'.ledger.stored := by
    intro m hm
    rw [he.stored]
    have hold : m ∈ s.queue ++ [new] := hsplit ▸ List.mem_append_right _ hm
    rcases List.mem_append.mp hold with hold | hnew
    · exact List.mem_append_left _ (h.genuine m ((contains_queue htype).mpr hold))
    · exact List.mem_append_right _ hnew
  rw [← hsplit] at hmem hordered
  -- the message has been pushed out of the front, or is in the new queue
  rcases List.mem_append.mp hmem with hpopped | hkept
  · right
    rw [List.map_append, List.pairwise_append] at hordered
    rcases hordered with ⟨-, hqueue, hlater⟩
    refine .evicted htype ?_ ?_
    · rw [he.evicted]
      exact List.mem_append_right _ (List.mem_map_of_mem hpopped)
    · -- the queue is full, and all that is in it is newer
      have hlength : s'.queue.length = config.capacity := by
        have hpos := List.length_pos_of_mem hpopped
        rw [List.length_take] at hpos
        rw [he.queue, List.length_drop, List.length_append, List.length_singleton]
        omega
      have hnodup : s'.queue.Nodup := List.Nodup.of_map _ (hqueue.imp Nat.ne_of_lt)
      rw [← hlength, ChannelState.newerThan, List.countP_eq_length_filter]
      refine (hnodup.subperm fun m hm => List.mem_filter.mpr ⟨hstored m hm, ?_⟩).length_le
      exact decide_eq_true (hlater _ (List.mem_map_of_mem hpopped) _ (List.mem_map_of_mem hm))
  · exact Or.inl ((contains_queue htype).mpr hkept)

/-- A drain takes out what it delivers, and what has expired. -/
theorem contains_or_gone_consumed {now : Int} (hnow : ∃ n, now = clock n) {readerId : String}
    {out : List RuntimeChannelMessage} (htype : config.type.isLatestStyle = false)
    (hc : Consumed config now readerId out s s') (hmem : message ∈ s.queue) :
    s'.Contains config message ∨ Gone clock config s' message := by
  rw [contains_queue htype]
  rcases gone_or_unexpired hnow hc.expired hmem with hgone | hlive
  · exact Or.inr hgone
  · have hqueue := hc.queue
    split_ifs at hqueue with hmulti
    · exact Or.inl (hqueue ▸ hlive)
    · rw [← hqueue] at hlive
      rcases List.mem_append.mp hlive with hout | hrest
      · refine Or.inr (.taken htype (Bool.not_eq_true _ ▸ hmulti) ?_)
        rw [hc.delivered, List.map_append, List.map_map]
        exact List.mem_append_right _ (List.mem_map_of_mem hout)
      · exact Or.inl hrest

/-- What the channel had, it has or had a reason to let go. -/
theorem Located.moves (h : Located clock config s)
    (heffect : ChannelEffect (clockStep clock) config s s') (hmem : s.Contains config message) :
    s'.Contains config message ∨ Gone clock config s' message := by
  cases heffect with
  | unaffected hu =>
      left
      unfold ChannelState.Contains at hmem ⊢
      rw [hu.latest, hu.pending, hu.queue]
      exact hmem
  | enqueued _ htype now prepared he =>
      exact h.enqueued htype rfl he (List.mem_append_left _ ((contains_queue htype).mp hmem))
  | replaced _ htype hother now prepared =>
      rw [acceptLatest_eq htype]
      rcases (contains_latest htype).mp hmem with hlatest | hpending
      · refine Or.inr (.replaced htype (messageOf config s now prepared) ?_ ?_)
        · exact List.mem_append_right _ (List.mem_singleton_self _)
        · exact h.slots.latest message hlatest
      · rw [h.slots.unused hother] at hpending
        cases hpending
  | staged _ htype now prepared =>
      have hstyle : config.type.isLatestStyle = true := by rw [htype]; rfl
      rcases (contains_latest hstyle).mp hmem with hlatest | hpending
      · exact Or.inl ((contains_latest hstyle).mpr (Or.inl hlatest))
      · refine Or.inr (.replaced hstyle (messageOf config s now prepared) ?_ ?_)
        · exact List.mem_append_right _ (List.mem_singleton_self _)
        · exact (h.slots.pending message hpending).1
  | advanced _ htype waiting hwaiting =>
      have hstyle : config.type.isLatestStyle = true := by rw [htype]; rfl
      rcases (contains_latest hstyle).mp hmem with hlatest | hpending
      · -- the value that waited takes the slot
        refine Or.inr (.replaced hstyle waiting ?_ ?_)
        · exact h.genuine waiting ((contains_latest hstyle).mpr (Or.inr hwaiting))
        · exact (h.slots.pending waiting hwaiting).2 message hlatest
      · rw [hwaiting] at hpending
        exact Or.inl ((contains_latest hstyle).mpr (Or.inl hpending))
  | expired now hnow htype value hvisible hlate =>
      rcases (contains_latest htype).mp hmem with hlatest | hpending
      · rw [hvisible] at hlatest
        cases hlatest
        refine Or.inr (.expired ?_ (outlived_of_expired hnow hlate))
        exact List.mem_append_right _ (List.mem_singleton_self _)
      · exact Or.inl ((contains_latest htype).mpr (Or.inr hpending))
  | delivered now _ htype readerId value =>
      exact Or.inl ((contains_latest htype).mpr ((contains_latest htype).mp hmem))
  | snapshotted now hnow htype hc =>
      rw [contains_queue htype] at hmem ⊢
      rw [hc.queue]
      exact (gone_or_unexpired hnow hc.expired hmem).symm
  | consumed now hnow htype readerId maxBatch hc =>
      exact contains_or_gone_consumed hnow htype hc ((contains_queue htype).mp hmem)

/-- What a step stores. -/
theorem Located.newcomer (h : Located clock config s)
    (heffect : ChannelEffect (clockStep clock) config s s') (hmem : message ∈ s'.ledger.stored) :
    message ∈ s.ledger.stored ∨ s'.Contains config message ∨ Gone clock config s' message := by
  cases heffect with
  | unaffected hu => exact Or.inl (hu.stored ▸ hmem)
  | enqueued _ htype now prepared he =>
      rw [he.stored] at hmem
      refine (List.mem_append.mp hmem).imp_right fun hnew => ?_
      exact h.enqueued htype rfl he (List.mem_append_right _ hnew)
  | replaced _ htype hother now prepared =>
      rw [acceptLatest_eq htype] at hmem ⊢
      refine (List.mem_append.mp hmem).imp_right fun hnew => Or.inl ?_
      rw [List.mem_singleton.mp hnew]
      exact (contains_latest htype).mpr (Or.inl rfl)
  | staged _ htype now prepared =>
      refine (List.mem_append.mp hmem).imp_right fun hnew => Or.inl ?_
      rw [List.mem_singleton.mp hnew]
      exact (contains_latest (by rw [htype]; rfl)).mpr (Or.inr rfl)
  | advanced => exact Or.inl hmem
  | expired => exact Or.inl hmem
  | delivered => exact Or.inl hmem
  | snapshotted now _ _ hc => exact Or.inl (hc.frame.stored ▸ hmem)
  | consumed now _ _ readerId maxBatch hc => exact Or.inl (hc.frame.stored ▸ hmem)

/-- The channel holds what it held, or what was stored in this step. -/
theorem Located.genuine_step (h : Located clock config s)
    (heffect : ChannelEffect allowed config s s') (hmem : s'.Contains config message) :
    message ∈ s'.ledger.stored := by
  have hgrows := heffect.grows.stored
  -- what a channel holds it held before, or the step has stored it
  cases heffect with
  | unaffected hu =>
      unfold ChannelState.Contains at hmem
      rw [hu.latest, hu.pending, hu.queue] at hmem
      exact hgrows.subset (h.genuine message hmem)
  | enqueued _ htype now prepared he =>
      rw [contains_queue htype] at hmem
      have hold : message ∈ s.queue ++ [messageOf config s now prepared] :=
        he.queue_split ▸ List.mem_append_right _ hmem
      rw [he.stored]
      rcases List.mem_append.mp hold with hold | hnew
      · exact List.mem_append_left _ (h.genuine message ((contains_queue htype).mpr hold))
      · exact List.mem_append_right _ hnew
  | replaced _ htype hother now prepared =>
      rw [contains_latest htype, acceptLatest_eq htype] at hmem
      rw [acceptLatest_eq htype]
      rcases hmem with hlatest | hpending
      · cases hlatest
        exact List.mem_append_right _ (List.mem_singleton_self _)
      · exact List.mem_append_left _
          (h.genuine message ((contains_latest htype).mpr (Or.inr hpending)))
  | staged _ htype now prepared =>
      have hstyle : config.type.isLatestStyle = true := by rw [htype]; rfl
      rcases (contains_latest hstyle).mp hmem with hlatest | hpending
      · exact List.mem_append_left _
          (h.genuine message ((contains_latest hstyle).mpr (Or.inl hlatest)))
      · cases hpending
        exact List.mem_append_right _ (List.mem_singleton_self _)
  | advanced _ htype waiting hwaiting =>
      have hstyle : config.type.isLatestStyle = true := by rw [htype]; rfl
      rcases (contains_latest hstyle).mp hmem with hlatest | hpending
      · cases hlatest
        exact h.genuine message ((contains_latest hstyle).mpr (Or.inr hwaiting))
      · cases hpending
  | expired now _ htype value hvisible =>
      rcases (contains_latest htype).mp hmem with hlatest | hpending
      · cases hlatest
      · exact h.genuine message ((contains_latest htype).mpr (Or.inr hpending))
  | delivered now _ htype readerId value =>
      exact h.genuine message ((contains_latest htype).mpr ((contains_latest htype).mp hmem))
  | snapshotted now _ htype hc =>
      rw [contains_queue htype, hc.queue] at hmem
      exact hgrows.subset (h.genuine message
        ((contains_queue htype).mpr (List.filter_sublist.mem hmem)))
  | consumed now _ htype readerId maxBatch hc =>
      rw [contains_queue htype] at hmem
      exact hgrows.subset (h.genuine message
        ((contains_queue htype).mpr (hc.queue_sublist.mem hmem)))

/-- Every step of a channel knows where its messages are. -/
theorem located_step (hstep : ChannelStep (clockStep clock) config s s')
    (h : Located clock config s) : Located clock config s' where
  slots := slots_step hstep.slots h.slots
  accounts := fun htype => queueAccounts_step htype hstep (h.accounts htype)
  genuine := fun _ => h.genuine_step hstep.effect
  whereabouts := by
    intro message hmem
    rcases h.newcomer hstep.effect hmem with hold | hnew
    · rcases h.whereabouts message hold with hcontains | hgone
      · exact h.moves hstep.effect hcontains
      · exact Or.inr (hgone.mono hstep.effect.grows)
    · exact hnew

/-! ## All channels of a bus -/

def AllLocated (clock : Nat → Int) (bus : RuntimeChannelBus) : Prop :=
  ∀ id, Located clock (bus.config id) (bus.channels id)

/-- However the bus evolves, every message that entered is still there or has gone for a reason. -/
theorem AllLocated.evolves {bus bus' : RuntimeChannelBus} (h : AllLocated clock bus)
    (he : Evolves (clockStep clock) bus bus') : AllLocated clock bus' := by
  intro id
  rw [he.config]
  exact ChannelSteps.invariant (fun _ _ => located_step) (he.steps id) (h id)

theorem allLocated_ofEdges (clock : Nat → Int) (specs : List EdgeSpec) :
    AllLocated clock (.ofEdges specs) := by
  intro id
  rw [channels_ofEdges]
  exact located_init clock _

/-- After any run of a bus from a specification. -/
theorem allLocated_run (clock : Nat → Int) (specs : List EdgeSpec) (ops : List BusOp) :
    AllLocated clock (runBus clock (.ofEdges specs) ops) :=
  (allLocated_ofEdges clock specs).evolves (runBus_clockEvolves clock (.ofEdges specs) ops)

/-- The publication with this number was stored in the channel, which has it still or had a
reason to let it go. -/
def HasEntered (clock : Nat → Int) (bus : RuntimeChannelBus) (channelId : String) (tag : Nat) :
    Prop :=
  ∃ message ∈ (bus.channels channelId).ledger.stored, message.tag = some tag ∧
    ((bus.channels channelId).Contains (bus.config channelId) message ∨
      Gone clock (bus.config channelId) (bus.channels channelId) message)

/-- The channel has never had the publication with this number. -/
def NeverEntered (bus : RuntimeChannelBus) (channelId : String) (tag : Nat) : Prop :=
  (∀ message ∈ (bus.channels channelId).ledger.stored, message.tag ≠ some tag) ∧
    ∀ message, (bus.channels channelId).Contains (bus.config channelId) message →
      message.tag ≠ some tag

end TopoExec
