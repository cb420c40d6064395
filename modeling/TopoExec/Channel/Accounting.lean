import TopoExec.Channel.Effect

/-! # Representation and accounting of the channels

`QueueAccounts` (queue, ring-buffer and barrier channels), `LatestAccounts`
(latest channels) and `DropsAccounted` (all channels) are kept by every channel
step, hence hold in every state that the bus reaches.
-/

namespace TopoExec

/-- The policies under which a refusal counts as a drop. -/
def DropPolicy.countsDrops : DropPolicy → Bool
  | .dropNewest | .failFast => true
  | .overwrite | .dropOldest | .blockProducer => false

/-- The bounds, the order, the watermark and the balance of a queue. -/
structure QueueAccounts (config : ChannelConfig) (s : ChannelState) : Prop where
  bounded : s.queue.length ≤ config.capacity
  ordered : (s.queue.map RuntimeChannelMessage.sequence).Pairwise (· < ·)
  below : ∀ message ∈ s.queue, message.sequence < s.nextSequence
  depth : s.metrics.depth = s.queue.length
  depth_le : s.metrics.depth ≤ s.metrics.maxDepth
  maxDepth_le : s.metrics.maxDepth ≤ config.capacity
  watermark : s.highWatermarkReported = true ↔ s.queue.length = config.capacity
  balance : isMultiReader config.readers = false →
    s.metrics.publishedCount = s.metrics.deliveredCount + s.metrics.overwriteCount +
      s.metrics.staleDropCount + s.queue.length

/-- The balance of a latest channel. -/
structure LatestAccounts (s : ChannelState) : Prop where
  depth : s.metrics.depth = optionCount s.latest
  balance : s.metrics.publishedCount =
    s.metrics.overwriteCount + s.metrics.staleDropCount + optionCount s.latest

/-- Drops are expiries and, under some policies, refusals. -/
def DropsAccounted (config : ChannelConfig) (s : ChannelState) : Prop :=
  s.metrics.dropCount =
    s.metrics.staleDropCount + if config.dropPolicy.countsDrops then s.ledger.refused else 0

/-! ## Queue channels -/

theorem queueAccounts_init (config : ChannelConfig) : QueueAccounts config {} where
  bounded := Nat.zero_le _
  ordered := .nil
  below := by simp
  depth := rfl
  depth_le := Nat.le_refl _
  maxDepth_le := Nat.zero_le _
  watermark := by
    have := config.capacity_pos
    simp
    omega
  balance := fun _ => rfl

/-- Where the queue and the counters stay, so do the accounts. -/
theorem QueueAccounts.unaffected {config : ChannelConfig} {s s' : ChannelState}
    (h : QueueAccounts config s) (hu : Unaffected config s s') : QueueAccounts config s' where
  bounded := by rw [hu.queue]; exact h.bounded
  ordered := by rw [hu.queue]; exact h.ordered
  below := by
    intro message hm
    rw [hu.queue] at hm
    exact (h.below message hm).trans_le hu.nextSequence
  depth := by rw [hu.queue, hu.depth]; exact h.depth
  depth_le := by rw [hu.depth, hu.maxDepth]; exact h.depth_le
  maxDepth_le := by rw [hu.maxDepth]; exact h.maxDepth_le
  watermark := by rw [hu.queue, hu.watermark]; exact h.watermark
  balance := by
    intro hsingle
    rw [hu.queue, hu.published, hu.deliveredCount, hu.overwrite, hu.stale]
    exact h.balance hsingle

/-- A queue that only lost messages keeps its order. -/
theorem QueueAccounts.sublist {config : ChannelConfig} {s : ChannelState}
    (h : QueueAccounts config s) {l : List RuntimeChannelMessage} (hl : l.Sublist s.queue) :
    (l.map RuntimeChannelMessage.sequence).Pairwise (· < ·) ∧
      (∀ message ∈ l, message.sequence < s.nextSequence) ∧ l.length ≤ s.queue.length :=
  ⟨h.ordered.sublist (hl.map _), fun message hm => h.below message (hl.mem hm), hl.length_le⟩

/-- The watermark after messages were taken out. -/
theorem QueueAccounts.rearmed {config : ChannelConfig} {s : ChannelState}
    (h : QueueAccounts config s) {n : Nat} (hn : n ≤ s.queue.length) :
    rearmed config n s.highWatermarkReported = true ↔ n = config.capacity := by
  have hle := h.bounded
  unfold TopoExec.rearmed
  split_ifs with hlow
  · simp
    omega
  · rw [h.watermark]
    omega

/-- One message more is counted, and an evicted one as overwritten. -/
theorem QueueAccounts.enqueued {config : ChannelConfig} {s s' : ChannelState}
    {message : RuntimeChannelMessage} (h : QueueAccounts config s)
    (hseq : message.sequence = s.nextSequence) (he : Enqueued config message s s') :
    QueueAccounts config s' := by
  have hcap := config.capacity_pos
  have hle := h.bounded
  have hlength : s'.queue.length = min (s.queue.length + 1) config.capacity := by
    rw [he.queue]
    simp only [List.length_drop, List.length_append, List.length_singleton]
    omega
  have hdepth := h.depth
  have hdepth_le := h.depth_le
  have hmax_le := h.maxDepth_le
  -- a full queue loses its front, so the new queue is a part of the old one and the message
  have hsub : s'.queue.Sublist (s.queue ++ [message]) := by
    rw [he.queue]
    exact List.drop_sublist _ _
  have hordered : ((s.queue ++ [message]).map RuntimeChannelMessage.sequence).Pairwise
      (· < ·) := by
    rw [List.map_append, List.pairwise_append]
    refine ⟨h.ordered, by simp, ?_⟩
    intro a ha b hb
    obtain ⟨m, hm, rfl⟩ := List.mem_map.mp ha
    obtain ⟨m', hm', rfl⟩ := List.mem_map.mp hb
    rw [List.mem_singleton.mp hm', hseq]
    exact h.below m hm
  refine ⟨by omega, hordered.sublist (hsub.map _), ?_, he.depth, ?_, ?_, ?_, ?_⟩
  · intro m hm
    rw [he.nextSequence]
    rcases List.mem_append.mp (hsub.mem hm) with hold | hnew
    · exact (h.below m hold).trans (Nat.lt_succ_self _)
    · rw [List.mem_singleton.mp hnew, hseq]
      exact Nat.lt_succ_self _
  · rw [he.depth, he.maxDepth]
    exact Nat.le_max_right _ _
  · rw [he.maxDepth, hlength]
    omega
  · rw [he.watermark, Bool.or_eq_true, decide_eq_true_eq, h.watermark]
    omega
  -- every published message waits, was delivered or was lost, and the new one waits
  · intro hsingle
    rw [he.published, he.deliveredCount, he.overwrite, he.stale, h.balance hsingle, hlength]
    omega

/-- What leaves the queue is delivered or counted as stale. -/
theorem QueueAccounts.consumed {config : ChannelConfig} {now : Int} {readerId : String}
    {out : List RuntimeChannelMessage} {s s' : ChannelState} (h : QueueAccounts config s)
    (hc : Consumed config now readerId out s s') : QueueAccounts config s' := by
  have hcount := length_expiredIn_add_unexpired config now s.queue
  obtain ⟨hordered, hbelow, hshort⟩ := h.sublist hc.queue_sublist
  have hle := h.bounded
  refine ⟨hshort.trans hle, hordered, ?_, hc.depth, ?_, ?_, ?_, ?_⟩
  · rw [hc.frame.nextSequence]
    exact hbelow
  · rw [hc.depth, hc.frame.maxDepth]
    exact hshort.trans (h.depth ▸ h.depth_le)
  · rw [hc.frame.maxDepth]
    exact h.maxDepth_le
  · rw [hc.watermark]
    exact h.rearmed hshort
  · intro hsingle
    have hqueue := hc.queue
    rw [if_neg (by simp [hsingle])] at hqueue
    have hsplit : out.length + s'.queue.length = (unexpired config now s.queue).length := by
      rw [← hqueue, List.length_append]
    rw [hc.frame.published, hc.deliveredCount, hc.frame.overwrite, hc.stale, h.balance hsingle]
    omega

/-- What a snapshot takes out is counted as stale. -/
theorem QueueAccounts.snapshotted {config : ChannelConfig} {now : Int} {s s' : ChannelState}
    (h : QueueAccounts config s) (hc : Snapshotted config now s s') : QueueAccounts config s' := by
  have hcount := length_expiredIn_add_unexpired config now s.queue
  have hsub : s'.queue.Sublist s.queue := by
    rw [hc.queue]
    exact List.filter_sublist
  obtain ⟨hordered, hbelow, hshort⟩ := h.sublist hsub
  refine ⟨hshort.trans h.bounded, hordered, ?_, hc.depth, ?_, ?_, ?_, ?_⟩
  · rw [hc.frame.nextSequence]
    exact hbelow
  · rw [hc.depth, hc.frame.maxDepth]
    exact hshort.trans (h.depth ▸ h.depth_le)
  · rw [hc.frame.maxDepth]
    exact h.maxDepth_le
  · rw [hc.watermark]
    exact h.rearmed hshort
  · intro hsingle
    rw [hc.frame.published, hc.deliveredCount, hc.frame.overwrite, hc.stale, h.balance hsingle,
      hc.queue]
    omega

/-- Every step of a queue channel keeps its accounts. -/
theorem queueAccounts_step {allowed : StepKind → Prop} {config : ChannelConfig}
    (htype : config.type.isLatestStyle = false) {s s' : ChannelState}
    (hstep : ChannelStep allowed config s s') (h : QueueAccounts config s) :
    QueueAccounts config s' := by
  cases hstep.queueEffect htype with
  | unaffected hu => exact h.unaffected hu
  | enqueued _ now prepared he => exact h.enqueued rfl he
  | snapshotted now _ hc => exact h.snapshotted hc
  | consumed now _ readerId maxBatch hc => exact h.consumed hc

/-! ## Latest channels -/

/-- A stale value is counted when it goes. -/
theorem LatestAccounts.dropLatest {s : ChannelState} (h : LatestAccounts s)
    {latest : RuntimeChannelMessage} (hlatest : s.latest = some latest) :
    LatestAccounts (s.dropLatest latest) := by
  have hbalance := h.balance
  simp only [hlatest, optionCount, Option.isSome_some, if_true] at hbalance
  refine ⟨rfl, ?_⟩
  simp only [ChannelState.dropLatest, ChannelState.markStaleDrop, optionCount, Option.isSome_none,
    Bool.false_eq_true, if_false]
  omega

/-- A new value counts the one that it replaces as overwritten. -/
theorem LatestAccounts.replaced {config : ChannelConfig} (htype : config.type = .latestOnly)
    {s : ChannelState} (h : LatestAccounts s) (message : RuntimeChannelMessage) (copied : Bool) :
    LatestAccounts (acceptLatest config (s.numbered copied) message) := by
  have hdepth := h.depth
  have hbalance := h.balance
  rw [acceptLatest_eq (by rw [htype]; rfl)]
  refine ⟨rfl, ?_⟩
  simp only [ChannelState.numbered, htype, true_and, optionCount, Option.isSome_some,
    if_true] at hdepth hbalance ⊢
  split_ifs at hdepth hbalance ⊢ <;> omega

/-- Every step of a latest channel keeps its accounts. -/
theorem latestAccounts_step {allowed : StepKind → Prop} {config : ChannelConfig}
    (htype : config.type = .latestOnly) {s s' : ChannelState}
    (hstep : ChannelStep allowed config s s') (h : LatestAccounts s) : LatestAccounts s' := by
  have hlatestStyle : config.type.isLatestStyle = true := by
    rw [htype]
    rfl
  cases hstep.effect with
  | unaffected hu =>
      constructor
      · rw [hu.depth, hu.latest]
        exact h.depth
      · rw [hu.published, hu.overwrite, hu.stale, hu.latest]
        exact h.balance
  | replaced _ _ _ now prepared => exact h.replaced htype _ _
  | expired now _ _ message hlatest => exact h.dropLatest hlatest
  | delivered => exact ⟨h.depth, h.balance⟩
  -- the rest happens on queues and on previous-tick channels
  | enqueued _ hqueue | snapshotted _ _ hqueue | consumed _ _ hqueue =>
      rw [hlatestStyle] at hqueue
      cases hqueue
  | staged _ hprevious | advanced _ hprevious =>
      rw [htype] at hprevious
      cases hprevious

/-! ## Drops -/

/-- A refusal is a drop for some policies only. -/
theorem countsDrops_of_refusal {policy : DropPolicy} {reason : String} {isDrop : Bool}
    (h : policy.refusal = some (reason, isDrop)) : policy.countsDrops = isDrop := by
  cases policy <;> simp_all [DropPolicy.refusal, DropPolicy.countsDrops]

/-- A refused publication is counted as a drop where the policy counts drops. -/
theorem DropsAccounted.refuse {config : ChannelConfig} {s : ChannelState}
    (h : DropsAccounted config s) {reason : String} {isDrop : Bool}
    (hrefusal : config.dropPolicy.refusal = some (reason, isDrop)) :
    DropsAccounted config (s.refuse isDrop) := by
  have hdrops := h
  unfold DropsAccounted at hdrops ⊢
  simp only [ChannelState.refuse, countsDrops_of_refusal hrefusal] at hdrops ⊢
  split_ifs at hdrops ⊢ <;> omega

/-- An expired message is counted as a drop. -/
theorem DropsAccounted.markStaleDrop {config : ChannelConfig} {s : ChannelState}
    (h : DropsAccounted config s) (message : RuntimeChannelMessage) :
    DropsAccounted config (s.markStaleDrop message) := by
  have hdrops := h
  unfold DropsAccounted at hdrops ⊢
  simp only [ChannelState.markStaleDrop]
  omega

/-- Expiries count on both sides. -/
theorem DropsAccounted.expired {config : ChannelConfig} {s s' : ChannelState}
    (h : DropsAccounted config s) {n : Nat}
    (hstale : s'.metrics.staleDropCount = s.metrics.staleDropCount + n)
    (hdrops : s'.metrics.dropCount = s.metrics.dropCount + n)
    (hrefused : s'.ledger.refused = s.ledger.refused) : DropsAccounted config s' := by
  have hold := h
  unfold DropsAccounted at hold ⊢
  rw [hstale, hdrops, hrefused]
  omega

/-- Every step of any channel accounts for its drops. -/
theorem dropsAccounted_step {allowed : StepKind → Prop} {config : ChannelConfig}
    {s s' : ChannelState} (hstep : ChannelStep allowed config s s') (h : DropsAccounted config s) :
    DropsAccounted config s' := by
  cases hstep.effect with
  | unaffected hu =>
      rcases hu.drops with ⟨hdrops, hrefused⟩ | ⟨reason, isDrop, hrefusal, hdrops, hrefused⟩
      · exact h.expired (n := 0) hu.stale hdrops hrefused
      · have hsame := h.refuse hrefusal
        unfold DropsAccounted at hsame ⊢
        rw [hdrops, hrefused, hu.stale]
        exact hsame
  | enqueued _ _ now prepared he => exact h.expired (n := 0) he.stale he.drops he.refused
  | replaced _ hlatest =>
      rw [acceptLatest_eq hlatest]
      exact h
  | staged => exact h
  | advanced => exact h
  | expired now _ _ message => exact DropsAccounted.markStaleDrop h message
  | delivered => exact h
  | snapshotted now _ _ hc => exact h.expired hc.stale hc.drops hc.frame.refused
  | consumed now _ _ readerId maxBatch hc => exact h.expired hc.stale hc.drops hc.frame.refused

/-! ## All runs -/

/-- The accounts of one channel. -/
structure ChannelAccounts (config : ChannelConfig) (s : ChannelState) : Prop where
  queue : config.type.isLatestStyle = false → QueueAccounts config s
  latest : config.type = .latestOnly → LatestAccounts s
  drops : DropsAccounted config s

/-- In every state of every run, whatever the edges, the operations and the
clock, the accounts of every channel hold. -/
theorem channel_accounts (clock : Nat → Int) (specs : List EdgeSpec) (ops : List BusOp)
    (id : String) :
    ChannelAccounts ((runBus clock (.ofEdges specs) ops).config id)
      ((runBus clock (.ofEdges specs) ops).channels id) := by
  apply run_invariant
  · intro config
    exact ⟨fun _ => queueAccounts_init config, fun _ => ⟨rfl, rfl⟩, by simp [DropsAccounted]⟩
  · intro config s s' hstep h
    exact ⟨fun htype => queueAccounts_step htype hstep (h.queue htype),
      fun htype => latestAccounts_step htype hstep (h.latest htype),
      dropsAccounted_step hstep h.drops⟩

end TopoExec
