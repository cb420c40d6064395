import TopoExec.Channel.Laws
import TopoExec.Channel.Step

/-! # What a step does to a channel

`ChannelEffect` lists what the steps of a channel come to. The invariants of the channels
go through its cases; only the proof of `ChannelStep.effect` looks into the functions
behind the steps.
-/

namespace TopoExec

variable {allowed : StepKind → Prop} {config : ChannelConfig} {s s' : ChannelState}

/-- A queue has no pending slot. -/
theorem ne_previousTick (h : config.type.isLatestStyle = false) : config.type ≠ .previousTick := by
  intro heq
  simp [heq, ChannelType.isLatestStyle] at h

/-- The step stored nothing and took nothing out. A message that was refused is counted,
and may have used up a sequence number. -/
structure Unaffected (config : ChannelConfig) (s s' : ChannelState) : Prop where
  nextSequence : s.nextSequence ≤ s'.nextSequence
  latest : s'.latest = s.latest
  pending : s'.pendingPreviousTick = s.pendingPreviousTick
  queue : s'.queue = s.queue
  latestCursors : s'.deliveredLatestSequences = s.deliveredLatestSequences
  queueCursors : s'.deliveredQueueSequences = s.deliveredQueueSequences
  watermark : s'.highWatermarkReported = s.highWatermarkReported
  depth : s'.metrics.depth = s.metrics.depth
  maxDepth : s'.metrics.maxDepth = s.metrics.maxDepth
  published : s'.metrics.publishedCount = s.metrics.publishedCount
  deliveredCount : s'.metrics.deliveredCount = s.metrics.deliveredCount
  overwrite : s'.metrics.overwriteCount = s.metrics.overwriteCount
  stale : s'.metrics.staleDropCount = s.metrics.staleDropCount
  stored : s'.ledger.stored = s.ledger.stored
  evicted : s'.ledger.evicted = s.ledger.evicted
  expired : s'.ledger.expired = s.ledger.expired
  delivered : s'.ledger.delivered = s.ledger.delivered
  drops : (s'.metrics.dropCount = s.metrics.dropCount ∧ s'.ledger.refused = s.ledger.refused) ∨
    ∃ reason isDrop, config.dropPolicy.refusal = some (reason, isDrop) ∧
      s'.metrics.dropCount = s.metrics.dropCount + (if isDrop then 1 else 0) ∧
      s'.ledger.refused = s.ledger.refused + 1

theorem Unaffected.refl (config : ChannelConfig) (s : ChannelState) : Unaffected config s s :=
  ⟨Nat.le_refl _, rfl, rfl, rfl, rfl, rfl, rfl, rfl, rfl, rfl, rfl, rfl, rfl, rfl, rfl, rfl, rfl,
    .inl ⟨rfl, rfl⟩⟩

/-- The cursors after a reader got the value with a sequence number. -/
def moveCursor (cursors : Std.TreeMap String Nat) (readerId : String) (sequence : Nat) :
    Std.TreeMap String Nat :=
  if kMaxTrackedReaders < (cursors.insert readerId sequence).size then
    enforceReaderCap (pruneLatestDedup (cursors.insert readerId sequence) sequence)
  else cursors.insert readerId sequence

inductive ChannelEffect (allowed : StepKind → Prop) (config : ChannelConfig) (s : ChannelState) :
    ChannelState → Prop where
  | unaffected {s' : ChannelState} (h : Unaffected config s s') : ChannelEffect allowed config s s'
  | enqueued (kind : allowed .publish) (type : config.type.isLatestStyle = false) (now : Int)
      (prepared : Prepared) {s' : ChannelState}
      (h : Enqueued config (messageOf config s now prepared) s s') :
      ChannelEffect allowed config s s'
  | replaced (kind : allowed .publish) (type : config.type.isLatestStyle = true)
      (other : config.type ≠ .previousTick) (now : Int) (prepared : Prepared) :
      ChannelEffect allowed config s
        (acceptLatest config (s.numbered prepared.payloadWasCopied)
          (messageOf config s now prepared))
  | staged (kind : allowed .publish) (type : config.type = .previousTick) (now : Int)
      (prepared : Prepared) :
      ChannelEffect allowed config s
        (acceptPending (s.numbered prepared.payloadWasCopied) (messageOf config s now prepared))
  | advanced (kind : allowed .advance) (type : config.type = .previousTick)
      (message : RuntimeChannelMessage) (waiting : s.pendingPreviousTick = some message) :
      ChannelEffect allowed config s
        { s with
          latest := some message
          pendingPreviousTick := none
          metrics.depth := 1
          metrics.maxDepth := max s.metrics.maxDepth 1 }
  | expired (now : Int) (kind : allowed (.observe now)) (type : config.type.isLatestStyle = true)
      (message : RuntimeChannelMessage) (visible : s.latest = some message)
      (late : messageExpired config message now = true) :
      ChannelEffect allowed config s (s.dropLatest message)
  | delivered (now : Int) (kind : allowed (.observe now))
      (type : config.type.isLatestStyle = true) (readerId : String)
      (message : RuntimeChannelMessage) (visible : s.latest = some message)
      (unseen : s.deliveredLatestSequences[readerId]? ≠ some message.sequence) :
      ChannelEffect allowed config s
        (markDeliveryMetrics config now
          { s with
            deliveredLatestSequences :=
              moveCursor s.deliveredLatestSequences readerId message.sequence
            metrics.deliveredCount := s.metrics.deliveredCount + 1 }
          readerId message)
  | snapshotted (now : Int) (kind : allowed (.observe now))
      (type : config.type.isLatestStyle = false) {s' : ChannelState}
      (h : Snapshotted config now s s') : ChannelEffect allowed config s s'
  | consumed (now : Int) (kind : allowed (.drain now)) (type : config.type.isLatestStyle = false)
      (readerId : String) (maxBatch : Nat) {s' : ChannelState}
      (h : Consumed config now readerId
        (takeBatch maxBatch 0 (freshFor config now (lastDelivered config s readerId) s.queue))
        s s') :
      ChannelEffect allowed config s s'

theorem ChannelEffect.refl (allowed : StepKind → Prop) (config : ChannelConfig)
    (s : ChannelState) : ChannelEffect allowed config s s :=
  .unaffected (.refl config s)

/-! ## Publishing -/

/-- A payload that is refused changes counters only. -/
theorem preflightPayload_unaffected (s : ChannelState) (payload : RuntimePayload) :
    Unaffected config s (preflightPayloadForState config s payload).2 := by
  unfold preflightPayloadForState
  dsimp only
  split_ifs
  · exact .refl config s
  · exact { Unaffected.refl config s with }
  · exact .refl config s

/-- A copy of the payload is counted, and nothing is stored. -/
theorem preparePayload_unaffected (s : ChannelState) (source : RuntimePayload) :
    Unaffected config s (preparePayloadForState config s source).2 := by
  unfold preparePayloadForState
  dsimp only
  split_ifs
  · exact { Unaffected.refl config s with }
  · exact .refl config s
  · exact .refl config s

/-- A refusal counts itself, as a drop where the policy says so. -/
theorem refuse_unaffected (s : ChannelState) {reason : String} {isDrop : Bool}
    (hrefusal : config.dropPolicy.refusal = some (reason, isDrop)) :
    Unaffected config s (s.refuse isDrop) :=
  { Unaffected.refl config s with drops := .inr ⟨reason, isDrop, hrefusal, rfl, rfl⟩ }

/-- A full queue refuses without a change to it. -/
theorem preflightPublish_unaffected (s : ChannelState) (planned : Nat) :
    Unaffected config s (preflightPublishToState config s planned).2 := by
  unfold preflightPublishToState
  split_ifs
  · exact .refl config s
  · cases hrefusal : config.dropPolicy.refusal with
    | none => exact .refl config s
    | some refusal => exact refuse_unaffected s hrefusal

/-- A publish is refused, or its message goes where the type says. -/
theorem publishToState_effect (kind : allowed .publish) (now : Int) (s : ChannelState)
    (prepared : Prepared) :
    ChannelEffect allowed config s (publishToState config now s prepared).2 := by
  cases htype : config.type.isLatestStyle with
  | true =>
      unfold publishToState
      dsimp only
      rw [if_neg (by simp [htype])]
      unfold acceptMessage
      split_ifs with hprevious
      · exact .staged kind hprevious now prepared
      · exact .replaced kind htype hprevious now prepared
  | false =>
      rcases publishToState_queue_cases config now s prepared htype with
        ⟨reason, isDrop, hrefusal, _, heq⟩ | ⟨_, _, hstored⟩
      · -- the number of the refused message is not given to another one
        rw [heq]
        have hrefused := refuse_unaffected (s.numbered prepared.payloadWasCopied) hrefusal
        exact .unaffected { hrefused with nextSequence := Nat.le_succ _ }
      · exact .enqueued kind htype now prepared hstored

/-- A latest-style channel reports no high watermark. -/
theorem acceptLatest_eq (htype : config.type.isLatestStyle = true) (s : ChannelState)
    (message : RuntimeChannelMessage) :
    acceptLatest config s message =
      let overwritten := if config.type = .latestOnly ∧ 0 < s.metrics.depth then 1 else 0
      { s with
        latest := some message
        queue := []
        metrics.overwriteCount := s.metrics.overwriteCount + overwritten
        metrics.healthEventCount := s.metrics.healthEventCount + overwritten
        metrics.publishedCount := s.metrics.publishedCount + 1
        metrics.depth := 1
        metrics.maxDepth := max s.metrics.maxDepth 1
        ledger.stored := s.ledger.stored ++ [message] } := by
  simp [acceptLatest, maybeEmitHighWatermark, htype]

/-! ## Reading -/

/-- A read hands out the latest value, drops it as stale, or finds nothing new. -/
theorem consumeLatestFromState_effect {now : Int} (kind : allowed (.observe now))
    (htype : config.type.isLatestStyle = true) (readerId : String)
    (s : ChannelState) :
    ChannelEffect allowed config s (consumeLatestFromState config now readerId s).2 := by
  unfold consumeLatestFromState
  cases hlatest : s.latest with
  | none => exact .refl _ _ _
  | some latest =>
      dsimp only
      by_cases hexpired : messageExpired config latest now = true
      · rw [if_pos hexpired]
        exact .expired now kind htype latest hlatest hexpired
      · rw [if_neg hexpired]
        by_cases hseen : s.deliveredLatestSequences[readerId]? = some latest.sequence
        · rw [if_pos hseen]
          exact .refl _ _ _
        · rw [if_neg hseen]
          have heffect : ChannelEffect allowed config s _ :=
            .delivered now kind htype readerId latest hlatest hseen
          rw [hlatest] at heffect
          exact heffect

/-- A snapshot drops what is expired and hands out copies. -/
theorem snapshotFromState_effect {now : Int} (kind : allowed (.observe now)) (maxBatch : Nat)
    (s : ChannelState) :
    ChannelEffect allowed config s (snapshotFromState config now maxBatch s).2 := by
  cases htype : config.type.isLatestStyle with
  | true =>
      unfold snapshotFromState
      rw [if_pos htype]
      cases hlatest : s.latest with
      | none => exact .refl _ _ _
      | some latest =>
          dsimp only
          by_cases hexpired : messageExpired config latest now = true
          · rw [if_pos hexpired]
            exact .expired now kind htype latest hlatest hexpired
          · rw [if_neg hexpired]
            exact .refl _ _ _
  | false => exact .snapshotted now kind htype (snapshotFromState_spec config now maxBatch s htype)

/-! ## All steps -/

/-- Every step of a channel is one of the effects. -/
theorem ChannelStep.effect (hstep : ChannelStep allowed config s s') :
    ChannelEffect allowed config s s' := by
  cases hstep with
  | preflightPayload _ _ payload => exact .unaffected (preflightPayload_unaffected s payload)
  | preflightPublish _ _ planned => exact .unaffected (preflightPublish_unaffected s planned)
  | preparePayload _ _ source => exact .unaffected (preparePayload_unaffected s source)
  | publish kind now _ prepared => exact publishToState_effect kind now s prepared
  | advance kind =>
      unfold advanceState
      split
      · rename_i pending htype hpending
        exact .advanced kind htype pending hpending
      · exact .refl _ _ _
  | consumeLatest now kind readerId _ htype =>
      exact consumeLatestFromState_effect kind htype readerId s
  | snapshot now kind maxBatch => exact snapshotFromState_effect kind maxBatch s
  | consume now kind readerId maxBatch _ htype =>
      rcases consumeFromState_spec config now readerId maxBatch s with ⟨_, heq⟩ | ⟨_, hc⟩
      · -- a barrier that is not full
        rw [heq]
        exact .refl _ _ _
      · exact .consumed now kind htype readerId maxBatch hc

/-- What is left of the effects on a queue channel. -/
inductive QueueEffect (allowed : StepKind → Prop) (config : ChannelConfig) (s s' : ChannelState) :
    Prop where
  | unaffected (h : Unaffected config s s')
  | enqueued (kind : allowed .publish) (now : Int) (prepared : Prepared)
      (h : Enqueued config (messageOf config s now prepared) s s')
  | snapshotted (now : Int) (kind : allowed (.observe now)) (h : Snapshotted config now s s')
  | consumed (now : Int) (kind : allowed (.drain now)) (readerId : String) (maxBatch : Nat)
      (h : Consumed config now readerId
        (takeBatch maxBatch 0 (freshFor config now (lastDelivered config s readerId) s.queue))
        s s')

/-- On a queue there are fewer effects: nothing is replaced and nothing is pending. -/
theorem ChannelStep.queueEffect (hstep : ChannelStep allowed config s s')
    (htype : config.type.isLatestStyle = false) : QueueEffect allowed config s s' := by
  cases hstep.effect with
  | unaffected h => exact .unaffected h
  | enqueued kind _ now prepared h => exact .enqueued kind now prepared h
  | snapshotted now kind _ h => exact .snapshotted now kind h
  | consumed now kind _ readerId maxBatch h => exact .consumed now kind readerId maxBatch h
  | replaced _ hlatest | expired _ _ hlatest | delivered _ _ hlatest =>
      rw [htype] at hlatest
      cases hlatest
  | staged _ hprevious | advanced _ hprevious => exact absurd hprevious (ne_previousTick htype)

end TopoExec
