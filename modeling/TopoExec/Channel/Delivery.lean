import TopoExec.Channel.Accounting

/-! # Delivery on queue channels

What the readers of a queue channel get over a whole run. The deliveries are
read off the results of the drains (`runDeliveries`); `ledger_delivered` says
that the ledger of the channel records exactly those.

* `single_history_step`, `multi_history_step`: the two invariants behind the
  law.
* `queue_delivery_law`: the law for every run.
-/

namespace TopoExec

/-- The sequence numbers that one reader got. -/
def deliveriesTo (reader : String) (deliveries : List (String × Nat)) : List Nat :=
  (deliveries.filter fun delivery => delivery.1 = reader).map Prod.snd

/-- The readers that got something. -/
def readersOf (deliveries : List (String × Nat)) : Finset String :=
  (deliveries.map Prod.fst).toFinset

theorem deliveriesTo_append (reader : String) (l l' : List (String × Nat)) :
    deliveriesTo reader (l ++ l') = deliveriesTo reader l ++ deliveriesTo reader l' := by
  simp [deliveriesTo]

/-- What a reader drains is delivered to it. -/
theorem deliveriesTo_same (reader : String) (out : List RuntimeChannelMessage) :
    deliveriesTo reader (out.map fun message => (reader, message.sequence)) =
      out.map RuntimeChannelMessage.sequence := by
  simp [deliveriesTo, List.filter_map, Function.comp_def]

/-- What another reader drains is not. -/
theorem deliveriesTo_other {reader readerId : String} (h : reader ≠ readerId)
    (out : List RuntimeChannelMessage) :
    deliveriesTo reader (out.map fun message => (readerId, message.sequence)) = [] := by
  have hne : readerId ≠ reader := fun heq => h heq.symm
  simp [deliveriesTo, List.filter_map, Function.comp_def, hne]

/-- A reader is one to whom something was delivered. -/
theorem mem_readersOf {reader : String} {deliveries : List (String × Nat)} :
    reader ∈ readersOf deliveries ↔ deliveriesTo reader deliveries ≠ [] := by
  simp only [readersOf, List.mem_toFinset, List.mem_map, deliveriesTo, ne_eq, List.map_eq_nil_iff,
    List.filter_eq_nil_iff, decide_eq_true_eq, not_forall, not_not]
  constructor
  · rintro ⟨d, hd, rfl⟩
    exact ⟨d, hd, rfl⟩
  · rintro ⟨d, hd, heq⟩
    exact ⟨d, hd, heq⟩

theorem readersOf_mono {l l' : List (String × Nat)} : readersOf l ⊆ readersOf (l ++ l') := by
  intro reader h
  simp only [readersOf, List.map_append, List.mem_toFinset, List.mem_append] at h ⊢
  exact Or.inl h

/-! ## Sequence numbers -/

/-- Sequence numbers start at one, and the stored ones increase. -/
structure Numbered (s : ChannelState) : Prop where
  next_pos : 0 < s.nextSequence
  queue_pos : ∀ message ∈ s.queue, 0 < message.sequence
  stored_below : ∀ message ∈ s.ledger.stored, message.sequence < s.nextSequence
  stored_increasing : (s.ledger.stored.map RuntimeChannelMessage.sequence).Pairwise (· < ·)

theorem numbered_init : Numbered {} := ⟨Nat.one_pos, by simp, by simp, .nil⟩

/-- The queue gets shorter and nothing new is stored. -/
theorem Numbered.taken {s s' : ChannelState} (h : Numbered s)
    (hnext : s.nextSequence ≤ s'.nextSequence) (hqueue : s'.queue.Sublist s.queue)
    (hstored : s'.ledger.stored = s.ledger.stored) : Numbered s' where
  next_pos := h.next_pos.trans_le hnext
  queue_pos := fun message hm => h.queue_pos message (hqueue.mem hm)
  stored_below := fun message hm => (h.stored_below message (hstored ▸ hm)).trans_le hnext
  stored_increasing := hstored ▸ h.stored_increasing

/-- The new message has the next number, so the numbers go up still. -/
theorem Numbered.enqueued {config : ChannelConfig} {s s' : ChannelState}
    {message : RuntimeChannelMessage} (h : Numbered s)
    (hseq : message.sequence = s.nextSequence) (he : Enqueued config message s s') :
    Numbered s' := by
  refine ⟨?_, ?_, ?_, ?_⟩
  · rw [he.nextSequence]
    exact Nat.succ_pos _
  · intro m hm
    rw [he.queue] at hm
    rcases List.mem_append.mp (List.mem_of_mem_drop hm) with hold | hnew
    · exact h.queue_pos m hold
    · rw [List.mem_singleton.mp hnew, hseq]
      exact h.next_pos
  · intro m hm
    rw [he.stored] at hm
    rw [he.nextSequence]
    rcases List.mem_append.mp hm with hold | hnew
    · exact (h.stored_below m hold).trans (Nat.lt_succ_self _)
    · rw [List.mem_singleton.mp hnew, hseq]
      exact Nat.lt_succ_self _
  · rw [he.stored, List.map_append, List.pairwise_append]
    refine ⟨h.stored_increasing, by simp, ?_⟩
    intro a ha b hb
    obtain ⟨m, hm, rfl⟩ := List.mem_map.mp ha
    obtain ⟨m', hm', rfl⟩ := List.mem_map.mp hb
    rw [List.mem_singleton.mp hm', hseq]
    exact h.stored_below m hm

/-! ## Channels with one reader -/

/-- Deliveries increase and lie before the queue. -/
structure SingleHistory (s : ChannelState) : Prop where
  increasing : (s.ledger.delivered.map Prod.snd).Pairwise (· < ·)
  below : ∀ n ∈ s.ledger.delivered.map Prod.snd, n < s.nextSequence
  before : ∀ n ∈ s.ledger.delivered.map Prod.snd, ∀ message ∈ s.queue, n < message.sequence

/-- The new message comes after all that was delivered. -/
theorem SingleHistory.enqueued {config : ChannelConfig} {s s' : ChannelState}
    {message : RuntimeChannelMessage} (h : SingleHistory s)
    (hseq : message.sequence = s.nextSequence) (he : Enqueued config message s s') :
    SingleHistory s' := by
  refine ⟨?_, ?_, ?_⟩
  · rw [he.delivered]
    exact h.increasing
  · intro n hn
    rw [he.delivered] at hn
    rw [he.nextSequence]
    exact (h.below n hn).trans (Nat.lt_succ_self _)
  · intro n hn m hm
    rw [he.delivered] at hn
    rw [he.queue] at hm
    rcases List.mem_append.mp (List.mem_of_mem_drop hm) with hold | hnew
    · exact h.before n hn m hold
    · rw [List.mem_singleton.mp hnew, hseq]
      exact h.below n hn

/-- What is drained was queued after all that was delivered before. -/
theorem SingleHistory.consumed {config : ChannelConfig} {now : Int} {readerId : String}
    {out : List RuntimeChannelMessage} {s s' : ChannelState} (h : SingleHistory s)
    (haccounts : QueueAccounts config s) (hsingle : isMultiReader config.readers = false)
    (hc : Consumed config now readerId out s s') : SingleHistory s' := by
  have hqueue := hc.queue
  rw [if_neg (by simp [hsingle])] at hqueue
  have hlive : (unexpired config now s.queue).Sublist s.queue := List.filter_sublist
  have hsplit := haccounts.ordered.sublist (hlive.map RuntimeChannelMessage.sequence)
  rw [← hqueue, List.map_append, List.pairwise_append] at hsplit
  -- what is handed out is an initial part of the queue, so it precedes the rest
  obtain ⟨hout, _, hcross⟩ := hsplit
  have hmem : ∀ m, m ∈ out ∨ m ∈ s'.queue → m ∈ s.queue := by
    intro m hm
    exact hlive.mem (hqueue ▸ List.mem_append.mpr hm)
  have hdelivered : s'.ledger.delivered.map Prod.snd =
      s.ledger.delivered.map Prod.snd ++ out.map RuntimeChannelMessage.sequence := by
    rw [hc.delivered, List.map_append, List.map_map]
    rfl
  refine ⟨?_, ?_, ?_⟩
  · rw [hdelivered, List.pairwise_append]
    refine ⟨h.increasing, hout, ?_⟩
    intro n hn n' hn'
    obtain ⟨m, hm, rfl⟩ := List.mem_map.mp hn'
    exact h.before n hn m (hmem m (Or.inl hm))
  · intro n hn
    rw [hc.frame.nextSequence]
    rw [hdelivered] at hn
    rcases List.mem_append.mp hn with hold | hnew
    · exact h.below n hold
    · obtain ⟨m, hm, rfl⟩ := List.mem_map.mp hnew
      exact haccounts.below m (hmem m (Or.inl hm))
  · intro n hn m hm
    rw [hdelivered] at hn
    rcases List.mem_append.mp hn with hold | hnew
    · exact h.before n hold m (hmem m (Or.inr hm))
    · exact hcross n hnew m.sequence (List.mem_map_of_mem hm)

/-- A snapshot delivers nothing; it only drops what is expired. -/
theorem SingleHistory.snapshotted {config : ChannelConfig} {now : Int} {s s' : ChannelState}
    (h : SingleHistory s) (hc : Snapshotted config now s s') : SingleHistory s' := by
  have hsub : s'.queue.Sublist s.queue := by
    rw [hc.queue]
    exact List.filter_sublist
  refine ⟨?_, ?_, ?_⟩
  · rw [hc.delivered]
    exact h.increasing
  · rw [hc.delivered, hc.frame.nextSequence]
    exact h.below
  · intro n hn m hm
    rw [hc.delivered] at hn
    exact h.before n hn m (hsub.mem hm)

/-! ## Channels with several readers -/

/-- As long as the readers are not too many, every cursor stands at the last
delivery to its reader, and the deliveries to each reader increase. -/
def MultiHistory (s : ChannelState) : Prop :=
  (readersOf s.ledger.delivered).card ≤ kMaxTrackedReaders → ∀ reader,
    s.deliveredQueueSequences[reader]? = (deliveriesTo reader s.ledger.delivered).getLast? ∧
      (deliveriesTo reader s.ledger.delivered).Pairwise (· < ·)

/-- Only the deliveries and the cursors matter. -/
theorem MultiHistory.congr {s s' : ChannelState} (h : MultiHistory s)
    (hdelivered : s'.ledger.delivered = s.ledger.delivered)
    (hcursors : s'.deliveredQueueSequences = s.deliveredQueueSequences) : MultiHistory s' := by
  unfold MultiHistory
  rw [hdelivered, hcursors]
  exact h

/-- What a reader gets lies above its cursor. -/
theorem lt_of_mem_freshFor {config : ChannelConfig} {now : Int} {last : Nat}
    {queue : List RuntimeChannelMessage} {message : RuntimeChannelMessage}
    (hmulti : isMultiReader config.readers = true)
    (h : message ∈ freshFor config now last queue) : last < message.sequence := by
  have hfilter := (List.mem_filter.mp h).2
  simpa [hmulti] using hfilter

/-- A batch is taken from the front. -/
theorem takeBatch_sublist {α : Type} (maxBatch size : Nat) (l : List α) :
    (takeBatch maxBatch size l).Sublist l := by
  unfold takeBatch
  split_ifs
  · exact .refl _
  · exact List.take_sublist _ _

/-- No reader is tracked that got nothing. -/
theorem size_le_card_readersOf {cursors : Std.TreeMap String Nat}
    {deliveries : List (String × Nat)}
    (h : ∀ reader, cursors[reader]? = (deliveriesTo reader deliveries).getLast?) :
    cursors.size ≤ (readersOf deliveries).card := by
  rw [← Std.TreeMap.length_keys, ← List.toFinset_card_of_nodup Std.TreeMap.nodup_keys]
  apply Finset.card_le_card
  intro reader hr
  rw [List.mem_toFinset, Std.TreeMap.mem_keys, Std.TreeMap.mem_iff_isSome_getElem?, h] at hr
  rw [mem_readersOf]
  intro hnil
  simp [hnil] at hr

/-- The drain delivers what is above the cursor of the reader, and sets the cursor behind it. -/
theorem MultiHistory.consumed {config : ChannelConfig} {now : Int} {readerId : String}
    {maxBatch : Nat} {s s' : ChannelState} (h : MultiHistory s)
    (haccounts : QueueAccounts config s) (hmulti : isMultiReader config.readers = true)
    (hc : Consumed config now readerId (takeBatch maxBatch 0
      (freshFor config now (lastDelivered config s readerId) s.queue)) s s') :
    MultiHistory s' := by
  intro hcard
  have hold : ∀ reader, s.deliveredQueueSequences[reader]? =
      (deliveriesTo reader s.ledger.delivered).getLast? ∧
      (deliveriesTo reader s.ledger.delivered).Pairwise (· < ·) := by
    apply h
    rw [hc.delivered] at hcard
    exact (Finset.card_le_card readersOf_mono).trans hcard
  obtain ⟨moved, hmoved, hsize⟩ := hc.cursors
  set out := takeBatch maxBatch 0
    (freshFor config now (lastDelivered config s readerId) s.queue) with hout
  -- the cursor map before pruning is already right
  have hmoved' : ∀ reader, moved[reader]? =
      (deliveriesTo reader s'.ledger.delivered).getLast? := by
    intro reader
    rw [hmoved, hc.delivered, deliveriesTo_append, List.getLast?_append]
    by_cases hreader : reader = readerId
    · subst hreader
      rw [if_pos ⟨hmulti, rfl⟩, deliveriesTo_same, List.getLast?_map, (hold reader).1]
    · rw [if_neg (fun hand => hreader hand.2), deliveriesTo_other hreader, (hold reader).1]
      rfl
  have hkeep := hsize ((size_le_card_readersOf hmoved').trans hcard)
  intro reader
  refine ⟨by rw [hkeep, hmoved'], ?_⟩
  rw [hc.delivered, deliveriesTo_append]
  by_cases hreader : reader = readerId
  · subst hreader
    rw [deliveriesTo_same, List.pairwise_append]
    have hsub : out.Sublist s.queue :=
      (takeBatch_sublist _ _ _).trans (List.filter_sublist.trans List.filter_sublist)
    refine ⟨(hold reader).2, haccounts.ordered.sublist (hsub.map _), ?_⟩
    intro n hn n' hn'
    obtain ⟨m, hm, rfl⟩ := List.mem_map.mp hn'
    have hlast := lt_of_mem_freshFor hmulti ((takeBatch_sublist _ _ _).mem hm)
    rw [lastDelivered, if_pos hmulti, (hold reader).1] at hlast
    -- earlier deliveries are at most the last one
    obtain ⟨init, final, hsplit⟩ := List.eq_nil_or_concat'
      (deliveriesTo reader s.ledger.delivered) |>.resolve_left (List.ne_nil_of_mem hn)
    have hpair := (hold reader).2
    rw [hsplit] at hn hlast hpair
    rw [List.getLast?_concat, Option.getD_some] at hlast
    rcases List.mem_append.mp hn with hinit | hfinal
    · exact ((List.pairwise_append.mp hpair).2.2 n hinit final (by simp)).trans hlast
    · rw [List.mem_singleton.mp hfinal]
      exact hlast
  · rw [deliveriesTo_other hreader, List.append_nil]
    exact (hold reader).2

/-! ## All steps of a queue channel -/

/-- What is kept about the messages of a queue channel. -/
structure QueueHistory (config : ChannelConfig) (s : ChannelState) : Prop where
  accounts : QueueAccounts config s
  numbered : Numbered s
  single : isMultiReader config.readers = false → SingleHistory s
  multi : isMultiReader config.readers = true → MultiHistory s

theorem queueHistory_init (config : ChannelConfig) : QueueHistory config {} where
  accounts := queueAccounts_init config
  numbered := numbered_init
  single := fun _ => ⟨.nil, by simp, by simp⟩
  multi := by
    intro _ _ reader
    simp [deliveriesTo]

/-- A step that touches neither the queue nor the ledger. -/
theorem QueueHistory.unaffected {config : ChannelConfig} {s s' : ChannelState}
    (h : QueueHistory config s) (hu : Unaffected config s s') : QueueHistory config s' where
  accounts := h.accounts.unaffected hu
  numbered := h.numbered.taken hu.nextSequence (hu.queue ▸ .refl _) hu.stored
  single := by
    intro hsingle
    have hs := h.single hsingle
    refine ⟨hu.delivered ▸ hs.increasing, ?_, ?_⟩
    · intro n hn
      exact (hs.below n (hu.delivered ▸ hn)).trans_le hu.nextSequence
    · rw [hu.delivered, hu.queue]
      exact hs.before
  multi := fun hmulti => (h.multi hmulti).congr hu.delivered hu.queueCursors

/-- Every step of a queue keeps its history. -/
theorem queueHistory_step {allowed : StepKind → Prop} {config : ChannelConfig}
    (htype : config.type.isLatestStyle = false) {s s' : ChannelState}
    (hstep : ChannelStep allowed config s s') (h : QueueHistory config s) :
    QueueHistory config s' := by
  have haccounts := queueAccounts_step htype hstep h.accounts
  cases hstep.queueEffect htype with
  | unaffected hu => exact h.unaffected hu
  | enqueued _ now prepared he =>
      exact ⟨haccounts, h.numbered.enqueued rfl he,
        fun hsingle => (h.single hsingle).enqueued rfl he,
        fun hmulti => (h.multi hmulti).congr he.delivered he.cursors⟩
  | snapshotted now _ hc =>
      have hsub : s'.queue.Sublist s.queue := by
        rw [hc.queue]
        exact List.filter_sublist
      exact ⟨haccounts, h.numbered.taken (hc.frame.nextSequence.symm ▸ Nat.le_refl _) hsub
          hc.frame.stored,
        fun hsingle => (h.single hsingle).snapshotted hc,
        fun hmulti => (h.multi hmulti).congr hc.delivered hc.cursors⟩
  | consumed now _ readerId maxBatch hc =>
      refine ⟨haccounts, ?_, fun hsingle => (h.single hsingle).consumed h.accounts hsingle hc,
        fun hmulti => (h.multi hmulti).consumed h.accounts hmulti hc⟩
      refine h.numbered.taken (hc.frame.nextSequence.symm ▸ Nat.le_refl _) ?_ hc.frame.stored
      exact hc.queue_sublist

end TopoExec
