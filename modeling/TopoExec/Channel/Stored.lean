import TopoExec.Channel.Batch
import TopoExec.Channel.Whereabouts
import TopoExec.Lib.Paired

/-! # Which publications entered a channel

`EnteredAs` follows a numbered publication of the router into a channel. Reading
and the epoch boundary store nothing, and an accepted batch stores its
publications and nothing else.
-/

namespace TopoExec

/-- The channel has stored the publication with this number. -/
def EnteredAs (bus : RuntimeChannelBus) (channelId : String) (tag : Nat) : Prop :=
  ∃ message ∈ (bus.channels channelId).ledger.stored, message.tag = some tag

/-- What was stored was in the queue or in a slot. -/
theorem EnteredAs.hasEntered {clock : Nat → Int} {bus : RuntimeChannelBus} {channelId : String}
    {tag : Nat} (h : EnteredAs bus channelId tag) (hlocated : AllLocated clock bus) :
    HasEntered clock bus channelId tag := by
  rcases h with ⟨message, hmem, htag⟩
  exact ⟨message, hmem, htag, (hlocated channelId).whereabouts message hmem⟩

/-- What was not stored never was in the queue or in a slot. -/
theorem neverEntered_of_not_enteredAs {clock : Nat → Int} {bus : RuntimeChannelBus}
    {channelId : String} {tag : Nat} (h : ¬ EnteredAs bus channelId tag)
    (hlocated : AllLocated clock bus) : NeverEntered bus channelId tag := by
  have hstored : ∀ message ∈ (bus.channels channelId).ledger.stored, message.tag ≠ some tag :=
    fun message hmem htag => h ⟨message, hmem, htag⟩
  exact ⟨hstored, fun message hcontains =>
    hstored message ((hlocated channelId).genuine message hcontains)⟩

/-- Every channel has stored the same messages. -/
def SameStored (bus bus' : RuntimeChannelBus) : Prop :=
  ∀ id, (bus'.channels id).ledger.stored = (bus.channels id).ledger.stored

theorem SameStored.enteredAs_iff {bus bus' : RuntimeChannelBus} (h : SameStored bus bus')
    (channelId : String) (tag : Nat) :
    EnteredAs bus' channelId tag ↔ EnteredAs bus channelId tag := by
  unfold EnteredAs
  rw [h channelId]

/-! ## Reading stores nothing -/

/-- The kinds of steps other than publishing. -/
def isQuietStep : StepKind → Prop
  | .publish => False
  | _ => True

/-- Without a publish nothing is stored. -/
theorem stored_quietStep {config : ChannelConfig} {s s' : ChannelState}
    (h : ChannelStep isQuietStep config s s') : s'.ledger.stored = s.ledger.stored := by
  cases h.effect with
  | unaffected hu => exact hu.stored
  | enqueued kind => exact kind.elim
  | replaced kind => exact kind.elim
  | staged kind => exact kind.elim
  | advanced => rfl
  | expired => rfl
  | delivered => rfl
  | snapshotted now _ _ hc => exact hc.frame.stored
  | consumed now _ _ readerId maxBatch hc => exact hc.frame.stored

/-- Without a publish nothing enters a channel of the bus. -/
theorem Evolves.sameStored {bus bus' : RuntimeChannelBus} (h : Evolves isQuietStep bus bus') :
    SameStored bus bus' := by
  intro id
  refine ChannelSteps.invariant (P := fun s => s.ledger.stored = (bus.channels id).ledger.stored)
    (fun s s' hstep hs => ?_) (h.steps id) rfl
  rw [stored_quietStep hstep, hs]

/-- The operations of the bus that components and triggers read with. -/
def BusOp.isRead : BusOp → Bool
  | .publishShared .. | .publishSharedFrom .. | .publishBatch .. | .advanceEpoch => false
  | _ => true

abbrev BusRead := { op : BusOp // op.isRead = true }

/-- An operation that reads does not publish. -/
theorem BusOp.quiet_of_isRead {op : BusOp} (h : op.isRead = true) {kind : StepKind}
    {clock : Nat → Int} (hkind : op.kinds clock kind) : isQuietStep kind := by
  cases op with
  | publishShared | publishSharedFrom | publishBatch | advanceEpoch => cases h
  | readLatestForReader | readLatestUpdateForComponentPort | peekLatestForComponentPort
  | snapshotForComponentPort =>
      rcases hkind with ⟨n, rfl⟩
      trivial
  | drainForReader | drainForComponentPort | consumeForComponent =>
      rcases hkind with ⟨n, rfl | rfl⟩
      · trivial
      · trivial

theorem BusRead.sameStored (clock : Nat → Int) (bus : RuntimeChannelBus) (read : BusRead) :
    SameStored bus (read.1.exec clock bus).2 :=
  ((exec_evolves clock bus read.1).mono fun _ hkind =>
    BusOp.quiet_of_isRead read.2 hkind).sameStored

/-- A value that becomes visible had entered before. -/
theorem advanceEpoch_sameStored (bus : RuntimeChannelBus) : SameStored bus bus.advanceEpoch := by
  have hevolves : Evolves isQuietStep bus bus.advanceEpoch :=
    RuntimeChannelBus.advanceEpoch_evolves trivial bus
  exact hevolves.sameStored

/-! ## What a batch stores -/

namespace RuntimeChannelBus

/-- The publication stands for this one alone. -/
structure ExpandsTo (publication : RuntimeChannelPublication) (one : ExpandedPublication) :
    Prop where
  channelId : one.channelId = publication.id
  payload : publication.payload = some one.payload
  eventTimestamp : one.eventTimestamp = publication.eventTimestamp
  metadata : one.metadata = publication.metadata
  tag : one.tag = publication.tag

/-- A publication for a channel stands for one, with its tag. -/
theorem expand_channel {bus : RuntimeChannelBus} {publication : RuntimeChannelPublication}
    (htarget : publication.target = .channel) {several : List ExpandedPublication}
    (h : bus.expand publication = .ok several) :
    ∃ one, several = [one] ∧ ExpandsTo publication one := by
  unfold expand at h
  rw [htarget] at h
  cases hpayload : publication.payload with
  | none => simp [hpayload] at h
  | some payload =>
      simp only [hpayload] at h
      split_ifs at h
      cases h
      exact ⟨_, rfl, rfl, hpayload, rfl, rfl, rfl⟩

/-- Publications to single channels expand to themselves. -/
theorem expandAll_channels {bus : RuntimeChannelBus}
    {publications : List RuntimeChannelPublication} {expanded : List ExpandedPublication}
    (htarget : ∀ p ∈ publications, p.target = .channel)
    (h : bus.expandAll publications = .ok expanded) :
    List.Forall₂ ExpandsTo publications expanded := by
  induction publications generalizing expanded with
  | nil =>
      cases h
      exact .nil
  | cons publication rest ih =>
      rw [expandAll] at h
      split at h
      next several others hseveral hothers =>
        cases h
        obtain ⟨one, rfl, hone⟩ :=
          expand_channel (htarget publication (List.mem_cons_self ..)) hseveral
        exact .cons hone (ih (fun p hp => htarget p (List.mem_cons_of_mem _ hp)) hothers)
      next => cases h
      next => cases h

/-- What is in the channels after a batch of publications to single channels. -/
theorem publishBatch_enteredAs_iff (clock : Nat → Int) (bus : RuntimeChannelBus)
    {publications : List RuntimeChannelPublication}
    (htarget : ∀ p ∈ publications, p.target = .channel)
    (haccepted : (bus.publishBatch clock publications).1.accepted = true) (channelId : String)
    (tag : Nat) :
    EnteredAs (bus.publishBatch clock publications).2 channelId tag ↔
      EnteredAs bus channelId tag ∨ ∃ p ∈ publications, p.id = channelId ∧ p.tag = some tag := by
  rcases (publishBatch_allOrNothing clock bus publications).2.accepted haccepted with
    ⟨expanded, hexpanded, hstored⟩
  rcases (hstored channelId).stored with ⟨new, hnew, hall, -⟩
  have hexpands : (∃ p ∈ publications, p.id = channelId ∧ p.tag = some tag) ↔
      ∃ e ∈ expanded, e.channelId = channelId ∧ e.tag = some tag :=
    Paired.exists_mem_iff (expandAll_channels htarget hexpanded) fun p e hone => by
      rw [hone.channelId, hone.tag]
  -- the new messages are the publications to this channel, one by one
  have hsame : (∃ e ∈ expanded.filter fun e => e.channelId = channelId, e.tag = some tag) ↔
      ∃ message ∈ new, message.tag = some tag :=
    Paired.exists_mem_iff hall fun e message hone => by
      rw [hone.tag]
  rw [hexpands]
  unfold EnteredAs
  rw [hnew]
  simp only [List.mem_append, or_and_right, exists_or, ← hsame]
  simp [and_assoc]

end RuntimeChannelBus

end TopoExec
