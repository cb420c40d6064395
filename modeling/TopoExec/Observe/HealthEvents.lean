import Mathlib.Data.List.Nodup

/-! # The health event sink

`HealthEventSink` keeps the last events of the runtime, one for each coalescing key. It
never waits: an emit that does not get the lock at once is counted as dropped. Whether
it gets the lock is up to the other threads, so an emit is given the answer.

The time of an event is given with the emit. The attributes are the entries of the
source's map. The 64-bit counters are taken not to run over.
-/

namespace TopoExec

/-! ## Events -/

/-- `enum class HealthEventKind`. -/
inductive HealthEventKind where
  | channelOverflow
  | channelStaleDrop
  | channelDeadlineMiss
  | backpressureHighWatermark
  | taskReject
  | schedulerReject
deriving DecidableEq, Repr

structure HealthEvent where
  kind : HealthEventKind := .channelOverflow
  source : String := ""
  componentId : String := ""
  lane : String := ""
  channelId : String := ""
  edgeId : String := ""
  policy : String := ""
  reason : String := ""
  sequence : Nat := 0
  depth : Nat := 0
  capacity : Nat := 0
  occurrenceCount : Nat := 1
  attributes : List (String × String) := []
  observedAt : Int := 0
deriving DecidableEq, Repr

/-- `same_coalescing_key`. -/
def sameCoalescingKey (left right : HealthEvent) : Bool :=
  left.kind = right.kind && left.source = right.source && left.componentId = right.componentId &&
    left.lane = right.lane && left.channelId = right.channelId && left.edgeId = right.edgeId &&
    left.policy = right.policy

/-- The stored event takes over what the new one says, and counts it. -/
def HealthEvent.absorb (existing event : HealthEvent) : HealthEvent :=
  { existing with
    occurrenceCount := existing.occurrenceCount + event.occurrenceCount
    sequence := event.sequence
    depth := event.depth
    capacity := event.capacity
    reason := event.reason
    attributes := event.attributes
    observedAt := event.observedAt }

/-- The event as it is stored: with its time, and counted at least once. -/
def HealthEvent.observed (event : HealthEvent) (now : Int) : HealthEvent :=
  { event with
    observedAt := now
    occurrenceCount := if event.occurrenceCount = 0 then 1 else event.occurrenceCount }

/-- The loop over the stored events: the first one with the key absorbs the event. -/
def coalesce (event : HealthEvent) : List HealthEvent → Option (List HealthEvent)
  | [] => none
  | existing :: rest =>
      if sameCoalescingKey existing event then some (existing.absorb event :: rest)
      else (coalesce event rest).map (existing :: ·)

/-! ## The sink -/

structure HealthEventSink where
  capacity : Nat := 64
  enabled : Bool := true
  events : List HealthEvent := []
  droppedCount : Nat := 0
  coalescedCount : Nat := 0
deriving DecidableEq, Repr

namespace HealthEventSink

def setEnabled (sink : HealthEventSink) (enabled : Bool) : HealthEventSink :=
  { sink with enabled := enabled }

def countDrop (sink : HealthEventSink) : HealthEventSink :=
  { sink with droppedCount := sink.droppedCount + 1 }

/-- The end of `emit`: the oldest event makes room for a new one. -/
def store (sink : HealthEventSink) (event : HealthEvent) : HealthEventSink :=
  if sink.capacity ≤ sink.events.length then
    { sink.countDrop with events := sink.events.drop 1 ++ [event] }
  else { sink with events := sink.events ++ [event] }

/-- The part of `emit` under the lock. -/
def record (sink : HealthEventSink) (event : HealthEvent) : HealthEventSink :=
  match coalesce event sink.events with
  | some events => { sink with events := events, coalescedCount := sink.coalescedCount + 1 }
  | none => sink.store event

/-- `emit`; `ownsLock` is the answer of the lock, `now` the one of the clock. -/
def emit (sink : HealthEventSink) (ownsLock : Bool) (now : Int) (event : HealthEvent) :
    HealthEventSink :=
  if !sink.enabled then sink
  else if sink.capacity = 0 then sink.countDrop
  else if !ownsLock then sink.countDrop
  else sink.record (event.observed now)

end HealthEventSink

/-- A call of the sink. -/
inductive HealthOp where
  | emit (ownsLock : Bool) (now : Int) (event : HealthEvent)
  | setEnabled (enabled : Bool)
deriving DecidableEq, Repr

def HealthOp.exec : HealthOp → HealthEventSink → HealthEventSink
  | emit ownsLock now event, sink => sink.emit ownsLock now event
  | setEnabled enabled, sink => sink.setEnabled enabled

def runHealth (ops : List HealthOp) (sink : HealthEventSink) : HealthEventSink :=
  ops.foldl (fun sink op => op.exec sink) sink

/-- The number of emits in `ops` that find the sink enabled, told from the calls alone. -/
def emitsWhileEnabled : Bool → List HealthOp → Nat
  | _, [] => 0
  | enabled, .emit .. :: ops => (if enabled then 1 else 0) + emitsWhileEnabled enabled ops
  | _, .setEnabled enabled :: ops => emitsWhileEnabled enabled ops

/-! ## Coalescing -/

/-- What `same_coalescing_key` compares. -/
def coalescingKey (event : HealthEvent) :
    HealthEventKind × String × String × String × String × String × String :=
  (event.kind, event.source, event.componentId, event.lane, event.channelId, event.edgeId,
    event.policy)

theorem sameCoalescingKey_iff (left right : HealthEvent) :
    sameCoalescingKey left right = true ↔ coalescingKey left = coalescingKey right := by
  simp [sameCoalescingKey, coalescingKey, and_assoc]

/-- An event that is not absorbed brings a new key. -/
theorem coalescingKey_notMem {event : HealthEvent} {events : List HealthEvent}
    (h : coalesce event events = none) : coalescingKey event ∉ events.map coalescingKey := by
  induction events with
  | nil => exact List.not_mem_nil
  | cons existing rest ih =>
      unfold coalesce at h
      split_ifs at h with hkey
      have hrest := ih (Option.map_eq_none_iff.mp h)
      rw [sameCoalescingKey_iff] at hkey
      rw [List.map_cons, List.mem_cons, not_or]
      exact ⟨fun heq => hkey heq.symm, hrest⟩

/-- An absorbed event leaves the keys as they are. -/
theorem map_coalescingKey {event : HealthEvent} {events events' : List HealthEvent}
    (h : coalesce event events = some events') :
    events'.map coalescingKey = events.map coalescingKey := by
  induction events generalizing events' with
  | nil => cases h
  | cons existing rest ih =>
      unfold coalesce at h
      split_ifs at h with hkey
      · rw [Option.some.injEq] at h
        subst h
        rfl
      · obtain ⟨rest', hrest, rfl⟩ := Option.map_eq_some_iff.mp h
        rw [List.map_cons, List.map_cons, ih hrest]

/-! ## The balance -/

namespace HealthEventSink

/-- What holds after `emits` emits while enabled. -/
structure Balanced (capacity emits : Nat) (sink : HealthEventSink) : Prop where
  capacity_eq : sink.capacity = capacity
  bounded : sink.events.length ≤ capacity
  keys : (sink.events.map coalescingKey).Nodup
  balance : emits = sink.events.length + sink.coalescedCount + sink.droppedCount

variable {capacity emits : Nat} {sink : HealthEventSink}

theorem Balanced.countDrop (h : Balanced capacity emits sink) :
    Balanced capacity (1 + emits) sink.countDrop where
  capacity_eq := h.capacity_eq
  bounded := h.bounded
  keys := h.keys
  balance := by
    have hbalance := h.balance
    simp only [HealthEventSink.countDrop]
    omega

/-- The oldest event goes when the sink is full: the number of events stays, and the drop is
counted. -/
theorem Balanced.store (h : Balanced capacity emits sink) (hcapacity : capacity ≠ 0)
    {event : HealthEvent} (hnew : coalescingKey event ∉ sink.events.map coalescingKey) :
    Balanced capacity (1 + emits) (sink.store event) := by
  have hbalance := h.balance
  have hbounded := h.bounded
  -- the new key is not in use, with or without the event that has to go
  have hkeys : ∀ n, ((sink.events.drop n ++ [event]).map coalescingKey).Nodup := by
    intro n
    rw [List.map_append, List.map_drop, List.map_singleton]
    apply List.Nodup.append (h.keys.sublist (List.drop_sublist n _)) (List.nodup_singleton _)
    intro key hkey hlast
    rw [List.mem_singleton] at hlast
    exact hnew (hlast ▸ List.mem_of_mem_drop hkey)
  unfold HealthEventSink.store
  split_ifs with hfull
  · rw [h.capacity_eq] at hfull
    -- the oldest event goes, and is counted as dropped
    constructor
    · exact h.capacity_eq
    · show (sink.events.drop 1 ++ [event]).length ≤ capacity
      rw [List.length_append, List.length_drop, List.length_singleton]
      omega
    · exact hkeys 1
    · show 1 + emits = (sink.events.drop 1 ++ [event]).length + sink.coalescedCount +
        (sink.droppedCount + 1)
      rw [List.length_append, List.length_drop, List.length_singleton]
      omega
  · rw [h.capacity_eq] at hfull
    constructor
    · exact h.capacity_eq
    · show (sink.events ++ [event]).length ≤ capacity
      rw [List.length_append, List.length_singleton]
      omega
    · exact hkeys 0
    · show 1 + emits = (sink.events ++ [event]).length + sink.coalescedCount + sink.droppedCount
      rw [List.length_append, List.length_singleton]
      omega

theorem Balanced.record (h : Balanced capacity emits sink) (hcapacity : capacity ≠ 0)
    (event : HealthEvent) : Balanced capacity (1 + emits) (sink.record event) := by
  unfold HealthEventSink.record
  cases hcoalesce : coalesce event sink.events with
  | none => exact h.store hcapacity (coalescingKey_notMem hcoalesce)
  | some events =>
      have hkeys := map_coalescingKey hcoalesce
      have hlength : events.length = sink.events.length := by
        simpa using congrArg List.length hkeys
      constructor
      · exact h.capacity_eq
      · show events.length ≤ capacity
        rw [hlength]
        exact h.bounded
      · show (events.map coalescingKey).Nodup
        rw [hkeys]
        exact h.keys
      · show 1 + emits = events.length + (sink.coalescedCount + 1) + sink.droppedCount
        have hbalance := h.balance
        omega

theorem Balanced.emit (h : Balanced capacity emits sink) (ownsLock : Bool) (now : Int)
    (event : HealthEvent) :
    Balanced capacity ((if sink.enabled then 1 else 0) + emits)
      (sink.emit ownsLock now event) := by
  unfold HealthEventSink.emit
  cases henabled : sink.enabled with
  | false => simpa using h
  | true =>
      simp only [Bool.not_true, Bool.false_eq_true, if_false, if_true]
      split_ifs with hcapacity hlock
      · exact h.countDrop
      · exact h.countDrop
      · rw [h.capacity_eq] at hcapacity
        exact h.record hcapacity (event.observed now)

theorem enabled_emit (sink : HealthEventSink) (ownsLock : Bool) (now : Int) (event : HealthEvent) :
    (sink.emit ownsLock now event).enabled = sink.enabled := by
  have hstore : ∀ event, (sink.store event).enabled = sink.enabled := by
    intro event
    unfold HealthEventSink.store
    split_ifs
    · rfl
    · rfl
  unfold HealthEventSink.emit
  split_ifs
  · rfl
  · rfl
  · rfl
  · unfold HealthEventSink.record
    split
    · rfl
    · exact hstore _

end HealthEventSink

open HealthEventSink

theorem runHealth_balanced (ops : List HealthOp) {capacity emits : Nat} {sink : HealthEventSink}
    (h : Balanced capacity emits sink) :
    Balanced capacity (emitsWhileEnabled sink.enabled ops + emits) (runHealth ops sink) := by
  induction ops generalizing emits sink with
  | nil =>
      rw [emitsWhileEnabled, Nat.zero_add]
      exact h
  | cons op ops ih =>
      cases op with
      | emit ownsLock now event =>
          have hrest := ih (h.emit ownsLock now event)
          rw [enabled_emit] at hrest
          have hemits : emitsWhileEnabled sink.enabled (.emit ownsLock now event :: ops) + emits =
              emitsWhileEnabled sink.enabled ops + ((if sink.enabled then 1 else 0) + emits) := by
            rw [emitsWhileEnabled]
            omega
          rw [hemits]
          exact hrest
      | setEnabled enabled =>
          have hset : Balanced capacity emits (sink.setEnabled enabled) :=
            ⟨h.capacity_eq, h.bounded, h.keys, h.balance⟩
          exact ih hset

/-- In every run the stored events are at most as many as the capacity and have different
keys, and every emit that found the sink enabled is stored, coalesced or dropped. -/
theorem health_sink_accounts (capacity : Nat) (enabled : Bool) (ops : List HealthOp) :
    let sink := runHealth ops { capacity := capacity, enabled := enabled }
    sink.events.length ≤ capacity ∧
      sink.events.Pairwise (fun left right => sameCoalescingKey left right = false) ∧
      emitsWhileEnabled enabled ops =
        sink.events.length + sink.coalescedCount + sink.droppedCount := by
  intro sink
  have hinit : Balanced capacity 0 { capacity := capacity, enabled := enabled } :=
    ⟨rfl, Nat.zero_le _, List.nodup_nil, rfl⟩
  have hrun := runHealth_balanced ops hinit
  refine ⟨hrun.bounded, ?_, hrun.balance⟩
  refine (List.pairwise_map.mp hrun.keys).imp ?_
  intro left right hne
  rw [← Bool.not_eq_true, sameCoalescingKey_iff]
  exact hne

end TopoExec
