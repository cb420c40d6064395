import TopoExec.Graph.Validated
import TopoExec.Lib.Machine
import TopoExec.Trigger.TimeSync

/-! # Timestamps in 64 bits

The rest of the model computes with exact timestamps. In the source they are 64-bit
integers, and `collect_time_sync` and `collect_watermark` subtract before they compare.
Here are the two tests as the machine evaluates them, where `none` is a signed overflow.
They are exact iff the difference they take is in range, and so are the loops around
them.
-/

namespace TopoExec

open Queues Machine

/-! ## The tests -/

section

variable (policy : TriggerPolicySpec)

/-- `timestamp_slop_ns` -/
def timestampSlopNs : Option Int := int64 (policy.syncSlopMs * nanosecondsPerMillisecond)

/-- `watermark_lateness_ns` -/
def watermarkLatenessNs : Option Int :=
  int64 (policy.watermarkLatenessMs * nanosecondsPerMillisecond)

/-- `max - min <= slop_ns` of `collect_time_sync`. -/
def withinSlopInt64 (first : PortMessage) (rest : List PortMessage) : Option Bool :=
  (timestampSlopNs policy).bind fun slop =>
    (int64 (eventTimestampNs (maxItem first rest) - eventTimestampNs (minItem first rest))).map
      fun spread => decide (spread ≤ slop)

/-- `timestamp < watermark - lateness_ns` of `collect_watermark`. -/
def lateInt64 (mark timestamp : Int) : Option Bool :=
  (watermarkLatenessNs policy).bind fun lateness =>
    (int64 (mark - lateness)).map fun bound => decide (timestamp < bound)

end

/-- The policy as it is when it is run: accepted by validation, with the fields in their
type. -/
structure AcceptedPolicy (component : ComponentNodeSpec) : Prop where
  accepted : triggerPolicyErrors component = []
  slop : FitsInt32 component.triggerPolicy.syncSlopMs
  lateness : FitsInt32 component.triggerPolicy.watermarkLatenessMs

variable {component : ComponentNodeSpec}

/-- The validation lets no negative bound through. -/
theorem AcceptedPolicy.nonneg (h : AcceptedPolicy component) :
    0 ≤ component.triggerPolicy.syncSlopMs ∧ 0 ≤ component.triggerPolicy.watermarkLatenessMs := by
  have haccepted := h.accepted
  simp only [triggerPolicyErrors, List.append_eq_nil_iff, require_eq_nil] at haccepted
  obtain ⟨⟨⟨⟨⟨-, -, -, hslop, -, -, hlateness, -⟩, -⟩, -⟩, -⟩, -⟩ := haccepted
  exact ⟨hslop, hlateness⟩

/-- A number of milliseconds, in nanoseconds. -/
theorem fitsInt64_milliseconds {milliseconds : Int} (h : FitsInt32 milliseconds) :
    FitsInt64 (milliseconds * nanosecondsPerMillisecond) := by
  unfold FitsInt32 at h
  unfold FitsInt64 nanosecondsPerMillisecond
  omega

/-- The bound in nanoseconds fits. -/
theorem AcceptedPolicy.timestampSlopNs_eq (h : AcceptedPolicy component) :
    timestampSlopNs component.triggerPolicy =
      some (component.triggerPolicy.syncSlopMs * nanosecondsPerMillisecond) :=
  int64_of_fits (fitsInt64_milliseconds h.slop)

/-- The bound in nanoseconds fits. -/
theorem AcceptedPolicy.watermarkLatenessNs_eq (h : AcceptedPolicy component) :
    watermarkLatenessNs component.triggerPolicy =
      some (component.triggerPolicy.watermarkLatenessMs * nanosecondsPerMillisecond) :=
  int64_of_fits (fitsInt64_milliseconds h.lateness)

/-- The spread of the fronts is in range iff any two of them are close enough. -/
theorem fitsInt64_spread_iff {first : PortMessage} {rest : List PortMessage} :
    FitsInt64 (eventTimestampNs (maxItem first rest) - eventTimestampNs (minItem first rest)) ↔
      ∀ item ∈ first :: rest, ∀ other ∈ first :: rest,
        eventTimestampNs item - eventTimestampNs other < 2 ^ 63 := by
  constructor
  · intro h item hitem other hother
    have hmax := le_maxItem first rest item hitem
    have hmin := minItem_le first rest other hother
    have hspread := h.2
    omega
  · intro h
    have hspread := h _ (maxItem_mem first rest) _ (minItem_mem first rest)
    have horder := minItem_le first rest _ (maxItem_mem first rest)
    exact ⟨by omega, hspread⟩

/-- A watermark minus a lateness can only leave the range at its lower end. -/
theorem fitsInt64_bound_iff {mark lateness : Int} (hmark : FitsInt64 mark)
    (hlateness : 0 ≤ lateness) :
    FitsInt64 (mark - lateness) ↔ -2 ^ 63 ≤ mark - lateness := by
  constructor
  · exact And.left
  · intro h
    have hupper := hmark.2
    exact ⟨h, by omega⟩

/-- The two tests give the exact answers iff their differences are in range: no two of
the fronts are `2^63` nanoseconds apart, and the watermark is not within the lateness of
the smallest timestamp there is. -/
theorem timestamp_tests_exact_iff (haccepted : AcceptedPolicy component) :
    (∀ first rest, (∀ item ∈ first :: rest, FitsInt64 (eventTimestampNs item)) →
      (withinSlopInt64 component.triggerPolicy first rest =
          some (decide (eventTimestampNs (maxItem first rest) -
            eventTimestampNs (minItem first rest) ≤
              component.triggerPolicy.syncSlopMs * nanosecondsPerMillisecond)) ↔
        ∀ item ∈ first :: rest, ∀ other ∈ first :: rest,
          eventTimestampNs item - eventTimestampNs other < 2 ^ 63)) ∧
    ∀ mark timestamp, FitsInt64 mark → FitsInt64 timestamp →
      (lateInt64 component.triggerPolicy mark timestamp =
          some (decide (timestamp <
            mark - component.triggerPolicy.watermarkLatenessMs * nanosecondsPerMillisecond)) ↔
        -2 ^ 63 ≤
          mark - component.triggerPolicy.watermarkLatenessMs * nanosecondsPerMillisecond) := by
  constructor
  · intro first rest _
    rw [withinSlopInt64, haccepted.timestampSlopNs_eq, ← fitsInt64_spread_iff]
    exact int64_map_eq_some_iff
  · intro mark timestamp hmark _
    have hlateness : 0 ≤
        component.triggerPolicy.watermarkLatenessMs * nanosecondsPerMillisecond :=
      Int.mul_nonneg haccepted.nonneg.2 (by decide)
    rw [lateInt64, haccepted.watermarkLatenessNs_eq, ← fitsInt64_bound_iff hmark hlateness]
    exact int64_map_eq_some_iff

/-- `syncComponent` with a lateness. -/
def lateSyncComponent : ComponentNodeSpec :=
  { syncComponent with
    triggerPolicy := { syncComponent.triggerPolicy with watermarkLatenessMs := 1 } }

theorem lateSyncComponent_accepted : AcceptedPolicy lateSyncComponent := by
  constructor
  · decide
  · decide
  · decide

theorem timestamp_tests_exact_close :
    withinSlopInt64 lateSyncComponent.triggerPolicy ("left", messageAt 0)
        [("right", messageAt 5000000)] = some false ∧
      lateInt64 lateSyncComponent.triggerPolicy 5000000 0 = some true := by
  obtain ⟨hspread, hlate⟩ := timestamp_tests_exact_iff lateSyncComponent_accepted
  constructor
  · exact (hspread _ _ (by decide)).mpr (by decide)
  · exact (hlate _ _ (by decide) (by decide)).mpr (by decide)

/-- The largest timestamp and -1, and a watermark at the smallest timestamp: both tests
overflow. -/
theorem timestamp_tests_overflow :
    AcceptedPolicy lateSyncComponent ∧ FitsInt64 (2 ^ 63 - 1) ∧ FitsInt64 (-1) ∧
      FitsInt64 (-2 ^ 63) ∧
      withinSlopInt64 lateSyncComponent.triggerPolicy ("left", messageAt (2 ^ 63 - 1))
        [("right", messageAt (-1))] ≠
        some (decide ((2 ^ 63 - 1 : Int) - (-1) ≤
          lateSyncComponent.triggerPolicy.syncSlopMs * nanosecondsPerMillisecond)) ∧
      lateInt64 lateSyncComponent.triggerPolicy (-2 ^ 63) (-1) ≠
        some (decide ((-1 : Int) < -2 ^ 63 -
          lateSyncComponent.triggerPolicy.watermarkLatenessMs * nanosecondsPerMillisecond)) :=
  ⟨lateSyncComponent_accepted, by decide, by decide, by decide, by decide, by decide⟩

/-! ## The loops -/

section

variable (policy : TriggerPolicySpec)

/-- `inSync` on the machine. -/
def inSyncInt64 : List PortMessage → Option Bool
  | [] => some true
  | first :: rest =>
      (timestampSlopNs policy).bind fun slop =>
        if slop ≤ 0 || !messagesHaveComparableTimestamps (first :: rest) then some true
        else withinSlopInt64 policy first rest

/-- Whether a message is late for the watermark of its domain, if there is one. -/
def foundLateInt64 (found : Option Int) (timestamp : Int) : Option Bool :=
  match found with
  | none => some false
  | some mark => lateInt64 policy mark timestamp

/-- `retainTimely` on the machine. -/
def retainTimelyInt64 : List RuntimeChannelMessage → (String → Option Int) × Nat →
    Option (List RuntimeChannelMessage × (String → Option Int) × Nat)
  | [], s => some ([], s)
  | message :: queue, s =>
      match message.eventTimestamp with
      | none => (retainTimelyInt64 queue s).map fun tail => (message :: tail.1, tail.2)
      | some timestamp =>
          (foundLateInt64 policy (s.1 timestamp.domain) timestamp.nanoseconds).bind fun late =>
            if late then retainTimelyInt64 queue (s.1, s.2 + 1)
            else
              let marks :=
                if ∀ mark ∈ s.1 timestamp.domain, mark < timestamp.nanoseconds then
                  Function.update s.1 timestamp.domain (some timestamp.nanoseconds)
                else s.1
              (retainTimelyInt64 queue (marks, s.2)).map fun tail => (message :: tail.1, tail.2)

end

/-- Fronts that are close enough are compared exactly. -/
theorem inSyncInt64_eq (haccepted : AcceptedPolicy component) {messages : List PortMessage}
    (hclose : ∀ item ∈ messages, ∀ other ∈ messages,
      eventTimestampNs item - eventTimestampNs other < 2 ^ 63) :
    inSyncInt64 component.triggerPolicy messages =
      some (inSync component.triggerPolicy messages) := by
  cases messages with
  | nil => rfl
  | cons first rest =>
      have hspread := fitsInt64_spread_iff.mpr hclose
      simp only [inSyncInt64, inSync, withinSlopInt64, haccepted.timestampSlopNs_eq,
        Option.bind_some, int64_of_fits hspread, Option.map_some]
      split_ifs with hfree
      · rw [hfree, Bool.true_or]
      · rw [Bool.not_eq_true] at hfree
        rw [hfree, Bool.false_or]

/-- The lateness can be subtracted from it. -/
def AboveLateness (policy : TriggerPolicySpec) (x : Int) : Prop :=
  FitsInt64 x ∧ -2 ^ 63 ≤ x - policy.watermarkLatenessMs * nanosecondsPerMillisecond

/-- Above the lowest mark the subtraction does not wrap. -/
theorem foundLateInt64_eq (haccepted : AcceptedPolicy component) {found : Option Int}
    (timestamp : Int) (h : ∀ mark ∈ found, AboveLateness component.triggerPolicy mark) :
    foundLateInt64 component.triggerPolicy found timestamp =
      some (decide (∃ mark ∈ found, timestamp <
        mark - component.triggerPolicy.watermarkLatenessMs * nanosecondsPerMillisecond)) := by
  cases found with
  | none => simp [foundLateInt64]
  | some mark =>
      have habove := h mark rfl
      have hlateness : 0 ≤
          component.triggerPolicy.watermarkLatenessMs * nanosecondsPerMillisecond :=
        Int.mul_nonneg haccepted.nonneg.2 (by decide)
      have hbound := (fitsInt64_bound_iff habove.1 hlateness).mpr habove.2
      simp [foundLateInt64, lateInt64, haccepted.watermarkLatenessNs_eq, int64_of_fits hbound]

/-- A scan of messages and watermarks above the lateness is exact. -/
theorem retainTimelyInt64_eq (haccepted : AcceptedPolicy component)
    {queue : List RuntimeChannelMessage} :
    ∀ s : (String → Option Int) × Nat,
      (∀ message ∈ queue, ∀ timestamp ∈ message.eventTimestamp,
        AboveLateness component.triggerPolicy timestamp.nanoseconds) →
      (∀ domain, ∀ mark ∈ s.1 domain, AboveLateness component.triggerPolicy mark) →
      retainTimelyInt64 component.triggerPolicy queue s =
        some (retainTimely
          (component.triggerPolicy.watermarkLatenessMs * nanosecondsPerMillisecond) queue s) := by
  induction queue with
  | nil =>
      intro s _ _
      rfl
  | cons message queue ih =>
      intro s hqueue hmarks
      have hrest : ∀ message ∈ queue, ∀ timestamp ∈ message.eventTimestamp,
          AboveLateness component.triggerPolicy timestamp.nanoseconds :=
        fun other hother => hqueue other (List.mem_cons_of_mem _ hother)
      unfold retainTimelyInt64 retainTimely
      cases hstamp : message.eventTimestamp with
      | none =>
          dsimp only
          rw [ih s hrest hmarks]
          rfl
      | some timestamp =>
          have habove := hqueue message (List.mem_cons_self ..) timestamp hstamp
          -- the watermarks after an admission are the old ones and this timestamp
          have hupdated : ∀ domain, ∀ mark ∈ (if ∀ mark ∈ s.1 timestamp.domain,
                mark < timestamp.nanoseconds then
              Function.update s.1 timestamp.domain (some timestamp.nanoseconds) else s.1) domain,
              AboveLateness component.triggerPolicy mark := by
            intro domain mark hmark
            split_ifs at hmark with hnew
            · by_cases hdomain : domain = timestamp.domain
              · subst hdomain
                rw [Function.update_self] at hmark
                cases hmark
                exact habove
              · rw [Function.update_of_ne hdomain] at hmark
                exact hmarks domain mark hmark
            · exact hmarks domain mark hmark
          have hlate := foundLateInt64_eq haccepted timestamp.nanoseconds (hmarks timestamp.domain)
          simp only [hlate, Option.bind_some, decide_eq_true_eq]
          by_cases hdrop : ∃ mark ∈ s.1 timestamp.domain, timestamp.nanoseconds <
              mark - component.triggerPolicy.watermarkLatenessMs * nanosecondsPerMillisecond
          · rw [if_pos hdrop, if_pos hdrop]
            exact ih (s.1, s.2 + 1) hrest hmarks
          · rw [if_neg hdrop, if_neg hdrop, ih _ hrest hupdated]
            rfl

end TopoExec
