import Mathlib.Algebra.GroupWithZero.Nat
import TopoExec.Lib.Alignment
import TopoExec.Lib.Paired
import TopoExec.Trigger.Flow

/-! # Alignment by time

The loop of `collect_time_sync` is the greedy search for an aligned selection of the
queues: it skips the oldest front until the fronts lie within the slop or a queue is
empty. Where the timestamps are of one domain and do not decrease within a queue, it
finds the earliest aligned selection if there is one.
-/

namespace TopoExec

open Queues Alignment

/-! ## Fronts -/

section

variable {pending : PendingMessages}

/-- The fronts are the first messages of the inputs, in their order. -/
theorem frontMessagesForInputs_fronts {inputs : List String} {messages : List PortMessage}
    (h : frontMessagesForInputs pending inputs = some messages) :
    List.Forall₂ (fun input item => item.1 = input ∧ (pending.queue input).head? = some item.2)
      inputs messages := by
  induction inputs generalizing messages with
  | nil =>
      cases h
      exact .nil
  | cons input inputs ih =>
      unfold frontMessagesForInputs at h
      cases hqueue : pending.queue input with
      | nil => simp [hqueue] at h
      | cons message rest =>
          simp only [hqueue, Option.map_eq_some_iff] at h
          rcases h with ⟨tail, htail, rfl⟩
          exact .cons ⟨rfl, by rw [hqueue]; rfl⟩ (ih htail)

/-- Without fronts some input has nothing pending. -/
theorem frontMessagesForInputs_none {inputs : List String}
    (h : frontMessagesForInputs pending inputs = none) :
    ∃ input ∈ inputs, pending.queue input = [] := by
  induction inputs with
  | nil => cases h
  | cons input inputs ih =>
      unfold frontMessagesForInputs at h
      cases hqueue : pending.queue input with
      | nil => exact ⟨input, List.mem_cons_self .., hqueue⟩
      | cons message rest =>
          simp only [hqueue, Option.map_eq_none_iff] at h
          obtain ⟨other, hother, hempty⟩ := ih h
          exact ⟨other, List.mem_cons_of_mem _ hother, hempty⟩

/-- Consuming takes the first message of each input and of no other queue. -/
theorem consumeFrontMessages_queue {inputs : List String} (hnd : inputs.Nodup)
    {after : PendingMessages} (h : consumeFrontMessages inputs pending = .ok after)
    (port : String) :
    after.queue port = if port ∈ inputs then (pending.queue port).tail else pending.queue port := by
  induction inputs generalizing pending with
  | nil =>
      cases h
      simp
  | cons input inputs ih =>
      rw [List.nodup_cons] at hnd
      unfold consumeFrontMessages at h
      cases hpop : popFront pending input with
      | error fault =>
          rw [hpop] at h
          cases h
      | ok middle =>
          rw [hpop] at h
          unfold popFront at hpop
          cases hqueue : pending.queue input with
          | nil => simp [hqueue] at hpop
          | cons message rest =>
              simp only [hqueue, Except.ok.injEq] at hpop
              subst hpop
              rw [ih hnd.2 h]
              by_cases hport : port = input
              · subst hport
                rw [if_neg hnd.1, if_pos (List.mem_cons_self ..), Bank.queue_set, hqueue,
                  List.tail_cons]
              · rw [Bank.queue_set_of_ne _ hport]
                simp [hport]

end

/-! ## Oldest and newest -/

/-- The oldest front. -/
theorem minItem_le (first : PortMessage) (rest : List PortMessage) :
    ∀ item ∈ first :: rest, eventTimestampNs (minItem first rest) ≤ eventTimestampNs item := by
  unfold minItem
  induction rest generalizing first with
  | nil => simp
  | cons next rest ih =>
      intro item hitem
      rw [List.foldl_cons]
      split_ifs with hless
      · have hnext := ih next next (List.mem_cons_self ..)
        rcases List.mem_cons.mp hitem with rfl | htail
        · omega
        · exact ih next item htail
      · have hfirst := ih first first (List.mem_cons_self ..)
        rcases List.mem_cons.mp hitem with rfl | htail
        · exact hfirst
        · rcases List.mem_cons.mp htail with rfl | hrest
          · omega
          · exact ih first item (List.mem_cons_of_mem _ hrest)

/-- The newest front. -/
theorem le_maxItem (first : PortMessage) (rest : List PortMessage) :
    ∀ item ∈ first :: rest, eventTimestampNs item ≤ eventTimestampNs (maxItem first rest) := by
  unfold maxItem
  induction rest generalizing first with
  | nil => simp
  | cons next rest ih =>
      intro item hitem
      rw [List.foldl_cons]
      split_ifs with hgreater
      · have hnext := ih next next (List.mem_cons_self ..)
        rcases List.mem_cons.mp hitem with rfl | htail
        · omega
        · exact ih next item htail
      · have hfirst := ih first first (List.mem_cons_self ..)
        rcases List.mem_cons.mp hitem with rfl | htail
        · exact hfirst
        · rcases List.mem_cons.mp htail with rfl | hrest
          · omega
          · exact ih first item (List.mem_cons_of_mem _ hrest)

theorem maxItem_mem (first : PortMessage) (rest : List PortMessage) :
    maxItem first rest ∈ first :: rest := by
  unfold maxItem
  induction rest generalizing first with
  | nil => simp
  | cons item rest ih =>
      rw [List.foldl_cons]
      split_ifs
      · exact List.mem_cons_of_mem _ (ih item)
      · rcases List.mem_cons.mp (ih first) with h | h
        · rw [h]
          exact List.mem_cons_self ..
        · exact List.mem_cons_of_mem _ (List.mem_cons_of_mem _ h)

/-! ## The loop -/

/-- `event_timestamp_ns` -/
def timestampNs (message : RuntimeChannelMessage) : Int :=
  (message.eventTimestamp.map EventTimestamp.nanoseconds).getD 0

/-- One message of every input, with timestamps that span at most the slop; `pick` says
where in its queue each of them is. -/
def AlignedSelection (component : ComponentNodeSpec) (pending : PendingMessages)
    (pick : String → Nat) : Prop :=
  Aligned timestampNs (triggerPolicyInputsFor component) pending.queue
    (component.triggerPolicy.syncSlopMs * nanosecondsPerMillisecond) pick

/-- All the messages of the inputs carry a timestamp of one domain, and the timestamps do
not decrease within a queue. -/
structure Timestamped (component : ComponentNodeSpec) (pending : PendingMessages)
    (domain : String) : Prop where
  stamped : ∀ input ∈ triggerPolicyInputsFor component, ∀ message ∈ pending.queue input,
    message.eventTimestamp.map EventTimestamp.domain = some domain
  sorted : ∀ input ∈ triggerPolicyInputsFor component,
    (pending.queue input).Pairwise fun message message' =>
      timestampNs message ≤ timestampNs message'

/-- The fronts are at these positions of the queues. -/
def FrontsAt (component : ComponentNodeSpec) (before : PendingMessages) (skipped : String → Nat)
    (messages : List PortMessage) : Prop :=
  List.Forall₂ (fun input item => item.1 = input ∧
    (before.queue input)[skipped input]? = some item.2) (triggerPolicyInputsFor component) messages

/-- What the search leaves behind: from each queue it drops the first `skipped` messages,
and one more goes into the invocation if there is one. -/
structure SearchResult (component : ComponentNodeSpec) (before after : PendingMessages)
    (skipped : String → Nat) (invocations : List Invocation) : Prop where
  emits : invocations ≠ [] ↔ ∃ pick, AlignedSelection component before pick
  /-- What it hands over is what it was made from. -/
  faithful : ∀ invocation ∈ invocations, Faithful invocation
  /-- The invocation is the earliest aligned selection in every queue. -/
  earliest : ∀ invocation ∈ invocations, invocations = [invocation] ∧
    FrontsAt component before skipped invocation.messages ∧
    AlignedSelection component before skipped ∧
    ∀ pick, AlignedSelection component before pick →
      ∀ input ∈ triggerPolicyInputsFor component, skipped input ≤ pick input
  /-- No dropped message is in an aligned selection. -/
  useless : ∀ input ∈ triggerPolicyInputsFor component, ∀ position < skipped input,
    ∀ pick, AlignedSelection component before pick → pick input ≠ position
  within : ∀ port, skipped port ≤ (before.queue port).length
  outside : ∀ port, port ∉ triggerPolicyInputsFor component → skipped port = 0
  queue : ∀ port, after.queue port = (before.queue port).drop
    (skipped port +
      if invocations ≠ [] ∧ port ∈ triggerPolicyInputsFor component then 1 else 0)

section

variable {context : TickContext} {component : ComponentNodeSpec} {lane : SchedulerGroupConfig}
  {before pending : PendingMessages} {skipped : String → Nat} {domain : String}

/-- Where the search is: the queues without the messages skipped so far. -/
structure Searching (component : ComponentNodeSpec) (before pending : PendingMessages)
    (skipped : String → Nat) : Prop where
  queue : ∀ port, pending.queue port = (before.queue port).drop (skipped port)
  skippable : Skippable timestampNs (triggerPolicyInputsFor component) before.queue
    (component.triggerPolicy.syncSlopMs * nanosecondsPerMillisecond) skipped
  within : ∀ port, skipped port ≤ (before.queue port).length
  outside : ∀ port, port ∉ triggerPolicyInputsFor component → skipped port = 0

/-- The fronts of the search, as positions in the queues it began with. -/
theorem Searching.fronts (h : Searching component before pending skipped)
    {messages : List PortMessage}
    (hfronts : frontMessagesForInputs pending (triggerPolicyInputsFor component) = some messages) :
    FrontsAt component before skipped messages := by
  refine (frontMessagesForInputs_fronts hfronts).imp ?_
  rintro input item ⟨hport, hhead⟩
  refine ⟨hport, ?_⟩
  rw [h.queue, List.head?_drop] at hhead
  exact hhead

/-- Messages of one domain can be compared. -/
theorem messagesHaveComparableTimestamps_of_domain {first : PortMessage} {rest : List PortMessage}
    (h : ∀ item ∈ first :: rest,
      item.2.eventTimestamp.map EventTimestamp.domain = some domain) :
    messagesHaveComparableTimestamps (first :: rest) = true := by
  obtain ⟨timestamp, hfirst, hdomain⟩ :=
    Option.map_eq_some_iff.mp (h first (List.mem_cons_self ..))
  simp only [messagesHaveComparableTimestamps, hfirst, List.all_eq_true, decide_eq_true_eq]
  intro item hitem
  rw [h item (List.mem_cons_of_mem _ hitem), hdomain]

/-- The test compares the newest front with the oldest. -/
theorem inSync_iff (hslop : 0 < component.triggerPolicy.syncSlopMs) {first : PortMessage}
    {rest : List PortMessage}
    (h : ∀ item ∈ first :: rest,
      item.2.eventTimestamp.map EventTimestamp.domain = some domain) :
    inSync component.triggerPolicy (first :: rest) = true ↔
      eventTimestampNs (maxItem first rest) - eventTimestampNs (minItem first rest) ≤
        component.triggerPolicy.syncSlopMs * nanosecondsPerMillisecond := by
  have hpositive : ¬ component.triggerPolicy.syncSlopMs * nanosecondsPerMillisecond ≤ 0 := by
    unfold nanosecondsPerMillisecond
    omega
  simp [inSync, hpositive, messagesHaveComparableTimestamps_of_domain h]

/-- A front stands behind what its queue has skipped. -/
theorem FrontsAt.of_mem {messages : List PortMessage}
    (h : FrontsAt component before skipped messages) {item : PortMessage}
    (hitem : item ∈ messages) :
    item.1 ∈ triggerPolicyInputsFor component ∧
      (before.queue item.1)[skipped item.1]? = some item.2 := by
  obtain ⟨input, hinput, hport, hfront⟩ := Paired.exists_left h hitem
  rw [hport]
  exact ⟨hinput, hfront⟩

/-- Every input has a front. -/
theorem FrontsAt.of_input {messages : List PortMessage}
    (h : FrontsAt component before skipped messages) {input : String}
    (hinput : input ∈ triggerPolicyInputsFor component) :
    ∃ item ∈ messages, item.1 = input ∧ (before.queue input)[skipped input]? = some item.2 :=
  Paired.exists_left h.flip hinput

/-- The fronts have timestamps of the one domain. -/
theorem FrontsAt.stamped {messages : List PortMessage}
    (h : FrontsAt component before skipped messages)
    (htimestamped : Timestamped component before domain) :
    ∀ item ∈ messages, item.2.eventTimestamp.map EventTimestamp.domain = some domain := by
  intro item hitem
  obtain ⟨hinput, hfront⟩ := h.of_mem hitem
  exact htimestamped.stamped item.1 hinput item.2 (List.mem_of_getElem? hfront)

/-- Fronts within the slop are an aligned selection. -/
theorem FrontsAt.aligned {messages : List PortMessage}
    (h : FrontsAt component before skipped messages)
    (htimestamped : Timestamped component before domain)
    (hslop : 0 < component.triggerPolicy.syncSlopMs)
    (hsync : inSync component.triggerPolicy messages = true) :
    AlignedSelection component before skipped := by
  constructor
  · intro input hinput
    obtain ⟨item, -, -, hfront⟩ := h.of_input hinput
    exact (List.getElem?_eq_some_iff.mp hfront).1
  · intro i hi j hj a b ha hb
    obtain ⟨item, hitem, -, hitemFront⟩ := h.of_input hi
    obtain ⟨other, hother, -, hotherFront⟩ := h.of_input hj
    rw [hitemFront] at ha
    rw [hotherFront] at hb
    cases ha
    cases hb
    cases messages with
    | nil => exact absurd hitem List.not_mem_nil
    | cons first rest =>
        have hspan := (inSync_iff hslop (h.stamped htimestamped)).mp hsync
        have hmax := le_maxItem first rest item hitem
        have hmin := minItem_le first rest other hother
        show eventTimestampNs item - eventTimestampNs other ≤ _
        omega

/-- Fronts beyond the slop: the oldest of them can be skipped. -/
theorem Searching.skip (h : Searching component before pending skipped)
    (htimestamped : Timestamped component before domain)
    (hslop : 0 < component.triggerPolicy.syncSlopMs) {first : PortMessage} {rest : List PortMessage}
    (hfronts : FrontsAt component before skipped (first :: rest))
    (hsync : inSync component.triggerPolicy (first :: rest) = false) :
    ∃ queue, popFront pending (minItem first rest).1 =
        .ok (pending.set (minItem first rest).1 queue) ∧
      (minItem first rest).1 ∈ triggerPolicyInputsFor component ∧
      (pending.set (minItem first rest).1 queue).size < pending.size ∧
      Searching component before (pending.set (minItem first rest).1 queue)
        (Function.update skipped (minItem first rest).1 (skipped (minItem first rest).1 + 1)) := by
  obtain ⟨hlow, hlowFront⟩ := hfronts.of_mem (minItem_mem first rest)
  obtain ⟨hhigh, hhighFront⟩ := hfronts.of_mem (maxItem_mem first rest)
  generalize hleast : minItem first rest = least at *
  have hfar : component.triggerPolicy.syncSlopMs * nanosecondsPerMillisecond <
      timestampNs (maxItem first rest).2 - timestampNs least.2 := by
    have hspan := mt (inSync_iff hslop (hfronts.stamped htimestamped)).mpr (by simp [hsync])
    rw [hleast] at hspan
    exact Int.not_le.mp hspan
  -- the queue of the oldest front has that front
  have hqueue : pending.queue least.1 =
      least.2 :: (before.queue least.1).drop (skipped least.1 + 1) := by
    obtain ⟨hinside, hget⟩ := List.getElem?_eq_some_iff.mp hlowFront
    rw [h.queue, List.drop_eq_getElem_cons hinside, hget]
  refine ⟨(before.queue least.1).drop (skipped least.1 + 1), ?_, hlow, ?_, ?_, ?_, ?_, ?_⟩
  · rw [popFront, hqueue]
  · have hsize := pending.size_set least.1 ((before.queue least.1).drop (skipped least.1 + 1))
    rw [hqueue, List.length_cons] at hsize
    omega
  · intro port
    by_cases hport : port = least.1
    · subst hport
      rw [Bank.queue_set, Function.update_self]
    · rw [Bank.queue_set_of_ne _ hport, Function.update_of_ne hport, h.queue]
  · exact h.skippable.skip htimestamped.sorted hlow hhigh hlowFront hhighFront hfar
  · intro port
    by_cases hport : port = least.1
    · subst hport
      rw [Function.update_self]
      exact (List.getElem?_eq_some_iff.mp hlowFront).1
    · rw [Function.update_of_ne hport]
      exact h.within port
  · intro port hport
    have hother : port ≠ least.1 := by
      rintro rfl
      exact hport hlow
    rw [Function.update_of_ne hother]
    exact h.outside port hport

theorem Searching.refl (component : ComponentNodeSpec) (before : PendingMessages) :
    Searching component before before fun _ => 0 :=
  ⟨fun _ => rfl, skippable_zero, fun _ => Nat.zero_le _, fun _ _ => rfl⟩

/-- The search ends without an invocation if a queue is empty. -/
theorem Searching.nothing (h : Searching component before pending skipped) {input : String}
    (hinput : input ∈ triggerPolicyInputsFor component) (hempty : pending.queue input = []) :
    SearchResult component before pending skipped [] := by
  have hend : (before.queue input).length ≤ skipped input := by
    rw [h.queue] at hempty
    exact List.drop_eq_nil_iff.mp hempty
  have hnone := h.skippable.exhausted hinput hend
  refine ⟨?_, by simp, by simp, ?_, h.within, h.outside, ?_⟩
  · constructor
    · intro hne
      exact absurd rfl hne
    · rintro ⟨pick, halign⟩
      exact absurd halign (hnone pick)
  · intro _ _ _ _ pick halign
    exact absurd halign (hnone pick)
  · intro port
    simpa using h.queue port

/-- The search ends with the fronts if they are within the slop. -/
theorem Searching.found (h : Searching component before pending skipped)
    (hnd : (triggerPolicyInputsFor component).Nodup)
    {messages : List PortMessage} (hfronts : FrontsAt component before skipped messages)
    (haligned : AlignedSelection component before skipped) {after : PendingMessages}
    (hconsume : consumeFrontMessages (triggerPolicyInputsFor component) pending = .ok after)
    {invocation : Invocation} (hmessages : invocation.messages = messages)
    (hfaithful : Faithful invocation) :
    SearchResult component before after skipped [invocation] := by
  refine ⟨?_, ?_, ?_, ?_, h.within, h.outside, ?_⟩
  · constructor
    · intro _
      exact ⟨skipped, haligned⟩
    · intro _
      exact List.cons_ne_nil _ _
  · intro other hother
    rw [List.mem_singleton] at hother
    rw [hother]
    exact hfaithful
  · intro other hother
    rw [List.mem_singleton] at hother
    subst hother
    rw [hmessages]
    exact ⟨rfl, hfronts, haligned, h.skippable⟩
  · intro input hinput position hposition pick halign
    have hle := h.skippable pick halign input hinput
    omega
  · intro port
    rw [consumeFrontMessages_queue hnd hconsume, h.queue]
    by_cases hport : port ∈ triggerPolicyInputsFor component
    · simp [hport]
    · simp [hport]

/-- The loop finishes the search it is in, and counts what it skips from there. -/
theorem collectTimeSyncLoop_search (context : TickContext) (lane : SchedulerGroupConfig)
    (hnd : (triggerPolicyInputsFor component).Nodup)
    (hslop : 0 < component.triggerPolicy.syncSlopMs)
    (htimestamped : Timestamped component before domain) (fuel : Nat) :
    ∀ (pending : PendingMessages) (skipped : String → Nat) (base : Nat), pending.size < fuel →
      Searching component before pending skipped →
      ∃ invocations after final,
        collectTimeSyncLoop context component lane fuel pending
            (base + ((triggerPolicyInputsFor component).map skipped).sum) =
          .ok (invocations, after,
            base + ((triggerPolicyInputsFor component).map final).sum) ∧
        SearchResult component before after final invocations := by
  -- every round but the last skips a message, so the fuel outlasts the queues
  induction fuel with
  | zero =>
      intro pending skipped base hsize
      omega
  | succ fuel ih =>
      intro pending skipped base hsize h
      unfold collectTimeSyncLoop
      cases hmessages : frontMessagesForInputs pending (triggerPolicyInputsFor component) with
      | none =>
          obtain ⟨input, hinput, hempty⟩ := frontMessagesForInputs_none hmessages
          exact ⟨[], pending, skipped, rfl, h.nothing hinput hempty⟩
      | some messages =>
          have hfronts := h.fronts hmessages
          dsimp only
          split_ifs with hsync
          · obtain ⟨after, hconsume, -⟩ := consumeFrontMessages_spec hnd hmessages
            refine ⟨[invocationFromMessages context component lane .message .timeSync messages],
              after, skipped, ?_, ?_⟩
            · rw [invokeWithFronts, hconsume]
              rfl
            · exact h.found hnd hfronts (hfronts.aligned htimestamped hslop hsync) hconsume
                (invocationFromMessages_messages ..) (invocationFromMessages_faithful ..)
          · cases messages with
            | nil => exact absurd rfl hsync
            | cons first rest =>
                obtain ⟨queue, hpop, hlow, hless, hnext⟩ :=
                  h.skip htimestamped hslop hfronts (by simpa using hsync)
                obtain ⟨invocations, after, final, hloop, hresult⟩ := ih _ _ base (by omega) hnext
                refine ⟨invocations, after, final, ?_, hresult⟩
                rw [sum_skip hnd hlow] at hloop
                dsimp only
                rw [hpop]
                exact hloop

/-- One call of `collect_time_sync` finds the earliest aligned selection if there is one,
drops only messages of no such selection and counts them. -/
theorem time_sync_alignment (context : TickContext) (lane : SchedulerGroupConfig)
    (s : TriggerState) (hnd : (triggerPolicyInputsFor component).Nodup)
    (hslop : 0 < component.triggerPolicy.syncSlopMs)
    (htimestamped : Timestamped component s.pending domain) :
    ∃ invocations s' skipped, collectTimeSync context component lane s = .ok (invocations, s') ∧
      SearchResult component s.pending s'.pending skipped invocations ∧
      s'.stats.timeSyncDropCount = s.stats.timeSyncDropCount +
        ((triggerPolicyInputsFor component).map skipped).sum := by
  obtain ⟨invocations, after, skipped, hloop, hresult⟩ :=
    collectTimeSyncLoop_search context lane hnd hslop htimestamped (s.pending.size + 1) s.pending
      (fun _ => 0) s.stats.timeSyncDropCount (Nat.lt_succ_self _) (.refl component s.pending)
  have hstart : s.stats.timeSyncDropCount +
      ((triggerPolicyInputsFor component).map fun _ => 0).sum = s.stats.timeSyncDropCount := by
    simp
  rw [hstart] at hloop
  refine ⟨invocations,
    { s with
      pending := after
      stats := { s.stats with
        timeSyncDropCount := s.stats.timeSyncDropCount +
          ((triggerPolicyInputsFor component).map skipped).sum } },
    skipped, ?_, hresult, rfl⟩
  rw [collectTimeSync, hloop]
  rfl

end

/-- `join` within one millisecond. -/
def syncComponent : ComponentNodeSpec :=
  { id := "join", type := "Join", execution := { lane := "main" }
    eventSources := [{ type := "message", inputs := ["left", "right"] }]
    triggerPolicy := { type := "time_sync", syncSlopMs := 1 } }

def messageAt (nanoseconds : Int) : RuntimeChannelMessage :=
  { channelId := "source", payload := {}, publishedAt := 0, receivedAt := 0, sequence := 1
    eventTimestamp := some { domain := "clock", nanoseconds := nanoseconds, source := "test" } }

/-- The left queue begins five milliseconds before the right one. -/
def unevenState : TriggerState :=
  { pending := (Bank.empty.set "left" [messageAt 0, messageAt 5000000]).set "right"
      [messageAt 5500000] }

theorem time_sync_alignment_uneven :
    ∃ invocations s' skipped,
      collectTimeSync {} syncComponent { id := "main" } unevenState = .ok (invocations, s') ∧
      SearchResult syncComponent unevenState.pending s'.pending skipped invocations ∧
      s'.stats.timeSyncDropCount = unevenState.stats.timeSyncDropCount +
        ((triggerPolicyInputsFor syncComponent).map skipped).sum := by
  have htimestamped : Timestamped syncComponent unevenState.pending "clock" := by
    constructor
    · decide
    · decide
  exact time_sync_alignment {} { id := "main" } unevenState (by decide) (by decide) htimestamped

end TopoExec
