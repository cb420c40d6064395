import Mathlib.Order.Lattice
import TopoExec.Lib.Watermark
import TopoExec.Trigger.RateLimit

/-! # Late messages

`collect_watermark` scans the pending messages port by port and queue by queue; that is a
`Watermark.scan`. So over a run of collections the watermarks and the late messages are
those of one history, the verdicts of all the scans.
-/

namespace TopoExec

open Queues History

/-! ## The scan -/

/-- The domain and the time of a message. -/
def stampOf (item : PortMessage) : Option (String × Int) :=
  item.2.eventTimestamp.map fun timestamp => (timestamp.domain, timestamp.nanoseconds)

/-- The messages of some ports in the order of a scan. -/
def scanOrder (pending : PendingMessages) (ports : List String) : List PortMessage :=
  ports.flatMap fun port => (pending.queue port).map fun message => (port, message)

section

variable {lateness : Int} {pending : PendingMessages}

/-- A message with a timestamp is late if it is too far below the mark of its port. -/
theorem late_iff_of_stamp {marks : String → Option Int} (port : String)
    {message : RuntimeChannelMessage} {timestamp : EventTimestamp}
    (h : message.eventTimestamp = some timestamp) :
    Watermark.Late stampOf lateness marks (port, message) ↔
      ∃ mark ∈ marks timestamp.domain, timestamp.nanoseconds < mark - lateness := by
  simp [Watermark.Late, stampOf, h]

/-- A message with a timestamp raises the mark of its port. -/
theorem raise_of_stamp {marks : String → Option Int} (port : String)
    {message : RuntimeChannelMessage} {timestamp : EventTimestamp}
    (h : message.eventTimestamp = some timestamp) :
    Watermark.raise stampOf marks (port, message) =
      if ∀ mark ∈ marks timestamp.domain, mark < timestamp.nanoseconds then
        Function.update marks timestamp.domain (some timestamp.nanoseconds)
      else marks := by
  simp [Watermark.raise, stampOf, h]

/-- The loop over one queue is a scan of it. -/
theorem retainTimely_eq_scan (lateness : Int) (port : String) (queue : List RuntimeChannelMessage)
    (s : (String → Option Int) × Nat) :
    let scanned := Watermark.scan stampOf lateness s.1 (queue.map fun message => (port, message))
    retainTimely lateness queue s =
      ((Watermark.admitted scanned.1).map Prod.snd, scanned.2,
        s.2 + Watermark.droppedCount scanned.1) := by
  induction queue generalizing s with
  | nil => rfl
  | cons message queue ih =>
      rw [List.map_cons]
      unfold retainTimely
      cases hstamp : message.eventTimestamp with
      | none =>
          have htimely : ¬ Watermark.Late stampOf lateness s.1 (port, message) := by
            simp [Watermark.Late, stampOf, hstamp]
          have hsame : Watermark.raise stampOf s.1 (port, message) = s.1 := by
            simp [Watermark.raise, stampOf, hstamp]
          rw [Watermark.scan_timely htimely, hsame]
          dsimp only
          rw [ih s]
          rfl
      | some timestamp =>
          dsimp only
          split_ifs with hlate hnew
          · rw [Watermark.scan_late ((late_iff_of_stamp port hstamp).mpr hlate), ih]
            simp [Watermark.droppedCount]
            omega
          · have htimely := mt (late_iff_of_stamp port hstamp).mp hlate
            rw [Watermark.scan_timely htimely, raise_of_stamp port hstamp, if_pos hnew, ih]
            rfl
          · have htimely := mt (late_iff_of_stamp port hstamp).mp hlate
            rw [Watermark.scan_timely htimely, raise_of_stamp port hstamp, if_neg hnew, ih]
            rfl

/-- What the scan of a list admits is in the list. -/
theorem mem_of_admitted {marks : String → Option Int} {items : List PortMessage}
    {item : PortMessage}
    (h : item ∈ Watermark.admitted (Watermark.scan stampOf lateness marks items).1) :
    item ∈ items := by
  have hitems : (Watermark.scan stampOf lateness marks items).1.map Prod.fst = items :=
    Watermark.scan_items marks items
  rw [← hitems]
  exact List.mem_map_of_mem (Watermark.mem_admitted.mp h)

/-- One port more is scanned after the others. -/
theorem scanOrder_append (ports : List String) (port : String) :
    scanOrder pending (ports ++ [port]) =
      scanOrder pending ports ++ (pending.queue port).map fun message => (port, message) := by
  simp [scanOrder]

/-- What is scanned is of a scanned port. -/
theorem fst_of_mem_scanOrder {ports : List String} {item : PortMessage}
    (h : item ∈ scanOrder pending ports) : item.1 ∈ ports := by
  simp only [scanOrder, List.mem_flatMap, List.mem_map] at h
  rcases h with ⟨port, hport, message, -, rfl⟩
  exact hport

/-- The sweep after some of the ports. -/
structure ScannedTo (lateness : Int) (pending : PendingMessages) (marks : String → Option Int)
    (done : List String) (bank : PendingMessages) (s : (String → Option Int) × Nat) : Prop where
  queue : ∀ port ∈ done, bank.queue port = carriedOn port (Watermark.admitted
    (Watermark.scan stampOf lateness marks (scanOrder pending done)).1)
  rest : ∀ port, port ∉ done → bank.queue port = pending.queue port
  state : s = ((Watermark.scan stampOf lateness marks (scanOrder pending done)).2,
    Watermark.droppedCount (Watermark.scan stampOf lateness marks (scanOrder pending done)).1)

/-- The scan of one more port. -/
theorem ScannedTo.next {marks : String → Option Int} {done : List String} {bank : PendingMessages}
    {s : (String → Option Int) × Nat} (h : ScannedTo lateness pending marks done bank s)
    {port : String} (hport : port ∉ done) :
    ScannedTo lateness pending marks (done ++ [port])
      (bank.set port (retainTimely lateness (bank.queue port) s).1)
      (retainTimely lateness (bank.queue port) s).2 := by
  obtain ⟨hqueue, hrest, rfl⟩ := h
  rw [hrest port hport, retainTimely_eq_scan lateness port]
  generalize hold : Watermark.scan stampOf lateness marks (scanOrder pending done) = old at *
  generalize hnew : Watermark.scan stampOf lateness old.2
    ((pending.queue port).map fun message => (port, message)) = new
  have hscan : Watermark.scan stampOf lateness marks (scanOrder pending (done ++ [port])) =
      (old.1 ++ new.1, new.2) := by
    rw [scanOrder_append, Watermark.scan_append, hold, hnew]
  -- the old verdicts are about the ports before this one, the new ones about this one
  have hearlier : ∀ item ∈ Watermark.admitted old.1, item.1 ∈ done := by
    intro item hitem
    rw [← hold] at hitem
    exact fst_of_mem_scanOrder (mem_of_admitted hitem)
  have hown : ∀ item ∈ Watermark.admitted new.1, item.1 = port := by
    intro item hitem
    rw [← hnew] at hitem
    obtain ⟨message, -, rfl⟩ := List.mem_map.mp (mem_of_admitted hitem)
    rfl
  constructor
  · intro other hother
    rw [hscan, Watermark.admitted_append, carriedOn_append]
    by_cases hsame : other = port
    · subst hsame
      have hnone : carriedOn other (Watermark.admitted old.1) = [] := by
        refine carriedOn_eq_nil ?_
        rintro item hitem rfl
        exact hport (hearlier item hitem)
      rw [Bank.queue_set, hnone, carriedOn_of_forall hown, List.nil_append]
    · have hnone : carriedOn other (Watermark.admitted new.1) = [] := by
        refine carriedOn_eq_nil ?_
        intro item hitem heq
        exact hsame (heq.symm.trans (hown item hitem))
      have hbefore : other ∈ done := by simpa [hsame] using hother
      rw [Bank.queue_set_of_ne _ hsame, hnone, List.append_nil]
      exact hqueue other hbefore
  · intro other hother
    rw [List.mem_append, not_or, List.mem_singleton] at hother
    rw [Bank.queue_set_of_ne _ hother.2]
    exact hrest other hother.1
  · rw [hscan]
    simp [Watermark.droppedCount]

/-- The sweep over the ports is a scan of all of them. -/
theorem dropLateMessages_eq_scan (component : ComponentNodeSpec) (pending : PendingMessages)
    (marks : String → Option Int) :
    let lateness := component.triggerPolicy.watermarkLatenessMs * nanosecondsPerMillisecond
    let scanned := Watermark.scan stampOf lateness marks (scanOrder pending pending.keys)
    (∀ port, (dropLateMessages component pending marks).1.queue port =
        carriedOn port (Watermark.admitted scanned.1)) ∧
      (dropLateMessages component pending marks).2 =
        (scanned.2, Watermark.droppedCount scanned.1) := by
  intro lateness scanned
  have hall : ScannedTo lateness pending marks pending.keys
      (dropLateMessages component pending marks).1
      (dropLateMessages component pending marks).2 := by
    refine sweep_rule _ pending (marks, 0) (I := ScannedTo lateness pending marks) ?_ ?_
    · intro done port bank s hport h
      exact h.next hport
    · exact ⟨fun port hport => absurd hport List.not_mem_nil, fun _ _ => rfl, rfl⟩
  refine ⟨?_, hall.state⟩
  intro port
  by_cases hport : port ∈ pending.keys
  · exact hall.queue port hport
  · have hnone : carriedOn port (Watermark.admitted scanned.1) = [] := by
      refine carriedOn_eq_nil ?_
      rintro item hitem rfl
      exact hport (fst_of_mem_scanOrder (mem_of_admitted hitem))
    rw [hall.rest port hport, hnone]
    exact pending.absent port hport

end

/-! ## One collection -/

def latenessNs (component : ComponentNodeSpec) : Int :=
  component.triggerPolicy.watermarkLatenessMs * nanosecondsPerMillisecond

section

variable {clock : Nat → Int} {context : TickContext} {component : ComponentNodeSpec}
  {lane : SchedulerGroupConfig}

/-- What `collect_any_input` takes off the queues it carries, in their order. -/
theorem collectAnyInputFrom_lossless (ports : List String) (pending : PendingMessages)
    (port : String) :
    carriedOn port (carriedBy (collectAnyInputFrom context component lane ports pending).1) ++
        (collectAnyInputFrom context component lane ports pending).2.queue port =
      pending.queue port := by
  induction ports generalizing pending with
  | nil => rfl
  | cons next ports ih =>
      unfold collectAnyInputFrom
      cases hqueue : pending.queue next with
      | nil => exact ih pending
      | cons message rest =>
          dsimp only
          split_ifs
          · by_cases hport : port = next
            · subst hport
              rw [carriedBy_singleton, eventInvocationFromMessages_messages, Bank.queue_set, hqueue]
              simp [carriedOn]
            · rw [carriedBy_singleton, eventInvocationFromMessages_messages,
                Bank.queue_set_of_ne _ hport]
              simp [carriedOn, Ne.symm hport]
          · have hrest := ih (pending.set next [])
            rw [carriedBy, List.flatMap_append, ← carriedBy, ← carriedBy, carriedBy_each,
              carriedOn_append, List.append_assoc, hrest]
            by_cases hport : port = next
            · subst hport
              rw [carriedOn_map_self, Bank.queue_set, hqueue, List.append_nil]
            · rw [carriedOn_map_of_ne hport, Bank.queue_set_of_ne _ hport, List.nil_append]

/-- The state of the component when the policy is asked. -/
def policyState (clock : Nat → Int) (context : TickContext) (component : ComponentNodeSpec)
    (engine : TriggerPolicyEngine) : TriggerState :=
  let s := engine.state component.id
  let drained := drainInputs clock component.id (triggerPolicyInputsFor component) s.pending
    engine.bus
  beforePolicy context component drained.2.2 drained.2.1 s

/-- The verdicts of the scan in a collection; it has none if the policy is not asked. -/
def collectScan (clock : Nat → Int) (context : TickContext) (component : ComponentNodeSpec)
    (engine : TriggerPolicyEngine) : List (PortMessage × Bool) :=
  let s := policyState clock context component engine
  if !TriggerPolicyEngine.messageDriven component ||
      rateLimited component.triggerPolicy s.lastInvoked context.startedAt then []
  else
    (Watermark.scan stampOf (latenessNs component) s.watermarks
      (scanOrder s.pending s.pending.keys)).1

/-- What a collection does with the watermarks and with the messages it scans. -/
structure ScanStep (component : ComponentNodeSpec) (before after : TriggerState)
    (record : CollectRecord) (verdicts : List (PortMessage × Bool)) : Prop where
  scan : ∃ items, Watermark.scan stampOf (latenessNs component) before.watermarks items =
    (verdicts, after.watermarks)
  late : record.stats.lateDropCount = Watermark.droppedCount verdicts
  /-- A carried message was scanned and was not late then. -/
  carried : ∀ item ∈ carriedBy record.invocations, ∃ pre post,
    verdicts = pre ++ (item, false) :: post ∧
      ∀ domain time mark, stampOf item = some (domain, time) →
        (Watermark.scan stampOf (latenessNs component) before.watermarks
          (pre.map Prod.fst)).2 domain = some mark →
        mark - latenessNs component ≤ time
  /-- What the scan admits is carried or waits. -/
  admitted : TriggerPolicyEngine.messageDriven component = true →
    record.stats.rateLimitSuppressedCount = 0 → ∀ port,
      carriedOn port (carriedBy record.invocations) ++ after.pending.queue port =
        carriedOn port (Watermark.admitted verdicts)

/-- A collection that scans nothing keeps the marks. -/
theorem ScanStep.nothing {before after : TriggerState} {record : CollectRecord}
    (hmarks : after.watermarks = before.watermarks) (hlate : record.stats.lateDropCount = 0)
    (hcarried : carriedBy record.invocations = [])
    (hunasked : TriggerPolicyEngine.messageDriven component = true →
      record.stats.rateLimitSuppressedCount ≠ 0) :
    ScanStep component before after record [] := by
  refine ⟨⟨[], by rw [hmarks]; rfl⟩, hlate, ?_, ?_⟩
  · rw [hcarried]
    intro item hitem
    exact absurd hitem List.not_mem_nil
  · intro hdriven hasked
    exact absurd hasked (hunasked hdriven)

/-- The policy `watermark`, from the state in which it is asked. -/
theorem collectWatermark_scan {s : TriggerState} {record : CollectRecord}
    (hlate : s.stats.lateDropCount = 0)
    (hinvocations : record.invocations = (collectWatermark context component lane s).1)
    (hstats : record.stats = (collectWatermark context component lane s).2.stats) :
    ScanStep component s (collectWatermark context component lane s).2 record
      (Watermark.scan stampOf (latenessNs component) s.watermarks
        (scanOrder s.pending s.pending.keys)).1 := by
  obtain ⟨hqueue, hstate⟩ := dropLateMessages_eq_scan component s.pending s.watermarks
  rw [← latenessNs] at hqueue hstate
  have hlossless : ∀ port, carriedOn port (carriedBy record.invocations) ++
      (collectWatermark context component lane s).2.pending.queue port =
        carriedOn port (Watermark.admitted (Watermark.scan stampOf (latenessNs component)
          s.watermarks (scanOrder s.pending s.pending.keys)).1) := by
    intro port
    rw [hinvocations, ← hqueue port]
    exact collectAnyInputFrom_lossless ..
  constructor
  · refine ⟨scanOrder s.pending s.pending.keys, ?_⟩
    rw [collectWatermark, hstate]
  · rw [hstats, collectWatermark, hstate]
    show s.stats.lateDropCount + _ = _
    rw [hlate, Nat.zero_add]
  · intro item hitem
    have hadmitted : item.2 ∈ carriedOn item.1 (Watermark.admitted
        (Watermark.scan stampOf (latenessNs component) s.watermarks
          (scanOrder s.pending s.pending.keys)).1) := by
      rw [← hlossless item.1]
      exact List.mem_append_left _ (mem_carriedOn.mpr hitem)
    obtain ⟨pre, post, hsplit⟩ :=
      List.append_of_mem (Watermark.mem_admitted.mp (mem_carriedOn.mp hadmitted))
    refine ⟨pre, post, hsplit, ?_⟩
    intro domain time mark hstamp hmark
    have htimely := mt (Watermark.scan_verdict hsplit).mpr Bool.false_ne_true
    by_contra hbelow
    exact htimely ⟨(domain, time), hstamp, mark, hmark, Int.not_le.mp hbelow⟩
  · intro _ _ port
    exact hlossless port

/-- The time of the last invocation has nothing to do with the marks. -/
theorem recordInvocation_frame (context : TickContext)
    (result : List Invocation × TriggerState) :
    (recordInvocation context result).1 = result.1 ∧
      (recordInvocation context result).2.stats = result.2.stats ∧
      (recordInvocation context result).2.watermarks = result.2.watermarks ∧
      (recordInvocation context result).2.pending = result.2.pending := by
  unfold recordInvocation
  split_ifs <;> exact ⟨rfl, rfl, rfl, rfl⟩

/-- A collection scans what it has drained, once. -/
theorem TriggerPolicyEngine.collectReadyInvocations_scan
    (htype : component.triggerPolicy.type = "watermark") {engine engine' : TriggerPolicyEngine}
    {record : CollectRecord}
    (h : engine.collectReadyInvocations clock context component lane = .ok (record, engine')) :
    ScanStep component (engine.state component.id) (engine'.state component.id) record
      (collectScan clock context component engine) := by
  cases hdriven : messageDriven component with
  | false =>
      obtain ⟨hcarried, hstats, rfl⟩ := collectReadyInvocations_undriven hdriven h
      have hnone : collectScan clock context component engine' = [] := by
        simp [collectScan, hdriven]
      rw [hnone]
      refine .nothing rfl (by rw [hstats]) hcarried ?_
      intro hother
      rw [hdriven] at hother
      cases hother
  | true =>
      obtain ⟨drained, r, hdrain, hcollect, -, hinvocations, hstats, hstate⟩ :=
        collectReadyInvocations_driven hdriven h
      have hpolicy : beforePolicy context component drained.2.2 drained.2.1
          (engine.state component.id) = policyState clock context component engine := by
        rw [policyState, hdrain]
      rw [hpolicy] at hcollect
      rw [hstate]
      unfold collectUnlessRateLimited at hcollect
      split_ifs at hcollect with hlimited
      · cases hcollect
        have hnone : collectScan clock context component engine = [] := by
          simp [collectScan, hlimited]
        rw [hnone]
        refine .nothing rfl (by rw [hstats]; rfl) (by rw [hinvocations]; rfl) ?_
        intro _
        rw [hstats]
        exact Nat.succ_ne_zero _
      · have hscan : collectScan clock context component engine =
            (Watermark.scan stampOf (latenessNs component)
              (policyState clock context component engine).watermarks
              (scanOrder (policyState clock context component engine).pending
                (policyState clock context component engine).pending.keys)).1 := by
          simp [collectScan, hlimited, hdriven]
        have hdispatch : collectByPolicy context component lane
            (policyState clock context component engine) =
              .ok (collectWatermark context component lane
                (policyState clock context component engine)) := by
          simp [collectByPolicy, htype]
        rw [hdispatch] at hcollect
        cases hcollect
        obtain ⟨hsame, hsameStats, hmarks, hpending⟩ := recordInvocation_frame context
          (collectWatermark context component lane (policyState clock context component engine))
        have hstep := collectWatermark_scan rfl (hinvocations.trans hsame)
          (hstats.trans hsameStats)
        rw [hscan]
        refine ⟨?_, hstep.late, hstep.carried, ?_⟩
        · rw [hmarks]
          exact hstep.scan
        · rw [hpending]
          exact hstep.admitted

/-- The policy does not take the fronts of the inputs, so it always returns. -/
theorem TriggerPolicyEngine.collectReadyInvocations_watermark (clock : Nat → Int)
    (context : TickContext) (lane : SchedulerGroupConfig)
    (htype : component.triggerPolicy.type = "watermark") (engine : TriggerPolicyEngine) :
    ∃ record engine', engine.collectReadyInvocations clock context component lane =
        .ok (record, engine') ∧
      ∀ invocation ∈ record.invocations, Faithful invocation := by
  cases hdriven : messageDriven component with
  | false => exact collectReadyInvocations_of_not_driven clock context lane hdriven engine
  | true =>
      have hfronts : FrontsDefined component := by
        intro hconsuming
        simp [frontConsuming, htype] at hconsuming
      obtain ⟨record, engine', hcollect, hstep⟩ :=
        collectReadyInvocations_spec clock context lane hdriven hfronts engine
      exact ⟨record, engine', hcollect, hstep.faithful⟩

end

/-! ## Runs -/

/-- The verdicts of one operation. -/
def opScan (clock : Nat → Int) (component : ComponentNodeSpec) (engine : TriggerPolicyEngine) :
    TriggerOp → List (PortMessage × Bool)
  | .collect context other _ =>
      if other.id = component.id then collectScan clock context component engine else []
  | _ => []

/-- The verdicts of a run, in the order of the scans. A run that faults ends there. -/
def scans (clock : Nat → Int) (component : ComponentNodeSpec) :
    List TriggerOp → TriggerPolicyEngine → List (PortMessage × Bool)
  | [], _ => []
  | op :: ops, engine =>
      match op.exec clock engine with
      | .error _ => []
      | .ok (_, engine') => opScan clock component engine op ++ scans clock component ops engine'

/-- An operation scans, or it leaves the watermarks alone. -/
theorem TriggerOp.exec_scan {clock : Nat → Int} {component : ComponentNodeSpec}
    (htype : component.triggerPolicy.type = "watermark") {op : TriggerOp}
    (hown : ∀ context other lane, op = .collect context other lane →
      other.id = component.id → other = component)
    {engine engine' : TriggerPolicyEngine} {record : Option CollectRecord}
    (hop : op.exec clock engine = .ok (record, engine')) :
    ∃ items, Watermark.scan stampOf (latenessNs component)
        (engine.state component.id).watermarks items =
      (opScan clock component engine op, (engine'.state component.id).watermarks) := by
  rcases TriggerOp.exec_cases hown hop with ⟨context, lane, result, rfl, rfl, hcollect⟩ | helsewhere
  · simp only [opScan, if_true]
    exact (TriggerPolicyEngine.collectReadyInvocations_scan htype hcollect).scan
  · obtain ⟨stats, hstate⟩ := helsewhere.state
    have hnone : opScan clock component engine op = [] := by
      unfold opScan
      split
      · next context other lane =>
          exact if_neg (helsewhere.foreign context other lane rfl)
      · rfl
    rw [hnone, hstate]
    exact ⟨[], rfl⟩

/-- The scans of a run are one scan, from the watermarks before it to those after it. -/
theorem scans_eq_scan {clock : Nat → Int} {component : ComponentNodeSpec}
    (htype : component.triggerPolicy.type = "watermark") {ops : List TriggerOp}
    (hown : ∀ context other lane, .collect context other lane ∈ ops →
      other.id = component.id → other = component)
    {engine engine' : TriggerPolicyEngine} {records : List CollectRecord}
    (hrun : runTriggers clock ops engine = .ok (records, engine')) :
    ∃ items, Watermark.scan stampOf (latenessNs component)
        (engine.state component.id).watermarks items =
      (scans clock component ops engine, (engine'.state component.id).watermarks) := by
  induction ops generalizing engine records with
  | nil =>
      cases hrun
      exact ⟨[], rfl⟩
  | cons op ops ih =>
      obtain ⟨record, middle, rest, hop, hrest, rfl⟩ := runTriggers_cons hrun
      obtain ⟨first, hfirst⟩ := TriggerOp.exec_scan htype (fun context other lane heq =>
        hown context other lane (heq ▸ List.mem_cons_self ..)) hop
      obtain ⟨later, hlater⟩ := ih (fun context other lane hmem =>
        hown context other lane (List.mem_cons_of_mem _ hmem)) hrest
      refine ⟨first ++ later, ?_⟩
      rw [Watermark.scan_append, hfirst]
      unfold scans
      rw [hop]
      dsimp only
      rw [hlater]

/-- Over a run of collections the watermark of a domain is the greatest timestamp of the
messages admitted, and it does not decrease. A message is dropped as late iff it has a
timestamp and a message of its domain that was admitted before it, in the order of the
scans, is ahead by more than the lateness. What a collection hands over was scanned in it and
was within the lateness then. -/
theorem watermark_semantics (clock : Nat → Int) {component : ComponentNodeSpec}
    (htype : component.triggerPolicy.type = "watermark") :
    (∀ bus ops records engine, (∀ context other lane, .collect context other lane ∈ ops →
        other.id = component.id → other = component) →
      runTriggers clock ops { bus := bus } = .ok (records, engine) →
      Watermark.Tracks stampOf (scans clock component ops { bus := bus })
          (engine.state component.id).watermarks ∧
        Each (Watermark.DropsLate stampOf (latenessNs component))
          (scans clock component ops { bus := bus })) ∧
    (∀ ops records engine engine', (∀ context other lane, .collect context other lane ∈ ops →
        other.id = component.id → other = component) →
      runTriggers clock ops engine = .ok (records, engine') →
      ∀ domain mark, (engine.state component.id).watermarks domain = some mark →
        ∃ mark', (engine'.state component.id).watermarks domain = some mark' ∧ mark ≤ mark') ∧
    ∀ (engine : TriggerPolicyEngine) context lane, ∃ record engine',
      engine.collectReadyInvocations clock context component lane = .ok (record, engine') ∧
      ScanStep component (engine.state component.id) (engine'.state component.id) record
        (collectScan clock context component engine) ∧
      ∀ invocation ∈ record.invocations, Faithful invocation := by
  refine ⟨?_, ?_, ?_⟩
  · intro bus ops records engine hown hrun
    -- the scans of a run are one scan over all its messages
    obtain ⟨items, hscan⟩ := scans_eq_scan htype hown hrun
    have hempty : Each (Watermark.DropsLate stampOf (latenessNs component)) [] := by
      intro pre e post hsplit
      simp at hsplit
    have htracks := Watermark.tracks_empty.scan hempty items
    rw [List.nil_append] at htracks
    have hstart : ((({ bus := bus } : TriggerPolicyEngine).state component.id).watermarks) =
        fun _ => none := rfl
    rw [hstart] at hscan
    rw [hscan] at htracks
    exact htracks
  · intro ops records engine engine' hown hrun domain mark hmark
    obtain ⟨items, hscan⟩ := scans_eq_scan htype hown hrun
    have hmono := Watermark.scan_mono stampOf (latenessNs component) items hmark
    rw [hscan] at hmono
    exact hmono
  · intro engine context lane
    obtain ⟨record, engine', hcollect, hfaithful⟩ :=
      TriggerPolicyEngine.collectReadyInvocations_watermark clock context lane htype engine
    exact ⟨record, engine', hcollect,
      TriggerPolicyEngine.collectReadyInvocations_scan htype hcollect, hfaithful⟩

/-- `join` without a lateness. -/
def watermarkComponent : ComponentNodeSpec :=
  { joinComponent with triggerPolicy := { type := "watermark", minIntervalMs := 5 } }

def stampedAt (nanoseconds : Int) : Option EventTimestamp :=
  some { domain := "clock", nanoseconds := nanoseconds, source := "test" }

/-- The first message on the left sets the watermark; then come one without a timestamp
and an older one on the right. -/
def watermarkRound : List TriggerOp :=
  [.bus (.publishSharedFrom "source.a" (some {}) {} (stampedAt 3)),
   .collect { startedAt := 0 } watermarkComponent { id := "main" },
   .bus (.publishSharedFrom "source.b" (some {}) {} (stampedAt 2)),
   .bus (.publishSharedFrom "source.a" (some {}) {} none),
   .collect { startedAt := 5000000 } watermarkComponent { id := "main" }]

theorem watermarkRound_semantics :
    (scans (fun n => n) watermarkComponent watermarkRound
        { bus := .ofEdges (joinGraph ["left", "right"]).edges }).map Prod.snd =
          [false, false, true] ∧
      Each (Watermark.DropsLate stampOf (latenessNs watermarkComponent))
        (scans (fun n => n) watermarkComponent watermarkRound
          { bus := .ofEdges (joinGraph ["left", "right"]).edges }) := by
  have hown : ∀ context other lane, TriggerOp.collect context other lane ∈ watermarkRound →
      other.id = watermarkComponent.id → other = watermarkComponent := by
    intro context other lane hmem _
    simp only [watermarkRound, List.mem_cons, List.not_mem_nil, or_false, reduceCtorEq, false_or,
      TriggerOp.collect.injEq] at hmem
    rcases hmem with ⟨-, rfl, -⟩ | ⟨-, rfl, -⟩ <;> rfl
  have hdefined : ∀ context component lane,
      TriggerOp.collect context component lane ∈ watermarkRound →
      TriggerPolicyEngine.messageDriven component = true → FrontsDefined component := by
    intro context other lane hmem _ hfronts
    simp only [watermarkRound, List.mem_cons, List.not_mem_nil, or_false, reduceCtorEq, false_or,
      TriggerOp.collect.injEq] at hmem
    rcases hmem with ⟨-, rfl, -⟩ | ⟨-, rfl, -⟩ <;> exact absurd hfronts (by decide)
  obtain ⟨records, engine, hrun⟩ := trigger_run_defined (fun n => n) hdefined
    { bus := .ofEdges (joinGraph ["left", "right"]).edges }
  refine ⟨by decide, ?_⟩
  exact ((watermark_semantics (fun n => n) rfl).1 _ watermarkRound records engine hown hrun).2

end TopoExec
