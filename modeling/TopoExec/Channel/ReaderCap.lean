import TopoExec.Channel.Cursors
import TopoExec.Channel.PreviousTick

/-! # Deliveries above the reader cap

While a value is visible, each reader should get it once. Above
`kMaxTrackedReaders` readers the cap forgets the cursors with the smallest ids,
possibly the one just written, and a forgotten reader gets the value again. The
cursors at the value belong to the greatest ids that have read it, so a reader
gets it with its first read and with every read after `kMaxTrackedReaders`
greater ids (`timesDelivered_eq`). `redelivery_bounded_iff` derives when no reader
gets a value more than twice.
-/

namespace TopoExec

open RuntimeChannelBus

variable {config : ChannelConfig} {s s' : ChannelState}

/-- The results of `read_latest_for_reader` for a list of readers. -/
def readAll (clock : Nat → Int) (id : String) : List String → RuntimeChannelBus →
    List (String × Option RuntimeChannelMessage)
  | [], _ => []
  | reader :: rest, bus =>
      let read := bus.readLatestForReader clock id reader
      (reader, read.1.message) :: readAll clock id rest read.2

/-- The calls themselves. -/
def readOps (id : String) (readers : List String) : List BusOp :=
  readers.map fun reader => .readLatestForReader id reader

/-- How often a reader got the message with a sequence number. -/
def timesDelivered (sequence : Nat) (reader : String)
    (results : List (String × Option RuntimeChannelMessage)) : Nat :=
  results.countP fun result =>
    result.1 = reader && result.2.map RuntimeChannelMessage.sequence = some sequence

/-- The reads of `reader`, besides its first, before which `kMaxTrackedReaders`
different greater ids have read; `earlier` has read before the list. -/
def lateReads (reader : String) : List String → List String → Nat
  | _, [] => 0
  | earlier, r :: rest =>
      (if r = reader ∧ reader ∈ earlier ∧
          kMaxTrackedReaders ≤ (earlier.toFinset.filter (reader < ·)).card then 1 else 0) +
        lateReads reader (earlier ++ [r]) rest

/-! ## One read -/

/-- A read of a visible value that has not expired. -/
theorem consumeLatestFromState_visible {message : RuntimeChannelMessage}
    (hlatest : s.latest = some message) {now : Int}
    (hlive : messageExpired config message now = false) (readerId : String) :
    (consumeLatestFromState config now readerId s).2.latest = some message ∧
      ((consumeLatestFromState config now readerId s).1.map RuntimeChannelMessage.sequence =
          some message.sequence ↔
        readerId ∉ readersAt s.deliveredLatestSequences message.sequence) ∧
      (readersAt (consumeLatestFromState config now readerId s).2.deliveredLatestSequences
          message.sequence =
        topK kMaxTrackedReaders
            (insert readerId (readersAt s.deliveredLatestSequences message.sequence)) ∨
        readerId ∈ readersAt s.deliveredLatestSequences message.sequence ∧
        readersAt (consumeLatestFromState config now readerId s).2.deliveredLatestSequences
          message.sequence = readersAt s.deliveredLatestSequences message.sequence) := by
  unfold consumeLatestFromState
  rw [hlatest]
  dsimp only
  rw [if_neg (by simp [hlive]), mem_readersAt]
  by_cases hseen : s.deliveredLatestSequences[readerId]? = some message.sequence
  · rw [if_pos hseen]
    refine ⟨hlatest, ?_, Or.inr ⟨hseen, rfl⟩⟩
    simp [hseen]
  · rw [if_neg hseen]
    refine ⟨rfl, ?_, Or.inl ?_⟩
    · simp [hseen, deliveredMessage]
    · exact readersAt_moveCursor s.deliveredLatestSequences readerId message.sequence

/-- A value that is visible after a read was so before, and had not expired. -/
theorem visible_before_read {message : RuntimeChannelMessage} {now : Int} {readerId : String}
    (h : (consumeLatestFromState config now readerId s).2.latest = some message) :
    s.latest = some message ∧ messageExpired config message now = false := by
  unfold consumeLatestFromState at h
  cases hlatest : s.latest with
  | none =>
      simp only [hlatest] at h
      cases h
  | some latest =>
      simp only [hlatest] at h
      by_cases hexpired : messageExpired config latest now = true
      · rw [if_pos hexpired] at h
        cases h
      · have hsame : some latest = some message := by
          rw [if_neg hexpired] at h
          by_cases hseen : s.deliveredLatestSequences[readerId]? = some latest.sequence
          · rw [if_pos hseen, hlatest] at h
            exact h
          · rw [if_neg hseen] at h
            exact h
        obtain rfl := Option.some.inj hsame
        exact ⟨rfl, by simpa using hexpired⟩

/-! ## All reads -/

section Reads

variable {clock : Nat → Int} {id : String} {bus : RuntimeChannelBus}

/-- A read of a known channel is a read of its state. -/
theorem readLatestForReader_eq (clock : Nat → Int) (hknown : id ∈ bus.channelIds)
    (htype : (bus.config id).type.isLatestStyle = true) (reader : String) :
    bus.readLatestForReader clock id reader =
      ({ ok := true
         message := (consumeLatestFromState (bus.config id) (clock bus.moment) reader
           (bus.channels id)).1 },
        { bus with
          channels := Function.update bus.channels id (consumeLatestFromState (bus.config id)
            (clock bus.moment) reader (bus.channels id)).2
          moment := bus.moment + 1 }) := by
  unfold readLatestForReader
  rw [if_neg (by simp [hknown]), if_neg (by simp [htype])]
  rfl

/-- Reads make nothing visible. -/
theorem visible_of_reads {message : RuntimeChannelMessage} (readers : List String)
    (hknown : id ∈ bus.channelIds) (htype : (bus.config id).type.isLatestStyle = true)
    (h : (runBus clock bus (readOps id readers)).visible id = some message) :
    bus.visible id = some message := by
  induction readers generalizing bus with
  | nil => exact h
  | cons reader rest ih =>
      have hread := readLatestForReader_eq clock hknown htype reader
      set next := (bus.readLatestForReader clock id reader).2 with hnext
      have hknown' : id ∈ next.channelIds := by rwa [hnext, hread]
      have htype' : (next.config id).type.isLatestStyle = true := by rwa [hnext, hread]
      have hlater := ih hknown' htype' h
      rw [RuntimeChannelBus.visible, hnext, hread] at hlater
      simp only [Function.update_self] at hlater
      exact (visible_before_read hlater).1

/-- While the value stays visible, the cursors at it are those of the greatest ids
that have read it, and the deliveries follow. -/
theorem timesDelivered_eq {message : RuntimeChannelMessage} (reader : String)
    (readers earlier : List String) (hknown : id ∈ bus.channelIds)
    (htype : (bus.config id).type.isLatestStyle = true)
    (hreaders : readersAt (bus.channels id).deliveredLatestSequences message.sequence =
      topK kMaxTrackedReaders earlier.toFinset)
    (hstays : (runBus clock bus (readOps id readers)).visible id = some message) :
    bus.visible id = some message ∧
      timesDelivered message.sequence reader (readAll clock id readers bus) =
        (if reader ∈ readers ∧ reader ∉ earlier then 1 else 0) +
          lateReads reader earlier readers := by
  induction readers generalizing bus earlier with
  | nil => exact ⟨hstays, by simp [timesDelivered, readAll, lateReads]⟩
  | cons r rest ih =>
      have hread := readLatestForReader_eq clock hknown htype r
      set read := consumeLatestFromState (bus.config id) (clock bus.moment) r (bus.channels id)
        with hconsume
      set next : RuntimeChannelBus :=
        { bus with
          channels := Function.update bus.channels id read.2
          moment := bus.moment + 1 } with hnext
      have hnextState : next.channels id = read.2 := by simp [hnext]
      have hstays' : (runBus clock next (readOps id rest)).visible id = some message := by
        have hexec : ((BusOp.readLatestForReader id r).exec clock bus).2 = next :=
          congrArg Prod.snd hread
        rw [← hexec]
        exact hstays
      -- the value is visible at this read and has not expired
      have hknown' : id ∈ next.channelIds := hknown
      have htype' : (next.config id).type.isLatestStyle = true := htype
      have hlater := visible_of_reads rest hknown' htype' hstays'
      rw [RuntimeChannelBus.visible, hnextState] at hlater
      obtain ⟨hvisible, hlive⟩ := visible_before_read hlater
      obtain ⟨-, hgot, hmoved⟩ := consumeLatestFromState_visible hvisible hlive r
      rw [hreaders] at hgot hmoved
      have hnextReaders : readersAt (next.channels id).deliveredLatestSequences message.sequence =
          topK kMaxTrackedReaders (earlier ++ [r]).toFinset := by
        have hset : (earlier ++ [r]).toFinset = insert r earlier.toFinset := by
          ext x
          simp
        rw [hnextState, hset]
        rcases hmoved with hmoved | ⟨hin, hmoved⟩
        · rw [hmoved, TopK.insert_topK]
        · rw [hmoved, Finset.insert_eq_of_mem (TopK.subset hin)]
      obtain ⟨-, hrest⟩ := ih (earlier ++ [r]) hknown' htype' hnextReaders hstays'
      refine ⟨hvisible, ?_⟩
      rw [← hconsume] at hgot
      have hforgotten : r ∉ topK kMaxTrackedReaders earlier.toFinset ↔
          r ∉ earlier ∨ kMaxTrackedReaders ≤ (earlier.toFinset.filter (r < ·)).card := by
        rw [TopK.mem_topK, List.mem_toFinset, not_and_or, not_lt]
      have hcount : timesDelivered message.sequence reader (readAll clock id (r :: rest) bus) =
          timesDelivered message.sequence reader (readAll clock id rest next) +
            if r = reader ∧ (r ∉ earlier ∨
              kMaxTrackedReaders ≤ (earlier.toFinset.filter (r < ·)).card) then 1 else 0 := by
        simp only [timesDelivered, readAll, hread, List.countP_cons, Bool.and_eq_true,
          decide_eq_true_eq, hgot, hforgotten]
      rw [hcount, hrest, lateReads]
      by_cases hr : r = reader
      · subst hr
        by_cases hin : r ∈ earlier
        · simp only [List.mem_append, List.mem_singleton, hin, true_or, not_true_eq_false,
            and_false,
            false_or, true_and, if_false]
          omega
        · simp only [List.mem_append, List.mem_cons, hin, or_true, true_or, not_true_eq_false,
            not_false_eq_true, and_false, and_true, false_and, if_false, if_true]
          omega
      · have hne : ¬ reader = r := Ne.symm hr
        have hearlier : reader ∈ earlier ++ [r] ↔ reader ∈ earlier := by simp [hne]
        have hrest' : reader ∈ r :: rest ↔ reader ∈ rest := by simp [hne]
        simp only [hearlier, hrest', hr, false_and, if_false, Nat.add_zero, Nat.zero_add]

end Reads

/-! ## A value that has just become visible -/

/-- Steps that read no latest value do not touch its cursors. -/
theorem latestCursors_kept {allowed : StepKind → Prop} (hkind : ∀ now, ¬ allowed (.observe now))
    (hstep : ChannelStep allowed config s s') :
    s'.deliveredLatestSequences = s.deliveredLatestSequences := by
  cases hstep with
  | preflightPayload _ _ payload => exact ((preflightPayload_ignores payload).kept s).1
  | preflightPublish _ _ planned => exact ((preflightPublish_ignores planned).kept s).1
  | preparePayload _ _ source => exact ((preparePayload_ignores source).kept s).1
  | publish _ now _ prepared => exact ((publishToState_ignores now prepared).kept s).1
  | advance _ _ => exact (advanceState_ignores.kept s).1
  | consumeLatest now kind => exact absurd kind (hkind now)
  | snapshot now kind => exact absurd kind (hkind now)
  | consume now _ readerId maxBatch _ htype =>
      exact consumeFromState_latestCursors config now readerId maxBatch s

/-- A value that steps without reads bring up is ahead of all cursors. -/
theorem fresh_after_steps {allowed : StepKind → Prop} (hkind : ∀ now, ¬ allowed (.observe now))
    (h : ReadInv config s) (hsteps : ChannelSteps allowed config s s') :
    ReadInv config s' ∧ s'.deliveredLatestSequences = s.deliveredLatestSequences ∧
      ∀ message ∈ s'.latest, message ∈ s.latest ∨
        ∀ (reader : String) (n : Nat),
          s.deliveredLatestSequences[reader]? = some n → n < message.sequence := by
  induction hsteps with
  | refl => exact ⟨h, rfl, fun message hm => Or.inl hm⟩
  | tail _ hlast ih =>
      obtain ⟨hinv, hcursors, hlatest⟩ := ih
      have hkept := latestCursors_kept hkind hlast
      refine ⟨readInv_step hlast hinv, hkept.trans hcursors, ?_⟩
      intro message hm
      rcases hlast.slots.latest_new message hm with hold | hnew
      · exact hlatest message hold
      · right
        intro reader n hn
        exact hinv.cursors.ahead hnew reader n (hcursors ▸ hn)

/-- No cursor stands at a value that an operation has just made visible. -/
theorem readersAt_fresh {clock : Nat → Int} {bus : RuntimeChannelBus} {id : String} {op : BusOp}
    (h : ReadInv (bus.config id) (bus.channels id)) {message : RuntimeChannelMessage}
    (hbefore : bus.visible id ≠ some message)
    (hafter : (op.exec clock bus).2.visible id = some message) :
    readersAt ((op.exec clock bus).2.channels id).deliveredLatestSequences message.sequence =
      ∅ := by
  have hsteps := (exec_evolves clock bus op).steps id
  have hunread : ∀ now, ¬ op.kinds clock (.observe now) := by
    intro now hobserve
    -- reads make nothing visible
    have hkinds : ∀ kind, op.kinds clock kind → kind.isRead := by
      rcases op.reads_or_advances_or_publishes clock with hread | hadvance | ⟨-, -, hpublish⟩
      · exact BusOp.kinds_of_isRead hread
      · rw [hadvance] at hobserve
        cases hobserve
      · cases (hpublish _).mp hobserve
    have hkept : (op.exec clock bus).2.visible id = some message →
        bus.visible id = some message := by
      unfold RuntimeChannelBus.visible
      generalize (op.exec clock bus).2.channels id = s' at hsteps
      intro hvalue
      induction hsteps with
      | refl => exact hvalue
      | tail _ hlast ih => exact ih (visible_of_read hkinds hlast.slots hvalue)
    exact hbefore (hkept hafter)
  obtain ⟨-, hcursors, hfresh⟩ := fresh_after_steps hunread h hsteps
  have hnew := (hfresh message hafter).resolve_left hbefore
  apply Finset.eq_empty_of_forall_notMem
  intro reader hreader
  have hlt := hnew reader message.sequence (hcursors ▸ mem_readersAt.mp hreader)
  exact absurd hlt (lt_irrefl _)

/-! ## The bound -/

/-- A reader who does not read again is not counted. -/
theorem lateReads_of_not_mem {reader : String} {readers : List String} (earlier : List String)
    (h : reader ∉ readers) : lateReads reader earlier readers = 0 := by
  induction readers generalizing earlier with
  | nil => rfl
  | cons r rest ih =>
      rw [List.mem_cons, not_or] at h
      rw [lateReads, if_neg (fun hr => h.1 hr.1.symm), ih _ h.2]

/-- Between two changes of the visible value no reader gets it more than twice
exactly if each reader makes at most one late read. -/
theorem redelivery_bounded_iff (clock : Nat → Int) (specs : List EdgeSpec) (ops : List BusOp)
    (id : String) (hknown : id ∈ (RuntimeChannelBus.ofEdges specs).channelIds)
    (htype : ((RuntimeChannelBus.ofEdges specs).config id).type.isLatestStyle = true)
    (change : BusOp) (message : RuntimeChannelMessage)
    (hbefore : (runBus clock (.ofEdges specs) ops).visible id ≠ some message)
    (hafter : (runBus clock (.ofEdges specs) (ops ++ [change])).visible id = some message)
    (readers : List String)
    (hstays : (runBus clock (.ofEdges specs) (ops ++ [change] ++ readOps id readers)).visible id =
      some message) :
    (∀ reader, timesDelivered message.sequence reader
        (readAll clock id readers (runBus clock (.ofEdges specs) (ops ++ [change]))) ≤ 2) ↔
      ∀ reader, lateReads reader [] readers ≤ 1 := by
  have hevolves := runBus_evolves clock (.ofEdges specs) (ops ++ [change])
  have hsplit : runBus clock (.ofEdges specs) (ops ++ [change]) =
      (change.exec clock (runBus clock (.ofEdges specs) ops)).2 := by
    rw [runBus_append]
    rfl
  have hfresh := readersAt_fresh (readInv_run clock specs ops id) hbefore (hsplit ▸ hafter)
  rw [← hsplit] at hfresh
  have hknown' : id ∈ (runBus clock (.ofEdges specs) (ops ++ [change])).channelIds := by
    rw [hevolves.channelIds]
    exact hknown
  have htype' : ((runBus clock (.ofEdges specs) (ops ++ [change])).config id).type.isLatestStyle =
      true := by
    rw [hevolves.config]
    exact htype
  have hnone : readersAt ((runBus clock (.ofEdges specs) (ops ++ [change])).channels
      id).deliveredLatestSequences message.sequence =
        topK kMaxTrackedReaders ([] : List String).toFinset := by
    rw [hfresh, List.toFinset_nil, TopK.of_card_le (by simp)]
  rw [runBus_append] at hstays
  apply forall_congr'
  intro reader
  obtain ⟨-, hcount⟩ := timesDelivered_eq reader readers [] hknown' htype' hnone hstays
  rw [hcount]
  by_cases hin : reader ∈ readers
  · simp only [hin, List.not_mem_nil, not_false_eq_true, and_self, if_true]
    omega
  · have hzero := lateReads_of_not_mem [] hin
    simp [hin, hzero]

/-! ## Few and many readers -/

/-- The reads of two parts of a run add up. -/
theorem lateReads_append (reader : String) (earlier readers more : List String) :
    lateReads reader earlier (readers ++ more) =
      lateReads reader earlier readers + lateReads reader (earlier ++ readers) more := by
  induction readers generalizing earlier with
  | nil => simp [lateReads]
  | cons r rest ih =>
      rw [List.cons_append, lateReads, lateReads, ih, List.append_assoc, List.singleton_append]
      omega

/-- Up to the cap nobody is late. -/
theorem lateReads_of_few {reader : String} {earlier readers : List String}
    (h : earlier.length + readers.length ≤ kMaxTrackedReaders) :
    lateReads reader earlier readers = 0 := by
  induction readers generalizing earlier with
  | nil => rfl
  | cons r rest ih =>
      rw [List.length_cons] at h
      have hgreater : (earlier.toFinset.filter (reader < ·)).card ≤ earlier.length :=
        (Finset.card_filter_le _ _).trans (List.toFinset_card_le earlier)
      have hrest : (earlier ++ [r]).length + rest.length ≤ kMaxTrackedReaders := by
        rw [List.length_append, List.length_singleton]
        omega
      rw [lateReads, ih hrest, if_neg]
      rintro ⟨-, -, hcap⟩
      omega

/-- A value without a lifespan stays visible through all reads. -/
theorem visible_after_reads {clock : Nat → Int} {id : String} {bus : RuntimeChannelBus}
    {message : RuntimeChannelMessage} (readers : List String) (hknown : id ∈ bus.channelIds)
    (htype : (bus.config id).type.isLatestStyle = true)
    (hlasts : (bus.config id).lifespan = 0) (hvisible : bus.visible id = some message) :
    (runBus clock bus (readOps id readers)).visible id = some message := by
  induction readers generalizing bus with
  | nil => exact hvisible
  | cons reader rest ih =>
      have hread := readLatestForReader_eq clock hknown htype reader
      have hlive : messageExpired (bus.config id) message (clock bus.moment) = false := by
        simp [messageExpired, hlasts]
      have hkept := (consumeLatestFromState_visible hvisible hlive reader).1
      set next := (bus.readLatestForReader clock id reader).2 with hnext
      have hvisible' : next.visible id = some message := by
        rw [RuntimeChannelBus.visible, hnext, hread]
        simp only [Function.update_self]
        exact hkept
      have hknown' : id ∈ next.channelIds := by rwa [hnext, hread]
      have htype' : (next.config id).type.isLatestStyle = true := by rwa [hnext, hread]
      have hlasts' : (next.config id).lifespan = 0 := by rwa [hnext, hread]
      exact ih hknown' htype' hlasts' hvisible'

/-- A latest channel without a lifespan. -/
def eventsEdge : List EdgeSpec :=
  [{ id := "events", fromEndpoint := "producer.out", toEndpoint := "consumer.in"
     policy := { mode := "latest", copyPolicy := "shared_view" } }]

/-- The first value published to it. -/
def firstEvent : RuntimeChannelMessage :=
  { channelId := "events", payload := {}, publishedAt := 1, receivedAt := 1, sequence := 1
    metadata := finalizeMessageMetadata {} "events" 1 "producer.out" }

theorem firstEvent_visible :
    (runBus (fun n => n) (.ofEdges eventsEdge) []).visible "events" ≠ some firstEvent ∧
      (runBus (fun n => n) (.ofEdges eventsEdge)
        [.publishShared "events" (some {}) {} none]).visible "events" = some firstEvent := by
  decide

theorem firstEvent_stays (readers : List String) :
    (runBus (fun n => n) (.ofEdges eventsEdge)
      ([.publishShared "events" (some {}) {} none] ++ readOps "events" readers)).visible "events" =
        some firstEvent := by
  rw [runBus_append]
  exact visible_after_reads readers (by decide) (by decide) (by decide) firstEvent_visible.2

theorem firstEvent_delivered_once :
    timesDelivered 1 "x" (readAll (fun n => n) "events" ["x", "y", "x"]
      (runBus (fun n => n) (.ofEdges eventsEdge)
        [.publishShared "events" (some {}) {} none])) ≤ 2 :=
  (redelivery_bounded_iff (fun n => n) eventsEdge [] "events" (by decide) (by decide) _ firstEvent
    firstEvent_visible.1 firstEvent_visible.2 ["x", "y", "x"]
    (firstEvent_stays ["x", "y", "x"])).mpr
      (fun r => (lateReads_of_few (by decide)).trans_le (Nat.zero_le 1)) "x"

/-- Different ids, all of them behind "a". -/
def crowd : List String :=
  (List.range kMaxTrackedReaders).map fun n => String.ofList ('r' :: List.replicate n '0')

theorem crowd_greater : ∀ reader ∈ crowd, "a" < reader := by
  intro reader hreader
  obtain ⟨n, -, rfl⟩ := List.mem_map.mp hreader
  have hletter : 'a' < 'r' := by decide
  have hlists : ['a'] < 'r' :: List.replicate n '0' := List.Lex.rel hletter
  have hofList : (String.ofList ('r' :: List.replicate n '0')).toList =
      'r' :: List.replicate n '0' := String.toList_ofList
  rw [String.lt_iff_toList_lt, hofList]
  exact hlists

theorem crowd_card : crowd.toFinset.card = kMaxTrackedReaders := by
  have hinjective : Function.Injective fun n => String.ofList ('r' :: List.replicate n '0') := by
    intro m n hmn
    have hlists := congrArg String.toList hmn
    simp only [String.toList_ofList] at hlists
    simpa using congrArg List.length hlists
  have hnodup : crowd.Nodup := List.nodup_range.map hinjective
  rw [List.toFinset_card_of_nodup hnodup, crowd, List.length_map, List.length_range]

/-- Behind a crowd of greater ids every read is late but the first. -/
theorem lateReads_behind {reader : String} {earlier : List String} (hnot : reader ∉ earlier)
    (hcap : kMaxTrackedReaders ≤ (earlier.toFinset.filter (reader < ·)).card) :
    lateReads reader earlier [reader, reader, reader] = 2 := by
  have hcap' : ∀ more : List String, kMaxTrackedReaders ≤
      ((earlier ++ more).toFinset.filter (reader < ·)).card := by
    intro more
    refine hcap.trans (Finset.card_le_card (Finset.filter_subset_filter _ ?_))
    intro r hr
    rw [List.mem_toFinset] at hr ⊢
    exact List.mem_append_left more hr
  have hlast : reader ∈ earlier ++ [reader] := List.mem_append_right _ List.mem_cons_self
  have hlast' : reader ∈ earlier ++ [reader] ++ [reader] := List.mem_append_left _ hlast
  have hcap'' : kMaxTrackedReaders ≤
      ((earlier ++ [reader] ++ [reader]).toFinset.filter (reader < ·)).card := by
    rw [List.append_assoc]
    exact hcap' _
  rw [lateReads, if_neg (fun h => hnot h.2.1), lateReads, if_pos ⟨rfl, hlast, hcap' _⟩, lateReads,
    if_pos ⟨rfl, hlast', hcap''⟩, lateReads]

theorem lateReads_crowd : lateReads "a" [] (crowd ++ ["a", "a", "a"]) = 2 := by
  have hnot : "a" ∉ crowd := fun hin => absurd (crowd_greater "a" hin) (lt_irrefl _)
  have hcap : kMaxTrackedReaders ≤ (crowd.toFinset.filter ("a" < ·)).card := by
    have hall : crowd.toFinset.filter ("a" < ·) = crowd.toFinset := by
      apply Finset.filter_true_of_mem
      intro reader hreader
      exact crowd_greater reader (List.mem_toFinset.mp hreader)
    rw [hall, crowd_card]
  rw [lateReads_append, lateReads_of_not_mem [] hnot, List.nil_append, lateReads_behind hnot hcap]

/-- The same value, three times to the same reader. -/
theorem crowd_redelivers :
    ¬ ∀ (clock : Nat → Int) (specs : List EdgeSpec) (ops : List BusOp) (id : String),
      id ∈ (RuntimeChannelBus.ofEdges specs).channelIds →
      ((RuntimeChannelBus.ofEdges specs).config id).type.isLatestStyle = true →
      ∀ (change : BusOp) (message : RuntimeChannelMessage),
      (runBus clock (.ofEdges specs) ops).visible id ≠ some message →
      (runBus clock (.ofEdges specs) (ops ++ [change])).visible id = some message →
      ∀ readers : List String,
      (runBus clock (.ofEdges specs) (ops ++ [change] ++ readOps id readers)).visible id =
        some message →
      ∀ reader, timesDelivered message.sequence reader
        (readAll clock id readers (runBus clock (.ofEdges specs) (ops ++ [change]))) ≤ 2 := by
  intro htwice
  have hbound := htwice (fun n => n) eventsEdge [] "events" (by decide) (by decide) _ firstEvent
    firstEvent_visible.1 firstEvent_visible.2 (crowd ++ ["a", "a", "a"])
    (firstEvent_stays (crowd ++ ["a", "a", "a"])) "a"
  have hnobody : readersAt ((runBus (fun n => n) (.ofEdges eventsEdge)
      [.publishShared "events" (some {}) {} none]).channels "events").deliveredLatestSequences
        firstEvent.sequence = topK kMaxTrackedReaders ([] : List String).toFinset := by
    rw [List.toFinset_nil, TopK.of_card_le (by simp)]
    decide
  have hcount := (timesDelivered_eq "a" (crowd ++ ["a", "a", "a"]) [] (by decide) (by decide)
    hnobody (by
      have hstays := firstEvent_stays (crowd ++ ["a", "a", "a"])
      rw [runBus_append] at hstays
      exact hstays)).2
  have hin : "a" ∈ crowd ++ ["a", "a", "a"] := by simp
  rw [lateReads_crowd, if_pos ⟨hin, List.not_mem_nil⟩] at hcount
  rw [List.nil_append, hcount] at hbound
  omega

end TopoExec
