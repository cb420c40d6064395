import TopoExec.Channel.Accounting
import TopoExec.Channel.DeliveryLaw

/-! # Peeking at a port

`peek_latest_for_component_port` should show the most recently published message
that is visible at a port. It walks over the channels of the port in edge order
and takes the first message of the first channel that shows one: on a queue that
is the oldest message, and on a port with several channels it may be an older
one. `peek_latest_iff` says exactly when the walk finds the latest message.
-/

namespace TopoExec

open RuntimeChannelBus

/-- The visible messages of a channel that have not expired. -/
def visibleMessages (config : ChannelConfig) (now : Int) (s : ChannelState) :
    List RuntimeChannelMessage :=
  if config.type.isLatestStyle then unexpired config now s.latest.toList
  else unexpired config now s.queue

/-- The visible messages of a list of channels, each at its own reading of the
clock. -/
def channelMessages (clock : Nat → Int) (bus : RuntimeChannelBus) (ids : List String) :
    List (List RuntimeChannelMessage) :=
  ids.zipIdx.map fun (id, n) =>
    visibleMessages (bus.config id) (clock (bus.moment + n)) (bus.channels id)

/-- `message` was published no later than `other`; in one channel the sequence
numbers tell. -/
def NotAfter (message other : RuntimeChannelMessage) : Prop :=
  message.publishedAt ≤ other.publishedAt ∧
    (message.channelId = other.channelId → message.sequence ≤ other.sequence)

/-- `result` is the most recently published message, and nothing exactly if there
is none. -/
def IsLatestOf (messages : List RuntimeChannelMessage) (result : Option RuntimeChannelMessage) :
    Prop :=
  (result = none ↔ messages = []) ∧
    ∀ message ∈ result, message ∈ messages ∧ ∀ other ∈ messages, NotAfter other message

/-! ## One channel -/

/-- A snapshot of one message is the first visible one. -/
theorem snapshotFromState_one (config : ChannelConfig) (now : Int) (s : ChannelState) :
    (snapshotFromState config now 1 s).1 = (visibleMessages config now s).take 1 := by
  unfold snapshotFromState visibleMessages
  cases htype : config.type.isLatestStyle with
  | true =>
      cases hlatest : s.latest with
      | none => simp [unexpired]
      | some latest =>
          cases hexpired : messageExpired config latest now <;> simp [unexpired, hexpired]
  | false =>
      -- the walk takes a message only while it has none
      have hwalk : ∀ (queue : List RuntimeChannelMessage) (walked : DrainState),
          (queue.foldl (snapshotStep config now 1) walked).messages =
            walked.messages ++ (unexpired config now queue).take (1 - walked.messages.length) := by
        intro queue
        induction queue with
        | nil => simp [unexpired]
        | cons message queue ih =>
            intro walked
            rw [List.foldl_cons, ih]
            cases hexpired : messageExpired config message now with
            | true => simp [snapshotStep, unexpired, hexpired]
            | false =>
                by_cases hempty : walked.messages.length < 1
                · have hnil : walked.messages = [] := List.length_eq_zero_iff.mp (by omega)
                  simp [snapshotStep, unexpired, hexpired, hnil]
                · have hfull : 1 - walked.messages.length = 0 := by omega
                  simp [snapshotStep, unexpired, hexpired, hempty, hfull]
      simpa using hwalk s.queue { state := s }

/-- An expired message stays expired. -/
theorem messageExpired_mono {config : ChannelConfig} {message : RuntimeChannelMessage}
    {now later : Int} (hle : now ≤ later) (h : messageExpired config message now = true) :
    messageExpired config message later = true := by
  simp only [messageExpired, Bool.and_eq_true, decide_eq_true_eq] at h ⊢
  refine ⟨h.1, ?_⟩
  omega

/-- Nothing comes back to life. -/
theorem unexpired_nil_mono {config : ChannelConfig} {now later : Int} (hle : now ≤ later)
    {l : List RuntimeChannelMessage} (h : unexpired config now l = []) :
    unexpired config later l = [] := by
  simp only [unexpired, List.filter_eq_nil_iff, Bool.not_eq_true', Bool.not_eq_false] at h ⊢
  intro message hmessage
  exact messageExpired_mono hle (h message hmessage)

/-- A channel that showed nothing shows nothing afterwards. -/
theorem visible_after_snapshot {config : ChannelConfig} {now later : Int} {s : ChannelState}
    (hle : now ≤ later) (h : visibleMessages config now s = []) :
    visibleMessages config later (snapshotFromState config now 1 s).2 =
      visibleMessages config later s := by
  unfold visibleMessages at h ⊢
  cases htype : config.type.isLatestStyle with
  | true =>
      simp only [htype, if_true] at h ⊢
      rw [unexpired_nil_mono hle h]
      unfold snapshotFromState
      rw [if_pos htype]
      cases hlatest : s.latest with
      | none => simp [hlatest, unexpired]
      | some latest =>
          dsimp only
          split_ifs with hexpired
          · simp [ChannelState.dropLatest, ChannelState.markStaleDrop, unexpired]
          · simp [hlatest, unexpired, hexpired] at h
  | false =>
      simp only [htype, Bool.false_eq_true, if_false] at h ⊢
      rw [(snapshotFromState_spec config now 1 s htype).queue, h, unexpired_nil_mono hle h]
      rfl

/-! ## The walk -/

/-- The messages to be seen on several channels, one channel after the other. -/
theorem channelMessages_cons (clock : Nat → Int) (bus : RuntimeChannelBus) (id : String)
    (ids : List String) :
    channelMessages clock bus (id :: ids) =
      visibleMessages (bus.config id) (clock bus.moment) (bus.channels id) ::
        ids.zipIdx.map fun (id, n) =>
          visibleMessages (bus.config id) (clock (bus.moment + 1 + n)) (bus.channels id) := by
  unfold channelMessages
  rw [List.zipIdx_cons, List.map_cons, Nat.add_zero, List.zipIdx_succ, List.map_map]
  congr 1
  apply List.map_congr_left
  intro entry _
  simp only [Function.comp_apply]
  congr 2
  omega

/-- The walk finds the first message of all the visible ones, channel by
channel. -/
theorem firstPeek_eq {clock : Nat → Int} (hclock : Monotone clock) (ids : List String)
    (bus : RuntimeChannelBus) :
    (firstPeek clock ids bus).1 = (channelMessages clock bus ids).flatten.head? := by
  induction ids generalizing bus with
  | nil => rfl
  | cons id rest ih =>
      rw [channelMessages_cons, List.flatten_cons]
      simp only [firstPeek, onChannel, snapshotFromState_one]
      cases hvisible : visibleMessages (bus.config id) (clock bus.moment) (bus.channels id) with
      | cons message others => simp
      | nil =>
          simp only [List.take_nil, List.nil_append]
          rw [ih]
          congr 2
          -- the channels behind look as before the snapshot of the first one
          apply List.map_congr_left
          rintro ⟨id', n⟩ _
          by_cases hid : id' = id
          · subst hid
            simp only [Function.update_self]
            exact visible_after_snapshot (hclock (by omega)) hvisible
          · simp only [Function.update_of_ne hid]

/-! ## The latest message -/

/-- In a channel with two visible messages the first is not the latest. -/
theorem visible_increasing {config : ChannelConfig} {s : ChannelState}
    (haccounts : config.type.isLatestStyle = false → QueueAccounts config s) (now : Int) :
    ((visibleMessages config now s).map RuntimeChannelMessage.sequence).Pairwise (· < ·) := by
  unfold visibleMessages
  split_ifs with htype
  · cases s.latest with
    | none => simp [unexpired]
    | some latest =>
        cases hexpired : messageExpired config latest now <;> simp [unexpired, hexpired]
  · have hsub : (unexpired config now s.queue).Sublist s.queue := List.filter_sublist
    exact (haccounts (by simpa using htype)).ordered.sublist (hsub.map _)

/-- What is seen on a channel carries its name. -/
theorem visible_tagged {config : ChannelConfig} {s : ChannelState} (htags : Tagged config s)
    {now : Int} {message : RuntimeChannelMessage}
    (hmessage : message ∈ visibleMessages config now s) : message.channelId = config.id := by
  unfold visibleMessages at hmessage
  split_ifs at hmessage with htype
  · exact htags.latest message (by simpa using List.mem_of_mem_filter hmessage)
  · exact htags.queue message (List.mem_of_mem_filter hmessage)

/-- The first of all messages is the latest exactly if the first list that is not
empty holds one message and nothing in the others is later. -/
theorem isLatestOf_head_iff {lists : List (List RuntimeChannelMessage)}
    (hlists : ∀ messages ∈ lists, messages.Pairwise fun m m' => ¬ NotAfter m' m) :
    IsLatestOf lists.flatten lists.flatten.head? ↔
      ∀ before messages after, lists = before ++ messages :: after →
        (∀ earlier ∈ before, earlier = []) → messages ≠ [] →
        ∃ message, messages = [message] ∧ ∀ other ∈ after.flatten, NotAfter other message := by
  have hrefl : ∀ m, NotAfter m m := fun m => ⟨le_rfl, fun _ => le_rfl⟩
  constructor
  · rintro ⟨-, hlatest⟩ before messages after hsplit hbefore hne
    have hprefix : before.flatten = [] := List.flatten_eq_nil_iff.mpr hbefore
    have hflat : lists.flatten = messages ++ after.flatten := by
      rw [hsplit, List.flatten_append, hprefix, List.flatten_cons, List.nil_append]
    cases messages with
    | nil => exact absurd rfl hne
    | cons message others =>
        rw [hflat] at hlatest
        obtain ⟨-, hall⟩ := hlatest message (by simp)
        have hothers : others = [] := by
          apply List.eq_nil_iff_forall_not_mem.mpr
          intro other hother
          have hpair := hlists (message :: others) (by simp [hsplit])
          have hlater := (List.pairwise_cons.mp hpair).1 other hother
          exact hlater (hall other (by simp [hother]))
        subst hothers
        exact ⟨message, rfl, fun other hother => hall other (by simp [hother])⟩
  · intro hfirst
    refine ⟨List.head?_eq_none_iff, ?_⟩
    intro message hmessage
    have hmem : message ∈ lists.flatten := List.mem_of_mem_head? hmessage
    refine ⟨hmem, ?_⟩
    -- the list that the first message is in
    obtain ⟨before, messages, after, hsplit, hbefore, hne⟩ :
        ∃ before messages after, lists = before ++ messages :: after ∧
          (∀ earlier ∈ before, earlier = []) ∧ messages ≠ [] := by
      clear hlists hfirst hmessage
      induction lists with
      | nil => simp at hmem
      | cons first lists ih =>
          by_cases hnil : first = []
          · obtain ⟨before, messages, after, hsplit, hbefore, hne⟩ :=
              ih (by simpa [hnil] using hmem)
            refine ⟨first :: before, messages, after, by simp [hsplit], ?_, hne⟩
            intro earlier hearlier
            rcases List.mem_cons.mp hearlier with rfl | hearlier
            · exact hnil
            · exact hbefore earlier hearlier
          · exact ⟨[], first, lists, rfl, by simp, hnil⟩
    obtain ⟨found, rfl, hafter⟩ := hfirst before messages after hsplit hbefore hne
    have hprefix : before.flatten = [] := List.flatten_eq_nil_iff.mpr hbefore
    have hflat : lists.flatten = found :: after.flatten := by
      rw [hsplit, List.flatten_append, hprefix, List.flatten_cons, List.nil_append,
        List.singleton_append]
    rw [hflat] at hmessage ⊢
    have heq : found = message := by simpa using hmessage
    subst heq
    intro other hother
    rcases List.mem_cons.mp hother with rfl | hother
    · exact hrefl other
    · exact hafter other hother

/-- In every state of every run, the peek shows the latest message of the port
exactly if the first channel in edge order with a visible message holds one such
message, and no channel behind it shows a message that was published later. -/
theorem peek_latest_iff (clock : Nat → Int) (hclock : Monotone clock) (specs : List EdgeSpec)
    (ops : List BusOp) (componentId portName : String) :
    let bus := runBus clock (.ofEdges specs) ops
    let messages := channelMessages clock bus (bus.channelIdsForComponentPort componentId portName)
    IsLatestOf messages.flatten
        (bus.peekLatestForComponentPort clock componentId portName).1.message ↔
      ∀ before shown after, messages = before ++ shown :: after →
        (∀ earlier ∈ before, earlier = []) → shown ≠ [] →
        ∃ message, shown = [message] ∧ ∀ other ∈ after.flatten, NotAfter other message := by
  intro bus messages
  have hpeek : (bus.peekLatestForComponentPort clock componentId portName).1.message =
      messages.flatten.head? := by
    simp only [peekLatestForComponentPort, firstPeek_eq hclock, messages]
  rw [hpeek]
  apply isLatestOf_head_iff
  intro shown hshown
  obtain ⟨⟨id, n⟩, hid, rfl⟩ := List.mem_map.mp hshown
  have haccounts := channel_accounts clock specs ops id
  have htags := allTagged_run clock specs ops id
  have hincreasing := visible_increasing haccounts.queue (clock (bus.moment + n))
  rw [List.pairwise_map] at hincreasing
  apply hincreasing.imp_of_mem
  intro first second hfirst hsecond hlt hnot
  have hsame : second.channelId = first.channelId :=
    (visible_tagged htags hsecond).trans (visible_tagged htags hfirst).symm
  have hle := hnot.2 hsame
  omega

/-- Two sources of one port. -/
def twoSources : List EdgeSpec :=
  [{ id := "left", fromEndpoint := "a.out", toEndpoint := "c.in"
     policy := { mode := "latest", copyPolicy := "shared_view" } },
   { id := "right", fromEndpoint := "b.out", toEndpoint := "c.in"
     policy := { mode := "latest", copyPolicy := "shared_view" } }]

/-- The value of the first channel is the newer one here. -/
theorem twoSources_peek :
    IsLatestOf
      (channelMessages (fun n => n)
        (runBus (fun n => n) (.ofEdges twoSources)
          [.publishShared "right" (some {}) {} none, .publishShared "left" (some {}) {} none])
        ["left", "right"]).flatten
      ((runBus (fun n => n) (.ofEdges twoSources)
        [.publishShared "right" (some {}) {} none, .publishShared "left" (some {}) {} none]
        ).peekLatestForComponentPort (fun n => n) "c" "in").1.message := by
  apply (peek_latest_iff (fun n => n) Nat.mono_cast twoSources _ "c" "in").mpr
  intro before shown after hsplit hbefore hne
  have hlists : channelMessages (fun n => n)
      (runBus (fun n => n) (.ofEdges twoSources)
        [.publishShared "right" (some {}) {} none, .publishShared "left" (some {}) {} none])
      ["left", "right"] =
        [[{ channelId := "left", payload := {}, publishedAt := 3, receivedAt := 3, sequence := 1
            metadata := finalizeMessageMetadata {} "left" 1 "a.out" }],
         [{ channelId := "right", payload := {}, publishedAt := 1, receivedAt := 1, sequence := 1
            metadata := finalizeMessageMetadata {} "right" 1 "b.out" }]] := by
    decide
  have hsplit' := hlists.symm.trans hsplit
  cases before with
  | nil =>
      obtain ⟨rfl, rfl⟩ := List.cons.inj hsplit'
      exact ⟨_, rfl, by simp [NotAfter]⟩
  | cons first before =>
      have hfirst := hbefore first List.mem_cons_self
      have := (List.cons.inj hsplit').1
      simp [hfirst] at this

/-- A queue shows its oldest message. -/
def commandQueue : List EdgeSpec :=
  [{ id := "commands", fromEndpoint := "a.out", toEndpoint := "b.in"
     policy := { mode := "queue", capacity := 2, copyPolicy := "shared_view" } }]

theorem commandQueue_peeks_oldest :
    ¬ ∀ (clock : Nat → Int), Monotone clock → ∀ (specs : List EdgeSpec) (ops : List BusOp)
      (componentId portName : String),
      IsLatestOf
        (channelMessages clock (runBus clock (.ofEdges specs) ops)
          ((runBus clock (.ofEdges specs) ops).channelIdsForComponentPort
            componentId portName)).flatten
        ((runBus clock (.ofEdges specs) ops).peekLatestForComponentPort clock componentId
          portName).1.message := by
  intro hpeeks
  have hlatest := (hpeeks (fun n => n) Nat.mono_cast commandQueue
    [.publishShared "commands" (some {}) {} none, .publishShared "commands" (some {}) {} none]
    "b" "in").2 _ rfl
  have hafter := (hlatest.2
    { channelId := "commands", payload := {}, publishedAt := 3, receivedAt := 3, sequence := 2
      metadata := finalizeMessageMetadata {} "commands" 2 "a.out" } (by decide)).1
  revert hafter
  decide

end TopoExec
