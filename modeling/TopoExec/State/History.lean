import TopoExec.State.Store

/-! # What a state store shows

A run of the store is a list of operations, its history the list of what happened: the
accepted writes with their payloads, the rejected ones, the commits and the reads. What
a read must show is a function of the history (`effectiveWrites`); the store keeps only
a current and a pending payload for every key. `StoreInv` relates the two.
-/

namespace TopoExec

/-! ## Histories -/

inductive StateOp (P : Type) where
  | seedValue (nameSpace key writer : String) (payload : Option P)
  | stageWrite (nameSpace key writer : String) (payload : Option P)
  | commitEpochBoundary
  | read (nameSpace key : String)
deriving DecidableEq, Repr

inductive StateEvent (P : Type) where
  | seeded (nameSpace key writer : String) (payload : P)
  | staged (nameSpace key writer : String) (payload : P)
  | rejected
  | committed
  | shown (nameSpace key : String) (payload : Option P)
deriving DecidableEq, Repr

namespace StateEvent

variable {P : Type}

def isCommitted : StateEvent P → Bool
  | committed => true
  | _ => false

/-- The accepted write to a key, if the event is one: its writer and its payload. -/
def writeTo (nameSpace key : String) : StateEvent P → Option (String × P)
  | seeded ns k writer payload => if ns = nameSpace ∧ k = key then some (writer, payload) else none
  | staged ns k writer payload => if ns = nameSpace ∧ k = key then some (writer, payload) else none
  | _ => none

/-- The accepted writes to a key. -/
def acceptedWrites (nameSpace key : String) (events : List (StateEvent P)) : List (String × P) :=
  events.filterMap (writeTo nameSpace key)

/-- The payloads of the accepted writes to a key that are seeds or are followed by a
commit. -/
def effectiveWrites (nameSpace key : String) : List (StateEvent P) → List P
  | [] => []
  | seeded ns k _ payload :: later =>
      if ns = nameSpace ∧ k = key then payload :: effectiveWrites nameSpace key later
      else effectiveWrites nameSpace key later
  | staged ns k _ payload :: later =>
      if (ns = nameSpace ∧ k = key) ∧ later.any isCommitted then
        payload :: effectiveWrites nameSpace key later
      else effectiveWrites nameSpace key later
  | _ :: later => effectiveWrites nameSpace key later

variable {nameSpace key : String} {events : List (StateEvent P)} {event : StateEvent P}

/-- The accepted writes, one event later. -/
theorem acceptedWrites_snoc (nameSpace key : String) (events : List (StateEvent P))
    (event : StateEvent P) :
    acceptedWrites nameSpace key (events ++ [event]) =
      acceptedWrites nameSpace key events ++ (event.writeTo nameSpace key).toList := by
  rw [acceptedWrites, List.filterMap_append, acceptedWrites]
  cases hwrite : event.writeTo nameSpace key <;> simp [hwrite]

/-- An event that is no commit takes no staged write to its effect. -/
theorem effectiveWrites_snoc (h : event.isCommitted = false) :
    effectiveWrites nameSpace key (events ++ [event]) =
      effectiveWrites nameSpace key events ++ effectiveWrites nameSpace key [event] := by
  have hany : ∀ later : List (StateEvent P),
      (later ++ [event]).any isCommitted = later.any isCommitted := by
    intro later
    simp [h]
  induction events with
  | nil => rfl
  | cons first later ih =>
      cases first <;> simp only [List.cons_append, effectiveWrites, ih, hany] <;> split_ifs <;> rfl

/-- A commit takes every staged write to its effect. -/
theorem effectiveWrites_snoc_committed :
    effectiveWrites nameSpace key (events ++ [committed]) =
      (acceptedWrites nameSpace key events).map Prod.snd := by
  have hany : ∀ later : List (StateEvent P), (later ++ [committed]).any isCommitted = true := by
    intro later
    simp [isCommitted]
  induction events with
  | nil => rfl
  | cons first later ih =>
      cases first with
      | seeded ns k writer payload =>
          simp only [List.cons_append, effectiveWrites, ih, acceptedWrites, List.filterMap_cons,
            writeTo]
          split_ifs <;> rfl
      | staged ns k writer payload =>
          simp only [List.cons_append, effectiveWrites, ih, acceptedWrites, List.filterMap_cons,
            writeTo, hany, and_true]
          split_ifs <;> rfl
      | rejected => exact ih
      | committed => exact ih
      | shown ns k payload => exact ih

end StateEvent

/-- A store with the history of its operations. -/
structure StateRun (P : Type) where
  store : RuntimeStateStore P := {}
  events : List (StateEvent P) := []
deriving DecidableEq

namespace StateRun

variable {P : Type}

def record (r : StateRun P) (store : RuntimeStateStore P) (event : StateEvent P) : StateRun P :=
  { store, events := r.events ++ [event] }

/-- The event of a write that was answered with `accepted`. -/
def writeEvent (event : P → StateEvent P) (accepted : Bool) (payload : Option P) : StateEvent P :=
  match accepted, payload with
  | true, some payload => event payload
  | _, _ => .rejected

def exec (r : StateRun P) : StateOp P → StateRun P
  | .seedValue nameSpace key writer payload =>
      let (result, store) := r.store.seedValue nameSpace key writer payload
      r.record store (writeEvent (.seeded nameSpace key writer) result.accepted payload)
  | .stageWrite nameSpace key writer payload =>
      let (result, store) := r.store.stageWrite nameSpace key writer payload
      r.record store (writeEvent (.staged nameSpace key writer) result.accepted payload)
  | .commitEpochBoundary => r.record r.store.commitEpochBoundary.2 .committed
  | .read nameSpace key =>
      let (payload, store) := r.store.read nameSpace key
      r.record store (.shown nameSpace key payload)

def run (ops : List (StateOp P)) : StateRun P := ops.foldl exec {}

end StateRun

/-! ## One key -/

/-- What the entry under a key says about the history of the key. -/
structure KeyInv {P : Type} (nameSpace key : String) (entry : Option (RuntimeStateEntry P))
    (events : List (StateEvent P)) : Prop where
  current : entry.bind RuntimeStateEntry.current =
    (StateEvent.effectiveWrites nameSpace key events).getLast?
  pending : (entry.bind RuntimeStateEntry.pending).or (entry.bind RuntimeStateEntry.current) =
    ((StateEvent.acceptedWrites nameSpace key events).map Prod.snd).getLast?
  writer : entry.map RuntimeStateEntry.writer =
    ((StateEvent.acceptedWrites nameSpace key events).map Prod.fst).head?
  oneWriter : ∀ writer ∈ (StateEvent.acceptedWrites nameSpace key events).map Prod.fst,
    entry.map RuntimeStateEntry.writer = some writer
  explicit : ∀ writer ∈ (StateEvent.acceptedWrites nameSpace key events).map Prod.fst, writer ≠ ""

namespace KeyInv

variable {P : Type} {nameSpace key writer : String} {entry : Option (RuntimeStateEntry P)}
  {events : List (StateEvent P)} {event : StateEvent P} {payload : P}

theorem nil (nameSpace key : String) : KeyInv (P := P) nameSpace key none [] where
  current := rfl
  pending := rfl
  writer := rfl
  oneWriter := fun _ h => absurd h List.not_mem_nil
  explicit := fun _ h => absurd h List.not_mem_nil

/-- Events that are neither a write to the key nor a commit. -/
theorem other (h : KeyInv nameSpace key entry events) (hwrite : event.writeTo nameSpace key = none)
    (hcommitted : event.isCommitted = false)
    (heffective : StateEvent.effectiveWrites nameSpace key [event] = []) :
    KeyInv nameSpace key entry (events ++ [event]) := by
  have haccepted : StateEvent.acceptedWrites nameSpace key (events ++ [event]) =
      StateEvent.acceptedWrites nameSpace key events := by
    rw [StateEvent.acceptedWrites_snoc, hwrite]
    exact List.append_nil _
  constructor
  · rw [StateEvent.effectiveWrites_snoc hcommitted, heffective, List.append_nil]
    exact h.current
  · rw [haccepted]
    exact h.pending
  · rw [haccepted]
    exact h.writer
  · rw [haccepted]
    exact h.oneWriter
  · rw [haccepted]
    exact h.explicit

/-- The pending payload becomes the current one. -/
theorem commit (h : KeyInv nameSpace key entry events) :
    KeyInv nameSpace key (entry.map RuntimeStateStore.commitEntry) (events ++ [.committed]) := by
  have haccepted : StateEvent.acceptedWrites nameSpace key (events ++ [.committed]) =
      StateEvent.acceptedWrites nameSpace key events := by
    rw [StateEvent.acceptedWrites_snoc]
    exact List.append_nil _
  have hwriter : (entry.map RuntimeStateStore.commitEntry).map RuntimeStateEntry.writer =
      entry.map RuntimeStateEntry.writer := by
    cases entry with
    | none => rfl
    | some entry =>
        simp only [Option.map_some, RuntimeStateStore.commitEntry]
        split_ifs <;> rfl
  -- the pending value, if there is one, becomes the current one
  have hcurrent : (entry.map RuntimeStateStore.commitEntry).bind RuntimeStateEntry.current =
      (entry.bind RuntimeStateEntry.pending).or (entry.bind RuntimeStateEntry.current) := by
    cases entry with
    | none => rfl
    | some entry =>
        cases hpending : entry.pending <;> simp [RuntimeStateStore.commitEntry, hpending]
  have hpending :
      (entry.map RuntimeStateStore.commitEntry).bind RuntimeStateEntry.pending = none := by
    cases entry with
    | none => rfl
    | some entry =>
        cases hpending : entry.pending <;> simp [RuntimeStateStore.commitEntry, hpending]
  constructor
  · rw [StateEvent.effectiveWrites_snoc_committed, hcurrent]
    exact h.pending
  · rw [haccepted, hpending, Option.none_or, hcurrent]
    exact h.pending
  · rw [haccepted, hwriter]
    exact h.writer
  · rw [haccepted, hwriter]
    exact h.oneWriter
  · rw [haccepted]
    exact h.explicit

/-- An accepted write by the writer of the key, or the first one. -/
theorem write (h : KeyInv nameSpace key entry events) {entry' : RuntimeStateEntry P}
    (hwrite : event.writeTo nameSpace key = some (writer, payload))
    (hfits : ∀ e, entry = some e → e.writer = "" ∨ e.writer = writer) (hexplicit : writer ≠ "")
    (hwriter : entry'.writer = writer)
    (hpending : entry'.pending.or entry'.current = some payload)
    (hcurrent : entry'.current =
      (StateEvent.effectiveWrites nameSpace key (events ++ [event])).getLast?) :
    KeyInv nameSpace key (some entry') (events ++ [event]) := by
  have haccepted : StateEvent.acceptedWrites nameSpace key (events ++ [event]) =
      StateEvent.acceptedWrites nameSpace key events ++ [(writer, payload)] := by
    rw [StateEvent.acceptedWrites_snoc, hwrite]
    rfl
  -- the earlier writes were by the same writer
  have hsame : ∀ w ∈ (StateEvent.acceptedWrites nameSpace key events).map Prod.fst, w = writer := by
    intro w hw
    obtain ⟨e, hentry, rfl⟩ := Option.map_eq_some_iff.mp (h.oneWriter w hw)
    rcases hfits e hentry with hempty | hfit
    · exact absurd hempty (h.explicit _ hw)
    · exact hfit
  constructor
  · exact hcurrent
  · rw [haccepted, List.map_append, List.map_singleton, List.getLast?_concat]
    exact hpending
  · rw [haccepted, List.map_append, List.head?_append]
    show some entry'.writer = _
    rw [hwriter]
    cases hhead : ((StateEvent.acceptedWrites nameSpace key events).map Prod.fst).head? with
    | none => rfl
    | some w =>
        rw [hsame w (List.mem_of_head? hhead)]
        rfl
  · intro w hw
    show some entry'.writer = some w
    rw [haccepted, List.map_append, List.mem_append] at hw
    rcases hw with hold | hnew
    · rw [hwriter, hsame w hold]
    · rw [hwriter, List.mem_singleton.mp hnew]
  · intro w hw
    rw [haccepted, List.map_append, List.mem_append] at hw
    rcases hw with hold | hnew
    · exact h.explicit w hold
    · rw [List.mem_singleton.mp hnew]
      exact hexplicit

end KeyInv

/-! ## The store -/

/-- The entries say what the history of their keys is, and no more is committed or
pending than was staged. -/
structure StoreInv {P : Type} (r : StateRun P) : Prop where
  keys : ∀ nameSpace key, KeyInv nameSpace key (r.store.entry nameSpace key) r.events
  counts : r.store.metrics.committedWriteCount + r.store.pendingCount ≤
    r.store.metrics.stagedWriteCount

namespace StoreInv

variable {P : Type} {r : StateRun P}

theorem init : StoreInv ({} : StateRun P) where
  keys := KeyInv.nil
  counts := Nat.le_refl 0

/-- A rejection is counted and changes no value. -/
theorem rejected (h : StoreInv r) : StoreInv (r.record r.store.afterRejection .rejected) where
  keys := fun nameSpace key => (h.keys nameSpace key).other rfl rfl rfl
  counts := h.counts

/-- A seed replaces the value, if it is accepted. -/
theorem seedValue (h : StoreInv r) (nameSpace key writer : String) (payload : Option P) :
    StoreInv (r.exec (.seedValue nameSpace key writer payload)) := by
  show StoreInv (r.record (r.store.seedValue nameSpace key writer payload).2 (StateRun.writeEvent
    (.seeded nameSpace key writer) (r.store.seedValue nameSpace key writer payload).1.accepted _))
  rcases r.store.seedValue_spec nameSpace key writer payload with
    ⟨haccepted, ⟨-, -, hwriter, hpayload, hfits⟩, hstore⟩ | ⟨hrejected, -, hstore⟩
  · obtain ⟨p, rfl⟩ := Option.isSome_iff_exists.mp hpayload
    rw [haccepted, hstore]
    constructor
    · intro ns k
      show KeyInv ns k ((r.store.updateEntry nameSpace key (.seed writer (some p))).entry ns k)
        (r.events ++ [.seeded nameSpace key writer p])
      rw [RuntimeStateStore.entry_updateEntry]
      split_ifs with hkey
      · obtain ⟨rfl, rfl⟩ := hkey
        refine (h.keys _ _).write (if_pos ⟨rfl, rfl⟩) hfits hwriter rfl rfl ?_
        rw [StateEvent.effectiveWrites_snoc rfl]
        simp [StateEvent.effectiveWrites, RuntimeStateEntry.seed]
      · exact (h.keys ns k).other (if_neg hkey) rfl (if_neg hkey)
    · have hcount := r.store.pendingCount_updateEntry nameSpace key (.seed writer (some p))
      rw [RuntimeStateStore.pendingWeight_seed] at hcount
      have hbefore := h.counts
      show r.store.metrics.committedWriteCount +
          (r.store.updateEntry nameSpace key (.seed writer (some p))).pendingCount ≤
        r.store.metrics.stagedWriteCount
      omega
  · rw [hrejected, hstore]
    exact h.rejected

/-- A write is staged, if it is accepted. -/
theorem stageWrite (h : StoreInv r) (nameSpace key writer : String) (payload : Option P) :
    StoreInv (r.exec (.stageWrite nameSpace key writer payload)) := by
  show StoreInv (r.record (r.store.stageWrite nameSpace key writer payload).2 (StateRun.writeEvent
    (.staged nameSpace key writer) (r.store.stageWrite nameSpace key writer payload).1.accepted _))
  rcases r.store.stageWrite_spec nameSpace key writer payload with
    ⟨haccepted, ⟨-, -, hwriter, hpayload, hfits⟩, hstore⟩ | ⟨hrejected, -, hstore⟩
  · obtain ⟨p, rfl⟩ := Option.isSome_iff_exists.mp hpayload
    rw [haccepted, hstore]
    constructor
    · intro ns k
      show KeyInv ns k ((r.store.updateEntry nameSpace key (.stage writer (some p))).entry ns k)
        (r.events ++ [.staged nameSpace key writer p])
      rw [RuntimeStateStore.entry_updateEntry]
      -- the write changes its own key, and the others see nothing
      split_ifs with hkey
      · obtain ⟨rfl, rfl⟩ := hkey
        refine (h.keys _ _).write (if_pos ⟨rfl, rfl⟩) hfits hwriter rfl rfl ?_
        rw [StateEvent.effectiveWrites_snoc rfl]
        show ((r.store.entry nameSpace key).getD {}).current = _
        have hcurrent := (h.keys nameSpace key).current
        cases hentry : r.store.entry nameSpace key with
        | none =>
            rw [hentry] at hcurrent
            simp [StateEvent.effectiveWrites, ← hcurrent]
        | some entry =>
            rw [hentry] at hcurrent
            simp [StateEvent.effectiveWrites, ← hcurrent]
      · exact (h.keys ns k).other (if_neg hkey) rfl (if_neg fun hcontra => hkey hcontra.1)
    · have hcount := r.store.pendingCount_updateEntry nameSpace key (.stage writer (some p))
      have hweight := RuntimeStateStore.pendingWeight_le
        (((r.store.entry nameSpace key).getD {}).stage writer (some p))
      have hbefore := h.counts
      show r.store.metrics.committedWriteCount +
          (r.store.updateEntry nameSpace key (.stage writer (some p))).pendingCount ≤
        r.store.metrics.stagedWriteCount + 1
      omega
  · rw [hrejected, hstore]
    exact h.rejected

/-- A commit makes the staged writes current. -/
theorem commitEpochBoundary (h : StoreInv r) : StoreInv (r.exec .commitEpochBoundary) := by
  constructor
  · intro nameSpace key
    show KeyInv nameSpace key (r.store.commitEpochBoundary.2.entry nameSpace key)
      (r.events ++ [.committed])
    rw [RuntimeStateStore.entry_commitEpochBoundary]
    exact (h.keys nameSpace key).commit
  · have hcount := r.store.pendingCount_commitEpochBoundary
    show r.store.metrics.committedWriteCount + r.store.pendingCount +
      r.store.commitEpochBoundary.2.pendingCount ≤ r.store.metrics.stagedWriteCount
    rw [hcount]
    exact h.counts

/-- A read changes no value. -/
theorem read (h : StoreInv r) (nameSpace key : String) :
    StoreInv (r.exec (.read nameSpace key)) := by
  show StoreInv (r.record (r.store.read nameSpace key).2
    (.shown nameSpace key (r.store.read nameSpace key).1))
  rw [(r.store.read_spec nameSpace key).2]
  exact ⟨fun ns k => (h.keys ns k).other rfl rfl rfl, h.counts⟩

/-- Every operation keeps the invariant. -/
theorem exec (h : StoreInv r) (op : StateOp P) : StoreInv (r.exec op) := by
  cases op with
  | seedValue nameSpace key writer payload => exact h.seedValue nameSpace key writer payload
  | stageWrite nameSpace key writer payload => exact h.stageWrite nameSpace key writer payload
  | commitEpochBoundary => exact h.commitEpochBoundary
  | read nameSpace key => exact h.read nameSpace key

/-- By induction on the operations. -/
theorem run (ops : List (StateOp P)) : StoreInv (StateRun.run ops) := by
  suffices hfold : ∀ r : StateRun P, StoreInv r → StoreInv (ops.foldl StateRun.exec r) from
    hfold {} init
  induction ops with
  | nil => exact fun r h => h
  | cons op ops ih => exact fun r h => ih (r.exec op) (h.exec op)

end StoreInv

/-! ## The contract of the store -/

section

variable {P : Type} (ops : List (StateOp P)) (nameSpace key : String)

/-- The writer of the first accepted write to a key. -/
def firstWriter (events : List (StateEvent P)) : Option String :=
  ((StateEvent.acceptedWrites nameSpace key events).map Prod.fst).head?

/-- A write that names everything is accepted from the first writer of its key, and from
every writer while there is none. -/
theorem admissible_run {writer : String} (payload : P) (hnameSpace : nameSpace ≠ "")
    (hkey : key ≠ "") (hwriter : writer ≠ "") :
    (StateRun.run ops).store.Admissible nameSpace key writer (some payload) ↔
      ∀ first, firstWriter nameSpace key (StateRun.run ops).events = some first →
        writer = first := by
  have hinv := (StoreInv.run ops).keys nameSpace key
  constructor
  · rintro ⟨-, -, -, -, hfits⟩ first hfirst
    have hmem := List.mem_of_head? hfirst
    obtain ⟨entry, hentry, rfl⟩ := Option.map_eq_some_iff.mp (hinv.oneWriter first hmem)
    rcases hfits entry hentry with hempty | hfit
    · exact absurd hempty (hinv.explicit _ hmem)
    · exact hfit.symm
  · intro hfirst
    refine ⟨hnameSpace, hkey, hwriter, rfl, ?_⟩
    intro entry hentry
    have hhead := hinv.writer
    rw [hentry] at hhead
    exact Or.inr (hfirst entry.writer hhead.symm).symm

/-- What the store promises after every sequence of operations: all accepted writes to a
key are by its first writer, and it still takes writes of this writer and of no other; a
read shows the latest write that is a seed or was followed by a commit; a rejected write
is counted and changes nothing else; and no more was committed than staged. -/
theorem state_store_contract :
    (∀ write ∈ StateEvent.acceptedWrites nameSpace key (StateRun.run ops).events,
      firstWriter nameSpace key (StateRun.run ops).events = some write.1) ∧
    (∀ writer payload, nameSpace ≠ "" → key ≠ "" → writer ≠ "" →
      (((StateRun.run ops).store.seedValue nameSpace key writer (some payload)).1.accepted = true ↔
        ∀ first, firstWriter nameSpace key (StateRun.run ops).events = some first →
          writer = first) ∧
      (((StateRun.run ops).store.stageWrite nameSpace key writer (some payload)).1.accepted = true ↔
        ∀ first, firstWriter nameSpace key (StateRun.run ops).events = some first →
          writer = first)) ∧
    ((StateRun.run ops).store.read nameSpace key).1 =
      (StateEvent.effectiveWrites nameSpace key (StateRun.run ops).events).getLast? ∧
    (∀ writer payload,
      (((StateRun.run ops).store.seedValue nameSpace key writer payload).1.accepted = false →
        ((StateRun.run ops).store.seedValue nameSpace key writer payload).2 =
          (StateRun.run ops).store.afterRejection) ∧
      (((StateRun.run ops).store.stageWrite nameSpace key writer payload).1.accepted = false →
        ((StateRun.run ops).store.stageWrite nameSpace key writer payload).2 =
          (StateRun.run ops).store.afterRejection)) ∧
    (StateRun.run ops).store.metrics.committedWriteCount ≤
      (StateRun.run ops).store.metrics.stagedWriteCount := by
  have hinv := StoreInv.run ops
  refine ⟨?_, ?_, ?_, ?_, ?_⟩
  · intro write hwrite
    -- the writer of an entry is the first one
    rw [firstWriter, ← (hinv.keys nameSpace key).writer]
    exact (hinv.keys nameSpace key).oneWriter write.1 (List.mem_map_of_mem hwrite)
  · intro writer payload hnameSpace hkey hwriter
    -- a write with all its parts is refused only for its writer
    rw [← admissible_run ops nameSpace key payload hnameSpace hkey hwriter]
    constructor
    · rcases (StateRun.run ops).store.seedValue_spec nameSpace key writer (some payload) with
        ⟨haccepted, hadmissible, -⟩ | ⟨hrejected, hinadmissible, -⟩
      · exact iff_of_true haccepted hadmissible
      · exact iff_of_false (by simp [hrejected]) hinadmissible
    · rcases (StateRun.run ops).store.stageWrite_spec nameSpace key writer (some payload) with
        ⟨haccepted, hadmissible, -⟩ | ⟨hrejected, hinadmissible, -⟩
      · exact iff_of_true haccepted hadmissible
      · exact iff_of_false (by simp [hrejected]) hinadmissible
  · rw [((StateRun.run ops).store.read_spec nameSpace key).1]
    exact (hinv.keys nameSpace key).current
  · intro writer payload
    constructor
    · intro hrejected
      rcases (StateRun.run ops).store.seedValue_spec nameSpace key writer payload with
        ⟨haccepted, -, -⟩ | ⟨-, -, hstore⟩
      · rw [hrejected] at haccepted
        cases haccepted
      · exact hstore
    · intro hrejected
      rcases (StateRun.run ops).store.stageWrite_spec nameSpace key writer payload with
        ⟨haccepted, -, -⟩ | ⟨-, -, hstore⟩
      · rw [hrejected] at haccepted
        cases haccepted
      · exact hstore
  · exact Nat.le_of_add_right_le hinv.counts

end

end TopoExec
