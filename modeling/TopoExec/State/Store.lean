import Mathlib.Data.String.Basic
import TopoExec.Lib.OrderedMap

/-! # The state store

`RuntimeStateStore` keeps a current and a pending payload for every key of every
namespace. A seed takes effect at once, a staged write at the next epoch boundary. A key
belongs to the writer of its first write.

A payload is a shared pointer: `none` is the null pointer. Every operation holds the
store's mutex from begin to end, so a run of the store is a list of operations. The
getter `metrics()` is left out, it recomputes two counts no other operation reads.
-/

namespace TopoExec

/-! ## The store -/

structure RuntimeStateWriteResult where
  accepted : Bool := false
  reason : String := ""
deriving DecidableEq, Repr

structure RuntimeStateStoreMetrics where
  epoch : Nat := 0
  namespaceCount : Nat := 0
  currentValueCount : Nat := 0
  stagedWriteCount : Nat := 0
  committedWriteCount : Nat := 0
  rejectedWriteCount : Nat := 0
  snapshotReadCount : Nat := 0
deriving DecidableEq, Repr

structure RuntimeStateEntry (P : Type) where
  current : Option P := none
  pending : Option P := none
  writer : String := ""
  version : Nat := 0
deriving DecidableEq, Repr

/-- The entry after a seed. -/
def RuntimeStateEntry.seed {P : Type} (writer : String) (payload : Option P)
    (entry : RuntimeStateEntry P) : RuntimeStateEntry P :=
  { entry with current := payload, pending := none, writer, version := entry.version + 1 }

/-- The entry after a staged write. -/
def RuntimeStateEntry.stage {P : Type} (writer : String) (payload : Option P)
    (entry : RuntimeStateEntry P) : RuntimeStateEntry P :=
  { entry with pending := payload, writer }

structure RuntimeStateSnapshot (P : Type) where
  nameSpace : String
  epoch : Nat := 0
  values : OrderedMap String P := .empty
deriving DecidableEq

structure RuntimeStateStore (P : Type) where
  namespaces : OrderedMap String (OrderedMap String (RuntimeStateEntry P)) := .empty
  metrics : RuntimeStateStoreMetrics := {}
deriving DecidableEq

def RuntimeStateSnapshot.get {P : Type} (snapshot : RuntimeStateSnapshot P) (key : String) :
    Option P :=
  snapshot.values.find key

namespace RuntimeStateStore

variable {P : Type}

/-- The entry under a key, if the key was ever written. -/
def entry (store : RuntimeStateStore P) (nameSpace key : String) : Option (RuntimeStateEntry P) :=
  (store.namespaces.find nameSpace).bind fun values => values.find key

/-- `namespaces_[name_space][key]`, changed by `update`. -/
def updateEntry (store : RuntimeStateStore P) (nameSpace key : String)
    (update : RuntimeStateEntry P → RuntimeStateEntry P) : RuntimeStateStore P :=
  let values := (store.namespaces.find nameSpace).getD .empty
  let entry := (values.find key).getD {}
  { store with namespaces := store.namespaces.insert nameSpace (values.insert key (update entry)) }

def reject (store : RuntimeStateStore P) (reason : String) :
    RuntimeStateWriteResult × RuntimeStateStore P :=
  ({ reason }, { store with metrics.rejectedWriteCount := store.metrics.rejectedWriteCount + 1 })

def validateWriteLocked (store : RuntimeStateStore P) (nameSpace key writer : String)
    (payload : Option P) : RuntimeStateWriteResult × RuntimeStateStore P :=
  if nameSpace = "" then store.reject "state namespace must not be empty"
  else if key = "" then store.reject "state key must not be empty"
  else if writer = "" then store.reject "state writer must be an explicit component.port"
  else if payload.isNone then store.reject "state payload must not be null"
  else
    match store.namespaces.find nameSpace with
    | none => ({ accepted := true }, store)
    | some values =>
        match values.find key with
        | none => ({ accepted := true }, store)
        | some entry =>
            if entry.writer = "" ∨ entry.writer = writer then ({ accepted := true }, store)
            else store.reject
              ("state key " ++ nameSpace ++ "." ++ key ++ " already has writer " ++ entry.writer)

def seedValue (store : RuntimeStateStore P) (nameSpace key writer : String) (payload : Option P) :
    RuntimeStateWriteResult × RuntimeStateStore P :=
  let (validation, store) := store.validateWriteLocked nameSpace key writer payload
  if ¬ validation.accepted then (validation, store)
  else
    ({ accepted := true }, store.updateEntry nameSpace key (.seed writer payload))

def stageWrite (store : RuntimeStateStore P) (nameSpace key writer : String) (payload : Option P) :
    RuntimeStateWriteResult × RuntimeStateStore P :=
  let (validation, store) := store.validateWriteLocked nameSpace key writer payload
  if ¬ validation.accepted then (validation, store)
  else
    let store := store.updateEntry nameSpace key (.stage writer payload)
    ({ accepted := true },
      { store with metrics.stagedWriteCount := store.metrics.stagedWriteCount + 1 })

def currentValueCountLocked (store : RuntimeStateStore P) : Nat :=
  store.namespaces.total fun values =>
    values.total fun entry => if entry.current.isSome then 1 else 0

/-- The number of entries with a pending payload. -/
def pendingCount (store : RuntimeStateStore P) : Nat :=
  store.namespaces.total fun values =>
    values.total fun entry => if entry.pending.isSome then 1 else 0

def commitEntry (entry : RuntimeStateEntry P) : RuntimeStateEntry P :=
  if entry.pending.isNone then entry
  else { entry with current := entry.pending, pending := none, version := entry.version + 1 }

def commitEpochBoundary (store : RuntimeStateStore P) : Nat × RuntimeStateStore P :=
  let committed := store.pendingCount
  let store := { store with namespaces := store.namespaces.map (OrderedMap.map commitEntry) }
  (committed, { store with
    metrics.epoch := store.metrics.epoch + 1
    metrics.committedWriteCount := store.metrics.committedWriteCount + committed
    metrics.namespaceCount := store.namespaces.size
    metrics.currentValueCount := store.currentValueCountLocked })

def snapshot (store : RuntimeStateStore P) (nameSpace : String) :
    RuntimeStateSnapshot P × RuntimeStateStore P :=
  let store := { store with metrics.snapshotReadCount := store.metrics.snapshotReadCount + 1 }
  let snapshot := { nameSpace, epoch := store.metrics.epoch }
  match store.namespaces.find nameSpace with
  | none => (snapshot, store)
  | some values => ({ snapshot with values := values.filterMap fun entry => entry.current }, store)

def read (store : RuntimeStateStore P) (nameSpace key : String) : Option P × RuntimeStateStore P :=
  let (snapshot, store) := store.snapshot nameSpace
  (snapshot.get key, store)

/-! ## Validation -/

variable (store : RuntimeStateStore P) (nameSpace key writer : String) (payload : Option P)

/-- The write names everything it must name, and the key has no other writer. -/
def Admissible : Prop :=
  nameSpace ≠ "" ∧ key ≠ "" ∧ writer ≠ "" ∧ payload.isSome ∧
    ∀ entry, store.entry nameSpace key = some entry → entry.writer = "" ∨ entry.writer = writer

/-- The store after a rejected write. -/
def afterRejection : RuntimeStateStore P :=
  { store with metrics.rejectedWriteCount := store.metrics.rejectedWriteCount + 1 }

/-- The store after a staged write, but for the entry written. -/
def afterStaging : RuntimeStateStore P :=
  { store with metrics.stagedWriteCount := store.metrics.stagedWriteCount + 1 }

/-- A write is accepted when it is admissible, and its rejection is counted otherwise. -/
theorem validateWriteLocked_spec :
    ((store.validateWriteLocked nameSpace key writer payload).1.accepted = true ∧
        store.Admissible nameSpace key writer payload ∧
        (store.validateWriteLocked nameSpace key writer payload).2 = store) ∨
      ((store.validateWriteLocked nameSpace key writer payload).1.accepted = false ∧
        ¬ store.Admissible nameSpace key writer payload ∧
        (store.validateWriteLocked nameSpace key writer payload).2 = store.afterRejection) := by
  unfold validateWriteLocked Admissible
  -- the checks in the order of the source
  split_ifs with hns hkey hwriter hnull
  · exact Or.inr ⟨rfl, fun h => h.1 hns, rfl⟩
  · exact Or.inr ⟨rfl, fun h => h.2.1 hkey, rfl⟩
  · exact Or.inr ⟨rfl, fun h => h.2.2.1 hwriter, rfl⟩
  · refine Or.inr ⟨rfl, fun h => ?_, rfl⟩
    rw [Option.isNone_iff_eq_none.mp hnull] at h
    exact absurd h.2.2.2.1 (by simp)
  · have hpayload : payload.isSome = true := by
      rw [Option.isNone_iff_eq_none] at hnull
      exact Option.isSome_iff_ne_none.mpr hnull
    split
    · next hnone =>
        refine Or.inl ⟨rfl, ⟨hns, hkey, hwriter, hpayload, ?_⟩, rfl⟩
        intro entry hentry
        rw [RuntimeStateStore.entry, hnone] at hentry
        cases hentry
    · next values hvalues =>
        have hfind : store.entry nameSpace key = values.find key := by
          rw [RuntimeStateStore.entry, hvalues]
          rfl
        split
        · next hnone =>
            refine Or.inl ⟨rfl, ⟨hns, hkey, hwriter, hpayload, ?_⟩, rfl⟩
            intro entry hentry
            rw [hfind, hnone] at hentry
            cases hentry
        · next entry hentry =>
            split_ifs with hfits
            · refine Or.inl ⟨rfl, ⟨hns, hkey, hwriter, hpayload, ?_⟩, rfl⟩
              intro entry' hentry'
              rw [hfind, hentry] at hentry'
              cases hentry'
              exact hfits
            · exact Or.inr ⟨rfl, fun h => hfits (h.2.2.2.2 entry (hfind.trans hentry)), rfl⟩

/-- A seed is rejected, or it puts its payload in the place of both payloads of the key. -/
theorem seedValue_spec :
    ((store.seedValue nameSpace key writer payload).1.accepted = true ∧
        store.Admissible nameSpace key writer payload ∧
        (store.seedValue nameSpace key writer payload).2 =
          store.updateEntry nameSpace key (.seed writer payload)) ∨
      ((store.seedValue nameSpace key writer payload).1.accepted = false ∧
        ¬ store.Admissible nameSpace key writer payload ∧
        (store.seedValue nameSpace key writer payload).2 = store.afterRejection) := by
  rcases store.validateWriteLocked_spec nameSpace key writer payload with
    ⟨haccepted, hadmissible, hstore⟩ | ⟨hrejected, hinadmissible, hstore⟩
  · left
    simp [seedValue, haccepted, hadmissible, hstore]
  · right
    simp [seedValue, hrejected, hinadmissible, hstore]

/-- A staged write is rejected, or it becomes the pending payload of the key. -/
theorem stageWrite_spec :
    ((store.stageWrite nameSpace key writer payload).1.accepted = true ∧
        store.Admissible nameSpace key writer payload ∧
        (store.stageWrite nameSpace key writer payload).2 =
          (store.updateEntry nameSpace key (.stage writer payload)).afterStaging) ∨
      ((store.stageWrite nameSpace key writer payload).1.accepted = false ∧
        ¬ store.Admissible nameSpace key writer payload ∧
        (store.stageWrite nameSpace key writer payload).2 = store.afterRejection) := by
  rcases store.validateWriteLocked_spec nameSpace key writer payload with
    ⟨haccepted, hadmissible, hstore⟩ | ⟨hrejected, hinadmissible, hstore⟩
  · left
    simp [stageWrite, haccepted, hadmissible, hstore, afterStaging]
  · right
    simp [stageWrite, hrejected, hinadmissible, hstore]

/-! ## Entries -/

/-- Writing an entry changes no other one. -/
theorem entry_updateEntry (update : RuntimeStateEntry P → RuntimeStateEntry P) (ns k : String) :
    (store.updateEntry nameSpace key update).entry ns k =
      if nameSpace = ns ∧ key = k then some (update ((store.entry nameSpace key).getD {}))
      else store.entry ns k := by
  rw [RuntimeStateStore.entry, updateEntry, OrderedMap.find_insert]
  by_cases hns : nameSpace = ns
  · subst hns
    rw [if_pos rfl, Option.bind_some, OrderedMap.find_insert]
    by_cases hkey : key = k
    · subst hkey
      rw [if_pos rfl, if_pos ⟨rfl, rfl⟩, RuntimeStateStore.entry]
      cases store.namespaces.find nameSpace <;> rfl
    · rw [if_neg hkey, if_neg (fun h => hkey h.2), RuntimeStateStore.entry]
      cases store.namespaces.find nameSpace <;> rfl
  · rw [if_neg hns, if_neg (fun h => hns h.1)]
    rfl

/-- A commit is that of every entry. -/
theorem entry_commitEpochBoundary (ns k : String) :
    store.commitEpochBoundary.2.entry ns k = (store.entry ns k).map commitEntry := by
  show ((store.namespaces.map (OrderedMap.map commitEntry)).find ns).bind _ = _
  rw [OrderedMap.find_map, RuntimeStateStore.entry]
  cases store.namespaces.find ns with
  | none => rfl
  | some values => exact OrderedMap.find_map commitEntry values k

/-- A read gives the current value and counts itself. -/
theorem read_spec :
    (store.read nameSpace key).1 = (store.entry nameSpace key).bind RuntimeStateEntry.current ∧
      (store.read nameSpace key).2 =
        { store with metrics.snapshotReadCount := store.metrics.snapshotReadCount + 1 } := by
  unfold read snapshot RuntimeStateSnapshot.get RuntimeStateStore.entry
  cases hfind : store.namespaces.find nameSpace with
  | none => simp [hfind]
  | some values => simp [hfind, OrderedMap.find_filterMap]

/-! ## Pending payloads -/

/-- One for an entry with a pending payload. -/
def pendingWeight (entry : RuntimeStateEntry P) : Nat := if entry.pending.isSome then 1 else 0

@[simp]
theorem pendingWeight_seed (entry : RuntimeStateEntry P) :
    pendingWeight (entry.seed writer payload) = 0 := rfl

theorem pendingWeight_le (entry : RuntimeStateEntry P) : pendingWeight entry ≤ 1 := by
  unfold pendingWeight
  split_ifs <;> omega

theorem pendingWeight_getD (entry : Option (RuntimeStateEntry P)) :
    (entry.map pendingWeight).getD 0 = pendingWeight (entry.getD {}) := by
  cases entry <;> rfl

/-- One entry changes what is pending by its own. -/
theorem pendingCount_updateEntry (update : RuntimeStateEntry P → RuntimeStateEntry P) :
    (store.updateEntry nameSpace key update).pendingCount +
        pendingWeight ((store.entry nameSpace key).getD {}) =
      store.pendingCount + pendingWeight (update ((store.entry nameSpace key).getD {})) := by
  -- the values of the namespace, none if it is new
  let values := (store.namespaces.find nameSpace).getD .empty
  have hentry : store.entry nameSpace key = values.find key := by
    rw [RuntimeStateStore.entry]
    show _ = ((store.namespaces.find nameSpace).getD .empty).find key
    cases store.namespaces.find nameSpace <;> rfl
  have hinner := values.total_insert pendingWeight key (update ((values.find key).getD {}))
  have houter := store.namespaces.total_insert (OrderedMap.total pendingWeight) nameSpace
    (values.insert key (update ((values.find key).getD {})))
  have hold : ((store.namespaces.find nameSpace).map (OrderedMap.total pendingWeight)).getD 0 =
      values.total pendingWeight := by
    show _ = ((store.namespaces.find nameSpace).getD .empty).total pendingWeight
    cases store.namespaces.find nameSpace <;> rfl
  rw [hold] at houter
  rw [pendingWeight_getD] at hinner
  rw [hentry]
  show (store.namespaces.insert nameSpace
      (values.insert key (update ((values.find key).getD {})))).total
        (OrderedMap.total pendingWeight) + _ =
    store.namespaces.total (OrderedMap.total pendingWeight) + _
  omega

theorem pendingWeight_commitEntry (entry : RuntimeStateEntry P) :
    pendingWeight (commitEntry entry) = 0 := by
  unfold pendingWeight commitEntry
  cases hpending : entry.pending <;> simp [hpending]

/-- After a commit nothing is pending. -/
theorem pendingCount_commitEpochBoundary : store.commitEpochBoundary.2.pendingCount = 0 := by
  have hvalues : ∀ values : OrderedMap String (RuntimeStateEntry P),
      (values.map commitEntry).total pendingWeight = 0 := by
    intro values
    rw [OrderedMap.total_map]
    simp [OrderedMap.total, pendingWeight_commitEntry]
  show (store.namespaces.map (OrderedMap.map commitEntry)).total
    (OrderedMap.total pendingWeight) = 0
  rw [OrderedMap.total_map]
  simp only [hvalues]
  simp [OrderedMap.total]

end RuntimeStateStore

end TopoExec
