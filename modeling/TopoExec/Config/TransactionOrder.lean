import Mathlib.Data.Set.Insert
import TopoExec.Config.Store

/-! # The order of the config transactions

A transaction for the epoch boundary takes its id with its first update and is recorded
when it is committed; an immediate update takes its id and is recorded at once. So an
immediate update may overtake a transaction that is still open. `EpochStaging` tells
from the calls alone when this has happened.
-/

namespace TopoExec

/-! ## Runs of the store -/

/-- A call of the store. -/
inductive ConfigStoreOp where
  | set (componentId : String) (config : ConfigView)
  | read (componentId : String)
  | stage (componentId : String) (config : ConfigView) (applyOnEpochBoundary : Bool)
  | rollback
  | commit
deriving DecidableEq

def ConfigStoreOp.exec : ConfigStoreOp → ConfigSnapshotStore → ConfigSnapshotStore
  | set componentId config, store => store.setComponentConfig componentId config
  | read componentId, store => (store.componentConfig componentId).2
  | stage componentId config applyOnEpochBoundary, store =>
      (store.stageComponentConfigUpdate componentId config applyOnEpochBoundary).2
  | rollback, store => store.rollbackPendingUpdates
  | commit, store => store.commitEpochBoundary

def runConfigStore (ops : List ConfigStoreOp) : ConfigSnapshotStore :=
  ops.foldl (fun store op => op.exec store) {}

/-- Whether a transaction for the epoch boundary is open, and whether an immediate update
came after its first update. -/
structure EpochStaging where
  isOpen : Bool := false
  overtaken : Bool := false
deriving DecidableEq, Repr

def EpochStaging.next (staging : EpochStaging) : ConfigStoreOp → EpochStaging
  | .stage componentId _ true =>
      if componentId = "" then staging else { staging with isOpen := true }
  | .stage componentId _ false =>
      if componentId = "" then staging else { staging with overtaken := staging.isOpen }
  | .rollback | .commit => {}
  | .set .. | .read _ => staging

def epochStaging (ops : List ConfigStoreOp) : EpochStaging :=
  ops.foldl EpochStaging.next {}

/-- The ids that `last_transaction()` has had. -/
def recordedIds (ops : List ConfigStoreOp) : Set Nat :=
  { id | ∃ earlier, earlier <+: ops ∧ (runConfigStore earlier).lastTransaction.transactionId = id }

/-- One more operation, at the end. -/
theorem runConfigStore_concat (ops : List ConfigStoreOp) (op : ConfigStoreOp) :
    runConfigStore (ops ++ [op]) = op.exec (runConfigStore ops) := by
  simp [runConfigStore]

theorem epochStaging_concat (ops : List ConfigStoreOp) (op : ConfigStoreOp) :
    epochStaging (ops ++ [op]) = (epochStaging ops).next op := by
  simp [epochStaging]

theorem recordedIds_nil : recordedIds [] = {0} := by
  ext id
  constructor
  · rintro ⟨earlier, hearlier, rfl⟩
    rw [List.prefix_nil.1 hearlier]
    rfl
  · rintro rfl
    exact ⟨[], List.nil_prefix, rfl⟩

/-- An operation records the id of the last transaction after it. -/
theorem recordedIds_concat (ops : List ConfigStoreOp) (op : ConfigStoreOp) :
    recordedIds (ops ++ [op]) =
      insert (op.exec (runConfigStore ops)).lastTransaction.transactionId (recordedIds ops) := by
  ext id
  constructor
  · rintro ⟨earlier, hearlier, rfl⟩
    rcases List.prefix_concat_iff.1 hearlier with rfl | hearlier
    · rw [runConfigStore_concat]
      exact Or.inl rfl
    · exact Or.inr ⟨earlier, hearlier, rfl⟩
  · rintro (rfl | ⟨earlier, hearlier, rfl⟩)
    · exact ⟨ops ++ [op], List.prefix_rfl, by rw [runConfigStore_concat]⟩
    · exact ⟨earlier, hearlier.trans (List.prefix_append _ _), rfl⟩

/-! ## What a call does to the last transaction -/

/-- Only two calls record a transaction. -/
theorem exec_lastTransaction (op : ConfigStoreOp) (store : ConfigSnapshotStore) :
    (op.exec store).lastTransaction = store.lastTransaction ∨
      (∃ componentId config, op = .stage componentId config false ∧ componentId ≠ "" ∧
        (op.exec store).lastTransaction.transactionId = store.nextTransactionId ∧
        (op.exec store).lastTransaction.version = store.metrics.version + 1) ∨
      (op = .commit ∧ store.pendingComponentConfigs.size ≠ 0 ∧
        (op.exec store).lastTransaction.transactionId = store.pendingTransactionId ∧
        (op.exec store).lastTransaction.version = store.metrics.version + 1) := by
  cases op with
  | set componentId config => exact Or.inl rfl
  | read componentId => exact Or.inl rfl
  | rollback => exact Or.inl rfl
  -- only an immediate update and a commit that has updates write the record
  | stage componentId config applyOnEpochBoundary =>
      by_cases hempty : componentId = ""
      · left
        simp [ConfigStoreOp.exec, ConfigSnapshotStore.stageComponentConfigUpdate, hempty]
      · cases applyOnEpochBoundary with
        | true =>
            left
            simp [ConfigStoreOp.exec, ConfigSnapshotStore.stageComponentConfigUpdate, hempty]
        | false =>
            right
            left
            refine ⟨componentId, config, rfl, hempty, ?_, ?_⟩ <;>
              simp [ConfigStoreOp.exec, ConfigSnapshotStore.stageComponentConfigUpdate, hempty]
  | commit =>
      by_cases hpending : store.pendingComponentConfigs.size = 0
      · left
        simp [ConfigStoreOp.exec, ConfigSnapshotStore.commitEpochBoundary, hpending]
      · right
        right
        refine ⟨rfl, hpending, ?_, ?_⟩ <;>
          simp [ConfigStoreOp.exec, ConfigSnapshotStore.commitEpochBoundary, hpending]

/-! ## The invariant -/

/-- `ids` are the ids that have been recorded so far. -/
structure TransactionOrder (store : ConfigSnapshotStore) (staging : EpochStaging) (ids : Set Nat) :
    Prop where
  version : store.lastTransaction.version = store.metrics.version
  recorded : store.lastTransaction.transactionId ∈ ids
  recorded_lt : ∀ id ∈ ids, id < store.nextTransactionId
  pending_lt : store.pendingTransactionId < store.nextTransactionId
  pending_iff : store.pendingComponentConfigs.size = 0 ↔ store.pendingTransactionId = 0
  isOpen_iff : staging.isOpen = true ↔ store.pendingTransactionId ≠ 0
  closed : staging.isOpen = false → staging.overtaken = false
  fresh : staging.isOpen = true → store.pendingTransactionId ∉ ids
  overtaken_iff : staging.isOpen = true →
    (staging.overtaken = true ↔
      store.pendingTransactionId < store.lastTransaction.transactionId)

/-- What holds an update is not empty. -/
theorem size_insert_ne_zero (configs : OrderedMap String ConfigView) (componentId : String)
    (config : ConfigView) : (configs.insert componentId config).size ≠ 0 := by
  intro h
  have hfind := OrderedMap.find_insert configs componentId config componentId
  rw [if_pos rfl] at hfind
  have hnil : (configs.insert componentId config).entries = [] := List.length_eq_zero_iff.1 h
  rw [OrderedMap.find, hnil] at hfind
  cases hfind

/-- While no transaction is open, the invariant is about the record alone. -/
theorem transactionOrder_of_closed {store : ConfigSnapshotStore} {ids : Set Nat}
    (hversion : store.lastTransaction.version = store.metrics.version)
    (hrecorded : store.lastTransaction.transactionId ∈ ids)
    (hlt : ∀ id ∈ ids, id < store.nextTransactionId) (hpending : store.pendingTransactionId = 0)
    (hsize : store.pendingComponentConfigs.size = 0) : TransactionOrder store {} ids where
  version := hversion
  recorded := hrecorded
  recorded_lt := hlt
  pending_lt := by
    rw [hpending]
    exact Nat.zero_lt_of_lt (hlt _ hrecorded)
  pending_iff := by
    constructor <;> intro _
    · exact hpending
    · exact hsize
  isOpen_iff := by
    constructor
    · intro hfalse
      cases hfalse
    · intro hne
      exact absurd hpending hne
  closed := fun _ => rfl
  fresh := by
    intro hfalse
    cases hfalse
  overtaken_iff := by
    intro hfalse
    cases hfalse

/-- A new store has given no id. -/
theorem transactionOrder_init : TransactionOrder {} {} {0} := by
  refine transactionOrder_of_closed rfl rfl ?_ rfl rfl
  rintro id rfl
  exact Nat.one_pos

section

variable {store : ConfigSnapshotStore} {staging : EpochStaging} {ids : Set Nat}
  (h : TransactionOrder store staging ids)

include h

/-- A call that records nothing adds no id. -/
theorem TransactionOrder.insert_last :
    insert store.lastTransaction.transactionId ids = ids :=
  Set.insert_eq_of_mem h.recorded

/-- The first update for a boundary opens its transaction, the others join it. -/
theorem TransactionOrder.stage_boundary {componentId : String} (hid : componentId ≠ "")
    (config : ConfigView) :
    TransactionOrder (store.stageComponentConfigUpdate componentId config true).2
      { staging with isOpen := true } ids := by
  have hlast := h.recorded_lt _ h.recorded
  have hnext := h.pending_lt
  have hinsert := size_insert_ne_zero store.pendingComponentConfigs componentId config
  by_cases hopen : store.pendingTransactionId = 0
  · -- The first update of a transaction takes a new id, above all that are recorded.
    have hclosed : staging.isOpen = false := by
      have := h.isOpen_iff
      grind
    have hovertaken := h.closed hclosed
    simp only [ConfigSnapshotStore.stageComponentConfigUpdate, if_neg hid, hopen, if_true]
    exact
      { version := h.version
        recorded := h.recorded
        recorded_lt := fun id hmem => Nat.lt_succ_of_lt (h.recorded_lt id hmem)
        pending_lt := Nat.lt_succ_self _
        pending_iff := by
          dsimp only
          omega
        isOpen_iff := by
          dsimp only
          constructor
          · intro _
            omega
          · intro _
            rfl
        closed := by
          intro hfalse
          cases hfalse
        fresh := fun _ hmem => absurd (h.recorded_lt _ hmem) (Nat.lt_irrefl _)
        overtaken_iff := by
          intro _
          dsimp only
          rw [hovertaken]
          constructor
          · intro hfalse
            cases hfalse
          · intro hlt
            omega }
  · -- Later updates keep the id.
    have hisOpen : staging.isOpen = true := h.isOpen_iff.2 hopen
    have hstaging : { staging with isOpen := true } = staging := by
      cases staging
      cases hisOpen
      rfl
    rw [hstaging]
    simp only [ConfigSnapshotStore.stageComponentConfigUpdate, if_neg hid, hopen, if_true, if_false]
    exact
      { version := h.version
        recorded := h.recorded
        recorded_lt := h.recorded_lt
        pending_lt := h.pending_lt
        pending_iff := by
          dsimp only
          constructor
          · intro hsize
            exact absurd hsize hinsert
          · intro hzero
            exact absurd hzero hopen
        isOpen_iff := h.isOpen_iff
        closed := h.closed
        fresh := h.fresh
        overtaken_iff := h.overtaken_iff }

/-- An immediate update has a transaction of its own. -/
theorem TransactionOrder.stage_immediate {componentId : String} (hid : componentId ≠ "")
    (config : ConfigView) :
    TransactionOrder (store.stageComponentConfigUpdate componentId config false).2
      { staging with overtaken := staging.isOpen } (insert store.nextTransactionId ids) := by
  have hnext := h.pending_lt
  simp only [ConfigSnapshotStore.stageComponentConfigUpdate, if_neg hid, Bool.false_eq_true,
    if_false]
  exact
    { version := rfl
      recorded := Or.inl rfl
      recorded_lt := by
        rintro id (rfl | hmem)
        · exact Nat.lt_succ_self _
        · exact Nat.lt_succ_of_lt (h.recorded_lt id hmem)
      pending_lt := Nat.lt_succ_of_lt h.pending_lt
      pending_iff := h.pending_iff
      isOpen_iff := h.isOpen_iff
      closed := fun hclosed => hclosed
      fresh := by
        rintro hopen (heq | hmem)
        · exact absurd heq (Nat.ne_of_lt hnext)
        · exact h.fresh hopen hmem
      overtaken_iff := by
        -- The immediate update takes an id above the one of an open transaction.
        intro hopen
        constructor
        · intro _
          exact hnext
        · intro _
          exact hopen }

/-- A rollback forgets the pending transaction. -/
theorem TransactionOrder.rollback : TransactionOrder store.rollbackPendingUpdates {} ids :=
  transactionOrder_of_closed h.version h.recorded h.recorded_lt rfl rfl

/-- A commit records the pending transaction as the last. -/
theorem TransactionOrder.commit :
    TransactionOrder store.commitEpochBoundary {}
      (insert store.commitEpochBoundary.lastTransaction.transactionId ids) := by
  by_cases hpending : store.pendingComponentConfigs.size = 0
  · -- Nothing is open: the boundary is only counted.
    have hzero := h.pending_iff.1 hpending
    simp only [ConfigSnapshotStore.commitEpochBoundary, hpending, if_true, h.insert_last]
    exact transactionOrder_of_closed h.version h.recorded h.recorded_lt hzero rfl
  · -- The record takes over the id that the open transaction was given.
    simp only [ConfigSnapshotStore.commitEpochBoundary, hpending, if_false]
    refine transactionOrder_of_closed rfl (Or.inl rfl) ?_ rfl rfl
    rintro id (rfl | hmem)
    · exact h.pending_lt
    · exact h.recorded_lt id hmem

/-- Every call keeps the invariant. -/
theorem TransactionOrder.exec (op : ConfigStoreOp) :
    TransactionOrder (op.exec store) (staging.next op)
      (insert (op.exec store).lastTransaction.transactionId ids) := by
  cases op with
  | set componentId config =>
      exact h.insert_last.symm ▸ { h with }
  | read componentId =>
      exact h.insert_last.symm ▸ { h with }
  | rollback => exact h.insert_last.symm ▸ h.rollback
  | commit => exact h.commit
  | stage componentId config applyOnEpochBoundary =>
      by_cases hid : componentId = ""
      -- a refused update is counted and changes nothing else
      · have hstore : (ConfigStoreOp.stage componentId config applyOnEpochBoundary).exec store =
            { store with
              metrics.rejectedUpdateCount := store.metrics.rejectedUpdateCount + 1 } := by
          simp [ConfigStoreOp.exec, ConfigSnapshotStore.stageComponentConfigUpdate, hid]
        have hstaging :
            staging.next (.stage componentId config applyOnEpochBoundary) = staging := by
          cases applyOnEpochBoundary <;> simp [EpochStaging.next, hid]
        rw [hstore, hstaging]
        exact h.insert_last.symm ▸ { h with }
      · cases applyOnEpochBoundary with
        | true =>
            have hstaging : staging.next (.stage componentId config true) =
                { staging with isOpen := true } := if_neg hid
            have hlast :
                ((ConfigStoreOp.stage componentId config true).exec store).lastTransaction =
                store.lastTransaction := by
              simp [ConfigStoreOp.exec, ConfigSnapshotStore.stageComponentConfigUpdate, hid]
            rw [hstaging, hlast, h.insert_last]
            exact h.stage_boundary hid config
        | false =>
            have hstaging : staging.next (.stage componentId config false) =
                { staging with overtaken := staging.isOpen } := if_neg hid
            have hlast :
                ((ConfigStoreOp.stage componentId config false).exec
                    store).lastTransaction.transactionId =
                  store.nextTransactionId := by
              simp [ConfigStoreOp.exec, ConfigSnapshotStore.stageComponentConfigUpdate, hid]
            rw [hstaging, hlast]
            exact h.stage_immediate hid config

end

/-- By induction on the operations. -/
theorem transactionOrder_run (ops : List ConfigStoreOp) :
    TransactionOrder (runConfigStore ops) (epochStaging ops) (recordedIds ops) := by
  induction ops using List.reverseRecOn with
  | nil =>
      rw [recordedIds_nil]
      exact transactionOrder_init
  | append_singleton ops op ih =>
      rw [runConfigStore_concat, epochStaging_concat, recordedIds_concat]
      exact ih.exec op

/-! ## The order of the ids -/

/-- Each time the last transaction changes, its version goes up by one and its id is
new. The id is above the previous one, except at the commit of a transaction that an
immediate update has overtaken. -/
theorem config_transaction_order (ops : List ConfigStoreOp) (op : ConfigStoreOp)
    (hchange : (op.exec (runConfigStore ops)).lastTransaction ≠
      (runConfigStore ops).lastTransaction) :
    (op.exec (runConfigStore ops)).lastTransaction.version =
        (runConfigStore ops).lastTransaction.version + 1 ∧
      (op.exec (runConfigStore ops)).lastTransaction.transactionId ∉ recordedIds ops ∧
      ((runConfigStore ops).lastTransaction.transactionId <
          (op.exec (runConfigStore ops)).lastTransaction.transactionId ↔
        ¬(op = .commit ∧ (epochStaging ops).overtaken = true)) := by
  have hinv := transactionOrder_run ops
  have hlast := hinv.recorded_lt _ hinv.recorded
  rcases exec_lastTransaction op (runConfigStore ops) with
    hsame | ⟨componentId, config, hop, -, hid, hversion⟩ | ⟨hop, hpending, hid, hversion⟩
  · exact absurd hsame hchange
  · -- An immediate update: its id is above all that were given.
    rw [hid, hversion, hinv.version]
    refine ⟨rfl, fun hmem => absurd (hinv.recorded_lt _ hmem) (Nat.lt_irrefl _), ?_⟩
    constructor
    · rintro - ⟨hcommit, -⟩
      rw [hop] at hcommit
      cases hcommit
    · intro _
      exact hlast
  · -- A commit: the transaction was open, so the staging tells where its id stands.
    have hopen : (epochStaging ops).isOpen = true :=
      hinv.isOpen_iff.2 fun hzero => hpending (hinv.pending_iff.2 hzero)
    have hfresh := hinv.fresh hopen
    have hne : (runConfigStore ops).pendingTransactionId ≠
        (runConfigStore ops).lastTransaction.transactionId := by
      intro heq
      rw [heq] at hfresh
      exact hfresh hinv.recorded
    rw [hid, hversion, hinv.version]
    refine ⟨rfl, hfresh, ?_⟩
    constructor
    · rintro hlt ⟨-, hovertaken⟩
      have := (hinv.overtaken_iff hopen).1 hovertaken
      omega
    · intro hnot
      have hle : ¬ (runConfigStore ops).pendingTransactionId <
          (runConfigStore ops).lastTransaction.transactionId := by
        intro hlt
        exact hnot ⟨hop, (hinv.overtaken_iff hopen).2 hlt⟩
      omega

/-- One transaction committed after another. -/
theorem config_transaction_order_second_commit :
    let ops : List ConfigStoreOp := [.stage "a" {} true, .commit, .stage "a" {} true]
    (ConfigStoreOp.commit.exec (runConfigStore ops)).lastTransaction ≠
        (runConfigStore ops).lastTransaction ∧
      (runConfigStore ops).lastTransaction.transactionId <
        (ConfigStoreOp.commit.exec (runConfigStore ops)).lastTransaction.transactionId := by
  have hchange : (ConfigStoreOp.commit.exec
        (runConfigStore [.stage "a" {} true, .commit, .stage "a" {} true])).lastTransaction ≠
      (runConfigStore [.stage "a" {} true, .commit, .stage "a" {} true]).lastTransaction := by
    decide
  exact ⟨hchange, (config_transaction_order _ _ hchange).2.2.2 (by decide)⟩

/-- An update is staged for the boundary, an immediate one follows, and the boundary
is committed: the ids are recorded as 2 and then 1. -/
theorem overtaken_transaction_decreases :
    let ops : List ConfigStoreOp := [.stage "a" {} true, .stage "a" {} false]
    (ConfigStoreOp.commit.exec (runConfigStore ops)).lastTransaction ≠
        (runConfigStore ops).lastTransaction ∧
      ¬ ((runConfigStore ops).lastTransaction.transactionId <
        (ConfigStoreOp.commit.exec (runConfigStore ops)).lastTransaction.transactionId) := by
  decide

end TopoExec
