import Mathlib.Data.String.Basic
import TopoExec.Runtime.WorkerPool

/-! # The runs of the worker pool

Whatever the order of the steps is, an item is queued, with one worker, or done
(`Accounted`), the items are taken by priority and, among items of one priority, in the order
in which they were submitted (`InOrder`), and a worker sleeps only if there is nothing to do or
a notification is to come (`Wakeful`). So the pool comes to rest, and then every promise is set
and a pool that was stopped has no workers left.
-/

namespace TopoExec

open Selection Threads CondVar Transition

variable {β : Type}

/-! ## The order of the items -/

namespace WorkItem

/-- Items of distinct enqueue orders are compared by priority, then by age. -/
def Precedes (lhs rhs : WorkItem β) : Prop :=
  rhs.priorityRank < lhs.priorityRank ∨
    (lhs.priorityRank = rhs.priorityRank ∧ lhs.enqueueOrder < rhs.enqueueOrder)

/-- The higher rank comes first, then the earlier number, then the smaller id. -/
theorem lt_eq_true {lhs rhs : WorkItem β} : lt lhs rhs = true ↔
    rhs.priorityRank < lhs.priorityRank ∨ (lhs.priorityRank = rhs.priorityRank ∧
      (lhs.enqueueOrder < rhs.enqueueOrder ∨
        (lhs.enqueueOrder = rhs.enqueueOrder ∧ lhs.componentId < rhs.componentId))) := by
  unfold lt
  split_ifs with hrank horder
  · simp [hrank]
  · simp only [ne_eq, not_not] at hrank
    simp [hrank, horder]
  · simp only [ne_eq, not_not] at hrank horder
    simp [hrank, horder]

/-- The comparison is a strict weak order, as a sort requires. -/
theorem lt_weakOrder : IsWeakOrder (lt (β := β)) where
  asymm := by
    intro x y hxy
    rw [← Bool.not_eq_true, lt_eq_true]
    rw [lt_eq_true] at hxy
    rcases hxy with hrank | ⟨hrank, horder | ⟨horder, hid⟩⟩
    · omega
    · omega
    · have hnot := not_lt_of_gt hid
      simp [hrank, horder, hnot]
  trans := by
    intro x y z hyx hzy
    rw [← Bool.not_eq_true, lt_eq_true] at hyx hzy ⊢
    push Not at hyx hzy ⊢
    obtain ⟨hrank, hyx⟩ := hyx
    obtain ⟨hrank', hzy⟩ := hzy
    refine ⟨by omega, fun hsame => ?_⟩
    obtain ⟨horder, hyx⟩ := hyx (by omega)
    obtain ⟨horder', hzy⟩ := hzy (by omega)
    refine ⟨by omega, fun hsame => ?_⟩
    exact (hyx (by omega)).trans (hzy (by omega))

/-- Among items of distinct numbers, what does not come later precedes. -/
theorem precedes_of_not_lt {lhs rhs : WorkItem β} (h : lt rhs lhs = false)
    (hne : lhs.enqueueOrder ≠ rhs.enqueueOrder) : Precedes lhs rhs := by
  rw [← Bool.not_eq_true, lt_eq_true] at h
  push Not at h
  obtain ⟨hrank, h⟩ := h
  rcases lt_or_eq_of_le hrank with hrank | hrank
  · exact Or.inl hrank
  · have horder := (h hrank).1
    exact Or.inr ⟨hrank.symm, by omega⟩

end WorkItem

namespace PersistentWorkerPool

/-! ## What a step does -/

inductive Moves (pool : PersistentWorkerPool β) : PoolStep β → PersistentWorkerPool β → Prop where
  | submit {work : Nat → Except String β} {priorityRank : Int} {componentId : String}
      (hstop : pool.stopRequested = false) :
      Moves pool (.submit work priorityRank componentId) (pool.submit work priorityRank componentId)
  | stop : Moves pool .stop pool.stop
  | wakeup {signal : Wakeup} {cv : CondVar} (hwoken : Woken pool.cv signal cv) :
      Moves pool (.wakeup signal) { pool with cv }
  | sleep {i : Nat} (hworker : pool.workers[i]? = some .waiting) (hawake : i ∉ pool.cv.asleep)
      (hstop : pool.stopRequested = false) (hqueue : pool.queue = []) :
      Moves pool (.look i) { pool with cv := pool.cv.wait i }
  | exit {i : Nat} (hworker : pool.workers[i]? = some .waiting) (hawake : i ∉ pool.cv.asleep)
      (hstop : pool.stopRequested = true) (hqueue : pool.queue = []) :
      Moves pool (.look i) { pool with workers := pool.workers.set i .exited }
  | take {i : Nat} {item : WorkItem β} {queue : List (WorkItem β)}
      (hworker : pool.workers[i]? = some .waiting) (hawake : i ∉ pool.cv.asleep)
      (htake : takeMin WorkItem.lt pool.queue = some (item, queue)) :
      Moves pool (.look i)
        { pool with
          workers := pool.workers.set i (.running item)
          queue
          taken := pool.taken ++ [{ item, known := pool.nextEnqueueOrder }] }
  | perform {i : Nat} {item : WorkItem β} (hworker : pool.workers[i]? = some (.running item)) :
      Moves pool (.perform i) (pool.perform i item)

variable {pool pool' : PersistentWorkerPool β} {action : PoolStep β}

/-- What an awake worker finds when it looks at the queue. -/
theorem look_moves {i : Nat} (hworker : pool.workers[i]? = some .waiting)
    (hawake : i ∉ pool.cv.asleep) : Moves pool (.look i) (pool.look i) := by
  unfold look
  by_cases hqueue : pool.queue = []
  · by_cases hstop : pool.stopRequested = true
    · rw [if_neg (by simp [hstop]), if_pos (by simp [hstop, hqueue])]
      exact .exit hworker hawake hstop hqueue
    · rw [if_pos (by simp [hstop, hqueue])]
      exact .sleep hworker hawake (Bool.eq_false_iff.mpr hstop) hqueue
  · obtain ⟨item, queue, htake⟩ := takeMin_isSome hqueue
    rw [if_neg (by simp [hqueue]), if_neg (by simp [hqueue]), htake]
    exact .take hworker hawake htake

/-- What every step does, guards included. -/
theorem step_moves (h : pool.step action = some pool') : Moves pool action pool' := by
  cases action with
  | submit work priorityRank componentId =>
      simp only [step] at h
      split_ifs at h with hstop
      cases h
      exact .submit (Bool.eq_false_iff.mpr hstop)
  | stop =>
      cases h
      exact .stop
  | wakeup signal =>
      obtain ⟨cv, hcv, rfl⟩ := Option.map_eq_some_iff.mp h
      exact .wakeup (wakeup_woken hcv)
  | look i =>
      simp only [step] at h
      split at h
      · next hworker =>
          split_ifs at h with hasleep
          cases h
          exact look_moves hworker hasleep
      · cases h
  | perform i =>
      simp only [step] at h
      split at h
      · next item hworker =>
          cases h
          exact .perform hworker
      · cases h

/-! ## Where the items are -/

variable (pool) in
/-- The items that a worker has taken and not done. -/
def running : List (WorkItem β) := pool.workers.filterMap PoolWorker.item?

variable (pool) in
/-- The number of workers that wait, asleep or about to look. -/
def waiting : Nat := pool.workers.countP PoolWorker.isWaiting

/-- One worker changes what it runs, the others go on. -/
theorem running_set_perm {i : Nat} {old : PoolWorker β} (new : PoolWorker β)
    (h : pool.workers[i]? = some old) :
    (old.item?.toList ++ (pool.workers.set i new).filterMap PoolWorker.item?).Perm
      (new.item?.toList ++ pool.running) := by
  have hperm := (set_perm new h).filterMap PoolWorker.item?
  rw [List.filterMap_cons, List.filterMap_cons] at hperm
  cases old <;> cases new <;> exact hperm

/-- One worker changes whether it waits. -/
theorem waiting_set {i : Nat} {old : PoolWorker β} (new : PoolWorker β)
    (h : pool.workers[i]? = some old) :
    old.isWaiting.toNat + (pool.workers.set i new).countP PoolWorker.isWaiting =
      new.isWaiting.toNat + pool.waiting := countP_set new h

/-- Every submission is in one place: in the queue, with one worker, or done. -/
structure Accounted (workerCount : Nat) (pool : PersistentWorkerPool β) : Prop where
  workers : pool.workers.length = max workerCount 1
  orders : pool.submitted.map WorkItem.enqueueOrder = List.range pool.nextEnqueueOrder
  queue : pool.queue.Sublist pool.submitted
  running : pool.running ⊆ pool.submitted
  placed : (pool.queue.map WorkItem.enqueueOrder ++ (pool.running.map WorkItem.enqueueOrder ++
    pool.promises.map Prod.fst)).Perm (List.range pool.nextEnqueueOrder)
  started : (pool.running.map WorkItem.enqueueOrder ++ pool.promises.map Prod.fst).Perm
    (pool.taken.map fun taken => taken.item.enqueueOrder)
  answers : ∀ promise ∈ pool.promises, ∃ item ∈ pool.submitted, ∃ workerId < max workerCount 1,
    promise = (item.enqueueOrder, item.answer workerId)

/-- A new pool has nothing to account for. -/
theorem accounted_new (workerCount : Nat) : Accounted workerCount (new (β := β) workerCount) where
  workers := by simp [new]
  orders := rfl
  queue := List.Sublist.refl _
  running := by simp [running, new, PoolWorker.item?]
  placed := by simp [running, new, PoolWorker.item?]
  started := by simp [running, new, PoolWorker.item?]
  answers := by simp [new]

/-- Every step moves an item from one place to the next and loses none. -/
theorem Accounted.moves {workerCount : Nat} (h : Accounted workerCount pool)
    (hmoves : Moves pool action pool') : Accounted workerCount pool' := by
  cases hmoves with
  | @submit work priorityRank componentId hstop =>
      refine ⟨h.workers, ?_, h.queue.append_right _, ?_, ?_, h.started, ?_⟩
      · simp [submit, h.orders, List.range_succ]
      · exact fun item hitem => List.mem_append_left _ (h.running hitem)
      · -- the new item is the last of the queue
        have hperm := h.placed.append_right [pool.nextEnqueueOrder]
        rw [List.append_assoc] at hperm
        simp only [submit, List.map_append, List.map_cons, List.map_nil, List.range_succ]
        refine List.Perm.trans ?_ hperm
        rw [List.append_assoc]
        exact List.Perm.append_left _ List.perm_append_comm
      · intro promise hpromise
        obtain ⟨item, hitem, workerId, hworkerId, rfl⟩ := h.answers promise hpromise
        exact ⟨item, List.mem_append_left _ hitem, workerId, hworkerId, rfl⟩
  | stop => exact ⟨h.workers, h.orders, h.queue, h.running, h.placed, h.started, h.answers⟩
  | wakeup => exact ⟨h.workers, h.orders, h.queue, h.running, h.placed, h.started, h.answers⟩
  | sleep => exact ⟨h.workers, h.orders, h.queue, h.running, h.placed, h.started, h.answers⟩
  | @exit i hworker _ _ _ =>
      -- a worker that leaves has no item
      have hrunning := running_set_perm .exited hworker
      simp only [PoolWorker.item?, Option.toList_none, List.nil_append] at hrunning
      have horders := hrunning.map WorkItem.enqueueOrder
      refine ⟨by simpa using h.workers, h.orders, h.queue, ?_, ?_, ?_, h.answers⟩
      · exact fun item hitem => h.running (hrunning.subset hitem)
      · exact ((horders.append_right _).append_left _).trans h.placed
      · exact (horders.append_right _).trans h.started
  | @take i item queue hworker _ htake =>
      have hrunning := running_set_perm (.running item) hworker
      simp only [PoolWorker.item?, Option.toList_none, Option.toList_some, List.nil_append,
        List.singleton_append] at hrunning
      have horders := (hrunning.map WorkItem.enqueueOrder).append_right
        (pool.promises.map Prod.fst)
      rw [List.map_cons, List.cons_append] at horders
      have hitem : item ∈ pool.submitted := h.queue.subset (takeMin_mem htake)
      refine ⟨by simpa using h.workers, h.orders, (takeMin_sublist htake).trans h.queue, ?_, ?_, ?_,
        h.answers⟩
      · intro other hother
        rcases List.mem_cons.mp (hrunning.subset hother) with rfl | hother
        · exact hitem
        · exact h.running hother
      · -- the item goes from the queue to the worker
        have hqueue := (takeMin_perm htake).map WorkItem.enqueueOrder
        rw [List.map_cons] at hqueue
        exact (horders.append_left _).trans
          (List.perm_middle.trans ((hqueue.append_right _).trans h.placed))
      · rw [List.map_append, List.map_cons, List.map_nil]
        exact horders.trans ((h.started.cons _).trans (List.perm_append_singleton _ _).symm)
  | @perform i item hworker =>
      have hrunning := running_set_perm .waiting hworker
      simp only [PoolWorker.item?, Option.toList_none, Option.toList_some, List.nil_append,
        List.singleton_append] at hrunning
      have horders := (hrunning.map WorkItem.enqueueOrder).append_right
        (pool.promises.map Prod.fst)
      rw [List.map_cons] at horders
      -- the item goes from the worker to the promises
      have hdone : ((pool.perform i item).running.map WorkItem.enqueueOrder ++
          (pool.perform i item).promises.map Prod.fst).Perm
          (pool.running.map WorkItem.enqueueOrder ++ pool.promises.map Prod.fst) := by
        simp only [perform, List.map_append, List.map_cons, List.map_nil]
        rw [← List.append_assoc]
        exact (List.perm_append_singleton _ _).trans horders
      refine ⟨by simpa [perform] using h.workers, h.orders, h.queue, ?_,
        (hdone.append_left _).trans h.placed, hdone.trans h.started, ?_⟩
      · exact fun other hother => h.running (hrunning.subset (List.mem_cons_of_mem _ hother))
      · intro promise hpromise
        rcases List.mem_append.mp hpromise with hpromise | hpromise
        · exact h.answers promise hpromise
        · rw [List.mem_singleton.mp hpromise]
          refine ⟨item, h.running (hrunning.subset List.mem_cons_self), i, ?_, rfl⟩
          rw [← h.workers]
          exact (List.getElem?_eq_some_iff.mp hworker).1

/-! ## The order in which items are taken -/

/-- The numbers given are below the next one. -/
theorem Accounted.order_lt {workerCount : Nat} (h : Accounted workerCount pool)
    {item : WorkItem β} (hitem : item ∈ pool.submitted) :
    item.enqueueOrder < pool.nextEnqueueOrder := by
  rw [← List.mem_range, ← h.orders]
  exact List.mem_map_of_mem hitem

/-- The numbers in the queue are distinct. -/
theorem Accounted.nodup_queue {workerCount : Nat} (h : Accounted workerCount pool) :
    (pool.queue.map WorkItem.enqueueOrder).Nodup := by
  have hsublist := h.queue.map WorkItem.enqueueOrder
  rw [h.orders] at hsublist
  exact List.nodup_range.sublist hsublist

/-- An item that was known when another was taken, and was taken later, comes behind it. -/
structure InOrder (pool : PersistentWorkerPool β) : Prop where
  known : ∀ taken ∈ pool.taken, taken.item.enqueueOrder < taken.known ∧
    taken.known ≤ pool.nextEnqueueOrder
  queued : ∀ taken ∈ pool.taken, ∀ item ∈ pool.queue,
    taken.known ≤ item.enqueueOrder ∨ taken.item.Precedes item
  taken : pool.taken.Pairwise fun earlier later =>
    earlier.known ≤ later.item.enqueueOrder ∨ earlier.item.Precedes later.item

/-- A new pool has taken nothing. -/
theorem inOrder_new (workerCount : Nat) : InOrder (new (β := β) workerCount) := by
  constructor <;> simp [new]

/-- A worker takes the item that precedes all others. -/
theorem InOrder.moves {workerCount : Nat} (h : InOrder pool)
    (haccounted : Accounted workerCount pool) (hmoves : Moves pool action pool') :
    InOrder pool' := by
  cases hmoves with
  | submit hstop =>
      refine ⟨?_, ?_, h.taken⟩
      · intro taken htaken
        obtain ⟨hitem, hknown⟩ := h.known taken htaken
        exact ⟨hitem, Nat.le_succ_of_le hknown⟩
      · intro taken htaken item hitem
        rcases List.mem_append.mp hitem with hitem | hitem
        · exact h.queued taken htaken item hitem
        · -- nobody knew the new item
          rw [List.mem_singleton.mp hitem]
          exact Or.inl (h.known taken htaken).2
  | stop => exact ⟨h.known, h.queued, h.taken⟩
  | wakeup => exact ⟨h.known, h.queued, h.taken⟩
  | sleep => exact ⟨h.known, h.queued, h.taken⟩
  | exit => exact ⟨h.known, h.queued, h.taken⟩
  | perform => exact ⟨h.known, h.queued, h.taken⟩
  | @take i item queue hworker _ htake =>
      have hmem : item ∈ pool.queue := takeMin_mem htake
      refine ⟨?_, ?_, ?_⟩
      · intro taken htaken
        rcases List.mem_append.mp htaken with htaken | htaken
        · exact h.known taken htaken
        · rw [List.mem_singleton.mp htaken]
          exact ⟨haccounted.order_lt (haccounted.queue.subset hmem), le_rfl⟩
      · intro taken htaken other hother
        rcases List.mem_append.mp htaken with htaken | htaken
        · exact h.queued taken htaken other ((takeMin_sublist htake).subset hother)
        · -- what is left in the queue comes behind the item
          rw [List.mem_singleton.mp htaken]
          have hnodup := haccounted.nodup_queue
          rw [← ((takeMin_perm htake).map WorkItem.enqueueOrder).nodup_iff, List.map_cons,
            List.nodup_cons] at hnodup
          refine Or.inr (WorkItem.precedes_of_not_lt ?_ ?_)
          · exact takeMin_le WorkItem.lt_weakOrder htake other hother
          · intro hsame
            apply hnodup.1
            rw [hsame]
            exact List.mem_map_of_mem hother
      · rw [List.pairwise_append]
        refine ⟨h.taken, List.pairwise_singleton _ _, ?_⟩
        -- whoever was taken before knew the item as one of the queue
        intro taken htaken last hlast
        rw [List.mem_singleton.mp hlast]
        exact h.queued taken htaken item hmem

/-! ## No worker sleeps while there is something to do -/

structure Wakeful (pool : PersistentWorkerPool β) : Prop where
  asleep : ∀ i ∈ pool.cv.asleep, pool.workers[i]? = some .waiting
  watched : Watched pool.queue.length pool.waiting pool.cv
  stopping : pool.stopRequested = true → pool.cv.asleep ≠ ∅ → 0 < pool.cv.alls
  exited : .exited ∈ pool.workers → pool.stopRequested = true ∧ pool.queue = []

/-- In a new pool nobody sleeps. -/
theorem wakeful_new (workerCount : Nat) : Wakeful (new (β := β) workerCount) where
  asleep := by simp [new]
  watched := watched_of_asleep_eq_empty rfl
  stopping := by simp [new]
  exited := by simp [new]

theorem Wakeful.subset_places (h : Wakeful pool) :
    pool.cv.asleep ⊆ places PoolWorker.isWaiting pool.workers :=
  fun i hi => mem_places.mpr ⟨.waiting, h.asleep i hi, rfl⟩

/-- Those that sleep wait. -/
theorem Wakeful.card_le (h : Wakeful pool) : pool.cv.asleep.card ≤ pool.waiting :=
  card_asleep_le h.subset_places

/-- While a worker waits awake, fewer sleep than wait. -/
theorem Wakeful.card_lt (h : Wakeful pool) {i : Nat}
    (hworker : pool.workers[i]? = some .waiting) (hawake : i ∉ pool.cv.asleep) :
    pool.cv.asleep.card < pool.waiting :=
  card_asleep_lt h.subset_places (mem_places.mpr ⟨.waiting, hworker, rfl⟩) hawake

/-- Only a worker that exits adds an exited one. -/
theorem exited_of_mem_set {i : Nat} {new : PoolWorker β} (hnew : new ≠ .exited)
    (h : .exited ∈ pool.workers.set i new) : .exited ∈ pool.workers := by
  rcases List.mem_or_eq_of_mem_set h with h | h
  · exact h
  · exact absurd h.symm hnew

/-- Every step keeps somebody awake for the work there is. -/
theorem Wakeful.moves (h : Wakeful pool) (hmoves : Moves pool action pool') : Wakeful pool' := by
  cases hmoves with
  | submit hstop =>
      refine ⟨h.asleep, ?_, h.stopping, fun hexited => ?_⟩
      · simp only [submit, List.length_append, List.length_singleton]
        -- one item more, and one wake-up that is owed
        exact h.watched.oweOne
      · -- a worker leaves its loop only in a pool that is stopped
        have hstopped := (h.exited hexited).1
        rw [hstop] at hstopped
        cases hstopped
  | stop => exact ⟨h.asleep, watched_oweAll, fun _ _ => Nat.succ_pos _,
      fun hexited => ⟨rfl, (h.exited hexited).2⟩⟩
  | @wakeup signal cv hwoken =>
      refine ⟨fun i hi => h.asleep i (hwoken.subset hi), h.watched.woken hwoken, ?_, h.exited⟩
      intro hstop hasleep
      obtain ⟨hbefore, halls⟩ := hwoken.alls hasleep
      rw [halls]
      exact h.stopping hstop hbefore
  | @sleep i hworker hawake hstop hqueue =>
      refine ⟨?_, ?_, fun hstopped => ?_, h.exited⟩
      · intro j hj
        rcases Finset.mem_insert.mp hj with rfl | hj
        · exact hworker
        · exact h.asleep j hj
      · rw [hqueue]
        -- the worker saw an empty queue under the lock
        exact watched_wait hawake (h.card_lt hworker hawake)
      · simp only [hstop, Bool.false_eq_true] at hstopped
  | @exit i hworker hawake hstop hqueue =>
      refine ⟨getElem?_set_of_asleep h.asleep hawake _, ?_, h.stopping, fun _ => ⟨hstop, hqueue⟩⟩
      -- all the others are going to be woken
      intro hasleep halls
      have hpos := h.stopping hstop hasleep
      simp only at halls
      omega
  | @take i item queue hworker hawake htake =>
      refine ⟨getElem?_set_of_asleep h.asleep hawake _, h.watched.mono ?_, h.stopping,
        fun hexited => ?_⟩
      · have hlength := (takeMin_perm htake).length_eq
        have hwaiting := waiting_set (.running item) hworker
        simp only [List.length_cons] at hlength
        simp only [PoolWorker.isWaiting, Bool.toNat_true, Bool.toNat_false] at hwaiting
        change queue.length + pool.waiting ≤
          pool.queue.length + (pool.workers.set i (.running item)).countP PoolWorker.isWaiting
        omega
      · -- where a worker has left, the queue was empty and stays so
        have hempty := (h.exited (exited_of_mem_set (by simp) hexited)).2
        rw [hempty] at htake
        cases htake
  | @perform i item hworker =>
      -- a worker that runs an item does not sleep
      have hawake : i ∉ pool.cv.asleep := by
        intro hasleep
        have hwaits := h.asleep i hasleep
        rw [hworker] at hwaits
        cases hwaits
      refine ⟨getElem?_set_of_asleep h.asleep hawake _, h.watched.mono ?_, h.stopping,
        fun hexited =>
        h.exited (exited_of_mem_set (by simp) hexited)⟩
      have hwaiting := waiting_set .waiting hworker
      simp only [PoolWorker.isWaiting, Bool.toNat_true, Bool.toNat_false] at hwaiting
      change pool.queue.length + pool.waiting ≤ pool.queue.length +
        (pool.workers.set i .waiting).countP PoolWorker.isWaiting
      omega

/-! ## Rank -/

variable (pool) in
/-- What is left to do. An item needs a worker that looks, and one that comes back. -/
def rank : Nat :=
  2 * pool.queue.length + 2 * pool.running.length +
    CondVar.rank pool.workers.length pool.waiting pool.cv

end PersistentWorkerPool

/-- What a step adds to the rank, and the step itself if it is not an internal one. -/
def PoolStep.added (workerCount : Nat) : PoolStep β → Nat
  | .submit _ _ _ => 5
  | .stop => workerCount + 2
  | .wakeup signal => signal.added
  | _ => 0

/-- The steps of the workers themselves add nothing to the rank. -/
theorem PoolStep.added_internal {workerCount : Nat} {action : PoolStep β}
    (h : action.internal) : action.added workerCount = 0 := by
  cases action with
  | submit => exact h.elim
  | stop => exact h.elim
  | wakeup signal => cases signal <;> first | rfl | cases h
  | look => rfl
  | perform => rfl

namespace PersistentWorkerPool

variable {pool pool' : PersistentWorkerPool β} {action : PoolStep β}

/-- Every step of a worker brings the rank down. -/
theorem Wakeful.rank_moves (h : Wakeful pool) (hmoves : Moves pool action pool') :
    pool'.rank + 1 ≤ pool.rank + action.added pool.workers.length := by
  have hcard := h.card_le
  have hcount : pool.waiting ≤ pool.workers.length := List.countP_le_length
  -- the rank counts two steps for an item in the queue or running, and what `cv` owes
  cases hmoves with
  | submit hstop =>
      change 2 * (pool.queue ++ [_]).length + 2 * pool.running.length +
        CondVar.rank pool.workers.length pool.waiting pool.cv.oweOne + 1 ≤ _
      rw [rank_oweOne, List.length_append, List.length_singleton]
      simp only [rank, PoolStep.added]
      omega
  | stop =>
      change 2 * pool.queue.length + 2 * pool.running.length +
        CondVar.rank pool.workers.length pool.waiting pool.cv.oweAll + 1 ≤ _
      rw [rank_oweAll]
      simp only [rank, PoolStep.added]
      omega
  | wakeup hwoken =>
      have hrank := hwoken.rank_lt hcard hcount
      simp only [rank, waiting, running, PoolStep.added] at hrank ⊢
      omega
  | @sleep i hworker hawake hstop hqueue =>
      have hrank : CondVar.rank pool.workers.length pool.waiting (pool.cv.wait i) + 1 = _ :=
        rank_wait hawake (h.card_lt hworker hawake)
      simp only [rank, waiting, running, PoolStep.added] at hrank ⊢
      omega
  | @exit i hworker hawake hstop hqueue =>
      have hlt := h.card_lt hworker hawake
      have hwaiting := waiting_set .exited hworker
      have hrunning := (running_set_perm .exited hworker).length_eq
      simp only [PoolWorker.isWaiting, Bool.toNat_true, Bool.toNat_false] at hwaiting
      simp only [PoolWorker.item?, Option.toList_none, List.nil_append] at hrunning
      simp only [rank, CondVar.rank, waiting, running, PoolStep.added, List.length_set]
        at hlt hwaiting hrunning ⊢
      omega
  | @take i item queue hworker hawake htake =>
      have hlt := h.card_lt hworker hawake
      have hlength := (takeMin_perm htake).length_eq
      have hwaiting := waiting_set (.running item) hworker
      have hrunning := (running_set_perm (.running item) hworker).length_eq
      simp only [PoolWorker.isWaiting, Bool.toNat_true, Bool.toNat_false] at hwaiting
      simp only [PoolWorker.item?, Option.toList_none, Option.toList_some, List.nil_append,
        List.singleton_append, List.length_cons] at hrunning hlength
      simp only [rank, CondVar.rank, waiting, running, PoolStep.added, List.length_set]
        at hlt hwaiting hrunning ⊢
      omega
  | @perform i item hworker =>
      have hwaiting := waiting_set .waiting hworker
      have hrunning := (running_set_perm .waiting hworker).length_eq
      simp only [PoolWorker.isWaiting, Bool.toNat_true, Bool.toNat_false] at hwaiting
      simp only [PoolWorker.item?, Option.toList_none, Option.toList_some, List.nil_append,
        List.singleton_append, List.length_cons] at hrunning
      simp only [rank, CondVar.rank, waiting, running, perform, PoolStep.added, List.length_set]
        at hcard hwaiting hrunning ⊢
      omega

/-! ## The pool at rest -/

structure Reached (workerCount : Nat) (pool : PersistentWorkerPool β) : Prop where
  accounted : Accounted workerCount pool
  inOrder : InOrder pool
  wakeful : Wakeful pool

theorem reached_new (workerCount : Nat) : Reached workerCount (new (β := β) workerCount) :=
  ⟨accounted_new workerCount, inOrder_new workerCount, wakeful_new workerCount⟩

/-- A step goes on from a reached state to a reached one. -/
theorem Reached.keep {workerCount : Nat} (h : Reached workerCount pool)
    (hstep : pool.step action = some pool') : Reached workerCount pool' := by
  have hmoves := step_moves hstep
  exact ⟨h.accounted.moves hmoves, h.inOrder.moves h.accounted hmoves, h.wakeful.moves hmoves⟩

/-- By induction on the run. -/
theorem reached_of_run {workerCount : Nat} {actions : List (PoolStep β)}
    (hrun : Transition.run step (new workerCount) actions = some pool) :
    Reached workerCount pool :=
  run_keeps Reached.keep (reached_new workerCount) hrun

/-- Every submission has its promise, and no worker is kept from leaving. -/
structure AtRest (pool : PersistentWorkerPool β) : Prop where
  queue : pool.queue = []
  running : pool.running = []
  promises : (pool.promises.map Prod.fst).Perm (List.range pool.nextEnqueueOrder)
  joined : pool.stopRequested = true → pool.joined
  waiting : pool.stopRequested = false → ∀ worker ∈ pool.workers, worker = .waiting

/-- Where neither a worker nor a notification can take a step, everything is done. -/
theorem Reached.atRest {workerCount : Nat} (h : Reached workerCount pool)
    (hstuck : Stuck step PoolStep.internal pool) : AtRest pool := by
  have hrunning : pool.running = [] := by
    rw [running, List.filterMap_eq_nil_iff]
    intro worker hworker
    obtain ⟨i, hi⟩ := List.getElem?_of_mem hworker
    cases worker with
    | waiting => rfl
    | exited => rfl
    | running item =>
        have hnone := hstuck (.perform i) trivial
        simp only [step, hi] at hnone
        cases hnone
  have hquiet : pool.cv.Quiet := by
    refine quiet_of_stuck fun signal hsignal => ?_
    have hnone := hstuck (.wakeup signal) hsignal
    simpa [step] using hnone
  have hasleep : places PoolWorker.isWaiting pool.workers ⊆ pool.cv.asleep := by
    intro i hi
    obtain ⟨worker, hworker, hwaits⟩ := mem_places.mp hi
    cases worker with
    | waiting =>
        have hnone := hstuck (.look i) trivial
        simp only [step, hworker] at hnone
        by_contra hawake
        rw [if_neg hawake] at hnone
        cases hnone
    | running item => cases hwaits
    | exited => cases hwaits
  have hcard : pool.cv.asleep.card = pool.waiting :=
    card_asleep_eq h.wakeful.subset_places hasleep
  have hsettled : pool.queue = [] ∧ (pool.stopRequested = true → pool.joined) ∧
      (pool.stopRequested = false → ∀ worker ∈ pool.workers, worker = .waiting) := by
    by_cases hwaiting : pool.waiting = 0
    · -- all the workers have left, which they do only if the pool is stopped and empty
      have hjoined : pool.joined := by
        intro worker hworker
        have hwaits := List.countP_eq_zero.mp hwaiting worker hworker
        have hidle := List.filterMap_eq_nil_iff.mp hrunning worker hworker
        cases worker with
        | waiting => exact absurd rfl hwaits
        | running item => cases hidle
        | exited => rfl
      have hpos : 0 < pool.workers.length := by
        rw [h.accounted.workers]
        omega
      have hexited := List.getElem_mem hpos
      rw [hjoined _ hexited] at hexited
      obtain ⟨hstopped, hqueue⟩ := h.wakeful.exited hexited
      exact ⟨hqueue, fun _ => hjoined, fun hstop => absurd hstopped (by simp [hstop])⟩
    · have hsome : pool.cv.asleep ≠ ∅ := by
        rintro hempty
        rw [hempty, Finset.card_empty] at hcard
        omega
      have hstop : pool.stopRequested ≠ true := by
        intro hstop
        have halls := h.wakeful.stopping hstop hsome
        have hnone := hquiet.2
        omega
      refine ⟨List.length_eq_zero_iff.mp (h.wakeful.watched.work_eq_zero hquiet hcard (by omega)),
        fun hstopped => absurd hstopped hstop, ?_⟩
      intro _ worker hworker
      have hidle := List.filterMap_eq_nil_iff.mp hrunning worker hworker
      cases worker with
      | waiting => rfl
      | running item => cases hidle
      | exited => exact absurd (h.wakeful.exited hworker).1 hstop
  have hplaced := h.accounted.placed
  rw [hsettled.1, hrunning] at hplaced
  exact ⟨hsettled.1, hrunning, by simpa using hplaced, hsettled.2.1, hsettled.2.2⟩

/-! ## Futures -/

/-- No promise is set twice. -/
theorem Accounted.nodup_promises {workerCount : Nat} (h : Accounted workerCount pool) :
    (pool.promises.map Prod.fst).Nodup := by
  have hnodup := h.placed.nodup_iff.mpr List.nodup_range
  exact (List.nodup_append.mp (List.nodup_append.mp hnodup).2.1).2.1

/-- A promise that is set answers its future. -/
theorem future_isSome {enqueueOrder : Nat} (hset : enqueueOrder ∈ pool.promises.map Prod.fst) :
    ∃ promise ∈ pool.promises, promise.1 = enqueueOrder ∧
      pool.future enqueueOrder = some promise.2 := by
  obtain ⟨promise, hpromise, horder⟩ := List.mem_map.mp hset
  cases hfind : pool.promises.find? fun promise => promise.1 == enqueueOrder with
  | none =>
      have hmissing := List.find?_eq_none.mp hfind promise hpromise
      simp [horder] at hmissing
  | some found =>
      have hfound : found.1 = enqueueOrder := by simpa using List.find?_some hfind
      exact ⟨found, List.mem_of_find?_eq_some hfind, hfound, by rw [future, hfind]; rfl⟩

/-- A future has the answer of its own item on one of the workers. -/
theorem Accounted.future_eq {workerCount : Nat} (h : Accounted workerCount pool)
    {enqueueOrder : Nat} (hset : enqueueOrder ∈ pool.promises.map Prod.fst) :
    ∃ item, pool.submitted[enqueueOrder]? = some item ∧ ∃ workerId < max workerCount 1,
      pool.future enqueueOrder = some (item.answer workerId) := by
  obtain ⟨promise, hpromise, horder, hfuture⟩ := future_isSome hset
  obtain ⟨item, hitem, workerId, hworkerId, rfl⟩ := h.answers promise hpromise
  refine ⟨item, ?_, workerId, hworkerId, hfuture⟩
  obtain ⟨i, hi⟩ := List.getElem?_of_mem hitem
  have hmap : (pool.submitted.map WorkItem.enqueueOrder)[i]? = some item.enqueueOrder := by
    rw [List.getElem?_map, hi, Option.map_some]
  rw [h.orders] at hmap
  obtain ⟨hlt, hsame⟩ := List.getElem?_eq_some_iff.mp hmap
  rw [List.getElem_range] at hsame
  rw [← horder, ← hsame]
  exact hi

/-! ## All runs -/

section

variable {workerCount : Nat} {actions : List (PoolStep β)}

/-- In every run, a submission is in one place, no more items run than there are workers, and a
promise is set once, with what its own item answered on one of the workers. -/
theorem run_accounts (hrun : Transition.run step (new workerCount) actions = some pool) :
    (pool.queue.map WorkItem.enqueueOrder ++ (pool.running.map WorkItem.enqueueOrder ++
        pool.promises.map Prod.fst)).Perm (List.range pool.nextEnqueueOrder) ∧
      pool.running.length ≤ max workerCount 1 ∧
      (pool.promises.map Prod.fst).Nodup ∧
      ∀ enqueueOrder ∈ pool.promises.map Prod.fst, ∃ item,
        pool.submitted[enqueueOrder]? = some item ∧ ∃ workerId < max workerCount 1,
          pool.future enqueueOrder = some (item.answer workerId) := by
  have hreached := reached_of_run hrun
  refine ⟨hreached.accounted.placed, ?_, hreached.accounted.nodup_promises,
    fun _ => hreached.accounted.future_eq⟩
  rw [← hreached.accounted.workers]
  exact List.length_filterMap_le _ _

/-- In every run, of two items the one that was taken first has the higher priority, or the
same and was submitted first, or the other one was not submitted yet. Among items of one
priority this is first in, first out. -/
theorem run_takes_in_order (hrun : Transition.run step (new workerCount) actions = some pool) :
    (pool.taken.Pairwise fun earlier later =>
        earlier.known ≤ later.item.enqueueOrder ∨ earlier.item.Precedes later.item) ∧
      pool.taken.Pairwise fun earlier later =>
        earlier.item.priorityRank = later.item.priorityRank →
          earlier.item.enqueueOrder < later.item.enqueueOrder := by
  have hinOrder := (reached_of_run hrun).inOrder
  refine ⟨hinOrder.taken, hinOrder.taken.imp_of_mem ?_⟩
  intro earlier later hearlier _ hprecedes hsame
  have hknown := (hinOrder.known earlier hearlier).1
  rcases hprecedes with hlater | hrank | ⟨-, horder⟩
  · omega
  · omega
  · exact horder

/-- From every state of a run, the number of the steps that can follow is bounded by what the
caller does and by the spurious wake-ups; the workers and the notifications alone lead to a
state in which none of them can take a step, and whenever such a state is reached every promise
is set and a pool that was stopped is joined. -/
theorem run_comes_to_rest (hrun : Transition.run step (new workerCount) actions = some pool) :
    (∃ rest pool', (∀ action ∈ rest, action.internal) ∧
        Transition.run step pool rest = some pool' ∧ Stuck step PoolStep.internal pool') ∧
      ∀ more pool', Transition.run step pool more = some pool' →
        more.length + pool'.rank ≤
            pool.rank + (more.map (PoolStep.added (max workerCount 1))).sum ∧
          (Stuck step PoolStep.internal pool' → AtRest pool') := by
  have hreached := reached_of_run hrun
  have hfalls : ∀ {pool pool' : PersistentWorkerPool β} {action : PoolStep β},
      Reached workerCount pool → pool.step action = some pool' →
      pool'.rank + 1 ≤ pool.rank + action.added (max workerCount 1) := by
    intro pool pool' action hpool hstep
    have hrank := hpool.wakeful.rank_moves (step_moves hstep)
    rwa [hpool.accounted.workers] at hrank
  constructor
  · exact exists_stuck Reached.keep hfalls PoolStep.added_internal hreached
  · intro more pool' hmore
    exact ⟨run_length_le Reached.keep hfalls hreached hmore,
      (run_keeps Reached.keep hreached hmore).atRest⟩

end

/-- A camera that overtakes a logger, and a stop while the logger is queued. -/
def overtakingActions : List (PoolStep Nat) :=
  [.submit (fun _ => .ok 7) 1 "logger", .submit (fun _ => .error "no frame") 3 "camera", .look 1,
    .wakeup (.one none), .perform 1, .stop, .look 0]

theorem overtaking_accounts :
    ∃ pool, Transition.run step (new 2) overtakingActions = some pool ∧
      pool.running.length ≤ 2 ∧ (pool.promises.map Prod.fst).Nodup := by
  obtain ⟨pool, hrun⟩ :
    ∃ pool, Transition.run step (new 2) overtakingActions = some pool := ⟨_, rfl⟩
  obtain ⟨-, hrunning, hnodup, -⟩ := run_accounts hrun
  exact ⟨pool, hrun, hrunning, hnodup⟩

theorem overtaking_takes_in_order :
    ∃ pool, Transition.run step (new 2) overtakingActions = some pool ∧
      pool.taken.Pairwise fun earlier later =>
        earlier.item.priorityRank = later.item.priorityRank →
          earlier.item.enqueueOrder < later.item.enqueueOrder := by
  obtain ⟨pool, hrun⟩ :
    ∃ pool, Transition.run step (new 2) overtakingActions = some pool := ⟨_, rfl⟩
  exact ⟨pool, hrun, (run_takes_in_order hrun).2⟩

theorem overtaking_comes_to_rest :
    ∃ pool rest pool', Transition.run step (new 2) overtakingActions = some pool ∧
      Transition.run step pool rest = some pool' ∧ AtRest pool' := by
  obtain ⟨pool, hrun⟩ :
    ∃ pool, Transition.run step (new 2) overtakingActions = some pool := ⟨_, rfl⟩
  obtain ⟨⟨rest, pool', -, hrest, hstuck⟩, hmore⟩ := run_comes_to_rest hrun
  exact ⟨pool, rest, pool', hrun, hrest, (hmore rest pool' hrest).2 hstuck⟩

end PersistentWorkerPool

end TopoExec
