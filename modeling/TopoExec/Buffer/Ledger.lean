import Mathlib.Algebra.BigOperators.Group.Multiset.Basic
import Mathlib.Algebra.Order.Group.Nat
import TopoExec.Buffer.Pool

/-! # The books of one pool

`Ledger` is about where the buffers of a pool are, told from what has happened to them,
and `Accounts` about the counters. Both are kept by every call of the pool. The loans are
a multiset: moving frames around does not change it, and giving a buffer back takes the
buffer out of it once.
-/

namespace TopoExec

/-! ## Sizes -/

def totalSize (buffers : Multiset SharedBuffer) : Nat := (buffers.map SharedBuffer.size).sum

@[simp]
theorem totalSize_cons (buffer : SharedBuffer) (buffers : Multiset SharedBuffer) :
    totalSize (buffer ::ₘ buffers) = buffer.size + totalSize buffers := by
  simp [totalSize]

theorem totalSize_coe (buffers : List SharedBuffer) :
    totalSize (buffers : Multiset SharedBuffer) = (buffers.map SharedBuffer.size).sum := by
  simp [totalSize]

/-! ## Where the buffers are -/

/-- The buffers of a pool by what has happened to them: a buffer is available, on loan or
detached, and each of its loans has ended but at most the last one. -/
structure Ledger (allocCount : Nat) (available loans : Multiset SharedBuffer)
    (events : List BufferEvent) : Prop where
  live : ∀ buffer, available.count buffer + loans.count buffer +
    events.count (.detached buffer) = events.count (.allocated buffer)
  ended : ∀ buffer, events.count (.loaned buffer) =
    events.count (.returned buffer) + events.count (.detached buffer) + loans.count buffer
  numbered : ∀ buffer, .allocated buffer ∈ events → buffer.number < allocCount
  once : ∀ buffer, events.count (.allocated buffer) ≤ 1

theorem ledger_init : Ledger 0 0 0 [] where
  live := fun _ => by simp
  ended := fun _ => by simp
  numbered := by
    intro buffer hmem
    cases hmem
  once := fun _ => Nat.zero_le _

section

variable {allocCount : Nat} {available loans : Multiset SharedBuffer} {events : List BufferEvent}
  {buffer : SharedBuffer}

/-- Only an allocation counts as one. -/
theorem Ledger.append_of_not_allocated (h : Ledger allocCount available loans events)
    (event : BufferEvent) (hevent : ∀ buffer, event ≠ .allocated buffer) :
    (∀ buffer, .allocated buffer ∈ events ++ [event] → buffer.number < allocCount) ∧
      ∀ buffer, (events ++ [event]).count (.allocated buffer) ≤ 1 := by
  constructor
  · intro other hmem
    rcases List.mem_append.1 hmem with hmem | hmem
    · exact h.numbered other hmem
    · exact absurd (List.mem_singleton.1 hmem).symm (hevent other)
  · intro other
    rw [List.count_append, List.count_singleton, if_neg (by simpa using hevent other)]
    exact h.once other

/-- A buffer with the next number, still available. -/
theorem Ledger.allocate (h : Ledger allocCount available loans events)
    (hnumber : buffer.number = allocCount) :
    Ledger (allocCount + 1) (buffer ::ₘ available) loans (events ++ [.allocated buffer]) := by
  -- all numbers given out so far are smaller
  have hnew : events.count (.allocated buffer) = 0 := by
    rw [List.count_eq_zero]
    intro hmem
    have := h.numbered buffer hmem
    omega
  constructor
  · intro other
    have hlive := h.live other
    simp only [Multiset.count_cons, List.count_append, List.count_singleton, beq_iff_eq,
      reduceCtorEq, if_false, BufferEvent.allocated.injEq, eq_comm (a := buffer)]
    omega
  · intro other
    have hended := h.ended other
    simp only [List.count_append, List.count_singleton, beq_iff_eq, reduceCtorEq, if_false]
    omega
  · intro other hmem
    rcases List.mem_append.1 hmem with hmem | hmem
    · exact Nat.lt_succ_of_lt (h.numbered other hmem)
    · cases List.mem_singleton.1 hmem
      omega
  · intro other
    rw [List.count_append, List.count_singleton]
    by_cases hother : buffer = other
    · rw [← hother, hnew, if_pos (by simp)]
    · rw [if_neg (by simpa using hother)]
      exact h.once other

/-- A loan moves a buffer from the available ones to the loans. -/
theorem Ledger.lend (h : Ledger allocCount (buffer ::ₘ available) loans events) :
    Ledger allocCount available (buffer ::ₘ loans) (events ++ [.loaned buffer]) := by
  obtain ⟨hnumbered, honce⟩ :=
    h.append_of_not_allocated (.loaned buffer) (fun _ => by simp)
  refine ⟨?_, ?_, hnumbered, honce⟩
  · intro other
    have hlive := h.live other
    simp only [Multiset.count_cons, List.count_append, List.count_singleton, beq_iff_eq,
      reduceCtorEq, if_false] at hlive ⊢
    omega
  · intro other
    have hended := h.ended other
    simp only [Multiset.count_cons, List.count_append, List.count_singleton, beq_iff_eq,
      reduceCtorEq, if_false, BufferEvent.loaned.injEq, eq_comm (a := buffer)]
    omega

/-- A return moves it back. -/
theorem Ledger.giveBack (h : Ledger allocCount available (buffer ::ₘ loans) events) :
    Ledger allocCount (buffer ::ₘ available) loans (events ++ [.returned buffer]) := by
  obtain ⟨hnumbered, honce⟩ :=
    h.append_of_not_allocated (.returned buffer) (fun _ => by simp)
  refine ⟨?_, ?_, hnumbered, honce⟩
  · intro other
    have hlive := h.live other
    simp only [Multiset.count_cons, List.count_append, List.count_singleton, beq_iff_eq,
      reduceCtorEq, if_false] at hlive ⊢
    omega
  · intro other
    have hended := h.ended other
    simp only [Multiset.count_cons, List.count_append, List.count_singleton, beq_iff_eq,
      reduceCtorEq, if_false, BufferEvent.returned.injEq, eq_comm (a := buffer)] at hended ⊢
    omega

/-- A detached buffer leaves the ledger's pool. -/
theorem Ledger.detach (h : Ledger allocCount available (buffer ::ₘ loans) events) :
    Ledger allocCount available loans (events ++ [.detached buffer]) := by
  obtain ⟨hnumbered, honce⟩ :=
    h.append_of_not_allocated (.detached buffer) (fun _ => by simp)
  refine ⟨?_, ?_, hnumbered, honce⟩
  · intro other
    have hlive := h.live other
    simp only [Multiset.count_cons, List.count_append, List.count_singleton, beq_iff_eq,
      reduceCtorEq, if_false, BufferEvent.detached.injEq, eq_comm (a := buffer)] at hlive ⊢
    omega
  · intro other
    have hended := h.ended other
    simp only [Multiset.count_cons, List.count_append, List.count_singleton, beq_iff_eq,
      reduceCtorEq, if_false, BufferEvent.detached.injEq, eq_comm (a := buffer)] at hended ⊢
    omega

end

/-! ## The counters -/

/-- The counters of a pool that is made with `config`, from the buffers that it has and
that it has lent. -/
structure Accounts (config : BufferPoolConfig) (pool : BufferPool)
    (available loans : Multiset SharedBuffer) : Prop where
  maxBytes : pool.config.maxBytes = config.maxBytes
  owned : pool.stats.bytesOwned = totalSize available + totalSize loans
  limit : config.maxBytes = 0 ∨ pool.stats.bytesOwned ≤ config.maxBytes
  activeCount : pool.stats.activeCount = loans.card
  activeBytes : pool.stats.activeBytes = totalSize loans
  ledger : Ledger pool.stats.allocCount available loans pool.events

theorem accounts_create (config : BufferPoolConfig) : Accounts config (.create config) 0 0 where
  maxBytes := rfl
  owned := rfl
  limit := Or.inr (Nat.zero_le _)
  activeCount := rfl
  activeBytes := rfl
  ledger := ledger_init

section

variable {config : BufferPoolConfig} {pool : BufferPool} {available loans : Multiset SharedBuffer}
  {buffer : SharedBuffer}

/-- The stats of the available buffers are not part of the accounts. -/
theorem Accounts.refresh (h : Accounts config pool available loans) :
    Accounts config pool.refreshAvailableStats available loans :=
  { h with }

/-- A refused loan is counted and moves nothing. -/
theorem Accounts.exhausted (h : Accounts config pool available loans) :
    Accounts config pool.exhausted available loans :=
  Accounts.refresh { h with }

/-- A reuse is counted and moves nothing. -/
theorem Accounts.reuse (h : Accounts config pool available loans) (other : SharedBuffer) :
    Accounts config (pool.reuse other) available loans :=
  { h with }

/-- An allocation adds its bytes, within the limit. -/
theorem Accounts.allocate (h : Accounts config pool available loans) {self allocatedSize : Nat}
    (hcan : pool.canAllocate allocatedSize = true) :
    Accounts config (pool.allocate self allocatedSize).2
      ((pool.allocate self allocatedSize).1 ::ₘ available) loans where
  maxBytes := h.maxBytes
  owned := by
    have howned := h.owned
    rw [totalSize_cons]
    simp only [BufferPool.allocate]
    omega
  limit := by
    simp only [BufferPool.canAllocate, h.maxBytes, Bool.or_eq_true, Bool.and_eq_true,
      decide_eq_true_eq] at hcan
    rcases hcan with hzero | ⟨howned, hfits⟩
    · exact Or.inl hzero
    · right
      simp only [BufferPool.allocate]
      omega
  activeCount := h.activeCount
  activeBytes := h.activeBytes
  ledger := h.ledger.allocate rfl

/-- A loan takes one available buffer. -/
theorem Accounts.lend (h : Accounts config pool (buffer ::ₘ available) loans) (self : Nat)
    (request : FrameRequest) :
    Accounts config (pool.lend self request buffer).2 available (buffer ::ₘ loans) := by
  have howned := h.owned
  have hcount := h.activeCount
  have hbytes := h.activeBytes
  rw [totalSize_cons] at howned
  apply Accounts.refresh
  exact
    { maxBytes := h.maxBytes
      owned := by
        rw [totalSize_cons]
        dsimp only
        omega
      limit := h.limit
      activeCount := by
        rw [Multiset.card_cons]
        exact congrArg (· + 1) hcount
      activeBytes := by
        rw [totalSize_cons]
        dsimp only
        omega
      ledger := h.ledger.lend }

/-- A return makes the buffer available again. -/
theorem Accounts.returnBuffer (h : Accounts config pool available (buffer ::ₘ loans)) :
    Accounts config (pool.returnBuffer buffer) (buffer ::ₘ available) loans := by
  have howned := h.owned
  have hcount := h.activeCount
  have hbytes := h.activeBytes
  rw [totalSize_cons] at howned hbytes
  rw [Multiset.card_cons] at hcount
  apply Accounts.refresh
  exact
    { maxBytes := h.maxBytes
      owned := by
        rw [totalSize_cons]
        dsimp only
        omega
      limit := h.limit
      activeCount := by
        dsimp only
        rw [hcount, if_pos (Nat.succ_pos _), Nat.add_sub_cancel]
      activeBytes := by
        dsimp only
        rw [hbytes, if_pos (Nat.le_add_right _ _), Nat.add_sub_cancel_left]
      ledger := h.ledger.giveBack }

/-- A detached buffer no longer counts against the limit. -/
theorem Accounts.markDetached (h : Accounts config pool available (buffer ::ₘ loans)) :
    Accounts config (pool.markDetached buffer) available loans := by
  have howned := h.owned
  have hcount := h.activeCount
  have hbytes := h.activeBytes
  rw [totalSize_cons] at howned hbytes
  rw [Multiset.card_cons] at hcount
  -- the pool owns what it lends, so the guarded subtractions are exact
  have hfits : buffer.size ≤ pool.stats.bytesOwned := by omega
  apply Accounts.refresh
  exact
    { maxBytes := h.maxBytes
      owned := by
        dsimp only
        rw [if_pos hfits]
        omega
      limit := by
        dsimp only
        rw [if_pos hfits]
        rcases h.limit with hzero | hle
        · exact Or.inl hzero
        · exact Or.inr ((Nat.sub_le _ _).trans hle)
      activeCount := by
        dsimp only
        rw [hcount, if_pos (Nat.succ_pos _), Nat.add_sub_cancel]
      activeBytes := by
        dsimp only
        rw [hbytes, if_pos (Nat.le_add_right _ _), Nat.add_sub_cancel_left]
      ledger := h.ledger.detach }

end

end TopoExec
