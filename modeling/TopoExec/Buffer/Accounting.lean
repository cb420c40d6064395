import TopoExec.Buffer.Ledger

/-! # The accounts of a buffer pool

The frames of a program hold the loans of its pools. Every operation on frames keeps the
books of all pools: an operation moves loans between frames, or calls a pool with a loan
that the frame gives up.
-/

namespace TopoExec

/-! ## Lending -/

/-- Aligning never makes smaller. -/
theorem le_alignUp (value alignment : Nat) : value ≤ alignUp value alignment := by
  unfold alignUp
  dsimp only
  split_ifs <;> omega

/-- An allocation is as large as what was requested. -/
theorem le_allocationSize (pool : BufferPool) (requested : Nat) :
    requested ≤ pool.allocationSize requested := by
  unfold BufferPool.allocationSize
  dsimp only
  refine le_trans ?_ (le_alignUp _ _)
  split
  · split_ifs <;> omega
  · split_ifs
    · exact le_max_right _ _
    · exact le_rfl

/-- What `loan_frame` does: it lends a buffer that is large enough, or it returns an empty
frame and lends nothing. -/
theorem loanFrame_cases (pool : BufferPool) (self : Nat) (request : FrameRequest) :
    (∃ buffer ∈ pool.available, request.size ≤ buffer.size ∧
        pool.loanFrame self request = (pool.reuse buffer).lend self request buffer) ∨
      (∃ allocatedSize, pool.canAllocate allocatedSize = true ∧ request.size ≤ allocatedSize ∧
        pool.loanFrame self request =
          (pool.allocate self allocatedSize).2.lend self request
            (pool.allocate self allocatedSize).1) ∨
      pool.loanFrame self request = ({}, pool.exhausted) := by
  unfold BufferPool.loanFrame
  cases hfind : pool.available.find? fun candidate => request.size ≤ candidate.size with
  | some buffer =>
      left
      have hsize := List.find?_some hfind
      exact ⟨buffer, List.mem_of_find?_eq_some hfind, by simpa using hsize, rfl⟩
  | none =>
      right
      dsimp only
      cases hcan : pool.canAllocate (pool.allocationSize request.size) with
      | true => exact Or.inl ⟨_, hcan, le_allocationSize pool request.size, rfl⟩
      | false => exact Or.inr rfl

/-! ## Outstanding loans -/

/-- The buffer that a frame holds on loan from a pool. -/
def heldBy (pool : Nat) (frame : LoanedFrame) : Option SharedBuffer :=
  if frame.pool = some pool then frame.view.buffer else none

/-- The buffers on loan from a pool, by frame. -/
def BufferState.loans (s : BufferState) (pool : Nat) : List SharedBuffer :=
  s.frames.filterMap (heldBy pool)

/-! ## Frames in their places -/

/-- The buffers on loan from a pool, whoever holds them. -/
def BufferState.loaned (s : BufferState) (pool : Nat) : Multiset SharedBuffer := s.loans pool

/-- Putting a frame in the place of another. -/
theorem filterMap_set {frames : List LoanedFrame} {index : Nat} {old : LoanedFrame}
    (hold : frames[index]? = some old) (frame : LoanedFrame)
    (f : LoanedFrame → Option SharedBuffer) :
    (((frames.set index frame).filterMap f : List SharedBuffer) : Multiset SharedBuffer) +
        ((f old).toList : Multiset SharedBuffer) =
      (frames.filterMap f : List SharedBuffer) + ((f frame).toList : Multiset SharedBuffer) := by
  induction frames generalizing index with
  | nil => cases hold
  | cons first frames ih =>
      have hcons : ∀ (head : LoanedFrame) (tail : List LoanedFrame),
          (((head :: tail).filterMap f : List SharedBuffer) : Multiset SharedBuffer) =
            ((f head).toList : Multiset SharedBuffer) +
              (tail.filterMap f : List SharedBuffer) := by
        intro head tail
        cases hhead : f head <;> simp [hhead]
      cases index with
      | zero =>
          have hfirst : first = old := by simpa using hold
          rw [List.set_cons_zero, hcons, hcons, hfirst]
          ac_rfl
      | succ index =>
          have hrest := ih (show frames[index]? = some old by simpa using hold)
          rw [List.set_cons_succ, hcons, hcons, add_assoc, hrest, add_assoc]

/-- One frame changes what is on loan by its own. -/
theorem loaned_setFrame {s : BufferState} {index : Nat} {old : LoanedFrame}
    (hold : s.frames[index]? = some old) (frame : LoanedFrame) (pool : Nat) :
    (s.setFrame index frame).loaned pool + ((heldBy pool old).toList : Multiset SharedBuffer) =
      s.loaned pool + ((heldBy pool frame).toList : Multiset SharedBuffer) :=
  filterMap_set hold frame (heldBy pool)

/-- A new frame adds what it holds. -/
theorem loaned_append (s : BufferState) (pools : Nat → BufferPool) (frame : LoanedFrame)
    (pool : Nat) :
    ({ pools := pools, frames := s.frames ++ [frame] } : BufferState).loaned pool =
      s.loaned pool + ((heldBy pool frame).toList : Multiset SharedBuffer) := by
  have hsingle : [frame].filterMap (heldBy pool) = (heldBy pool frame).toList := by
    cases hframe : heldBy pool frame <;> simp [hframe]
  rw [BufferState.loaned, BufferState.loans, List.filterMap_append, hsingle, ← Multiset.coe_add]
  rfl

/-- A frame holds nothing of another pool. -/
theorem heldBy_of_pool_ne {frame : LoanedFrame} {pool : Nat} (h : frame.pool ≠ some pool) :
    heldBy pool frame = none := if_neg h

@[simp]
theorem heldBy_empty (pool : Nat) : heldBy pool {} = none := rfl

/-- A frame that was moved from holds nothing. -/
@[simp]
theorem heldBy_movedFrom (pool : Nat) (frame : LoanedFrame) :
    heldBy pool frame.movedFrom = none := rfl

/-! ## The accounts of all pools -/

/-- Every pool keeps its accounts. -/
def PoolsBalanced (configs : Nat → BufferPoolConfig) (s : BufferState) : Prop :=
  ∀ pool, Accounts (configs pool) (s.pools pool) (s.pools pool).available (s.loaned pool)

section

variable {configs : Nat → BufferPoolConfig} {s : BufferState}

/-- A frame gives up its loan, if it has one. -/
theorem PoolsBalanced.withLoan (h : PoolsBalanced configs s)
    {f : BufferPool → SharedBuffer → BufferPool}
    (hf : ∀ {config pool buffer} {loans : Multiset SharedBuffer},
      Accounts config pool pool.available (buffer ::ₘ loans) →
        Accounts config (f pool buffer) (f pool buffer).available loans)
    {index : Nat} {old frame : LoanedFrame} (hold : s.frames[index]? = some old)
    (hframe : frame.pool = none) :
    PoolsBalanced configs ((s.withLoan old f).setFrame index frame) := by
  intro pool
  have hloaned : (s.setFrame index frame).loaned pool +
      ((heldBy pool old).toList : Multiset SharedBuffer) = s.loaned pool := by
    rw [loaned_setFrame hold, heldBy_of_pool_ne (by simp [hframe])]
    simp
  have hsame : ((s.withLoan old f).setFrame index frame).loaned pool =
      (s.setFrame index frame).loaned pool := by
    unfold BufferState.withLoan
    split <;> rfl
  have haccounts := h pool
  rw [hsame]
  -- the frame holds a buffer of this pool, or nothing of it
  by_cases hheld : ∃ buffer, heldBy pool old = some buffer
  · obtain ⟨buffer, hbuffer⟩ := hheld
    have hpool : old.pool = some pool ∧ old.view.buffer = some buffer := by
      unfold heldBy at hbuffer
      split at hbuffer
      · exact ⟨by assumption, hbuffer⟩
      · cases hbuffer
    have hpools : ((s.withLoan old f).setFrame index frame).pools pool =
        f (s.pools pool) buffer := by
      unfold BufferState.withLoan
      rw [hpool.1, hpool.2]
      exact Function.update_self ..
    rw [hpools]
    apply hf
    rw [← hloaned, hbuffer] at haccounts
    simpa [add_comm, Multiset.singleton_add] using haccounts
  · -- The loan of this frame, if any, is one of another pool.
    have hnone : heldBy pool old = none := Option.eq_none_iff_forall_ne_some.2
      (fun buffer hbuffer => hheld ⟨buffer, hbuffer⟩)
    have hpools : ((s.withLoan old f).setFrame index frame).pools pool = s.pools pool := by
      unfold BufferState.withLoan
      split
      · rename_i other buffer hother hbuffer
        have hne : pool ≠ other := by
          rintro rfl
          rw [heldBy, if_pos hother, hbuffer] at hnone
          cases hnone
        exact Function.update_of_ne hne ..
      · rfl
    rw [hnone, Option.toList_none, Multiset.coe_nil, add_zero] at hloaned
    rw [hpools, hloaned]
    exact haccounts

theorem coe_append_singleton (buffers : List SharedBuffer) (buffer : SharedBuffer) :
    ((buffers ++ [buffer] : List SharedBuffer) : Multiset SharedBuffer) =
      buffer ::ₘ (buffers : Multiset SharedBuffer) := by
  rw [← Multiset.coe_add, add_comm, Multiset.coe_singleton, Multiset.singleton_add]

/-- A release gives the buffer back to its pool. -/
theorem PoolsBalanced.release (h : PoolsBalanced configs s) (index : Nat) :
    PoolsBalanced configs (s.release index) := by
  unfold BufferState.release
  split
  · exact h
  · rename_i frame hframe
    refine h.withLoan ?_ hframe rfl
    intro config pool buffer loans haccounts
    have havailable : (((pool.returnBuffer buffer).available : List SharedBuffer) :
        Multiset SharedBuffer) = buffer ::ₘ (pool.available : Multiset SharedBuffer) :=
      coe_append_singleton ..
    rw [havailable]
    exact haccounts.returnBuffer

/-- A detached buffer leaves its pool for good. -/
theorem PoolsBalanced.detach (h : PoolsBalanced configs s) (index : Nat) :
    PoolsBalanced configs (s.detach index).2 := by
  unfold BufferState.detach
  split
  · exact h
  · rename_i frame hframe
    exact h.withLoan (fun haccounts => haccounts.markDetached) hframe rfl

/-- Only the loans count, not who holds them. -/
theorem PoolsBalanced.of_loaned_eq (h : PoolsBalanced configs s) {frames : List LoanedFrame}
    (hloaned : ∀ pool,
      ({ s with frames := frames } : BufferState).loaned pool = s.loaned pool) :
    PoolsBalanced configs { s with frames := frames } := by
  intro pool
  rw [hloaned pool]
  exact h pool

/-- A frame is moved into a new one. -/
theorem PoolsBalanced.moveConstruct (h : PoolsBalanced configs s) (source : Nat) :
    PoolsBalanced configs (s.moveConstruct source) := by
  unfold BufferState.moveConstruct
  split
  · exact h
  · rename_i other hother
    apply h.of_loaned_eq
    intro pool
    have hset := loaned_setFrame hother other.movedFrom pool
    rw [heldBy_movedFrom, Option.toList_none, Multiset.coe_nil, add_zero] at hset
    rw [← hset]
    exact loaned_append (s.setFrame source other.movedFrom) s.pools other pool

/-- The target has no loan any more when it takes over the one of the source. -/
theorem PoolsBalanced.moveAssign (h : PoolsBalanced configs s) (target source : Nat) :
    PoolsBalanced configs (s.moveAssign target source) := by
  unfold BufferState.moveAssign
  split
  · exact h
  · rename_i hne
    split
    · rename_i old other hold hother
      have hreleased := h.release target
      -- the destructor of the target has run: its slot is free before the source moves in
      have hframes : (s.release target).frames = s.frames.set target {} := by
        unfold BufferState.release BufferState.withLoan
        rw [hold]
        dsimp only
        split <;> rfl
      generalize s.release target = released at hreleased hframes
      apply hreleased.of_loaned_eq
      intro pool
      have htarget : released.frames[target]? = some {} := by
        rw [hframes, List.getElem?_set_self]
        exact (List.getElem?_eq_some_iff.1 hold).1
      have hsource : (released.setFrame target other).frames[source]? = some other := by
        rw [BufferState.setFrame, List.getElem?_set_ne hne, hframes, List.getElem?_set_ne hne,
          hother]
      -- one frame gains what the other one loses, so the loans stay as they are
      have hfirst := loaned_setFrame htarget other pool
      have hsecond := loaned_setFrame hsource other.movedFrom pool
      rw [heldBy_empty, Option.toList_none, Multiset.coe_nil, add_zero] at hfirst
      rw [heldBy_movedFrom, Option.toList_none, Multiset.coe_nil, add_zero] at hsecond
      rw [hfirst] at hsecond
      exact add_right_cancel hsecond
    · exact h

/-- A pool keeps its accounts when it lends, with the buffer of the new frame among its
loans. -/
theorem Accounts.loanFrame {config : BufferPoolConfig} {pool : BufferPool}
    {loans : Multiset SharedBuffer} (h : Accounts config pool pool.available loans) (self : Nat)
    (request : FrameRequest) :
    Accounts config (pool.loanFrame self request).2 (pool.loanFrame self request).2.available
      (loans + ((heldBy self (pool.loanFrame self request).1).toList : Multiset SharedBuffer)) := by
  have hlend : ∀ (lender : BufferPool) (buffer : SharedBuffer),
      loans + ((heldBy self (lender.lend self request buffer).1).toList :
        Multiset SharedBuffer) = buffer ::ₘ loans := by
    intro lender buffer
    have hheld : heldBy self (lender.lend self request buffer).1 = some buffer := if_pos rfl
    rw [hheld, Option.toList_some, Multiset.coe_singleton, add_comm, Multiset.singleton_add]
  rcases loanFrame_cases pool self request with
    ⟨buffer, hmem, -, heq⟩ | ⟨allocatedSize, hcan, -, heq⟩ | heq
  · rw [heq, hlend]
    -- a free buffer of the bucket changes sides
    have hreuse := h.reuse buffer
    have havailable : (pool.available : Multiset SharedBuffer) =
        buffer ::ₘ ((pool.available.erase buffer : List SharedBuffer) : Multiset SharedBuffer) :=
      Multiset.coe_eq_coe.2 (List.perm_cons_erase hmem)
    rw [havailable] at hreuse
    exact hreuse.lend self request
  -- a new buffer, within the limit of the pool
  · rw [heq, hlend]
    exact (h.allocate hcan).lend self request
  · rw [heq, heldBy_empty, Option.toList_none, Multiset.coe_nil, add_zero]
    exact h.exhausted

/-- A frame that a pool returns is a loan of this pool, or empty. -/
theorem loanFrame_pool_ne (pool : BufferPool) {self other : Nat} (hne : other ≠ self)
    (request : FrameRequest) : (pool.loanFrame self request).1.pool ≠ some other := by
  rcases loanFrame_cases pool self request with ⟨_, -, -, heq⟩ | ⟨_, -, -, heq⟩ | heq
  · rw [heq]
    exact fun h => hne (Option.some.inj h).symm
  · rw [heq]
    exact fun h => hne (Option.some.inj h).symm
  · rw [heq]
    exact fun h => by cases h

/-- A loan takes from the pool what it gives to the frame. -/
theorem PoolsBalanced.loanFrame (h : PoolsBalanced configs s) (pool : Nat)
    (request : FrameRequest) :
    PoolsBalanced configs (s.loanFrame pool request).2 := by
  intro other
  have hloaned : (s.loanFrame pool request).2.loaned other = s.loaned other +
      ((heldBy other ((s.pools pool).loanFrame pool request).1).toList : Multiset SharedBuffer) :=
    loaned_append s _ _ other
  have hpools : (s.loanFrame pool request).2.pools other =
      Function.update s.pools pool ((s.pools pool).loanFrame pool request).2 other := rfl
  rw [hloaned, hpools]
  by_cases hother : other = pool
  · rw [hother, Function.update_self]
    exact (h pool).loanFrame pool request
  · rw [Function.update_of_ne hother, heldBy_of_pool_ne (loanFrame_pool_ne _ hother request),
      Option.toList_none, Multiset.coe_nil, add_zero]
    exact h other

/-- Every call keeps the balance. -/
theorem PoolsBalanced.exec (h : PoolsBalanced configs s) (op : BufferOp) :
    PoolsBalanced configs (op.exec s) := by
  cases op with
  | loanFrame pool request => exact h.loanFrame pool request
  | construct =>
      apply h.of_loaned_eq
      intro pool
      simpa using loaned_append s s.pools {} pool
  | moveConstruct source => exact h.moveConstruct source
  | moveAssign target source => exact h.moveAssign target source
  | release frame => exact h.release frame
  | detach frame => exact h.detach frame
  | destroy frame => exact h.release frame

end

/-- By induction on the calls. -/
theorem poolsBalanced_run (configs : Nat → BufferPoolConfig) (ops : List BufferOp) :
    PoolsBalanced configs (runBuffers ops (.start configs)) := by
  induction ops using List.reverseRecOn with
  | nil => exact fun pool => accounts_create (configs pool)
  | append_singleton ops op ih =>
      rw [runBuffers, List.foldl_append]
      exact ih.exec op

/-! ## The views of the loans -/

/-- A frame that a pool returns: empty, or a loan with a view of the requested size. -/
theorem loanFrame_view (pool : BufferPool) (self : Nat) (request : FrameRequest) :
    (pool.loanFrame self request).1 = {} ∨
      (pool.loanFrame self request).1.pool = some self ∧
        (pool.loanFrame self request).1.view.valid = true ∧
        (pool.loanFrame self request).1.view.size = request.size := by
  have hvalid : ∀ (lender : BufferPool) {buffer : SharedBuffer}, request.size ≤ buffer.size →
      (lender.lend self request buffer).1.view.valid = true := by
    intro lender buffer hsize
    simp [BufferPool.lend, FrameView.valid, hsize]
  rcases loanFrame_cases pool self request with
    ⟨buffer, -, hsize, heq⟩ | ⟨allocatedSize, -, hsize, heq⟩ | heq
  · right
    rw [heq]
    exact ⟨rfl, hvalid _ hsize, rfl⟩
  · right
    rw [heq]
    exact ⟨rfl, hvalid _ hsize, rfl⟩
  · left
    rw [heq]

/-- Outstanding loans have valid views. -/
def LoansValid (s : BufferState) : Prop :=
  ∀ frame ∈ s.frames, frame.pool = none ∨ frame.view.valid = true

section

variable {s : BufferState}

/-- A frame changes to one that is empty or valid. -/
theorem LoansValid.setFrame (h : LoansValid s) (index : Nat) {frame : LoanedFrame}
    (hframe : frame.pool = none ∨ frame.view.valid = true) :
    LoansValid (s.setFrame index frame) := by
  intro other hmem
  rcases List.mem_or_eq_of_mem_set hmem with hmem | rfl
  · exact h other hmem
  · exact hframe

/-- A new frame is empty or valid. -/
theorem LoansValid.append (h : LoansValid s) (pools : Nat → BufferPool) {frame : LoanedFrame}
    (hframe : frame.pool = none ∨ frame.view.valid = true) :
    LoansValid { pools := pools, frames := s.frames ++ [frame] } := by
  intro other hmem
  rcases List.mem_append.1 hmem with hmem | hmem
  · exact h other hmem
  · rw [List.mem_singleton.1 hmem]
    exact hframe

/-- A loan is valid whatever becomes of the pool. -/
theorem LoansValid.withLoan (h : LoansValid s) (frame : LoanedFrame)
    (f : BufferPool → SharedBuffer → BufferPool) : LoansValid (s.withLoan frame f) := by
  unfold BufferState.withLoan
  split
  · exact h
  · exact h

/-- A release empties the frame. -/
theorem LoansValid.release (h : LoansValid s) (index : Nat) : LoansValid (s.release index) := by
  unfold BufferState.release
  split
  · exact h
  · exact (h.withLoan _ _).setFrame index (Or.inl rfl)

theorem LoansValid.detach (h : LoansValid s) (index : Nat) : LoansValid (s.detach index).2 := by
  unfold BufferState.detach
  split
  · exact h
  · exact (h.withLoan _ _).setFrame index (Or.inl rfl)

/-- A move takes a valid view along. -/
theorem LoansValid.moveConstruct (h : LoansValid s) (source : Nat) :
    LoansValid (s.moveConstruct source) := by
  unfold BufferState.moveConstruct
  split
  · exact h
  · rename_i other hother
    have hmoved : LoansValid (s.setFrame source other.movedFrom) :=
      h.setFrame source (Or.inl rfl)
    exact hmoved.append s.pools (h other (List.mem_of_getElem? hother))

theorem LoansValid.moveAssign (h : LoansValid s) (target source : Nat) :
    LoansValid (s.moveAssign target source) := by
  unfold BufferState.moveAssign
  split
  · exact h
  · split
    · rename_i old other hold hother
      have htaken : LoansValid ((s.release target).setFrame target other) :=
        (h.release target).setFrame target (h other (List.mem_of_getElem? hother))
      exact htaken.setFrame source (Or.inl rfl)
    · exact h

theorem LoansValid.loanFrame (h : LoansValid s) (pool : Nat) (request : FrameRequest) :
    LoansValid (s.loanFrame pool request).2 := by
  apply h.append
  rcases loanFrame_view (s.pools pool) pool request with hempty | ⟨-, hvalid, -⟩
  · rw [hempty]
    exact Or.inl rfl
  · exact Or.inr hvalid

/-- Every call keeps the loans valid. -/
theorem LoansValid.exec (h : LoansValid s) (op : BufferOp) : LoansValid (op.exec s) := by
  cases op with
  | loanFrame pool request => exact h.loanFrame pool request
  | construct => exact h.append s.pools (Or.inl rfl)
  | moveConstruct source => exact h.moveConstruct source
  | moveAssign target source => exact h.moveAssign target source
  | release frame => exact h.release frame
  | detach frame => exact h.detach frame
  | destroy frame => exact h.release frame

end

/-- By induction on the calls. -/
theorem loansValid_run (configs : Nat → BufferPoolConfig) (ops : List BufferOp) :
    LoansValid (runBuffers ops (.start configs)) := by
  induction ops using List.reverseRecOn with
  | nil =>
      intro frame hmem
      cases hmem
  | append_singleton ops op ih =>
      rw [runBuffers, List.foldl_append]
      exact ih.exec op

/-! ## The pool -/

/-- A buffer on loan is covered by all the counters that its return or detachment takes
it from. -/
theorem Accounts.covers {config : BufferPoolConfig} {pool : BufferPool}
    {available loans : Multiset SharedBuffer} (h : Accounts config pool available loans)
    {buffer : SharedBuffer} (hmem : buffer ∈ loans) :
    0 < pool.stats.activeCount ∧ buffer.size ≤ pool.stats.activeBytes ∧
      buffer.size ≤ pool.stats.bytesOwned := by
  obtain ⟨rest, rfl⟩ := Multiset.exists_cons_of_mem hmem
  have howned := h.owned
  rw [h.activeCount, h.activeBytes, totalSize_cons, Multiset.card_cons]
  rw [totalSize_cons] at howned
  exact ⟨Nat.succ_pos _, Nat.le_add_right _ _, by omega⟩

/-- A buffer is in one place as long as it is not detached. -/
theorem Ledger.count_eq {allocCount : Nat} {available loans : Multiset SharedBuffer}
    {events : List BufferEvent} (h : Ledger allocCount available loans events)
    (buffer : SharedBuffer) :
    available.count buffer + loans.count buffer =
      if .allocated buffer ∈ events ∧ .detached buffer ∉ events then 1 else 0 := by
  have hlive := h.live buffer
  have honce := h.once buffer
  by_cases hallocated : BufferEvent.allocated buffer ∈ events
  · have hone := List.one_le_count_iff.2 hallocated
    by_cases hdetached : BufferEvent.detached buffer ∈ events
    · have := List.one_le_count_iff.2 hdetached
      rw [if_neg (by simp [hdetached])]
      omega
    · have := List.count_eq_zero.2 hdetached
      rw [if_pos ⟨hallocated, hdetached⟩]
      omega
  · have := List.count_eq_zero.2 hallocated
    rw [if_neg (by simp [hallocated])]
    omega

/-- After any calls the counters of a pool say what it has and what it has lent: what it
owns is available or on loan and within the limit, and a loan is covered by the counters
that it will be taken from. A buffer that was allocated and not detached is in exactly one
place. All the loans of a buffer have been returned or detached once, but for the one that
is outstanding. What is lent next has a valid view of the requested size. -/
theorem bufferPool_accounting (configs : Nat → BufferPoolConfig) (ops : List BufferOp)
    (pool : Nat) :
    let s := runBuffers ops (.start configs)
    let stats := (s.pools pool).stats
    let available := (s.pools pool).available
    let loans := s.loans pool
    let events := (s.pools pool).events
    stats.bytesOwned =
        (available.map SharedBuffer.size).sum + (loans.map SharedBuffer.size).sum ∧
      ((configs pool).maxBytes = 0 ∨ stats.bytesOwned ≤ (configs pool).maxBytes) ∧
      stats.activeCount = loans.length ∧
      stats.activeBytes = (loans.map SharedBuffer.size).sum ∧
      (∀ buffer ∈ loans, 0 < stats.activeCount ∧ buffer.size ≤ stats.activeBytes ∧
        buffer.size ≤ stats.bytesOwned) ∧
      (∀ buffer, available.count buffer + loans.count buffer =
        if .allocated buffer ∈ events ∧ .detached buffer ∉ events then 1 else 0) ∧
      (∀ buffer, events.count (.loaned buffer) =
        events.count (.returned buffer) + events.count (.detached buffer) +
          loans.count buffer) ∧
      (∀ frame ∈ s.frames, frame.pool = none ∨ frame.view.valid = true) ∧
      ∀ request, (s.loanFrame pool request).1 = {} ∨
        (s.loanFrame pool request).1.pool = some pool ∧
          (s.loanFrame pool request).1.view.valid = true ∧
          (s.loanFrame pool request).1.view.size = request.size := by
  intro s stats available loans events
  have h := poolsBalanced_run configs ops pool
  -- the invariant counts in multisets, the statement in lists
  have hcounts : ∀ buffer, Multiset.count buffer (s.loaned pool) = loans.count buffer :=
    fun buffer => Multiset.coe_count buffer loans
  refine ⟨?_, h.limit, h.activeCount, ?_, ?_, ?_, ?_, loansValid_run configs ops, ?_⟩
  · rw [← totalSize_coe, ← totalSize_coe]
    exact h.owned
  · rw [← totalSize_coe]
    exact h.activeBytes
  · intro buffer hmem
    exact h.covers hmem
  · intro buffer
    rw [← hcounts, ← h.ledger.count_eq buffer, Multiset.coe_count]
  · intro buffer
    rw [← hcounts]
    exact h.ledger.ended buffer
  · exact fun request => loanFrame_view _ pool request

end TopoExec
