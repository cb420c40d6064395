import Mathlib.Tactic.Common

/-! # Rings

A queue in a list of slots used in a circle. The read index is where the oldest item
lies, the write index the slot the next one goes into. One slot always stays free: the
ring is empty when the two indices are the same, and full when the write index is one
step behind the read index.

`LossyQueue` is the queue itself: what is pushed onto a full queue is lost and counted,
and the number of losses is reported on request.
-/

namespace Ring

variable {α : Type}

/-- The index after `i` in a ring of `n` slots. -/
def next (n i : Nat) : Nat := if i + 1 = n then 0 else i + 1

/-- The items from the read index up to the write index, the oldest first. -/
def contents (slots : List α) (read write : Nat) : List α :=
  if read ≤ write then (slots.take write).drop read else slots.drop read ++ slots.take write

variable {slots : List α} {read write n : Nat}

theorem next_lt (h : write < n) : next n write < n := by
  unfold next
  split_ifs <;> omega

/-- A ring is empty when both indices meet. -/
@[simp]
theorem contents_self (slots : List α) (i : Nat) : contents slots i i = [] := by
  simp [contents]

/-- The length, with the wrap. -/
theorem length_contents (hwrite : write < slots.length) :
    (contents slots read write).length =
      if read ≤ write then write - read else slots.length - read + write := by
  unfold contents
  split_ifs with hle
  · rw [List.length_drop, List.length_take]
    omega
  · rw [List.length_append, List.length_drop, List.length_take]
    omega

/-- The ring is full when only the free slot is left. -/
theorem next_write_eq_read (hread : read < slots.length) (hwrite : write < slots.length) :
    next slots.length write = read ↔ (contents slots read write).length + 1 = slots.length := by
  rw [length_contents hwrite]
  unfold next
  split_ifs <;> omega

/-- Writing into the free slot appends an item. -/
theorem contents_push (item : α) (hread : read < slots.length) (hwrite : write < slots.length)
    (hfree : next slots.length write ≠ read) :
    contents (slots.set write item) read (next slots.length write) =
      contents slots read write ++ [item] := by
  have htake : (slots.set write item).take (write + 1) = slots.take write ++ [item] := by
    rw [List.take_add_one, List.take_set_of_le (Nat.le_refl write),
      List.getElem?_set_self hwrite]
    rfl
  unfold next at hfree ⊢
  split_ifs at hfree ⊢ with hlast
  · -- the write index wraps around: the items reach to the end of the slots
    have hfull : (slots.set write item).take (write + 1) = slots.set write item := by
      apply List.take_of_length_le
      rw [List.length_set]
      omega
    rw [contents, if_neg (by omega), contents, if_pos (by omega), List.take_zero,
      List.append_nil, ← hfull, htake, List.drop_append_of_le_length]
    rw [List.length_take]
    omega
  · by_cases hle : read ≤ write
    · rw [contents, if_pos (by omega), contents, if_pos hle, htake,
        List.drop_append_of_le_length]
      rw [List.length_take]
      omega
    · rw [contents, if_neg (by omega), contents, if_neg hle, htake,
        List.drop_set_of_lt (by omega), List.append_assoc]

/-- The item at the read index is the oldest one. -/
theorem contents_pop (hread : read < slots.length) (hwrite : write < slots.length)
    (hne : read ≠ write) :
    contents slots read write =
      slots[read] :: contents slots (next slots.length read) write := by
  unfold next
  by_cases hle : read ≤ write
  · have hlt : read < (slots.take write).length := by
      rw [List.length_take]
      omega
    rw [contents, if_pos hle, if_neg (by omega), contents, if_pos (by omega),
      List.drop_eq_getElem_cons hlt, List.getElem_take]
  · rw [contents, if_neg hle, List.drop_eq_getElem_cons hread, List.cons_append]
    split_ifs with hlast
    · -- the read index wraps around: the rest of the items lies at the front
      rw [contents, if_pos (Nat.zero_le _), List.drop_zero, hlast, List.drop_length,
        List.nil_append]
    · rw [contents, if_neg (by omega)]

/-- A ring is empty only when both indices meet. -/
theorem contents_eq_nil (hread : read < slots.length) (hwrite : write < slots.length) :
    contents slots read write = [] ↔ read = write := by
  constructor
  · intro h
    by_contra hne
    rw [contents_pop hread hwrite hne] at h
    cases h
  · rintro rfl
    exact contents_self slots read

end Ring

/-- A queue of at most `capacity` items. -/
structure LossyQueue (α : Type) where
  capacity : Nat
  items : List α := []
  lost : Nat := 0
  unreported : Nat := 0

namespace LossyQueue

variable {α : Type}

/-- Put an item at the end of the queue; the answer is whether there was room. -/
def push (queue : LossyQueue α) (item : α) : Bool × LossyQueue α :=
  if queue.items.length = queue.capacity then
    (false, { queue with lost := queue.lost + 1, unreported := queue.unreported + 1 })
  else (true, { queue with items := queue.items ++ [item] })

def pop (queue : LossyQueue α) : Option α × LossyQueue α :=
  (queue.items.head?, { queue with items := queue.items.tail })

/-- The number of losses since the last report. -/
def report (queue : LossyQueue α) : Nat × LossyQueue α :=
  (queue.unreported, { queue with unreported := 0 })

/-- A full queue counts the item as lost. -/
theorem push_of_full {queue : LossyQueue α} (h : queue.items.length = queue.capacity) (item : α) :
    queue.push item =
      (false, { queue with lost := queue.lost + 1, unreported := queue.unreported + 1 }) :=
  if_pos h

/-- With room the item goes to the end. -/
theorem push_of_room {queue : LossyQueue α} (h : queue.items.length ≠ queue.capacity) (item : α) :
    queue.push item = (true, { queue with items := queue.items ++ [item] }) :=
  if_neg h

/-- An item is refused only by a full queue. -/
theorem push_refused (queue : LossyQueue α) (item : α) :
    (queue.push item).1 = false ↔ queue.items.length = queue.capacity := by
  unfold push
  split_ifs with hfull <;> simp [hfull]

theorem capacity_push (queue : LossyQueue α) (item : α) :
    (queue.push item).2.capacity = queue.capacity := by
  unfold push
  split_ifs <;> rfl

/-- The items of the queue grow by the accepted item only. -/
theorem items_push (queue : LossyQueue α) (item : α) :
    (queue.push item).2.items = queue.items ++ if (queue.push item).1 then [item] else [] := by
  unfold push
  split_ifs <;> simp_all

/-- What is not taken is lost. -/
theorem lost_push (queue : LossyQueue α) (item : α) :
    (queue.push item).2.lost = queue.lost + if (queue.push item).1 then 0 else 1 := by
  unfold push
  split_ifs <;> simp_all

/-- What is not taken is to be reported. -/
theorem unreported_push (queue : LossyQueue α) (item : α) :
    (queue.push item).2.unreported = queue.unreported + if (queue.push item).1 then 0 else 1 := by
  unfold push
  split_ifs <;> simp_all

/-- A pop takes the first item. -/
theorem items_pop (queue : LossyQueue α) :
    (queue.pop).1.toList ++ (queue.pop).2.items = queue.items := by
  unfold pop
  cases queue.items <;> rfl

end LossyQueue
