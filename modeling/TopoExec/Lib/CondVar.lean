import Mathlib.Data.Finset.Card
import Mathlib.Data.List.Perm.Basic
import Mathlib.Tactic.Common

/-! # Condition variables

A condition variable is the set of the threads that are asleep on it and the notifications
that are still to come: a notification is sent after the lock was given back, so anything may
happen between a change of the shared state and the notification that it calls for. A thread
can also wake up without one.

The threads that share the variable do work that the monitor holds for them. `Watched` is the
invariant by which no notification is lost: as long as a thread sleeps, whatever there is to do
has a thread that is about to look, or a notification that is to come.
-/

namespace Threads

variable {τ : Type*} {p : τ → Bool} {threads : List τ} {i : ℕ} {old new : τ}

/-- The numbers of the threads of which something holds. -/
def places (p : τ → Bool) (threads : List τ) : Finset ℕ :=
  (Finset.range threads.length).filter fun i => (threads[i]?).any p = true

/-- A place has a thread with the property. -/
theorem mem_places : i ∈ places p threads ↔ ∃ thread, threads[i]? = some thread ∧ p thread := by
  simp only [places, Finset.mem_filter, Finset.mem_range, Option.any_eq_true]
  constructor
  · rintro ⟨-, thread, hthread, hp⟩
    exact ⟨thread, hthread, hp⟩
  · rintro ⟨thread, hthread, hp⟩
    exact ⟨(List.getElem?_eq_some_iff.mp hthread).1, thread, hthread, hp⟩

/-- There are as many places as threads with the property. -/
theorem card_places (p : τ → Bool) (threads : List τ) :
    (places p threads).card = threads.countP p := by
  induction threads using List.reverseRecOn with
  | nil => rfl
  | append_singleton threads thread ih =>
      have hothers : (Finset.range threads.length).filter
          (fun i => ((threads ++ [thread])[i]?).any p = true) = places p threads := by
        apply Finset.filter_congr
        intro i hi
        rw [List.getElem?_append_left (Finset.mem_range.mp hi)]
      have hlast : ((threads ++ [thread])[threads.length]?).any p = p thread := by simp
      rw [places, List.length_append, List.length_singleton, Finset.range_add_one,
        Finset.filter_insert, hothers, hlast, List.countP_append, List.countP_singleton, ← ih]
      split_ifs with hp
      · rw [Finset.card_insert_of_notMem]
        intro hmem
        exact Finset.notMem_range_self (Finset.mem_filter.mp hmem).1
      · rfl

/-- What one thread is put in the place of. -/
theorem set_perm (new : τ) (h : threads[i]? = some old) :
    (old :: threads.set i new).Perm (new :: threads) := by
  induction threads generalizing i with
  | nil => simp at h
  | cons first rest ih =>
      cases i with
      | zero =>
          cases h
          exact List.Perm.swap new old rest
      | succ i =>
          have hrest : (old :: rest.set i new).Perm (new :: rest) := ih h
          calc (old :: first :: rest.set i new).Perm (first :: old :: rest.set i new) :=
                List.Perm.swap first old _
            _ |>.Perm (first :: new :: rest) := hrest.cons first
            _ |>.Perm (new :: first :: rest) := List.Perm.swap new first rest

/-- How many threads there are of a kind, when one goes from one place to another. -/
theorem countP_set (new : τ) (h : threads[i]? = some old) :
    (p old).toNat + (threads.set i new).countP p = (p new).toNat + threads.countP p := by
  have hcount := (set_perm new h).countP_eq p
  rw [List.countP_cons, List.countP_cons] at hcount
  cases hold : p old <;> cases hnew : p new <;> simp [hold, hnew] at hcount ⊢ <;> omega

end Threads

/-- The threads asleep, and the calls of `notify_one` and `notify_all` that are to come. -/
structure CondVar where
  asleep : Finset ℕ := ∅
  ones : ℕ := 0
  alls : ℕ := 0
deriving DecidableEq

namespace CondVar

/-- What lets a thread wake up. `one none` is a `notify_one` that meets no sleeping thread. -/
inductive Wakeup where
  | one (thread : Option ℕ)
  | all
  | spurious (thread : ℕ)
deriving DecidableEq, Repr

/-- A notification that was owed to the threads, not a spurious one. -/
def Wakeup.notifies : Wakeup → Bool
  | .spurious _ => false
  | _ => true

variable (cv : CondVar)

/-- A thread goes to sleep. -/
def wait (thread : ℕ) : CondVar := { cv with asleep := insert thread cv.asleep }

/-- There is going to be a `notify_one`. -/
def oweOne : CondVar := { cv with ones := cv.ones + 1 }

/-- There is going to be a `notify_all`. -/
def oweAll : CondVar := { cv with alls := cv.alls + 1 }

/-- A `notify_all` in the section itself: nobody sleeps any more when the lock is given back. -/
def wakeAll : CondVar := { cv with asleep := ∅ }

/-- `notify_one` wakes any one of the sleeping threads, if there is one. -/
def wakeup : Wakeup → Option CondVar
  | .one (some thread) =>
      if 0 < cv.ones ∧ thread ∈ cv.asleep then
        some { cv with asleep := cv.asleep.erase thread, ones := cv.ones - 1 }
      else none
  | .one none =>
      if 0 < cv.ones ∧ cv.asleep = ∅ then some { cv with ones := cv.ones - 1 } else none
  | .all => if 0 < cv.alls then some { cv with asleep := ∅, alls := cv.alls - 1 } else none
  | .spurious thread =>
      if thread ∈ cv.asleep then some { cv with asleep := cv.asleep.erase thread } else none

section

variable {cv} {cv' : CondVar} {thread : ℕ}

@[simp] theorem asleep_wait : (cv.wait thread).asleep = insert thread cv.asleep := rfl
@[simp] theorem ones_wait : (cv.wait thread).ones = cv.ones := rfl
@[simp] theorem alls_wait : (cv.wait thread).alls = cv.alls := rfl
@[simp] theorem asleep_oweOne : cv.oweOne.asleep = cv.asleep := rfl
@[simp] theorem ones_oweOne : cv.oweOne.ones = cv.ones + 1 := rfl
@[simp] theorem alls_oweOne : cv.oweOne.alls = cv.alls := rfl
@[simp] theorem asleep_oweAll : cv.oweAll.asleep = cv.asleep := rfl
@[simp] theorem ones_oweAll : cv.oweAll.ones = cv.ones := rfl
@[simp] theorem alls_oweAll : cv.oweAll.alls = cv.alls + 1 := rfl
@[simp] theorem asleep_wakeAll : cv.wakeAll.asleep = ∅ := rfl

/-- What a wake-up can do. -/
inductive Woken (cv : CondVar) : Wakeup → CondVar → Prop where
  | one {thread : ℕ} (hones : 0 < cv.ones) (hthread : thread ∈ cv.asleep) :
      Woken cv (.one (some thread))
        { cv with asleep := cv.asleep.erase thread, ones := cv.ones - 1 }
  | nobody (hones : 0 < cv.ones) (hasleep : cv.asleep = ∅) :
      Woken cv (.one none) { cv with ones := cv.ones - 1 }
  | all (halls : 0 < cv.alls) : Woken cv .all { cv with asleep := ∅, alls := cv.alls - 1 }
  | spurious {thread : ℕ} (hthread : thread ∈ cv.asleep) :
      Woken cv (.spurious thread) { cv with asleep := cv.asleep.erase thread }

/-- A wakeup wakes a sleeper, nobody, or all of them. -/
theorem wakeup_woken {signal : Wakeup} (h : cv.wakeup signal = some cv') :
    Woken cv signal cv' := by
  unfold wakeup at h
  split at h
  · next thread =>
      split_ifs at h with hcan
      cases h
      exact .one hcan.1 hcan.2
  · split_ifs at h with hcan
    cases h
    exact .nobody hcan.1 hcan.2
  · split_ifs at h with hcan
    cases h
    exact .all hcan
  · next thread =>
      split_ifs at h with hcan
      cases h
      exact .spurious hcan

/-- A wakeup puts nobody to sleep. -/
theorem Woken.subset {signal : Wakeup} (h : Woken cv signal cv') : cv'.asleep ⊆ cv.asleep := by
  cases h with
  | one => exact Finset.erase_subset _ _
  | nobody => exact subset_rfl
  | all => exact Finset.empty_subset _
  | spurious => exact Finset.erase_subset _ _

/-- Where somebody still sleeps, a wake-up has left the owed notifications to all alone. -/
theorem Woken.alls {signal : Wakeup} (h : Woken cv signal cv') (hasleep : cv'.asleep ≠ ∅) :
    cv.asleep ≠ ∅ ∧ cv'.alls = cv.alls := by
  refine ⟨fun hempty => hasleep (Finset.subset_empty.mp (hempty ▸ h.subset)), ?_⟩
  cases h with
  | all => exact absurd rfl hasleep
  | one => rfl
  | nobody => rfl
  | spurious => rfl

/-! ## The threads that sleep

`p` holds of the threads in their call of `wait`, which alone can be asleep. -/

section

open Threads

variable {τ : Type*} {p : τ → Bool} {threads : List τ} {i : ℕ}

/-- Those that sleep are among the threads with the property. -/
theorem card_asleep_le (h : cv.asleep ⊆ places p threads) :
    cv.asleep.card ≤ threads.countP p := by
  have hcard := Finset.card_le_card h
  rwa [card_places] at hcard

/-- A thread that waits and is awake is one more. -/
theorem card_asleep_lt (h : cv.asleep ⊆ places p threads) (hi : i ∈ places p threads)
    (hawake : i ∉ cv.asleep) : cv.asleep.card < threads.countP p := by
  have hcard := Finset.card_le_card (Finset.insert_subset hi h)
  rwa [Finset.card_insert_of_notMem hawake, card_places] at hcard

/-- All the threads that wait are asleep. -/
theorem card_asleep_eq (h : cv.asleep ⊆ places p threads) (hall : places p threads ⊆ cv.asleep) :
    cv.asleep.card = threads.countP p := by
  rw [← hall.antisymm h, card_places]

/-- The threads that sleep stay where they are. -/
theorem getElem?_set_of_asleep {thread : τ} (h : ∀ j ∈ cv.asleep, threads[j]? = some thread)
    (hawake : i ∉ cv.asleep) (new : τ) :
    ∀ j ∈ cv.asleep, (threads.set i new)[j]? = some thread := by
  intro j hj
  have hne : i ≠ j := fun hsame => hawake (hsame ▸ hj)
  rw [List.getElem?_set_ne hne]
  exact h j hj

end

/-- Nobody is owed a notification. -/
def Quiet (cv : CondVar) : Prop := cv.ones = 0 ∧ cv.alls = 0

/-- A notification that is owed can be sent. -/
theorem quiet_of_stuck (h : ∀ signal : Wakeup, signal.notifies = true → cv.wakeup signal = none) :
    cv.Quiet := by
  constructor
  · by_contra hones
    have hpos : 0 < cv.ones := Nat.pos_of_ne_zero hones
    by_cases hasleep : cv.asleep = ∅
    · have hnone := h (.one none) rfl
      simp [wakeup, hpos, hasleep] at hnone
    · obtain ⟨thread, hthread⟩ := Finset.nonempty_iff_ne_empty.mpr hasleep
      have hsome := h (.one (some thread)) rfl
      simp [wakeup, hpos, hthread] at hsome
  · by_contra halls
    have hall := h .all rfl
    simp [wakeup, Nat.pos_of_ne_zero halls] at hall

/-! ## No notification is lost

`waiting` is the number of the threads that are in their call of `wait`, asleep or about to
look at the shared state, and `work` is what they would find there. -/

/-- As long as a thread sleeps, there is for each piece of work a thread that is going to look
or a notification that is to come, unless all are going to be woken. -/
def Watched (work waiting : ℕ) (cv : CondVar) : Prop :=
  cv.asleep ≠ ∅ → cv.alls = 0 → work + cv.asleep.card ≤ waiting + cv.ones

section

variable {work work' waiting waiting' : ℕ}

theorem watched_of_asleep_eq_empty (h : cv.asleep = ∅) : Watched work waiting cv :=
  fun hasleep => absurd h hasleep

/-- Once all are going to be woken nothing can be lost. -/
theorem watched_oweAll : Watched work waiting cv.oweAll := by
  intro _ halls
  simp at halls

/-- New work comes with a notification. -/
theorem Watched.oweOne (h : Watched work waiting cv) : Watched (work + 1) waiting cv.oweOne := by
  intro hasleep halls
  have hwatched := h hasleep halls
  simp only [asleep_oweOne, ones_oweOne]
  omega

/-- Less work, or more threads that wait for it, is watched as well. -/
theorem Watched.mono (h : Watched work waiting cv) (hwork : work' + waiting ≤ work + waiting') :
    Watched work' waiting' cv := by
  intro hasleep halls
  have hwatched := h hasleep halls
  omega

/-- A thread that finds no work goes to sleep. -/
theorem watched_wait (hthread : thread ∉ cv.asleep) (hwaiting : cv.asleep.card < waiting) :
    Watched 0 waiting (cv.wait thread) := by
  intro _ _
  rw [asleep_wait, Finset.card_insert_of_notMem hthread]
  omega

/-- A wakeup keeps the work watched. -/
theorem Watched.woken (h : Watched work waiting cv) {signal : Wakeup}
    (hwoken : Woken cv signal cv') : Watched work waiting cv' := by
  cases hwoken with
  | @one thread hones hthread =>
      -- the notification is gone, and the thread is going to look
      intro _ halls
      have hwatched := h (Finset.ne_empty_of_mem hthread) halls
      have hcard := Finset.card_erase_of_mem hthread
      have hpos := Finset.card_pos.mpr ⟨thread, hthread⟩
      simp only at *
      omega
  | nobody hones hasleep => exact watched_of_asleep_eq_empty hasleep
  | all halls => exact watched_of_asleep_eq_empty rfl
  | @spurious thread hthread =>
      intro _ halls
      have hwatched := h (Finset.ne_empty_of_mem hthread) halls
      have hcard := Finset.card_erase_of_mem hthread
      simp only at *
      omega

/-- Where no notification is to come and all the threads that wait are asleep, there is
nothing to do. -/
theorem Watched.work_eq_zero (h : Watched work waiting cv) (hquiet : cv.Quiet)
    (hasleep : cv.asleep.card = waiting) (hwaiting : 0 < waiting) : work = 0 := by
  have hsome : cv.asleep ≠ ∅ := by
    rintro hempty
    rw [hempty, Finset.card_empty] at hasleep
    omega
  have hwatched := h hsome hquiet.2
  rw [hquiet.1] at hwatched
  omega

end

/-! ## Rank -/

/-- What the variable still has to do for `threads` threads, with the looks that the threads
which wait have before them. -/
def rank (threads waiting : ℕ) (cv : CondVar) : ℕ :=
  2 * cv.ones + (threads + 1) * cv.alls + (waiting - cv.asleep.card)

/-- One owed wakeup weighs two steps. -/
theorem rank_oweOne {threads waiting : ℕ} : rank threads waiting cv.oweOne =
    rank threads waiting cv + 2 := by
  simp only [rank, ones_oweOne, alls_oweOne, asleep_oweOne]
  omega

/-- A wakeup owed to all weighs a step for each thread and one more. -/
theorem rank_oweAll {threads waiting : ℕ} : rank threads waiting cv.oweAll =
    rank threads waiting cv + (threads + 1) := by
  simp only [rank, ones_oweAll, alls_oweAll, asleep_oweAll, Nat.mul_add]
  omega

/-- To wake all adds at most a step for each thread. -/
theorem rank_wakeAll_le {threads waiting : ℕ} (hwaiting : waiting ≤ threads) :
    rank threads waiting cv.wakeAll ≤ rank threads waiting cv + threads := by
  simp only [rank, wakeAll, Finset.card_empty]
  omega

/-- Going to sleep brings the rank down. -/
theorem rank_wait {threads waiting : ℕ} (hthread : thread ∉ cv.asleep)
    (hwaiting : cv.asleep.card < waiting) :
    rank threads waiting (cv.wait thread) + 1 = rank threads waiting cv := by
  simp only [rank, ones_wait, alls_wait, asleep_wait, Finset.card_insert_of_notMem hthread]
  omega

/-- What a wake-up adds: only a spurious one lets a thread look for nothing. -/
def Wakeup.added : Wakeup → ℕ
  | .spurious _ => 2
  | _ => 0

/-- A wakeup brings the rank down, up to what a spurious one adds. -/
theorem Woken.rank_lt {threads waiting : ℕ} {signal : Wakeup} (h : Woken cv signal cv')
    (hasleep : cv.asleep.card ≤ waiting) (hwaiting : waiting ≤ threads) :
    rank threads waiting cv' + 1 ≤ rank threads waiting cv + signal.added := by
  cases h with
  | @one thread hones hthread =>
      have hcard := Finset.card_erase_of_mem hthread
      have hpos := Finset.card_pos.mpr ⟨thread, hthread⟩
      simp only [rank, Wakeup.added]
      omega
  | nobody hones _ =>
      simp only [rank, Wakeup.added]
      omega
  | all halls =>
      -- a notification of all weighs more than all the threads it can wake
      obtain ⟨alls, halls⟩ := Nat.exists_eq_succ_of_ne_zero halls.ne'
      simp only [rank, Wakeup.added, halls, Finset.card_empty, Nat.succ_eq_add_one,
        Nat.add_sub_cancel, Nat.mul_add]
      omega
  | @spurious thread hthread =>
      have hcard := Finset.card_erase_of_mem hthread
      have hpos := Finset.card_pos.mpr ⟨thread, hthread⟩
      simp only [rank, Wakeup.added]
      omega

end

end CondVar
