import Mathlib.Data.Finset.Card

/-! # Searching for a free name

A loop that tries one candidate after the other until it finds one that is not in use.
The candidates after the first are the members of a sequence without repetitions, so the
loop ends: each round either uses up one of the names in use, or is the last one.
-/

namespace Fresh

variable {α : Type} [DecidableEq α] (used : List α) (numbered : Nat → α)

open Classical in
/-- The names in use that the sequence reaches from `next` on. -/
noncomputable def ahead (next : Nat) : Finset α :=
  used.toFinset.filter fun name => ∃ n, next ≤ n ∧ numbered n = name

variable {used numbered}

theorem mem_ahead {next : Nat} {name : α} :
    name ∈ ahead used numbered next ↔ name ∈ used ∧ ∃ n, next ≤ n ∧ numbered n = name := by
  classical
  rw [ahead, Finset.mem_filter, List.mem_toFinset]

theorem ahead_subset (used : List α) (numbered : Nat → α) (next : Nat) :
    ahead used numbered (next + 1) ⊆ ahead used numbered next := by
  intro name hname
  obtain ⟨hused, n, hn, hname⟩ := mem_ahead.1 hname
  exact mem_ahead.2 ⟨hused, n, by omega, hname⟩

/-- A taken member of the sequence is behind after its round. -/
theorem card_ahead_lt (hnumbered : Function.Injective numbered) {next : Nat}
    (h : numbered next ∈ used) :
    (ahead used numbered (next + 1)).card < (ahead used numbered next).card := by
  apply Finset.card_lt_card
  refine ⟨ahead_subset used numbered next, ?_⟩
  intro hsubset
  obtain ⟨-, n, hn, heq⟩ := mem_ahead.1 (hsubset (mem_ahead.2 ⟨h, next, Nat.le_refl _, rfl⟩))
  have := hnumbered heq
  omega

variable (used numbered)

/-- The loop, at the candidate that is tried next; `next` is the number of the one after
it. -/
def search (hnumbered : Function.Injective numbered) (candidate : α) (next : Nat) : α :=
  if candidate ∈ used then search hnumbered (numbered next) (next + 1) else candidate
termination_by (ahead used numbered next).card + if candidate ∈ used then 1 else 0
decreasing_by
  rename_i hcandidate
  rw [if_pos hcandidate]
  by_cases hnext : numbered next ∈ used
  · have := card_ahead_lt hnumbered hnext
    rw [if_pos hnext]
    omega
  · have := Finset.card_le_card (ahead_subset used numbered next)
    rw [if_neg hnext]
    omega

variable {used numbered} {hnumbered : Function.Injective numbered}

theorem search_notMem (candidate : α) (next : Nat) :
    search used numbered hnumbered candidate next ∉ used := by
  fun_induction search used numbered hnumbered candidate next with
  | case1 candidate next hmem ih => exact ih
  | case2 candidate next hmem => exact hmem

/-- What holds of all candidates holds of the result. -/
theorem search_of_forall {P : α → Prop} {candidate : α} (next : Nat) (hcandidate : P candidate)
    (hnumbers : ∀ n, P (numbered n)) : P (search used numbered hnumbered candidate next) := by
  fun_induction search used numbered hnumbered candidate next with
  | case1 candidate next hmem ih => exact ih (hnumbers next)
  | case2 candidate next hmem => exact hcandidate

end Fresh
