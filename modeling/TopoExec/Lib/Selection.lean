import Mathlib.Data.List.Perm.Basic
import Mathlib.Data.List.Sublists

/-! # Taking the smallest element of a list

`takeMin` is a search for the first smallest element, which is then erased. The order is given
as the test of a program: `lt x y` says that `x` is smaller.
-/

namespace Selection

variable {α : Type*} {lt : α → α → Bool} {l rest : List α} {best : α}

/-- The first of the smallest elements, and the list without it. -/
def takeMin (lt : α → α → Bool) : List α → Option (α × List α)
  | [] => none
  | x :: l =>
      match takeMin lt l with
      | none => some (x, [])
      | some (best, rest) => if lt best x then some (best, x :: rest) else some (x, l)

/-- What a test has to be for its negation to be an order. -/
structure IsWeakOrder (lt : α → α → Bool) : Prop where
  asymm : ∀ {x y}, lt x y = true → lt y x = false
  trans : ∀ {x y z}, lt y x = false → lt z y = false → lt z x = false

theorem takeMin_isSome (h : l ≠ []) : ∃ best rest, takeMin lt l = some (best, rest) := by
  cases l with
  | nil => exact absurd rfl h
  | cons x l =>
      unfold takeMin
      split
      · exact ⟨x, [], rfl⟩
      · split_ifs
        · exact ⟨_, _, rfl⟩
        · exact ⟨_, _, rfl⟩

theorem takeMin_cons_cases {x : α} (h : takeMin lt (x :: l) = some (best, rest)) :
    (l = [] ∧ best = x ∧ rest = []) ∨
    (∃ others, takeMin lt l = some (best, others) ∧ lt best x = true ∧ rest = x :: others) ∨
    (∃ other others, takeMin lt l = some (other, others) ∧ lt other x = false ∧ best = x ∧
      rest = l) := by
  unfold takeMin at h
  split at h
  · next hnone =>
      cases h
      cases l with
      | nil => exact Or.inl ⟨rfl, rfl, rfl⟩
      | cons y l =>
          obtain ⟨_, _, hsome⟩ := takeMin_isSome (List.cons_ne_nil y l)
          rw [hnone] at hsome
          cases hsome
  · next other others hsome =>
      split_ifs at h with hlt
      · cases h
        exact Or.inr (Or.inl ⟨others, hsome, hlt, rfl⟩)
      · cases h
        exact Or.inr (Or.inr ⟨other, others, hsome, Bool.eq_false_iff.mpr hlt, rfl, rfl⟩)

theorem takeMin_perm (h : takeMin lt l = some (best, rest)) : (best :: rest).Perm l := by
  induction l generalizing best rest with
  | nil => cases h
  | cons x l ih =>
      rcases takeMin_cons_cases h with ⟨rfl, rfl, rfl⟩ | ⟨others, hsome, -, rfl⟩ |
        ⟨other, others, -, -, rfl, rfl⟩
      · exact List.Perm.refl _
      · exact (List.Perm.swap x best others).trans ((ih hsome).cons x)
      · exact List.Perm.refl _

theorem takeMin_mem (h : takeMin lt l = some (best, rest)) : best ∈ l :=
  (takeMin_perm h).subset List.mem_cons_self

theorem takeMin_sublist (h : takeMin lt l = some (best, rest)) : rest.Sublist l := by
  induction l generalizing best rest with
  | nil => cases h
  | cons x l ih =>
      rcases takeMin_cons_cases h with ⟨rfl, rfl, rfl⟩ | ⟨others, hsome, -, rfl⟩ |
        ⟨other, others, -, -, rfl, rfl⟩
      · exact List.nil_sublist _
      · exact (ih hsome).cons_cons x
      · exact List.sublist_cons_self _ _

/-- Nothing that is left is smaller. -/
theorem takeMin_le (hlt : IsWeakOrder lt) (h : takeMin lt l = some (best, rest)) :
    ∀ x ∈ rest, lt x best = false := by
  induction l generalizing best rest with
  | nil => cases h
  | cons x l ih =>
      rcases takeMin_cons_cases h with ⟨rfl, rfl, rfl⟩ | ⟨others, hsome, hless, rfl⟩ |
        ⟨other, others, hsome, hless, rfl, rfl⟩
      · simp
      · -- a smaller one was found behind `x`
        intro y hy
        rcases List.mem_cons.mp hy with rfl | hy
        · exact hlt.asymm hless
        · exact ih hsome y hy
      · -- what is not smaller than the best one behind `x` is not smaller than `x`
        intro y hy
        rcases List.mem_cons.mp ((takeMin_perm hsome).symm.subset hy) with rfl | hother
        · exact hless
        · exact hlt.trans hless (ih hsome y hother)

end Selection
