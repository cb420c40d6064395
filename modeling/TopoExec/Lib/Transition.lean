import Mathlib.Algebra.GroupWithZero.Nat
import Mathlib.Algebra.Order.Group.Nat
import Mathlib.Algebra.BigOperators.Group.List.Basic
import Mathlib.Tactic.Common

/-! # Runs of a partial step function

A system is a step function that says whether an action is possible and what it leads to.
A run is a list of actions in the order in which they happened. Nothing is assumed about who
takes the next action, so what holds of all runs holds of every interleaving.
-/

namespace Transition

variable {σ α : Type*} {step : σ → α → Option σ} {s s' s'' : σ}

/-- The state after some actions; `none` if one of them was not possible. -/
def run (step : σ → α → Option σ) : σ → List α → Option σ
  | s, [] => some s
  | s, a :: as => (step s a).bind fun s' => run step s' as

@[simp] theorem run_nil : run step s [] = some s := rfl

theorem run_cons_eq_some {a : α} {as : List α} :
    run step s (a :: as) = some s'' ↔ ∃ s', step s a = some s' ∧ run step s' as = some s'' :=
  Option.bind_eq_some_iff

/-! ## Invariants -/

/-- What every step keeps, every run keeps. -/
theorem run_keeps {I : σ → Prop} (hstep : ∀ {s s' a}, I s → step s a = some s' → I s')
    {as : List α} (hs : I s) (hrun : run step s as = some s') : I s' := by
  induction as generalizing s with
  | nil => cases hrun; exact hs
  | cons a as ih =>
      obtain ⟨s₁, hfirst, hrest⟩ := run_cons_eq_some.mp hrun
      exact ih (hstep hs hfirst) hrest

/-! ## Progress -/

/-- None of the actions is possible. -/
def Stuck (step : σ → α → Option σ) (internal : α → Prop) (s : σ) : Prop :=
  ∀ a, internal a → step s a = none

/-- The rank falls with every step, except for what the action adds. -/
theorem run_length_le {rank : σ → ℕ} {added : α → ℕ} {I : σ → Prop}
    (hkeep : ∀ {s s' a}, I s → step s a = some s' → I s')
    (hrank : ∀ {s s' a}, I s → step s a = some s' → rank s' + 1 ≤ rank s + added a)
    {as : List α} (hs : I s) (hrun : run step s as = some s') :
    as.length + rank s' ≤ rank s + (as.map added).sum := by
  induction as generalizing s with
  | nil => cases hrun; simp
  | cons a as ih =>
      obtain ⟨s₁, hfirst, hrest⟩ := run_cons_eq_some.mp hrun
      have hle := ih (hkeep hs hfirst) hrest
      have hfall := hrank hs hfirst
      simp only [List.length_cons, List.map_cons, List.sum_cons]
      omega

/-- Where actions of a kind add nothing, they alone lead to a state in which none of them is
possible. -/
theorem exists_stuck {rank : σ → ℕ} {added : α → ℕ} {internal : α → Prop} {I : σ → Prop}
    (hkeep : ∀ {s s' a}, I s → step s a = some s' → I s')
    (hrank : ∀ {s s' a}, I s → step s a = some s' → rank s' + 1 ≤ rank s + added a)
    (hadded : ∀ {a}, internal a → added a = 0) (hs : I s) :
    ∃ as s', (∀ a ∈ as, internal a) ∧ run step s as = some s' ∧ Stuck step internal s' := by
  induction hn : rank s using Nat.strong_induction_on generalizing s with
  | _ n ih =>
      by_cases hstuck : Stuck step internal s
      · exact ⟨[], s, by simp, rfl, hstuck⟩
      · unfold Stuck at hstuck
        push Not at hstuck
        obtain ⟨a, ha, hpossible⟩ := hstuck
        obtain ⟨s₁, hfirst⟩ := Option.ne_none_iff_exists'.mp hpossible
        have hfall := hrank hs hfirst
        rw [hadded ha, Nat.add_zero, hn] at hfall
        obtain ⟨as, s', has, hrest, hs'⟩ := ih (rank s₁) hfall (hkeep hs hfirst) rfl
        refine ⟨a :: as, s', ?_, run_cons_eq_some.mpr ⟨s₁, hfirst, hrest⟩, hs'⟩
        simpa using ⟨ha, has⟩

end Transition
