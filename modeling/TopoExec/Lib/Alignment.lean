import Mathlib.Algebra.GroupWithZero.Nat
import Mathlib.Data.List.Nodup
import Mathlib.Logic.Function.Basic
import Mathlib.Tactic.Common

/-! # Aligned selections from sorted queues

Queues of items with keys that do not decrease from the front to the back. A selection
picks one position of every queue; it is aligned if the keys it picks lie within a slop
of each other. The greedy search looks at the fronts and, while they are not aligned,
skips the front with the smallest key. `Skippable` is its invariant: the positions before
`skipped` belong to no aligned selection.
-/

namespace Alignment

variable {ι α : Type}

section

variable (key : α → Int) (inputs : List ι) (queue : ι → List α) (slop : Int)

/-- The selection picks an item of every queue, and their keys are within the slop. -/
structure Aligned (pick : ι → Nat) : Prop where
  inside : ∀ i ∈ inputs, pick i < (queue i).length
  close : ∀ i ∈ inputs, ∀ j ∈ inputs, ∀ a b, (queue i)[pick i]? = some a →
    (queue j)[pick j]? = some b → key a - key b ≤ slop

/-- No aligned selection picks a position before these. -/
def Skippable (skipped : ι → Nat) : Prop :=
  ∀ pick, Aligned key inputs queue slop pick → ∀ i ∈ inputs, skipped i ≤ pick i

end

variable {key : α → Int} {inputs : List ι} {queue : ι → List α} {slop : Int} {skipped : ι → Nat}

theorem skippable_zero : Skippable key inputs queue slop fun _ => 0 :=
  fun _ _ _ _ => Nat.zero_le _

/-- A queue that is skipped to its end leaves nothing to align. -/
theorem Skippable.exhausted (h : Skippable key inputs queue slop skipped) {i : ι} (hi : i ∈ inputs)
    (hend : (queue i).length ≤ skipped i) (pick : ι → Nat) :
    ¬ Aligned key inputs queue slop pick := by
  intro halign
  have hinside := halign.inside i hi
  have hskipped := h pick halign i hi
  omega

theorem key_le_of_le {i : ι} (hsorted : (queue i).Pairwise fun a b => key a ≤ key b) {k l : Nat}
    {a b : α}
    (hk : (queue i)[k]? = some a) (hl : (queue i)[l]? = some b) (hkl : k ≤ l) : key a ≤ key b := by
  obtain ⟨hkn, rfl⟩ := List.getElem?_eq_some_iff.mp hk
  obtain ⟨hln, rfl⟩ := List.getElem?_eq_some_iff.mp hl
  rcases Nat.eq_or_lt_of_le hkl with rfl | hlt
  · exact Int.le_refl _
  · exact List.pairwise_iff_getElem.mp hsorted k l hkn hln hlt

/-- Two fronts that are too far apart: the lower one can be skipped as well, since the
other queue only goes on with larger keys. -/
theorem Skippable.skip [DecidableEq ι] (h : Skippable key inputs queue slop skipped)
    (hsorted : ∀ i ∈ inputs, (queue i).Pairwise fun a b => key a ≤ key b) {low high : ι}
    (hlow : low ∈ inputs) (hhigh : high ∈ inputs) {a b : α}
    (ha : (queue low)[skipped low]? = some a) (hb : (queue high)[skipped high]? = some b)
    (hfar : slop < key b - key a) :
    Skippable key inputs queue slop (Function.update skipped low (skipped low + 1)) := by
  intro pick halign i hi
  by_cases hil : i = low
  · subst hil
    rw [Function.update_self]
    have hle := h pick halign i hi
    rcases Nat.eq_or_lt_of_le hle with heq | hlt
    · exfalso
      have hinside := halign.inside high hhigh
      have hpick : (queue high)[pick high]? = some ((queue high)[pick high]) :=
        List.getElem?_eq_getElem hinside
      have hlarger := key_le_of_le (hsorted high hhigh) hb hpick (h pick halign high hhigh)
      have hclose := halign.close high hhigh i hi _ a hpick (heq ▸ ha)
      omega
    · exact hlt
  · rw [Function.update_of_ne hil]
    exact h pick halign i hi

/-- One more position skipped in all. -/
theorem sum_skip [DecidableEq ι] (hnd : inputs.Nodup) {low : ι} (hlow : low ∈ inputs) :
    (inputs.map (Function.update skipped low (skipped low + 1))).sum =
      (inputs.map skipped).sum + 1 := by
  induction inputs with
  | nil => exact absurd hlow List.not_mem_nil
  | cons i inputs ih =>
      rw [List.nodup_cons] at hnd
      rw [List.map_cons, List.map_cons, List.sum_cons, List.sum_cons]
      by_cases hi : i = low
      · subst hi
        have hrest :
            inputs.map (Function.update skipped i (skipped i + 1)) = inputs.map skipped := by
          apply List.map_congr_left
          intro j hj
          refine Function.update_of_ne ?_ _ _
          rintro rfl
          exact hnd.1 hj
        rw [hrest, Function.update_self]
        omega
      · have htail : low ∈ inputs := by
          rcases List.mem_cons.mp hlow with heq | hin
          · exact absurd heq.symm hi
          · exact hin
        rw [ih hnd.2 htail, Function.update_of_ne hi]
        omega

end Alignment
