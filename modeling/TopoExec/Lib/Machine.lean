import Mathlib.Algebra.GroupWithZero.Nat
import Mathlib.Algebra.Ring.Int.Defs

/-! # Machine integers

Ranges and wrap-around of the fixed-width integers that show through. A signed operation
whose exact result is out of range has no defined result.
-/

namespace Machine

/-- The number of values of a 64-bit size. -/
def sizeModulus : Nat := 2 ^ 64

def FitsInt32 (x : Int) : Prop := -2 ^ 31 ≤ x ∧ x < 2 ^ 31

def FitsInt64 (x : Int) : Prop := -2 ^ 63 ≤ x ∧ x < 2 ^ 63

instance (x : Int) : Decidable (FitsInt32 x) := inferInstanceAs (Decidable (_ ∧ _))

instance (x : Int) : Decidable (FitsInt64 x) := inferInstanceAs (Decidable (_ ∧ _))

/-- The result of a signed 64-bit operation, from the exact one. -/
def int64 (exact : Int) : Option Int := if FitsInt64 exact then some exact else none

theorem int64_of_fits {exact : Int} (h : FitsInt64 exact) : int64 exact = some exact := if_pos h

theorem int64_of_not_fits {exact : Int} (h : ¬ FitsInt64 exact) : int64 exact = none := if_neg h

/-- A test of the result gives the exact answer iff the result is in range. -/
theorem int64_map_eq_some_iff {exact : Int} {test : Int → Bool} :
    (int64 exact).map test = some (test exact) ↔ FitsInt64 exact := by
  constructor
  · intro h
    apply Classical.byContradiction
    intro hout
    rw [int64_of_not_fits hout] at h
    cases h
  · intro h
    rw [int64_of_fits h]
    rfl

end Machine
