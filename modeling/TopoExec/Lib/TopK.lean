import Mathlib.Data.Finset.Max
import Mathlib.Data.Finset.Card
import Mathlib.Order.Lattice

/-! # The greatest elements of a finite set

`topK k S` holds the `k` greatest elements of `S`, or all of them if there are no
more than `k`: those with fewer than `k` elements of `S` above them. A set that
is cut down to `k` elements after every insertion is `topK k` of everything that
was ever inserted (`topK_insert_topK`).
-/

variable {α : Type*} [LinearOrder α]

/-- The elements with fewer than `k` elements of the set above them. -/
def topK (k : ℕ) (S : Finset α) : Finset α := S.filter fun x => (S.filter (x < ·)).card < k

namespace TopK

variable {k : ℕ} {S U : Finset α} {x : α}

theorem mem_topK : x ∈ topK k S ↔ x ∈ S ∧ (S.filter (x < ·)).card < k := Finset.mem_filter

theorem subset : topK k S ⊆ S := Finset.filter_subset _ _

/-- Nothing is left out of a set that is small enough. -/
theorem of_card_le (h : S.card ≤ k) : topK k S = S := by
  apply Finset.filter_true_of_mem
  intro x hx
  have hsub : S.filter (x < ·) ⊆ S.erase x := by
    intro y hy
    obtain ⟨hyS, hxy⟩ := Finset.mem_filter.mp hy
    exact Finset.mem_erase.mpr ⟨hxy.ne', hyS⟩
  have hle := Finset.card_le_card hsub
  have herase := Finset.card_erase_lt_of_mem hx
  omega

/-- The least element is the first to go. -/
theorem insert_least {a : α} (ha : ∀ x ∈ S, a < x) (hk : k ≤ S.card) :
    topK k (insert a S) = topK k S := by
  -- there are at least `k` elements above the new one
  have habove : (insert a S).filter (a < ·) = S := by
    ext y
    simp only [Finset.mem_filter, Finset.mem_insert]
    constructor
    · rintro ⟨rfl | hy, hlt⟩
      · exact absurd hlt (lt_irrefl _)
      · exact hy
    · intro hy
      exact ⟨Or.inr hy, ha y hy⟩
  ext x
  rw [mem_topK, mem_topK, Finset.mem_insert]
  by_cases hx : x = a
  · subst hx
    rw [habove]
    constructor
    · rintro ⟨-, hlt⟩
      omega
    · rintro ⟨hmem, -⟩
      exact absurd (ha x hmem) (lt_irrefl _)
  · constructor
    · rintro ⟨hmem, hlt⟩
      have hxS := hmem.resolve_left hx
      rw [Finset.filter_insert, if_neg (ha x hxS).asymm] at hlt
      exact ⟨hxS, hlt⟩
    · rintro ⟨hxS, hlt⟩
      rw [Finset.filter_insert, if_neg (ha x hxS).asymm]
      exact ⟨Or.inr hxS, hlt⟩

theorem card_eq (h : k ≤ S.card) : (topK k S).card = k := by
  induction S using Finset.induction_on_min with
  | empty =>
      rw [Finset.card_empty] at h
      rw [of_card_le (by simp), Finset.card_empty]
      omega
  | insert a S ha ih =>
      have hcard : (insert a S).card = S.card + 1 :=
        Finset.card_insert_of_notMem fun hin => (ha a hin).ne rfl
      rcases Nat.lt_or_ge S.card k with hlt | hle
      · rw [of_card_le (by omega)]
        omega
      · rw [insert_least ha hle]
        exact ih hle

/-- What is above `x` is cut down in the same way. -/
theorem filter_lt : (topK k S).filter (x < ·) = topK k (S.filter (x < ·)) := by
  ext y
  rw [Finset.mem_filter, mem_topK, mem_topK, Finset.mem_filter]
  have habove : x < y → (S.filter (x < ·)).filter (y < ·) = S.filter (y < ·) := by
    intro hxy
    ext z
    simp only [Finset.mem_filter]
    constructor
    · rintro ⟨⟨hz, -⟩, hyz⟩
      exact ⟨hz, hyz⟩
    · rintro ⟨hz, hyz⟩
      exact ⟨⟨hz, hxy.trans hyz⟩, hyz⟩
  constructor
  · rintro ⟨⟨hy, hlt⟩, hxy⟩
    exact ⟨⟨hy, hxy⟩, by rwa [habove hxy]⟩
  · rintro ⟨⟨hy, hxy⟩, hlt⟩
    exact ⟨⟨hy, by rwa [habove hxy] at hlt⟩, hxy⟩

/-- Only the greatest elements matter. -/
theorem between (hsub : topK k S ⊆ U) (hU : U ⊆ S) : topK k U = topK k S := by
  ext x
  constructor
  · intro hx
    obtain ⟨hxU, hlt⟩ := mem_topK.mp hx
    refine mem_topK.mpr ⟨hU hxU, ?_⟩
    -- with `k` elements above `x` in `S`, the greatest `k` of them are in `U`
    by_contra hmany
    have hcard : ((topK k S).filter (x < ·)).card = k := by
      rw [filter_lt]
      exact card_eq (not_lt.mp hmany)
    have hle := Finset.card_le_card (Finset.filter_subset_filter (x < ·) hsub)
    omega
  · intro hx
    obtain ⟨-, hlt⟩ := mem_topK.mp hx
    have hle := Finset.card_le_card (Finset.filter_subset_filter (x < ·) hU)
    exact mem_topK.mpr ⟨hsub hx, by omega⟩

/-- Cutting down before an insertion does not change what is left after it. -/
theorem insert_topK (r : α) : topK k (insert r (topK k S)) = topK k (insert r S) := by
  apply between
  · intro x hx
    obtain ⟨hmem, hlt⟩ := mem_topK.mp hx
    rcases Finset.mem_insert.mp hmem with rfl | hxS
    · exact Finset.mem_insert_self _ _
    · have hle := Finset.card_le_card
        (Finset.filter_subset_filter (x < ·) (Finset.subset_insert r S))
      exact Finset.mem_insert_of_mem (mem_topK.mpr ⟨hxS, by omega⟩)
  · exact Finset.insert_subset_insert r subset

/-- Erasing the least element of a set that is too large. -/
theorem erase_least {a : α} (ha : a ∈ S) (hleast : ∀ x ∈ S, a ≤ x) (hk : k < S.card) :
    topK k (S.erase a) = topK k S := by
  have hless : ∀ x ∈ S.erase a, a < x := by
    intro x hx
    obtain ⟨hne, hxS⟩ := Finset.mem_erase.mp hx
    exact lt_of_le_of_ne (hleast x hxS) hne.symm
  have hcard := Finset.card_erase_of_mem ha
  have hinsert := insert_least hless (show k ≤ (S.erase a).card by omega)
  rw [Finset.insert_erase ha] at hinsert
  exact hinsert.symm

end TopK
