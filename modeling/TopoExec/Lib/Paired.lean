import Mathlib.Data.List.Forall2

/-! # Paired lists

Two lists of the same length, each element related to the one at its place in the other.
-/

namespace Paired

variable {α β : Type} {R : α → β → Prop} {l : List α} {l' : List β}

/-- Every element of the second list has its partner in the first. -/
theorem exists_left (h : List.Forall₂ R l l') {b : β} (hb : b ∈ l') : ∃ a ∈ l, R a b := by
  induction h with
  | nil => exact absurd hb List.not_mem_nil
  | cons hhead _ ih =>
      rcases List.mem_cons.mp hb with rfl | htail
      · exact ⟨_, List.mem_cons_self .., hhead⟩
      · obtain ⟨a, ha, hR⟩ := ih htail
        exact ⟨a, List.mem_cons_of_mem _ ha, hR⟩

theorem getElem?_left (h : List.Forall₂ R l l') {i : Nat} {b : β} (hb : l'[i]? = some b) :
    ∃ a, l[i]? = some a ∧ R a b := by
  induction h generalizing i with
  | nil => simp at hb
  | cons hab _ ih =>
      cases i with
      | zero =>
          cases hb
          exact ⟨_, rfl, hab⟩
      | succ i => exact ih hb

/-- What the partners agree on can be looked for in either list. -/
theorem exists_mem_iff (h : List.Forall₂ R l l') {P : α → Prop} {Q : β → Prop}
    (hagree : ∀ a b, R a b → (P a ↔ Q b)) : (∃ a ∈ l, P a) ↔ ∃ b ∈ l', Q b := by
  constructor
  · rintro ⟨a, ha, hP⟩
    obtain ⟨b, hb, hR⟩ := exists_left h.flip ha
    exact ⟨b, hb, (hagree a b hR).mp hP⟩
  · rintro ⟨b, hb, hQ⟩
    obtain ⟨a, ha, hR⟩ := exists_left h hb
    exact ⟨a, ha, (hagree a b hR).mpr hQ⟩

/-- A function that may fail, applied to each element. -/
theorem mapM_eq_some {f : α → Option β} :
    l.mapM f = some l' ↔ List.Forall₂ (fun a b => f a = some b) l l' := by
  induction l generalizing l' with
  | nil => simp [eq_comm]
  | cons a l ih =>
      rw [List.mapM_cons, List.forall₂_cons_left_iff]
      simp only [Option.bind_eq_bind, Option.bind_eq_some_iff, Option.pure_def, Option.some.injEq,
        ih]
      constructor
      · rintro ⟨b, hb, bs, hbs, rfl⟩
        exact ⟨b, bs, hb, hbs, rfl⟩
      · rintro ⟨b, bs, hb, hbs, rfl⟩
        exact ⟨b, hb, bs, hbs, rfl⟩

end Paired
