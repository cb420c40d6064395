import Mathlib.Data.List.Forall2

/-! # Checks that accept more

A check returns a result or an error. `Accepts x y` says that `y` returns what `x`
returns wherever `x` does not fail; the errors of the two are not compared. The rules
follow the ways in which checks are put together, so that two readers with the same
shape are compared place by place.
-/

namespace Check

variable {ε α β : Type}

/-- Fail where the condition holds. -/
def refuse (condition : Prop) [Decidable condition] (error : ε) : Except ε Unit :=
  if condition then .error error else .ok ()

theorem refuse_eq_ok {condition : Prop} [Decidable condition] {error : ε} :
    refuse condition error = .ok () ↔ ¬ condition := by
  unfold refuse
  split_ifs with h
  · simp [h]
  · simp [h]

def Accepts (x y : Except ε α) : Prop := ∀ a, x = .ok a → y = .ok a

namespace Accepts

theorem refl (x : Except ε α) : Accepts x x := fun _ h => h

theorem error (e : ε) (y : Except ε α) : Accepts (.error e) y := by
  intro a h
  cases h

/-- What is accepted first is accepted in a sequence. -/
theorem bind {x y : Except ε α} {f g : α → Except ε β} (h : Accepts x y)
    (hf : ∀ a, Accepts (f a) (g a)) : Accepts (x >>= f) (y >>= g) := by
  cases x with
  | error e => exact error e _
  | ok a =>
      rw [h a rfl]
      exact hf a

/-- A weaker condition refuses less. -/
theorem refuse {p q : Prop} [Decidable p] [Decidable q] {e e' : ε} (h : q → p) :
    Accepts (refuse p e) (refuse q e') := by
  intro a ha
  exact refuse_eq_ok.mpr fun hq => refuse_eq_ok.mp ha (h hq)

/-- Lists of the same length, read place by place. -/
theorem mapM_forall₂ {γ : Type} {f : α → Except ε β} {g : γ → Except ε β} {l : List α}
    {l' : List γ} (h : List.Forall₂ (fun a c => Accepts (f a) (g c)) l l') :
    Accepts (l.mapM f) (l'.mapM g) := by
  induction h with
  | nil => exact refl _
  | cons hhead _ ih =>
      rw [List.mapM_cons, List.mapM_cons]
      apply bind hhead
      intro b
      apply bind ih
      intro bs
      exact refl _

/-- By induction on the list. -/
theorem mapM {f g : α → Except ε β} (h : ∀ a, Accepts (f a) (g a)) (l : List α) :
    Accepts (l.mapM f) (l.mapM g) := by
  apply mapM_forall₂
  rw [List.forall₂_same]
  exact fun a _ => h a

theorem forM {f g : α → Except ε PUnit} (h : ∀ a, Accepts (f a) (g a)) (l : List α) :
    Accepts (l.forM f) (l.forM g) := by
  induction l with
  | nil => exact refl _
  | cons a l ih =>
      change Accepts (f a >>= fun _ => l.forM f) (g a >>= fun _ => l.forM g)
      apply bind (h a)
      intro _
      exact ih

theorem foldlM {σ : Type} {f g : σ → α → Except ε σ} (h : ∀ s a, Accepts (f s a) (g s a))
    (s : σ) (l : List α) : Accepts (l.foldlM f s) (l.foldlM g s) := by
  induction l generalizing s with
  | nil => exact refl _
  | cons a l ih =>
      rw [List.foldlM_cons, List.foldlM_cons]
      apply bind (h s a)
      intro s'
      exact ih s'

end Accepts

/-- A list is mapped when each of its elements is. -/
theorem mapM_eq_ok {f : α → Except ε β} {l : List α} {l' : List β} :
    l.mapM f = .ok l' ↔ List.Forall₂ (fun a b => f a = .ok b) l l' := by
  induction l generalizing l' with
  | nil =>
      rw [List.forall₂_nil_left_iff]
      constructor
      · intro h
        cases h
        rfl
      · rintro rfl
        rfl
  | cons a l ih =>
      rw [List.mapM_cons, List.forall₂_cons_left_iff]
      constructor
      · intro h
        cases ha : f a with
        | error e =>
            rw [ha] at h
            cases h
        | ok b =>
            cases hl : l.mapM f with
            | error e =>
                rw [ha, hl] at h
                cases h
            | ok bs =>
                rw [ha, hl] at h
                cases h
                exact ⟨b, bs, rfl, ih.mp hl, rfl⟩
      · rintro ⟨b, bs, hb, hbs, rfl⟩
        rw [hb, ih.mpr hbs]
        rfl

end Check
