import Mathlib.Data.List.Basic

/-! # Histories

A history is a list of events that grows at its end. `Each P` says that every
event is allowed after the events before it; what a growing history has to prove
is said about the new events only.
-/

namespace History

variable {ε : Type} {trace events pre post pre' post' : List ε} {e e' : ε}

/-- Every event is allowed after the events before it. -/
def Each (P : List ε → ε → Prop) (trace : List ε) : Prop :=
  ∀ pre e post, trace = pre ++ e :: post → P pre e

/-- An event of a longer history is an old one or a new one. -/
theorem append_split (h : trace ++ events = pre ++ e :: post) :
    (∃ rest, trace = pre ++ e :: rest ∧ post = rest ++ events) ∨
      ∃ rest, pre = trace ++ rest ∧ events = rest ++ e :: post := by
  rcases List.append_eq_append_iff.mp h with ⟨rest, hpre, hevents⟩ | ⟨rest, htrace, hrest⟩
  · exact Or.inr ⟨rest, hpre, hevents⟩
  · -- the event is in the old history, or it is the first new one
    cases rest with
    | nil => exact Or.inr ⟨[], by simpa using htrace.symm, by simpa using hrest.symm⟩
    | cons first rest =>
        rw [List.cons_append, List.cons.injEq] at hrest
        rcases hrest with ⟨rfl, rfl⟩
        exact Or.inl ⟨rest, htrace, rfl⟩

/-- Of two events of one history, one is before the other, or they are the same. -/
theorem split_trichotomy (h : pre ++ e :: post = pre' ++ e' :: post') :
    (∃ between, pre' = pre ++ e :: between ∧ post = between ++ e' :: post') ∨
      (pre = pre' ∧ e = e' ∧ post = post') ∨
      ∃ between, pre = pre' ++ e' :: between ∧ post' = between ++ e :: post := by
  rcases append_split h with ⟨rest, hpre, hpost⟩ | ⟨rest, hpre, hpost⟩
  · exact Or.inr (Or.inr ⟨rest, hpre, hpost⟩)
  · cases rest with
    | nil =>
        rw [List.nil_append, List.cons.injEq] at hpost
        exact Or.inr (Or.inl ⟨by simpa using hpre.symm, hpost.1, hpost.2⟩)
    | cons first rest =>
        rw [List.cons_append, List.cons.injEq] at hpost
        rcases hpost with ⟨rfl, hpost⟩
        exact Or.inl ⟨rest, hpre, hpost⟩

variable {P : List ε → ε → Prop}

theorem Each.append (h : Each P trace)
    (hnew : ∀ pre e post, events = pre ++ e :: post → P (trace ++ pre) e) :
    Each P (trace ++ events) := by
  intro pre e post hsplit
  rcases append_split hsplit with ⟨rest, htrace, _⟩ | ⟨rest, rfl, hevents⟩
  · exact h pre e rest htrace
  · exact hnew rest e post hevents

theorem Each.of_append (h : Each P (trace ++ events)) : Each P trace := by
  intro pre e post htrace
  refine h pre e (post ++ events) ?_
  rw [htrace, List.append_assoc, List.cons_append]

theorem Each.append_one (h : Each P trace) (hnew : P trace e) : Each P (trace ++ [e]) := by
  refine h.append fun pre e' post hevents => ?_
  rcases List.singleton_eq_append_iff.mp hevents with ⟨rfl, hcons⟩ | ⟨_, hcons⟩
  · rw [List.cons.injEq] at hcons
    rw [hcons.1, List.append_nil]
    exact hnew
  · cases hcons

/-- Events that are allowed everywhere. -/
theorem Each.append_free (h : Each P trace) (hfree : ∀ e ∈ events, ∀ pre, P pre e) :
    Each P (trace ++ events) := by
  refine h.append fun pre e post hevents => hfree e ?_ _
  rw [hevents]
  exact List.mem_append_right _ (List.mem_cons_self ..)

end History
