/-! # Loops that can be left early

A body answers whether the loop goes on. `Outcome P Q` is the postcondition of
such a computation: `P` if it goes on, `Q` if it was left. `forEach_outcome` is
the invariant rule; the invariant may speak about the elements already done.

`report` is the other kind of pass over a list: it never stops and lists what it
finds, where the findings on an element may depend on the elements before it.
-/

namespace Loop

variable {α σ : Type}

/-- Run the body for each element, until it answers `false`. -/
def forEach (body : α → σ → Bool × σ) : List α → σ → Bool × σ
  | [], s => (true, s)
  | a :: rest, s =>
      let result := body a s
      if result.1 then forEach body rest result.2 else result

theorem forEach_map {β : Type} (f : β → α) (body : α → σ → Bool × σ) (l : List β) (s : σ) :
    forEach body (l.map f) s = forEach (fun b => body (f b)) l s := by
  induction l generalizing s with
  | nil => rfl
  | cons b rest ih => simp only [List.map_cons, forEach, ih]

/-- `P` after a computation that goes on, `Q` after one that was left. -/
def Outcome (P Q : σ → Prop) (result : Bool × σ) : Prop :=
  if result.1 then P result.2 else Q result.2

theorem Outcome.goesOn {P Q : σ → Prop} {s : σ} (h : P s) : Outcome P Q (true, s) := h

theorem Outcome.left {P Q : σ → Prop} {s : σ} (h : Q s) : Outcome P Q (false, s) := h

/-- The answer does not matter where both hold. -/
theorem Outcome.both {P Q : σ → Prop} {s : σ} (hP : P s) (hQ : Q s) (answer : Bool) :
    Outcome P Q (answer, s) := by
  cases answer with
  | true => exact hP
  | false => exact hQ

theorem Outcome.of_true {P Q : σ → Prop} {result : Bool × σ} (h : Outcome P Q result)
    (htrue : result.1 = true) : P result.2 := by
  unfold Outcome at h
  rwa [if_pos htrue] at h

theorem Outcome.of_false {P Q : σ → Prop} {result : Bool × σ} (h : Outcome P Q result)
    (hfalse : result.1 = false) : Q result.2 := by
  unfold Outcome at h
  rwa [if_neg (by simp [hfalse])] at h

/-- A weaker outcome. -/
theorem Outcome.mono {P P' Q Q' : σ → Prop} {result : Bool × σ} (h : Outcome P Q result)
    (hP : ∀ s, P s → P' s) (hQ : ∀ s, Q s → Q' s) : Outcome P' Q' result := by
  cases hresult : result.1 with
  | true =>
      unfold Outcome
      rw [if_pos hresult]
      exact hP _ (h.of_true hresult)
  | false =>
      unfold Outcome
      rw [if_neg (by simp [hresult])]
      exact hQ _ (h.of_false hresult)

/-- Go on with `next`, unless the first computation was left. -/
theorem Outcome.bind {P P' Q : σ → Prop} {result : Bool × σ} (h : Outcome P Q result)
    (next : σ → Bool × σ) (hnext : ∀ s, P s → Outcome P' Q (next s)) :
    Outcome P' Q (if result.1 then next result.2 else result) := by
  cases hresult : result.1 with
  | true =>
      rw [if_pos rfl]
      exact hnext _ (h.of_true hresult)
  | false =>
      rw [if_neg (by simp)]
      unfold Outcome
      rw [if_neg (by simp [hresult])]
      exact h.of_false hresult

/-- The invariant rule: what one run of the body keeps, the loop keeps. -/
theorem forEach_outcome {body : α → σ → Bool × σ} {l : List α} {I : List α → σ → Prop}
    {Q : σ → Prop}
    (hbody : ∀ done a rest, l = done ++ a :: rest → ∀ s, I done s →
      Outcome (I (done ++ [a])) Q (body a s)) {s : σ} (h : I [] s) :
    Outcome (I l) Q (forEach body l s) := by
  -- generalized to the rest of the list, after what is done
  suffices hrest : ∀ rest done s, l = done ++ rest → I done s →
      Outcome (I l) Q (forEach body rest s) from hrest l [] s rfl h
  intro rest
  induction rest with
  | nil =>
      intro done s hl hdone
      rw [List.append_nil] at hl
      rw [hl]
      exact hdone
  | cons a rest ih =>
      intro done s hl hdone
      refine (hbody done a rest hl s hdone).bind (forEach body rest) fun s' hs' => ?_
      exact ih (done ++ [a]) s' (by simp [hl]) hs'

/-- The outcome of a property that holds in both cases. -/
theorem Outcome.of_same {Q : σ → Prop} {result : Bool × σ} (h : Q result.2) :
    Outcome Q Q result :=
  Outcome.both h h result.1

/-- Where both ends agree it does not matter how the body ended. -/
theorem Outcome.same {Q : σ → Prop} {result : Bool × σ} (h : Outcome Q Q result) : Q result.2 := by
  cases hresult : result.1 with
  | true => exact h.of_true hresult
  | false => exact h.of_false hresult

/-- The invariant rule for a property that does not speak about the elements. -/
theorem forEach_keeps {body : α → σ → Bool × σ} {Q : σ → Prop}
    (hbody : ∀ a s, Q s → Q (body a s).2) (l : List α) {s : σ} (h : Q s) :
    Q (forEach body l s).2 :=
  (forEach_outcome (I := fun _ => Q) (fun _ a _ _ s hs => Outcome.of_same (hbody a s hs)) h).same

/-! ## Outcomes that a condition decides -/

/-- Under `C` the computation has the outcome `P` or `Q`, and without it it is left
with `B`. -/
def OutcomeBy (C : Prop) (P Q B : σ → Prop) (result : Bool × σ) : Prop :=
  (C → Outcome P Q result) ∧ (¬ C → result.1 = false ∧ B result.2)

/-- A body that is never blamed. -/
theorem OutcomeBy.of_outcome {C : Prop} {P Q B : σ → Prop} {result : Bool × σ} (hC : C)
    (h : Outcome P Q result) : OutcomeBy C P Q B result :=
  ⟨fun _ => h, fun hno => absurd hC hno⟩

theorem OutcomeBy.outcome {C : Prop} {P Q B : σ → Prop} {result : Bool × σ}
    (h : OutcomeBy C P Q B result) : Outcome P (fun s => Q s ∨ B s) result := by
  by_cases hC : C
  · exact (h.1 hC).mono (fun _ hp => hp) fun _ hq => Or.inl hq
  · obtain ⟨hleft, hB⟩ := h.2 hC
    unfold Outcome
    rw [if_neg (by simp [hleft])]
    exact Or.inr hB

/-- The condition holds of every element and state that the loop comes to. -/
def Visits (body : α → σ → Bool × σ) (C : α → σ → Prop) : List α → σ → Prop
  | [], _ => True
  | a :: rest, s => C a s ∧ ((body a s).1 = true → Visits body C rest (body a s).2)

/-- What decides each run of the body decides the loop. -/
theorem forEach_outcomeBy {body : α → σ → Bool × σ} {C : α → σ → Prop} {P Q B : σ → Prop}
    {l : List α} (hbody : ∀ a ∈ l, ∀ s, P s → OutcomeBy (C a s) P Q B (body a s)) {s : σ}
    (h : P s) : OutcomeBy (Visits body C l s) P Q B (forEach body l s) := by
  induction l generalizing s with
  | nil => exact .of_outcome trivial h
  | cons a rest ih =>
      have hone := hbody a List.mem_cons_self s h
      have hrest : ∀ b ∈ rest, ∀ s, P s → OutcomeBy (C b s) P Q B (body b s) :=
        fun b hb => hbody b (List.mem_cons_of_mem a hb)
      unfold Visits forEach
      dsimp only
      cases hgoes : (body a s).1 with
      | true =>
          rw [if_pos rfl]
          -- a body that goes on has done what `C` says, or it would have been left
          have hC : C a s := by
            apply Classical.byContradiction
            intro hno
            have hleft := (hone.2 hno).1
            rw [hgoes] at hleft
            cases hleft
          obtain ⟨hquiet, hloud⟩ := ih hrest ((hone.1 hC).of_true hgoes)
          constructor
          · intro hvisits
            exact hquiet (hvisits.2 rfl)
          · intro hno
            exact hloud fun hvisits => hno ⟨hC, fun _ => hvisits⟩
      | false =>
          rw [if_neg (by simp)]
          constructor
          · intro hvisits
            exact hone.1 hvisits.1
          · intro hno
            exact hone.2 fun hC => hno ⟨hC, by simp⟩

/-! ## Passes that report -/

/-- The findings on each element of the list, given the elements before it. -/
def report {β : Type} (check : List α → α → List β) : List α → List α → List β
  | _, [] => []
  | earlier, a :: rest => check earlier a ++ report check (earlier ++ [a]) rest

/-- Nothing is reported exactly if there is no finding at any place. -/
theorem report_eq_nil {β : Type} {check : List α → α → List β} {earlier l : List α} :
    report check earlier l = [] ↔
      ∀ before a after, l = before ++ a :: after → check (earlier ++ before) a = [] := by
  induction l generalizing earlier with
  | nil => simp [report]
  | cons a rest ih =>
      rw [report, List.append_eq_nil_iff, ih]
      constructor
      · rintro ⟨hhead, hrest⟩ before b after hl
        cases before with
        | nil =>
            rw [List.nil_append, List.cons.injEq] at hl
            rw [List.append_nil, ← hl.1]
            exact hhead
        | cons c before =>
            rw [List.cons_append, List.cons.injEq] at hl
            have := hrest before b after hl.2
            rwa [List.append_assoc, hl.1] at this
      · intro h
        constructor
        · simpa using h [] a rest rfl
        · intro before b after hl
          have := h (a :: before) b after (by rw [hl, List.cons_append])
          rwa [List.append_assoc]

/-- A finding at one place is reported. -/
theorem mem_report {β : Type} {check : List α → α → List β} {earlier before after : List α}
    {a : α} {finding : β} (h : finding ∈ check (earlier ++ before) a) :
    finding ∈ report check earlier (before ++ a :: after) := by
  induction before generalizing earlier with
  | nil =>
      rw [List.append_nil] at h
      exact List.mem_append_left _ h
  | cons b before ih =>
      rw [List.append_cons] at h
      exact List.mem_append_right _ (ih h)

/-- A pass without findings has none on any element. -/
theorem report_eq_nil_mem {β : Type} {check : List α → α → List β} {earlier l : List α}
    (h : report check earlier l = []) {a : α} (ha : a ∈ l) :
    ∃ before, check before a = [] := by
  rcases List.append_of_mem ha with ⟨before, after, hl⟩
  exact ⟨earlier ++ before, report_eq_nil.mp h before a after hl⟩

/-- A check that refuses repeated keys leaves them distinct. -/
theorem report_nodup_append {β κ : Type} {check : List α → α → List β} {key : α → κ}
    (hkey : ∀ earlier a, check earlier a = [] → key a ∉ earlier.map key) {earlier l : List α}
    (hearlier : (earlier.map key).Nodup) (h : report check earlier l = []) :
    ((earlier ++ l).map key).Nodup := by
  induction l generalizing earlier with
  | nil => simpa using hearlier
  | cons a rest ih =>
      rw [report, List.append_eq_nil_iff] at h
      have hnew : ((earlier ++ [a]).map key).Nodup := by
        rw [List.map_append, List.map_singleton, List.nodup_append]
        refine ⟨hearlier, List.pairwise_singleton _ _, ?_⟩
        rintro k hk k' hk' rfl
        rw [List.mem_singleton] at hk'
        exact hkey earlier a h.1 (hk' ▸ hk)
      have := ih hnew h.2
      rwa [List.append_assoc] at this

/-- A pass that reports every key seen before leaves distinct keys behind. -/
theorem report_nodup {β κ : Type} {check : List α → α → List β} {key : α → κ}
    (hkey : ∀ earlier a, check earlier a = [] → key a ∉ earlier.map key) {l : List α}
    (h : report check [] l = []) : (l.map key).Nodup := by
  have hnone : (([] : List α).map key).Nodup := List.Pairwise.nil
  simpa using report_nodup_append hkey hnone h

end Loop
