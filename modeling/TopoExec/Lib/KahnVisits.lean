import TopoExec.Lib.Kahn

/-! # Kahn's worklist on names that repeat

The worklist of `Kahn.loop` works on names. If two nodes share one, the name is popped more
than once, and each pop counts for its successors again: the loop may then list a name too
often, not at all, or never stop.

`Balanced` says how often each name has to be popped for the books of the loop to balance.
`order_terminates_iff` shows that the loop stops iff some list of pops balances, and
`order_least` that what it lists is then the least such list.
-/

namespace Kahn

variable {α : Type*} [DecidableEq α]

/-- The pops of a worklist that has come to its end. A name without a predecessor is ready at
first, as often as it is listed; any other name is ready from the pop of a predecessor that
brings its indegree to zero, and again with each further one. -/
def Balanced (out : α → List α) (nodes : List α) (indegree : α → ℕ) (visits : List α) : Prop :=
  ∀ n, visits.count n = (if indegree n = 0 then nodes.count n else 0) +
    (visits.countP (fun m => n ∈ out m) - (indegree n - 1))

variable {out : α → List α} {sort : List α → List α} {nodes : List α} {start : α → ℕ}

/-- The books of the loop: what it has popped and what is ready, against the pops so far. -/
structure Books (out : α → List α) (nodes : List α) (start indegree : α → ℕ)
    (ready acc : List α) : Prop where
  indegree_eq : ∀ n, indegree n = start n - acc.countP fun m => n ∈ out m
  pushed : ∀ n, acc.count n + ready.count n = (if start n = 0 then nodes.count n else 0) +
    (acc.countP (fun m => n ∈ out m) - (start n - 1))

theorem Books.init (hsort : ∀ l, (sort l).Perm l) :
    Books out nodes start start (sort (nodes.filter fun n => start n = 0)) [] := by
  constructor
  · simp
  · intro n
    rw [(hsort _).count_eq, List.countP_nil, Nat.zero_sub, Nat.add_zero, List.count_nil,
      Nat.zero_add]
    split_ifs with hzero
    · exact List.count_filter (by simpa using hzero)
    · refine List.count_eq_zero.mpr fun hmem => hzero ?_
      simpa using (List.mem_filter.mp hmem).2

/-- One pop: each successor loses one from its indegree, and is pushed if none is left. -/
theorem Books.step (hout : ∀ n, (out n).Nodup) (hsort : ∀ l, (sort l).Perm l)
    {indegree : α → ℕ} {node : α} {rest acc : List α}
    (h : Books out nodes start indegree (node :: rest) acc) :
    Books out nodes start ((out node).foldl (relax sort) (indegree, rest)).1
      ((out node).foldl (relax sort) (indegree, rest)).2 (acc ++ [node]) := by
  constructor
  · intro n
    rw [foldl_relax_indegree sort (hout node), List.countP_append, List.countP_singleton]
    dsimp only
    rw [h.indegree_eq]
    by_cases hn : n ∈ out node
    · simp [hn, Nat.sub_sub]
    · simp [hn]
  · intro n
    rw [(foldl_relax_ready hsort (hout node) (indegree, rest)).count_eq, List.countP_append,
      List.countP_singleton, List.count_append, List.count_append]
    have hpushed := h.pushed n
    have hindegree := h.indegree_eq n
    rw [List.count_cons] at hpushed
    rw [List.count_singleton]
    by_cases hn : n ∈ out node
    · -- a successor: pushed again iff it had at most one predecessor left
      by_cases hlast : indegree n - 1 = 0
      · have hcount : ((out node).filter fun n => indegree n - 1 = 0).count n = 1 := by
          rw [List.count_filter (by simpa using hlast)]
          exact List.count_eq_one_of_mem (hout node) hn
        simp only [hcount, hn, decide_true, if_true]
        omega
      · have hcount : ((out node).filter fun n => indegree n - 1 = 0).count n = 0 := by
          refine List.count_eq_zero.mpr fun hmem => hlast ?_
          simpa using (List.mem_filter.mp hmem).2
        simp only [hcount, hn, decide_true, if_true]
        omega
    · have hcount : ((out node).filter fun n => indegree n - 1 = 0).count n = 0 :=
        List.count_eq_zero.mpr fun hmem => hn (List.mem_filter.mp hmem).1
      simp only [hcount, hn, decide_false, Bool.false_eq_true, if_false]
      omega

/-- Pops within a list that balances: what is ready is within that list as well. -/
theorem Books.within {visits : List α} (hbalanced : Balanced out nodes start visits)
    {indegree : α → ℕ} {ready acc : List α} (h : Books out nodes start indegree ready acc)
    (hacc : acc.Subperm visits) : (acc ++ ready).Subperm visits := by
  rw [List.subperm_iff_count]
  intro n
  have hpops := hacc.countP_le (p := fun m => decide (n ∈ out m))
  have hpushed := h.pushed n
  have hvisits := hbalanced n
  rw [List.count_append]
  omega

/-- As long as the loop stays within a list that balances, it stops before that list does. -/
theorem loop_stops {visits : List α} (hout : ∀ n, (out n).Nodup)
    (hsort : ∀ l, (sort l).Perm l) (hbalanced : Balanced out nodes start visits) (fuel : ℕ) :
    ∀ (indegree : α → ℕ) (ready acc : List α), Books out nodes start indegree ready acc →
      acc.Subperm visits → visits.length ≤ acc.length + fuel →
      ∃ result, loop out sort fuel indegree ready acc = some result := by
  induction fuel with
  | zero =>
      intro indegree ready acc h hacc hfuel
      have hlength := (h.within hbalanced hacc).length_le
      rw [List.length_append] at hlength
      have hnil : ready = [] := List.length_eq_zero_iff.mp (by omega)
      subst hnil
      exact ⟨acc, by simp [loop]⟩
  | succ fuel ih =>
      intro indegree ready acc h hacc hfuel
      cases ready with
      | nil => exact ⟨acc, by simp [loop]⟩
      | cons node rest =>
          have hnext : (acc ++ [node]).Subperm visits := by
            have hwithin := h.within hbalanced hacc
            rw [List.append_cons] at hwithin
            exact ((List.sublist_append_left _ rest).subperm).trans hwithin
          simp only [loop]
          refine ih _ _ _ (h.step hout hsort) hnext ?_
          rw [List.length_append, List.length_singleton]
          omega

/-- What the loop lists when it stops, balances, and it is within any other such list. -/
theorem loop_least (hout : ∀ n, (out n).Nodup) (hsort : ∀ l, (sort l).Perm l) {fuel : ℕ}
    {indegree : α → ℕ} {ready acc result : List α} (h : Books out nodes start indegree ready acc)
    (hrun : loop out sort fuel indegree ready acc = some result) :
    Balanced out nodes start result ∧
      ∀ visits, Balanced out nodes start visits → acc.Subperm visits → result.Subperm visits := by
  induction fuel generalizing indegree ready acc with
  | zero =>
      cases ready with
      | nil =>
          obtain rfl := Option.some.inj hrun
          exact ⟨fun n => by simpa using h.pushed n, fun _ _ hacc => hacc⟩
      | cons node rest => simp [loop] at hrun
  | succ fuel ih =>
      cases ready with
      | nil =>
          obtain rfl := Option.some.inj hrun
          exact ⟨fun n => by simpa using h.pushed n, fun _ _ hacc => hacc⟩
      | cons node rest =>
          simp only [loop] at hrun
          obtain ⟨hbalanced, hleast⟩ := ih (h.step hout hsort) hrun
          refine ⟨hbalanced, fun visits hvisits hacc => hleast visits hvisits ?_⟩
          have hwithin := h.within hvisits hacc
          rw [List.append_cons] at hwithin
          exact ((List.sublist_append_left _ rest).subperm).trans hwithin

/-- The ordering is the least list of pops that balances. -/
theorem order_least (hout : ∀ n, (out n).Nodup) (hsort : ∀ l, (sort l).Perm l) {fuel : ℕ}
    {result : List α} (hrun : order out sort nodes fuel start = some result) :
    Balanced out nodes start result ∧
      ∀ visits, Balanced out nodes start visits → result.Subperm visits := by
  obtain ⟨hbalanced, hleast⟩ := loop_least hout hsort (Books.init hsort) hrun
  exact ⟨hbalanced, fun visits hvisits => hleast visits hvisits (List.nil_subperm)⟩

/-- The worklist stops iff some list of pops balances. -/
theorem order_terminates_iff (hout : ∀ n, (out n).Nodup) (hsort : ∀ l, (sort l).Perm l) :
    (∃ fuel result, order out sort nodes fuel start = some result) ↔
      ∃ visits, Balanced out nodes start visits := by
  constructor
  · rintro ⟨fuel, result, hrun⟩
    exact ⟨result, (order_least hout hsort hrun).1⟩
  · rintro ⟨visits, hbalanced⟩
    obtain ⟨result, hrun⟩ := loop_stops hout hsort hbalanced visits.length start _ []
      (Books.init hsort) List.nil_subperm (by simp)
    exact ⟨visits.length, result, hrun⟩

/-- Its length is that of a shortest list that balances. -/
theorem order_length_iff (hout : ∀ n, (out n).Nodup) (hsort : ∀ l, (sort l).Perm l) (k : ℕ) :
    (∃ fuel result, order out sort nodes fuel start = some result ∧ result.length = k) ↔
      ∃ visits, Balanced out nodes start visits ∧ visits.length = k ∧
        ∀ other, Balanced out nodes start other → k ≤ other.length := by
  constructor
  · rintro ⟨fuel, result, hrun, hlength⟩
    obtain ⟨hbalanced, hleast⟩ := order_least hout hsort hrun
    refine ⟨result, hbalanced, hlength, fun other hother => ?_⟩
    rw [← hlength]
    exact (hleast other hother).length_le
  · rintro ⟨visits, hbalanced, hlength, hshortest⟩
    obtain ⟨fuel, result, hrun⟩ :=
      (order_terminates_iff hout hsort).mpr ⟨visits, hbalanced⟩
    obtain ⟨hresult, hleast⟩ := order_least hout hsort hrun
    refine ⟨fuel, result, hrun, ?_⟩
    have hle := (hleast visits hbalanced).length_le
    have hge := hshortest result hresult
    omega

end Kahn
