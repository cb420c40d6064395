import TopoExec.Lib.Kahn
import Mathlib.Data.List.Sort
import Mathlib.Order.Bounds.Basic

/-! # Kahn's ordering under a priority

The ready list goes through a stable sort by falling rank. At each moment the
loop then takes the best ready vertex: one of the highest rank and, among
these, one that has been ready longest. A vertex becomes ready with the last
of its predecessors, so `readyTime` is read off the vertices already taken;
vertices that became ready together stand in the order in which they were
appended.
-/

namespace Kahn

variable {α κ : Type*} [LinearOrder κ]

/-- `std::stable_sort` by falling rank. -/
def sortBy (rank : α → κ) (l : List α) : List α :=
  l.insertionSort fun a b => rank b ≤ rank a

/-- A higher rank goes first; `E` decides between equal ranks. -/
def Ahead (rank : α → κ) (E : α → α → Prop) (a b : α) : Prop :=
  rank b < rank a ∨ (rank a = rank b ∧ E a b)

variable {rank : α → κ} {E : α → α → Prop}

/-- What is ahead has at least the rank. -/
theorem Ahead.rank_le {a b : α} (h : Ahead rank E a b) : rank b ≤ rank a := by
  rcases h with hlt | ⟨heq, -⟩
  · exact hlt.le
  · exact heq.ge

/-! ## The sort is stable -/

/-- Inserting keeps the order: by rank, and by `E` within a rank. -/
theorem pairwise_orderedInsert {a : α} {l : List α} (hl : l.Pairwise (Ahead rank E))
    (ha : ∀ b ∈ l, rank a = rank b → E a b) :
    (l.orderedInsert (fun a b => rank b ≤ rank a) a).Pairwise (Ahead rank E) := by
  induction l with
  | nil => simp
  | cons b l ih =>
      obtain ⟨hb, hl'⟩ := List.pairwise_cons.mp hl
      rw [List.orderedInsert_cons]
      split_ifs with hle
      · apply List.pairwise_cons.mpr
        refine ⟨?_, hl⟩
        intro c hc
        have hcb : rank c ≤ rank b := by
          rcases List.mem_cons.mp hc with rfl | hc'
          · exact le_rfl
          · exact (hb c hc').rank_le
        rcases (hcb.trans hle).lt_or_eq with hlt | heq
        · exact Or.inl hlt
        · exact Or.inr ⟨heq.symm, ha c hc heq.symm⟩
      · apply List.pairwise_cons.mpr
        constructor
        · intro c hc
          rcases (List.mem_orderedInsert _).mp hc with rfl | hc'
          · exact Or.inl (not_le.mp hle)
          · exact hb c hc'
        · exact ih hl' (fun c hc => ha c (List.mem_cons_of_mem _ hc))

/-- Where equal ranks stand in the order `E`, they keep it. -/
theorem pairwise_sortBy {l : List α} (h : l.Pairwise fun a b => rank a = rank b → E a b) :
    (sortBy rank l).Pairwise (Ahead rank E) := by
  induction l with
  | nil => simp [sortBy]
  | cons a l ih =>
      obtain ⟨ha, hl⟩ := List.pairwise_cons.mp h
      apply pairwise_orderedInsert (ih hl)
      intro b hb
      exact ha b ((List.mem_insertionSort _).mp hb)

theorem sortBy_perm (l : List α) : (sortBy rank l).Perm l := List.perm_insertionSort _ l

variable [DecidableEq α]

/-- Relaxing the edges of a vertex keeps the ready list in order, if what it
appends comes after what is there. -/
theorem foldl_relax_pairwise {outs : List α} {s : (α → ℕ) × List α}
    (hs : s.2.Pairwise (Ahead rank E)) (hnew : ∀ a ∈ s.2, ∀ n ∈ outs, E a n)
    (houts : outs.Pairwise E) :
    (outs.foldl (relax (sortBy rank)) s).2.Pairwise (Ahead rank E) := by
  induction outs generalizing s with
  | nil => exact hs
  | cons next outs ih =>
      obtain ⟨hnext, houts'⟩ := List.pairwise_cons.mp houts
      rw [List.foldl_cons]
      -- a successor may become ready; it is then appended and the list sorted again
      have hready : (relax (sortBy rank) s next).2 = s.2 ∨
          (relax (sortBy rank) s next).2 = sortBy rank (s.2 ++ [next]) := by
        unfold relax
        dsimp only
        split_ifs <;> simp
      rcases hready with hsame | hpush
      · apply ih
        · rwa [hsame]
        · intro a ha n hn
          exact hnew a (hsame ▸ ha) n (List.mem_cons_of_mem _ hn)
        · exact houts'
      · apply ih
        · rw [hpush]
          apply pairwise_sortBy
          -- the sort is stable, so among equal ranks it is enough that the list was ordered
          -- before
          rw [List.pairwise_append]
          refine ⟨?_, List.pairwise_singleton _ _, ?_⟩
          · apply hs.imp
            intro a b hab heq
            rcases hab with hlt | ⟨-, hE⟩
            · exact absurd heq hlt.ne'
            · exact hE
          · intro a ha b hb _
            rw [List.mem_singleton.mp hb]
            exact hnew a ha next List.mem_cons_self
        · intro a ha n hn
          rw [hpush, (sortBy_perm _).mem_iff, List.mem_append, List.mem_singleton] at ha
          rcases ha with ha | rfl
          · exact hnew a ha n (List.mem_cons_of_mem _ hn)
          · exact hnext n hn
        · exact houts'

/-! ## When a vertex becomes ready -/

/-- How many vertices were taken when the last predecessor of `n` was. -/
def readyTime (out : α → List α) (taken : List α) (n : α) : ℕ :=
  taken.length - taken.reverse.findIdx fun m => n ∈ out m

/-- `a` became ready before `b`: earlier, or at the same time and then first in
the node list (at the start) or among the successors of the vertex taken. -/
def Earlier (out : α → List α) (nodes taken : List α) (a b : α) : Prop :=
  readyTime out taken a < readyTime out taken b ∨
    (readyTime out taken a = readyTime out taken b ∧
      match readyTime out taken a with
      | 0 => [a, b].Sublist nodes
      | t + 1 => ∃ p, taken[t]? = some p ∧ [a, b].Sublist (out p))

variable {out : α → List α} {nodes taken : List α}

/-- A node has become ready at the last vertex taken that leads to it. -/
theorem readyTime_snoc (m n : α) :
    readyTime out (taken ++ [m]) n =
      if n ∈ out m then taken.length + 1 else readyTime out taken n := by
  unfold readyTime
  rw [List.reverse_append, List.reverse_singleton, List.singleton_append, List.findIdx_cons]
  by_cases hn : n ∈ out m <;> simp [hn]

theorem readyTime_le (n : α) : readyTime out taken n ≤ taken.length := Nat.sub_le ..

/-- The first vertices up to `readyTime` are the shortest prefix with all the
predecessors. -/
theorem readyTime_isLeast (hnodup : taken.Nodup) {n : α}
    (hpreds : ∀ p, n ∈ out p → p ∈ taken) :
    IsLeast {k | ∀ p, n ∈ out p → p ∈ taken.take k} (readyTime out taken n) := by
  -- the statement for the predecessors among `taken` goes through by induction
  suffices h : IsLeast {k | ∀ p ∈ taken, n ∈ out p → p ∈ taken.take k} (readyTime out taken n) by
    have hset : {k | ∀ p, n ∈ out p → p ∈ taken.take k} =
        {k | ∀ p ∈ taken, n ∈ out p → p ∈ taken.take k} := by
      ext k
      exact ⟨fun hk p _ hp => hk p hp, fun hk p hp => hk p (hpreds p hp) hp⟩
    rwa [hset]
  clear hpreds
  induction taken using List.reverseRecOn with
  | nil => exact ⟨by simp, fun k _ => Nat.zero_le k⟩
  | append_singleton taken m ih =>
      rw [List.nodup_append] at hnodup
      obtain ⟨hnodup', -, hdisj⟩ := hnodup
      obtain ⟨hmem, hleast⟩ := ih hnodup'
      rw [readyTime_snoc]
      split_ifs with hm
      · constructor
        · intro p hp _
          rwa [List.take_of_length_le (by simp)]
        · -- the new vertex is itself a predecessor, and it stands last
          intro k hk
          have hmk := hk m (by simp) hm
          by_contra hlt
          rw [List.take_append_of_le_length (by omega)] at hmk
          exact hdisj m (List.mem_of_mem_take hmk) m (by simp) rfl
      · constructor
        · intro p hp hedge
          rcases List.mem_append.mp hp with hp | hp
          · rw [List.take_append_of_le_length (readyTime_le n)]
            exact hmem p hp hedge
          · rw [List.mem_singleton] at hp
            exact absurd (hp ▸ hedge) hm
        · intro k hk
          apply hleast
          intro p hp hedge
          have hpk := hk p (List.mem_append_left _ hp) hedge
          rw [List.take_append] at hpk
          rcases List.mem_append.mp hpk with hpk | hpk
          · exact hpk
          · have := List.mem_of_mem_take hpk
            exact absurd rfl (hdisj p hp p this)

/-! ## The greedy invariant -/

/-- The vertices taken, each the best of those that were ready. -/
def Greedy (out : α → List α) (nodes : List α) (rank : α → κ) (taken : List α) : Prop :=
  ∀ before n after, taken = before ++ n :: after →
    ∀ m ∈ nodes, m ∉ before → m ≠ n → (∀ p ∈ nodes, m ∈ out p → p ∈ before) →
      Ahead rank (Earlier out nodes before) n m

/-- A vertex that is ready stays in its place when the next one is taken. -/
theorem Earlier.snoc {a b node : α} (h : Earlier out nodes taken a b) (ha : a ∉ out node)
    (hb : b ∉ out node) : Earlier out nodes (taken ++ [node]) a b := by
  unfold Earlier at h ⊢
  rw [readyTime_snoc, readyTime_snoc, if_neg ha, if_neg hb]
  rcases h with hlt | ⟨heq, htie⟩
  · exact Or.inl hlt
  · refine Or.inr ⟨heq, ?_⟩
    cases htime : readyTime out taken a with
    | zero =>
        rw [htime] at htie
        exact htie
    | succ t =>
        rw [htime] at htie
        obtain ⟨p, hp, hsub⟩ := htie
        refine ⟨p, ?_, hsub⟩
        rw [List.getElem?_append_left (List.getElem?_eq_some_iff.mp hp).1]
        exact hp

/-- Taking the first ready vertex keeps the ready list in order. -/
theorem ready_step {indegree : α → ℕ} {node : α} {rest : List α}
    (h : Inv out nodes indegree (node :: rest) taken)
    (hready : (node :: rest).Pairwise (Ahead rank (Earlier out nodes taken))) :
    ((out node).foldl (relax (sortBy rank)) (indegree, rest)).2.Pairwise
      (Ahead rank (Earlier out nodes (taken ++ [node]))) := by
  have hnode : node ∈ nodes := h.sub node (by simp)
  have hntaken : node ∉ taken := by
    intro hin
    have := List.disjoint_of_nodup_append h.nodup hin
    simp at this
  -- what was ready does not wait for `node`
  have hold : ∀ a ∈ rest, a ∉ out node := by
    intro a ha hedge
    exact hntaken (h.preds_done (List.mem_cons_of_mem _ ha) hnode hedge)
  apply foldl_relax_pairwise
  · apply (List.pairwise_cons.mp hready).2.imp_of_mem
    intro a b ha hb hab
    rcases hab with hlt | ⟨heq, hE⟩
    · exact Or.inl hlt
    · exact Or.inr ⟨heq, hE.snoc (hold a ha) (hold b hb)⟩
  · intro a ha n hn
    have hle : readyTime out taken a ≤ taken.length := readyTime_le a
    left
    rw [readyTime_snoc, readyTime_snoc, if_neg (hold a ha), if_pos hn]
    omega
  · rw [List.pairwise_iff_forall_sublist]
    intro a b hab
    have ha : a ∈ out node := hab.subset (by simp)
    have hb : b ∈ out node := hab.subset (by simp)
    right
    rw [readyTime_snoc, readyTime_snoc, if_pos ha, if_pos hb]
    exact ⟨rfl, node, by simp, hab⟩

/-- The first of the ready nodes is the one the greedy order takes. -/
theorem greedy_step {indegree : α → ℕ} {node : α} {rest : List α}
    (h : Inv out nodes indegree (node :: rest) taken)
    (hready : (node :: rest).Pairwise (Ahead rank (Earlier out nodes taken)))
    (hgreedy : Greedy out nodes rank taken) : Greedy out nodes rank (taken ++ [node]) := by
  intro before n after hsplit m hm hmb hmn hpreds
  rcases List.eq_nil_or_concat after with rfl | ⟨after', z, rfl⟩
  · obtain ⟨h₁, h₂⟩ := List.append_inj' hsplit rfl
    have hnn : node = n := by simpa using h₂
    subst hnn h₁
    -- all predecessors of `m` are behind us, so it is in the ready list
    have hzero : indegree m = 0 := by
      rw [h.indegree_eq m hm, List.countP_eq_zero]
      intro p hp hopen
      simp only [decide_eq_true_eq] at hopen
      exact hopen.1 (hpreds p hp hopen.2)
    have hin := (h.zero_iff m hm).mp hzero
    simp only [List.mem_append, List.mem_cons] at hin
    have hrest : m ∈ rest := by tauto
    exact (List.pairwise_cons.mp hready).1 m hrest
  · have hsplit' : taken ++ [node] = (before ++ n :: after') ++ [z] := by simpa using hsplit
    obtain ⟨h₁, _⟩ := List.append_inj' hsplit' rfl
    exact hgreedy before n after' h₁ m hm hmb hmn hpreds

section Loop

variable (hnodes : nodes.Nodup) (hout : ∀ n, (out n).Nodup)
  (hsub : ∀ m ∈ nodes, ∀ n ∈ out m, n ∈ nodes)

include hnodes hout hsub

/-- By induction on the fuel. -/
theorem loop_greedy (fuel : ℕ) : ∀ (indegree : α → ℕ) (ready taken result : List α),
    Inv out nodes indegree ready taken → ready.Pairwise (Ahead rank (Earlier out nodes taken)) →
    Greedy out nodes rank taken →
    loop out (sortBy rank) fuel indegree ready taken = some result →
    Greedy out nodes rank result := by
  induction fuel with
  | zero =>
      intro indegree ready taken result h hready hgreedy hrun
      cases ready with
      | nil =>
          obtain rfl := Option.some.inj hrun
          exact hgreedy
      | cons node rest => simp [loop] at hrun
  | succ fuel ih =>
      intro indegree ready taken result h hready hgreedy hrun
      cases ready with
      | nil =>
          simp only [loop, Option.some.injEq] at hrun
          rwa [← hrun]
      | cons node rest =>
          simp only [loop] at hrun
          exact ih _ _ _ _ (h.step hnodes hout hsub sortBy_perm)
            (ready_step h hready)
            (greedy_step h hready hgreedy) hrun

/-- Each vertex of the ordering is the best of those that were ready. -/
theorem order_greedy {indegree : α → ℕ}
    (hindeg : ∀ n ∈ nodes, indegree n = nodes.countP fun m => n ∈ out m) {fuel : ℕ}
    {result : List α} (hrun : order out (sortBy rank) nodes fuel indegree = some result) :
    Greedy out nodes rank result := by
  have hperm : ∀ l, (sortBy rank l).Perm l := sortBy_perm
  have hinit := Inv.init hnodes hperm hindeg
  apply loop_greedy hnodes hout hsub fuel _ _ _ _ hinit ?_ ?_ hrun
  · apply pairwise_sortBy
    rw [List.pairwise_iff_forall_sublist]
    intro a b hab _
    exact Or.inr ⟨rfl, hab.trans List.filter_sublist⟩
  · intro before n after hnil
    simp at hnil

end Loop

end Kahn
