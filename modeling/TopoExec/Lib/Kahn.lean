import Mathlib.Logic.Relation
import Mathlib.Data.List.Basic
import Mathlib.Data.List.Nodup
import Mathlib.Data.List.Count
import Mathlib.Data.Set.Finite.Basic
import Mathlib.Order.WellFounded

/-! # Kahn's ordering with a reordered ready list

The worklist algorithm over an arbitrary vertex type: pop the first ready
vertex, decrement the indegree of its successors, append those that drop to
zero and put the ready list through `sort`. Nothing is assumed about `sort`
except that it permutes its argument, so the results hold for any priority.

`loop` counts its iterations with fuel and returns `none` when it is still
running: on arbitrary indegrees the loop need not stop. `order_spec` shows
that it does, within one iteration per node, when the indegrees count the
predecessors of a duplicate-free node list.
-/

set_option linter.unusedSectionVars false

namespace Kahn

open Relation

variable {α : Type*} [DecidableEq α]

/-- Account for one outgoing edge of the vertex just popped. -/
def relax (sort : List α → List α) (s : (α → ℕ) × List α) (next : α) : (α → ℕ) × List α :=
  let indegree :=
    if 0 < s.1 next then Function.update s.1 next (s.1 next - 1) else s.1
  if indegree next = 0 then (indegree, sort (s.2 ++ [next])) else (indegree, s.2)

/-- The worklist loop; `none` means that `fuel` iterations were not enough. -/
def loop (out : α → List α) (sort : List α → List α) :
    ℕ → (α → ℕ) → List α → List α → Option (List α)
  | _, _, [], order => some order
  | 0, _, _ :: _, _ => none
  | fuel + 1, indegree, node :: rest, order =>
      let s := (out node).foldl (relax sort) (indegree, rest)
      loop out sort fuel s.1 s.2 (order ++ [node])

/-- The ordering of `nodes`, started from the vertices of indegree zero. -/
def order (out : α → List α) (sort : List α → List α) (nodes : List α) (fuel : ℕ)
    (indegree : α → ℕ) : Option (List α) :=
  loop out sort fuel indegree (sort (nodes.filter fun n => indegree n = 0)) []

/-! ## More fuel never changes the outcome -/

/-- More fuel gives the same result. -/
theorem loop_mono {out : α → List α} {sort : List α → List α} {fuel fuel' : ℕ}
    {indegree : α → ℕ} {ready acc result : List α} (hle : fuel ≤ fuel')
    (h : loop out sort fuel indegree ready acc = some result) :
    loop out sort fuel' indegree ready acc = some result := by
  induction fuel generalizing fuel' indegree ready acc with
  | zero =>
      cases ready with
      | nil => simpa [loop] using h
      | cons node rest => simp [loop] at h
  | succ fuel ih =>
      cases ready with
      | nil => simpa [loop] using h
      | cons node rest =>
          obtain ⟨fuel', rfl⟩ : ∃ k, fuel' = k + 1 := ⟨fuel' - 1, by omega⟩
          simp only [loop] at h ⊢
          exact ih (by omega) h

/-- The loop is deterministic: two terminating runs agree. -/
theorem order_unique {out : α → List α} {sort : List α → List α} {nodes : List α}
    {fuel fuel' : ℕ} {indegree : α → ℕ} {o o' : List α}
    (h : order out sort nodes fuel indegree = some o)
    (h' : order out sort nodes fuel' indegree = some o') : o = o' := by
  have h₁ := loop_mono (le_max_left fuel fuel') h
  have h₂ := loop_mono (le_max_right fuel fuel') h'
  exact Option.some.inj (h₁.symm.trans h₂)

/-! ## Relaxing all the edges of one vertex -/

/-- Relaxing an edge lowers the degree of its target. -/
theorem relax_indegree (sort : List α → List α) (s : (α → ℕ) × List α) (next n : α) :
    (relax sort s next).1 n = if n = next then s.1 n - 1 else s.1 n := by
  have hval : (if 0 < s.1 next then Function.update s.1 next (s.1 next - 1) else s.1) n =
      if n = next then s.1 n - 1 else s.1 n := by
    by_cases hn : n = next
    · subst hn
      by_cases hpos : 0 < s.1 n
      · simp [hpos]
      · simp only [if_neg hpos, if_true]
        omega
    · by_cases hpos : 0 < s.1 next <;> simp [hpos, hn]
  have hfst : (relax sort s next).1 =
      if 0 < s.1 next then Function.update s.1 next (s.1 next - 1) else s.1 := by
    simp only [relax, apply_ite Prod.fst, ite_self]
  rw [hfst]
  exact hval

/-- A node whose degree reaches zero becomes ready. -/
theorem relax_ready {sort : List α → List α} (hsort : ∀ l, (sort l).Perm l)
    (s : (α → ℕ) × List α) (next : α) :
    (relax sort s next).2.Perm (s.2 ++ if s.1 next - 1 = 0 then [next] else []) := by
  have hval := relax_indegree sort s next next
  rw [if_pos rfl] at hval
  unfold relax at hval ⊢
  dsimp only at hval ⊢
  split_ifs at hval ⊢ with h₁ h₂ h₃ <;> simp_all

/-- By induction on the targets. -/
theorem foldl_relax_indegree (sort : List α → List α) {outs : List α} (hnd : outs.Nodup)
    (s : (α → ℕ) × List α) (n : α) :
    (outs.foldl (relax sort) s).1 n = if n ∈ outs then s.1 n - 1 else s.1 n := by
  induction outs generalizing s with
  | nil => simp
  | cons next outs ih =>
      obtain ⟨hnot, hnd'⟩ := List.nodup_cons.mp hnd
      rw [List.foldl_cons, ih hnd', relax_indegree]
      by_cases hn : n = next
      · subst hn
        simp [hnot]
      · simp [hn]

/-- By induction on the targets. -/
theorem foldl_relax_ready {sort : List α → List α} (hsort : ∀ l, (sort l).Perm l)
    {outs : List α} (hnd : outs.Nodup) (s : (α → ℕ) × List α) :
    (outs.foldl (relax sort) s).2.Perm
      (s.2 ++ outs.filter fun n => s.1 n - 1 = 0) := by
  induction outs generalizing s with
  | nil => simp
  | cons next outs ih =>
      obtain ⟨hnot, hnd'⟩ := List.nodup_cons.mp hnd
      rw [List.foldl_cons]
      refine (ih hnd' _).trans ?_
      have hfilter : (outs.filter fun n => decide ((relax sort s next).1 n - 1 = 0)) =
          outs.filter fun n => decide (s.1 n - 1 = 0) := by
        apply List.filter_congr
        intro n hn
        have hne : n ≠ next := by
          rintro rfl
          exact hnot hn
        rw [relax_indegree, if_neg hne]
      rw [hfilter]
      refine ((relax_ready hsort s next).append_right _).trans ?_
      rw [List.append_assoc]
      by_cases h0 : s.1 next - 1 = 0 <;> simp [h0]

/-! ## The loop invariant -/

/-- `n` has `m` among its predecessors. -/
abbrev Edge (out : α → List α) (m n : α) : Prop := n ∈ out m

/-- The state of the loop over the node list `nodes`. -/
structure Inv (out : α → List α) (nodes : List α) (indegree : α → ℕ) (ready acc : List α) :
    Prop where
  nodup : (acc ++ ready).Nodup
  sub : ∀ n ∈ acc ++ ready, n ∈ nodes
  indegree_eq : ∀ n ∈ nodes, indegree n = nodes.countP fun m => m ∉ acc ∧ n ∈ out m
  zero_iff : ∀ n ∈ nodes, indegree n = 0 ↔ n ∈ acc ++ ready
  topo : ∀ l₁ n l₂, acc = l₁ ++ n :: l₂ → ∀ m ∈ nodes, n ∈ out m → m ∈ l₁

variable {out : α → List α} {sort : List α → List α} {nodes : List α}

/-- A ready vertex has all its predecessors behind it. -/
theorem Inv.preds_done {indegree : α → ℕ} {ready acc : List α}
    (h : Inv out nodes indegree ready acc) {n m : α} (hn : n ∈ ready) (hm : m ∈ nodes)
    (hedge : n ∈ out m) : m ∈ acc := by
  have hmem : n ∈ acc ++ ready := List.mem_append_right _ hn
  have hzero := (h.zero_iff n (h.sub n hmem)).mpr hmem
  rw [h.indegree_eq n (h.sub n hmem), List.countP_eq_zero] at hzero
  by_contra hnot
  exact hzero m hm (by simp [hnot, hedge])

/-- A node is taken, and those that only waited for it become ready. -/
theorem Inv.step (hnodes : nodes.Nodup) (hout : ∀ n, (out n).Nodup)
    (hsub : ∀ m ∈ nodes, ∀ n ∈ out m, n ∈ nodes) (hsort : ∀ l, (sort l).Perm l)
    {indegree : α → ℕ} {node : α} {rest acc : List α}
    (h : Inv out nodes indegree (node :: rest) acc) :
    Inv out nodes ((out node).foldl (relax sort) (indegree, rest)).1
      ((out node).foldl (relax sort) (indegree, rest)).2 (acc ++ [node]) := by
  have hnode : node ∈ nodes := h.sub node (by simp)
  have hnacc : node ∉ acc := by
    intro hin
    have := List.disjoint_of_nodup_append h.nodup hin
    simp at this
  -- a successor still counts `node` among its open predecessors
  have hopen : ∀ n ∈ out node, 0 < indegree n := by
    intro n hn
    rw [h.indegree_eq n (hsub node hnode n hn), List.countP_pos_iff]
    exact ⟨node, hnode, by simp [hnacc, hn]⟩
  have hfresh : ∀ n ∈ out node, n ∉ acc ++ node :: rest := by
    intro n hn hin
    have hpos := hopen n hn
    have hzero := (h.zero_iff n (hsub node hnode n hn)).mpr hin
    omega
  have hready := foldl_relax_ready hsort (hout node) (indegree, rest)
  have hindeg := foldl_relax_indegree sort (hout node) (indegree, rest)
  set s := (out node).foldl (relax sort) (indegree, rest) with hs
  have hmem : ∀ n, n ∈ (acc ++ [node]) ++ s.2 ↔
      n ∈ acc ++ node :: rest ∨ (n ∈ out node ∧ indegree n - 1 = 0) := by
    intro n
    rw [List.mem_append, hready.mem_iff]
    simp only [List.mem_append, List.mem_filter, List.mem_cons, decide_eq_true_eq,
      List.not_mem_nil, or_false]
    tauto
  refine ⟨?_, ?_, ?_, ?_, ?_⟩
  · have hperm : ((acc ++ [node]) ++ s.2).Perm
        ((acc ++ node :: rest) ++ (out node).filter fun n => decide (indegree n - 1 = 0)) := by
      rw [List.append_assoc, List.append_assoc]
      apply List.Perm.append_left
      simpa using List.Perm.cons node hready
    rw [hperm.nodup_iff, List.nodup_append]
    refine ⟨h.nodup, (hout node).filter _, ?_⟩
    intro a ha b hb hab
    subst hab
    exact hfresh a (List.mem_filter.mp hb).1 ha
  · intro n hn
    rcases (hmem n).mp hn with hn | ⟨hn, _⟩
    · exact h.sub n hn
    · exact hsub node hnode n hn
  · intro n hn
    rw [hindeg]
    have hsplit : nodes.countP (fun m => decide (m ∉ acc ∧ n ∈ out m)) =
        nodes.countP (fun m => decide (m ∉ acc ++ [node] ∧ n ∈ out m)) +
          if n ∈ out node then 1 else 0 := by
      obtain ⟨l₁, l₂, hl⟩ := List.append_of_mem hnode
      rw [hl] at hnodes ⊢
      have hne : ∀ m ∈ l₁ ++ l₂, m ≠ node := by
        rintro m hm rfl
        have hnd := List.nodup_middle.mp hnodes
        exact (List.nodup_cons.mp hnd).1 hm
      have hcongr : ∀ l : List α, (∀ m ∈ l, m ≠ node) →
          l.countP (fun m => decide (m ∉ acc ∧ n ∈ out m)) =
            l.countP (fun m => decide (m ∉ acc ++ [node] ∧ n ∈ out m)) := by
        intro l hl
        apply List.countP_congr
        intro m hm
        simp [hl m hm]
      rw [List.countP_append, List.countP_append, List.countP_cons, List.countP_cons,
        hcongr l₁ (fun m hm => hne m (List.mem_append_left _ hm)),
        hcongr l₂ (fun m hm => hne m (List.mem_append_right _ hm))]
      by_cases hno : n ∈ out node
      · simp [hno, hnacc]
        omega
      · simp [hno]
    have heq := h.indegree_eq n hn
    rw [hsplit] at heq
    dsimp only
    split_ifs at heq ⊢ <;> omega
  · intro n hn
    rw [hindeg, hmem, ← h.zero_iff n hn]
    dsimp only
    by_cases hno : n ∈ out node
    · have hpos := hopen n hno
      rw [if_pos hno]
      constructor
      · intro h0
        exact Or.inr ⟨hno, h0⟩
      · rintro (h0 | ⟨_, h0⟩)
        · omega
        · exact h0
    · simp [hno]
  · intro l₁ n l₂ hsplit m hm hedge
    rcases List.eq_nil_or_concat l₂ with rfl | ⟨l₂', z, rfl⟩
    · -- the new last element: it was ready
      obtain ⟨h₁, h₂⟩ := List.append_inj' hsplit rfl
      have hnn : node = n := by simpa using h₂
      subst hnn
      rw [← h₁]
      exact h.preds_done (by simp) hm hedge
    · have hsplit' : acc ++ [node] = (l₁ ++ n :: l₂') ++ [z] := by simpa using hsplit
      obtain ⟨h₁, _⟩ := List.append_inj' hsplit' rfl
      exact h.topo l₁ n l₂' h₁ m hm hedge

/-- The loop stops within one iteration per node that is still to come, and
the invariant holds at the end. -/
theorem loop_spec (hnodes : nodes.Nodup) (hout : ∀ n, (out n).Nodup)
    (hsub : ∀ m ∈ nodes, ∀ n ∈ out m, n ∈ nodes) (hsort : ∀ l, (sort l).Perm l)
    (fuel : ℕ) : ∀ (indegree : α → ℕ) (ready acc : List α),
      Inv out nodes indegree ready acc → nodes.length ≤ acc.length + fuel →
      ∃ result indegree', loop out sort fuel indegree ready acc = some result ∧
        Inv out nodes indegree' [] result := by
  induction fuel with
  | zero =>
      intro indegree ready acc h hfuel
      have hlen := (List.subperm_of_subset h.nodup h.sub).length_le
      rw [List.length_append] at hlen
      have hnil : ready = [] := List.length_eq_zero_iff.mp (by omega)
      subst hnil
      exact ⟨acc, indegree, by simp [loop], h⟩
  | succ fuel ih =>
      intro indegree ready acc h hfuel
      cases ready with
      | nil => exact ⟨acc, indegree, by simp [loop], h⟩
      | cons node rest =>
          have hstep := h.step hnodes hout hsub hsort
          simp only [loop]
          apply ih _ _ _ hstep
          rw [List.length_append, List.length_singleton]
          omega

/-! ## The ordering -/

/-- What the ordering of a node list delivers, complete or not. -/
structure Ordered (out : α → List α) (nodes result : List α) : Prop where
  nodup : result.Nodup
  sub : ∀ n ∈ result, n ∈ nodes
  topo : ∀ l₁ n l₂, result = l₁ ++ n :: l₂ → ∀ m ∈ nodes, n ∈ out m → m ∈ l₁
  stuck : ∀ n ∈ nodes, n ∉ result → ∃ m ∈ nodes, m ∉ result ∧ n ∈ out m

/-- The invariant at the start. -/
theorem Inv.init (hnodes : nodes.Nodup) (hsort : ∀ l, (sort l).Perm l) {indegree : α → ℕ}
    (hindeg : ∀ n ∈ nodes, indegree n = nodes.countP fun m => n ∈ out m) :
    Inv out nodes indegree (sort (nodes.filter fun n => decide (indegree n = 0))) [] := by
  have hmem : ∀ n, n ∈ sort (nodes.filter fun n => decide (indegree n = 0)) ↔
      n ∈ nodes ∧ indegree n = 0 := by
    intro n
    rw [(hsort _).mem_iff, List.mem_filter]
    simp
  refine ⟨?_, ?_, ?_, ?_, ?_⟩
  · rw [List.nil_append, (hsort _).nodup_iff]
    exact hnodes.filter _
  · intro n hn
    exact ((hmem n).mp (by simpa using hn)).1
  · intro n hn
    simpa using hindeg n hn
  · intro n hn
    rw [List.nil_append, hmem]
    simp [hn]
  · intro l₁ n l₂ hnil
    simp at hnil

/-- The order has every node after its predecessors, and a node is missing only with one of them.
-/
theorem order_spec (hnodes : nodes.Nodup) (hout : ∀ n, (out n).Nodup)
    (hsub : ∀ m ∈ nodes, ∀ n ∈ out m, n ∈ nodes) (hsort : ∀ l, (sort l).Perm l)
    {indegree : α → ℕ} (hindeg : ∀ n ∈ nodes, indegree n = nodes.countP fun m => n ∈ out m) :
    ∃ result, order out sort nodes nodes.length indegree = some result ∧
      Ordered out nodes result := by
  have hinit := Inv.init hnodes hsort hindeg
  obtain ⟨result, indegree', hrun, hinv⟩ :=
    loop_spec hnodes hout hsub hsort nodes.length indegree _ [] hinit (by simp)
  refine ⟨result, hrun, ?_, ?_, hinv.topo, ?_⟩
  · simpa using hinv.nodup
  · intro n hn
    exact hinv.sub n (by simpa using hn)
  · intro n hn hnot
    have hne : indegree' n ≠ 0 := by
      intro h0
      exact hnot (by simpa using (hinv.zero_iff n hn).mp h0)
    rw [hinv.indegree_eq n hn] at hne
    obtain ⟨m, hm, hm'⟩ := List.countP_pos_iff.mp (Nat.pos_of_ne_zero hne)
    simp only [decide_eq_true_eq] at hm'
    exact ⟨m, hm, hm'.1, hm'.2⟩

/-- On an acyclic graph no node is left behind. -/
theorem Ordered.perm {result : List α} (h : Ordered out nodes result) (hnodes : nodes.Nodup)
    (hacyclic : ∀ n, ¬ TransGen (Edge out) n n) : result.Perm nodes := by
  have hall : ∀ n ∈ nodes, n ∈ result := by
    by_contra hcon
    push Not at hcon
    let below : {x // x ∈ nodes} → {x // x ∈ nodes} → Prop :=
      fun a b => TransGen (Edge out) a.1 b.1
    have : Finite {x // x ∈ nodes} := (List.finite_toSet nodes).to_subtype
    have : IsTrans _ below := ⟨fun a b c hab hbc => TransGen.trans hab hbc⟩
    have : Std.Irrefl below := ⟨fun a => hacyclic a.1⟩
    have hwf : WellFounded below := Finite.wellFounded_of_trans_of_irrefl below
    obtain ⟨n₀, hn₀, hnot₀⟩ := hcon
    -- a minimal node left behind still has a predecessor left behind
    obtain ⟨⟨n, hn⟩, hmin, hleast⟩ :=
      hwf.has_min {x | x.1 ∉ result} ⟨⟨n₀, hn₀⟩, hnot₀⟩
    obtain ⟨m, hm, hmnot, hedge⟩ := h.stuck n hn hmin
    exact hleast ⟨m, hm⟩ hmnot (TransGen.single hedge)
  exact (List.perm_ext_iff_of_nodup h.nodup hnodes).mpr fun n => ⟨h.sub n, hall n⟩

/-- A result as long as the node list is complete. -/
theorem Ordered.perm_of_length {result : List α} (h : Ordered out nodes result)
    (hlen : result.length = nodes.length) : result.Perm nodes :=
  (List.subperm_of_subset h.nodup h.sub).perm_of_length_le hlen.ge

/-- In the ordering everything on a path to a vertex stands before it. -/
theorem Ordered.before_of_path {result : List α} (h : Ordered out nodes result)
    (hfrom : ∀ m n, n ∈ out m → m ∈ nodes) {m n : α} (hpath : TransGen (Edge out) m n) :
    ∀ l₁ l₂, result = l₁ ++ n :: l₂ → m ∈ l₁ := by
  induction hpath with
  | single hedge =>
      intro l₁ l₂ hsplit
      exact h.topo l₁ _ l₂ hsplit m (hfrom m _ hedge) hedge
  | tail hpath hedge ih =>
      rename_i b c
      intro l₁ l₂ hsplit
      have hb : b ∈ l₁ := h.topo l₁ c l₂ hsplit b (hfrom b c hedge) hedge
      obtain ⟨k₁, k₂, hk⟩ := List.append_of_mem hb
      have hm := ih k₁ (k₂ ++ c :: l₂) (by simp [hsplit, hk])
      rw [hk]
      exact List.mem_append_left _ hm

/-- A complete ordering leaves no room for a cycle. -/
theorem Ordered.acyclic {result : List α} (h : Ordered out nodes result)
    (hperm : result.Perm nodes) (hfrom : ∀ m n, n ∈ out m → m ∈ nodes) (n : α) :
    ¬ TransGen (Edge out) n n := by
  intro hcycle
  obtain ⟨next, hedge, -⟩ := TransGen.head'_iff.mp hcycle
  have hn : n ∈ result := hperm.mem_iff.mpr (hfrom n next hedge)
  obtain ⟨l₁, l₂, hsplit⟩ := List.append_of_mem hn
  have hearlier := h.before_of_path hfrom hcycle l₁ l₂ hsplit
  have hnodup := h.nodup
  rw [hsplit, List.nodup_middle, List.nodup_cons] at hnodup
  exact hnodup.1 (List.mem_append_left _ hearlier)

end Kahn
