import Mathlib.Logic.Relation
import Mathlib.Data.Finset.Basic
import Mathlib.Data.List.Basic
import Mathlib.Data.List.Nodup

/-! # Strongly connected components by Tarjan's recursion

The recursive formulation with an index map, a lowlink map and one explicit
stack, over an arbitrary vertex type. `strongConnect` recurses on fuel: the
depth of the recursion is bounded by the number of vertices that have no
index yet, so `tarjan` hands out one unit per node and `tarjan_spec` shows
that this is always enough.

The invariant (`Inv`) is relative to the DFS path, which the code keeps only
implicitly in its call stack.
-/

set_option linter.unusedSectionVars false

namespace Scc

open Relation

variable {α : Type*} [DecidableEq α]

/-- The mutable state of one run: index and lowlink maps, the stack with its
membership set, the next free index and the components closed so far. -/
structure TarjanState (α : Type*) where
  indexOf : α → Option ℕ
  lowlink : α → ℕ
  onStack : Finset α
  stack : List α
  nextIndex : ℕ
  components : List (List α)

/-- Nothing visited yet. -/
def TarjanState.empty : TarjanState α where
  indexOf := fun _ => none
  lowlink := fun _ => 0
  onStack := ∅
  stack := []
  nextIndex := 0
  components := []

namespace TarjanState

/-- Give `node` the next index and push it. -/
def enter (st : TarjanState α) (node : α) : TarjanState α :=
  { st with
    indexOf := Function.update st.indexOf node (some st.nextIndex)
    lowlink := Function.update st.lowlink node st.nextIndex
    nextIndex := st.nextIndex + 1
    stack := node :: st.stack
    onStack := insert node st.onStack }

/-- `lowlink[node] = min(lowlink[node], bound)`. -/
def lower (st : TarjanState α) (node : α) (bound : ℕ) : TarjanState α :=
  { st with lowlink := Function.update st.lowlink node (min (st.lowlink node) bound) }

end TarjanState

/-- Pop values up to and including `node`: the popped values in pop order and
what is left of the stack. -/
def popUntil (node : α) : List α → List α × List α
  | [] => ([], [])
  | v :: rest =>
      if v = node then ([v], rest)
      else (v :: (popUntil node rest).1, (popUntil node rest).2)

/-- Close the component whose root is `node`. -/
def TarjanState.close (sort : List α → List α) (st : TarjanState α) (node : α) :
    TarjanState α :=
  let popped := popUntil node st.stack
  { st with
    stack := popped.2
    onStack := st.onStack \ popped.1.toFinset
    components := st.components ++ [sort popped.1] }

/-- One visit of `node`. The fold is the loop over its successors. -/
def strongConnect (succ : α → List α) (sort : List α → List α) :
    ℕ → α → TarjanState α → TarjanState α
  | 0, _, st => st
  | fuel + 1, node, st =>
      let visited := (succ node).foldl
        (fun st next =>
          if st.indexOf next = none then
            let st' := strongConnect succ sort fuel next st
            st'.lower node (st'.lowlink next)
          else if next ∈ st.onStack then
            st.lower node ((st.indexOf next).getD 0)
          else st)
        (st.enter node)
      if visited.indexOf node = some (visited.lowlink node) then visited.close sort node
      else visited

/-- The components of the graph on `nodes`, each one put through `sort`. -/
def tarjan (succ : α → List α) (sort : List α → List α) (nodes : List α) : List (List α) :=
  (nodes.foldl
    (fun st node =>
      if st.indexOf node = none then strongConnect succ sort nodes.length node st else st)
    TarjanState.empty).components

/-! ## Vocabulary of the invariant -/

/-- Reachability along successor lists. -/
abbrev Reach (succ : α → List α) : α → α → Prop :=
  ReflTransGen fun a b => b ∈ succ a

/-- The index of a visited vertex (`0` on an unvisited one). -/
def idx (st : TarjanState α) (v : α) : ℕ := (st.indexOf v).getD 0

/-- `v` has been given an index. -/
def Visited (st : TarjanState α) (v : α) : Prop := st.indexOf v ≠ none

/-- `v` has been visited and its component closed. -/
def Done (st : TarjanState α) (v : α) : Prop := Visited st v ∧ v ∉ st.stack

/-- `C` is a strongly connected component. -/
def IsScc (succ : α → List α) (C : List α) : Prop :=
  C ≠ [] ∧ C.Nodup ∧ ∀ a ∈ C, ∀ b, b ∈ C ↔ Reach succ a b ∧ Reach succ b a

/-- The number of nodes that have no index yet: the recursion's measure. -/
def unvisited (nodes : List α) (st : TarjanState α) : ℕ :=
  nodes.countP fun v => decide (st.indexOf v = none)

/-- The invariant of the search, relative to the DFS path (innermost first). -/
structure Inv (succ : α → List α) (nodes path : List α) (st : TarjanState α) : Prop where
  index_lt : ∀ v i, st.indexOf v = some i → i < st.nextIndex
  in_nodes : ∀ v, Visited st v → v ∈ nodes
  stack_sorted : st.stack.Pairwise fun a b => idx st b < idx st a
  stack_visited : ∀ v ∈ st.stack, Visited st v
  onStack_iff : ∀ v, v ∈ st.onStack ↔ v ∈ st.stack
  path_stack : ∀ z ∈ path, z ∈ st.stack
  reaches_path : ∀ v ∈ st.stack, ∃ z ∈ path, idx st z ≤ idx st v ∧ Reach succ v z
  path_reaches : ∀ z ∈ path, ∀ v ∈ st.stack, idx st z ≤ idx st v → Reach succ z v
  black_succ : ∀ v, Visited st v → v ∉ path → ∀ w ∈ succ v, Visited st w
  done_closed : ∀ v, Done st v → ∀ w ∈ succ v, Done st w
  done_iff : ∀ v, Done st v ↔ ∃ C ∈ st.components, v ∈ C
  sccs : ∀ C ∈ st.components, IsScc succ C
  disjoint : st.components.Pairwise List.Disjoint

variable {succ : α → List α} {sort : List α → List α} {nodes path : List α}
  {st st' st'' : TarjanState α} {node : α}

/-- Lowering a low link keeps the invariant. -/
theorem Inv.lower (h : Inv succ nodes path st) (v : α) (bound : ℕ) :
    Inv succ nodes path (st.lower v bound) :=
  ⟨h.index_lt, h.in_nodes, h.stack_sorted, h.stack_visited, h.onStack_iff, h.path_stack,
    h.reaches_path, h.path_reaches, h.black_succ, h.done_closed, h.done_iff, h.sccs, h.disjoint⟩

/-- The index of a node that has one. -/
theorem idx_of_index {v : α} {i : ℕ} (h : st.indexOf v = some i) : idx st v = i := by
  simp [idx, h]

theorem visited_of_index {v : α} {i : ℕ} (h : st.indexOf v = some i) : Visited st v := by
  simp [Visited, h]

/-- A visited node has an index. -/
theorem Visited.index {v : α} (h : Visited st v) : st.indexOf v = some (idx st v) := by
  obtain ⟨i, hi⟩ := Option.ne_none_iff_exists'.mp h
  rw [hi, idx_of_index hi]

/-- Indices are below the next one. -/
theorem Inv.idx_lt (h : Inv succ nodes path st) {v : α} (hv : Visited st v) :
    idx st v < st.nextIndex :=
  h.index_lt v _ hv.index

/-! ## Extension: indices, once given, stay -/

/-- `st'` has every index `st` has, and the lowlinks of `st`'s vertices. -/
structure Ext (st st' : TarjanState α) : Prop where
  index : ∀ v i, st.indexOf v = some i → st'.indexOf v = some i
  low : ∀ v, Visited st v → st'.lowlink v = st.lowlink v

/-- What is visited stays visited. -/
theorem Ext.visited (h : Ext st st') {v : α} (hv : Visited st v) : Visited st' v :=
  visited_of_index (h.index v _ hv.index)

/-- An index stays. -/
theorem Ext.idx_eq (h : Ext st st') {v : α} (hv : Visited st v) : idx st' v = idx st v :=
  idx_of_index (h.index v _ hv.index)

theorem Ext.trans (h : Ext st st') (h' : Ext st' st'') : Ext st st'' where
  index := fun v i hi => h'.index v i (h.index v i hi)
  low := fun v hv => (h'.low v (h.visited hv)).trans (h.low v hv)

/-- No node becomes unvisited. -/
theorem Ext.unvisited_le (h : Ext st st') : unvisited nodes st' ≤ unvisited nodes st := by
  apply List.countP_mono_left
  intro v _ hv
  simp only [decide_eq_true_eq] at hv ⊢
  by_contra hne
  exact h.visited hne hv

/-! ## Entering a vertex -/

theorem idx_enter (v : α) :
    idx (st.enter node) v = if v = node then st.nextIndex else idx st v := by
  by_cases h : v = node
  · subst h
    simp [idx, TarjanState.enter]
  · simp [idx, TarjanState.enter, h]

/-- Entering a node visits it and no other. -/
theorem visited_enter {v : α} : Visited (st.enter node) v ↔ v = node ∨ Visited st v := by
  by_cases h : v = node
  · subst h
    simp [Visited, TarjanState.enter]
  · simp [Visited, TarjanState.enter, h]

/-- Entering a node finishes none. -/
theorem done_enter (hnew : st.indexOf node = none) {v : α} :
    Done (st.enter node) v ↔ Done st v := by
  have hstack : (st.enter node).stack = node :: st.stack := rfl
  constructor
  · rintro ⟨hv, hns⟩
    rw [hstack, List.mem_cons, not_or] at hns
    exact ⟨(visited_enter.mp hv).resolve_left hns.1, hns.2⟩
  · rintro ⟨hv, hns⟩
    refine ⟨visited_enter.mpr (Or.inr hv), ?_⟩
    rw [hstack, List.mem_cons, not_or]
    refine ⟨?_, hns⟩
    rintro rfl
    exact hv hnew

/-- Entering a node changes no other. -/
theorem ext_enter (hnew : st.indexOf node = none) : Ext st (st.enter node) where
  index := by
    intro v i hi
    have hne : v ≠ node := by
      rintro rfl
      rw [hnew] at hi
      exact absurd hi (by simp)
    simpa [TarjanState.enter, Function.update_of_ne hne] using hi
  low := by
    intro v hv
    have hne : v ≠ node := by
      rintro rfl
      exact hv hnew
    simp [TarjanState.enter, Function.update_of_ne hne]

/-- Entering a node leaves one unvisited node less: the measure of the search. -/
theorem unvisited_enter_lt (hnode : node ∈ nodes) (hnew : st.indexOf node = none) :
    unvisited nodes (st.enter node) < unvisited nodes st := by
  have hle : ∀ l : List α, l.countP (fun v => decide ((st.enter node).indexOf v = none)) ≤
      l.countP (fun v => decide (st.indexOf v = none)) := by
    intro l
    apply List.countP_mono_left
    intro v _ hv
    simp only [decide_eq_true_eq] at hv ⊢
    by_contra hne
    exact (visited_enter.mpr (Or.inr hne)) hv
  obtain ⟨l₁, l₂, rfl⟩ := List.append_of_mem hnode
  have hin : (st.enter node).indexOf node ≠ none := visited_enter.mpr (Or.inl rfl)
  have h₁ := hle l₁
  have h₂ := hle l₂
  simp only [unvisited, List.countP_append, List.countP_cons, hnew, hin, decide_true,
    decide_false, if_true]
  simp only [Bool.false_eq_true, if_false]
  omega

/-- The invariant holds on entering a successor. -/
theorem Inv.enter (h : Inv succ nodes path st) (hnode : node ∈ nodes)
    (hnew : st.indexOf node = none) (hreach : ∀ z ∈ path, Reach succ z node) :
    Inv succ nodes (node :: path) (st.enter node) := by
  have hne : ∀ {v}, Visited st v → v ≠ node := by
    rintro v hv rfl
    exact hv hnew
  have hidx : ∀ {v}, Visited st v → idx (st.enter node) v = idx st v := by
    intro v hv
    rw [idx_enter, if_neg (hne hv)]
  have hself : idx (st.enter node) node = st.nextIndex := by rw [idx_enter, if_pos rfl]
  have hstack : (st.enter node).stack = node :: st.stack := rfl
  refine ⟨?_, ?_, ?_, ?_, ?_, ?_, ?_, ?_, ?_, ?_, ?_, h.sccs, h.disjoint⟩
  · intro v i hi
    have hi' := idx_of_index hi
    rw [idx_enter] at hi'
    show i < st.nextIndex + 1
    split_ifs at hi' with hv
    · omega
    · have hvis := (visited_enter.mp (visited_of_index hi)).resolve_left hv
      have := h.idx_lt hvis
      omega
  · intro v hv
    rcases visited_enter.mp hv with rfl | hv
    · exact hnode
    · exact h.in_nodes v hv
  · rw [hstack, List.pairwise_cons]
    constructor
    · intro b hb
      have hbv := h.stack_visited b hb
      rw [hself, hidx hbv]
      exact h.idx_lt hbv
    · refine h.stack_sorted.imp_of_mem ?_
      intro a b ha hb hab
      rwa [hidx (h.stack_visited a ha), hidx (h.stack_visited b hb)]
  · intro v hv
    rw [hstack] at hv
    rcases List.mem_cons.mp hv with rfl | hv
    · exact visited_enter.mpr (Or.inl rfl)
    · exact visited_enter.mpr (Or.inr (h.stack_visited v hv))
  · intro v
    show v ∈ insert node st.onStack ↔ v ∈ node :: st.stack
    rw [Finset.mem_insert, List.mem_cons, h.onStack_iff]
  · intro z hz
    rw [hstack]
    rcases List.mem_cons.mp hz with rfl | hz
    · exact List.mem_cons_self ..
    · exact List.mem_cons_of_mem _ (h.path_stack z hz)
  · intro v hv
    rw [hstack] at hv
    rcases List.mem_cons.mp hv with rfl | hv
    · exact ⟨v, List.mem_cons_self .., le_rfl, ReflTransGen.refl⟩
    · obtain ⟨z, hz, hle, hr⟩ := h.reaches_path v hv
      refine ⟨z, List.mem_cons_of_mem _ hz, ?_, hr⟩
      rwa [hidx (h.stack_visited z (h.path_stack z hz)), hidx (h.stack_visited v hv)]
  · intro z hz v hv hle
    rw [hstack] at hv
    rcases List.mem_cons.mp hv with rfl | hv
    · rcases List.mem_cons.mp hz with rfl | hz
      · exact ReflTransGen.refl
      · exact hreach z hz
    · have hvv := h.stack_visited v hv
      rcases List.mem_cons.mp hz with rfl | hz
      · -- nothing below the new vertex has an index as large as its own
        rw [hself, hidx hvv] at hle
        exact absurd (h.idx_lt hvv) (by omega)
      · rw [hidx hvv, hidx (h.stack_visited z (h.path_stack z hz))] at hle
        exact h.path_reaches z hz v hv hle
  · intro v hv hnp w hw
    rw [List.mem_cons, not_or] at hnp
    have hv' := (visited_enter.mp hv).resolve_left hnp.1
    exact visited_enter.mpr (Or.inr (h.black_succ v hv' hnp.2 w hw))
  · intro v hv w hw
    rw [done_enter hnew] at hv ⊢
    exact h.done_closed v hv w hw
  · intro v
    rw [done_enter hnew]
    exact h.done_iff v

/-! ## The loop over the successors -/

/-- What holds while the successors of `node` are scanned: `st₀` is the state
before the visit, `seen` the successors scanned so far. -/
structure LoopInv (succ : α → List α) (nodes path : List α) (st₀ : TarjanState α) (node : α)
    (seen : List α) (st : TarjanState α) : Prop where
  inv : Inv succ nodes (node :: path) st
  fresh : st₀.indexOf node = none
  ext : Ext st₀ st
  index_node : st.indexOf node = some st₀.nextIndex
  next_lt : st₀.nextIndex < st.nextIndex
  fuel : unvisited nodes st < unvisited nodes st₀
  seen_visited : ∀ w ∈ seen, Visited st w
  seen_low : ∀ w ∈ seen, w ∈ st₀.stack → st.lowlink node ≤ idx st w
  low_le : st.lowlink node ≤ st₀.nextIndex
  low_reach : ∃ y ∈ st.stack, idx st y = st.lowlink node ∧ Reach succ node y
  stack : ∃ above, st.stack = above ++ node :: st₀.stack ∧
    (∀ v ∈ above, st₀.nextIndex < idx st v) ∧
    ∀ v ∈ above, ∀ w ∈ st₀.stack, w ∈ succ v → st.lowlink node ≤ idx st w

/-- What a finished visit of `node` guarantees to its caller. -/
structure Post (succ : α → List α) (nodes path : List α) (st₀ : TarjanState α) (node : α)
    (st : TarjanState α) : Prop where
  inv : Inv succ nodes path st
  ext : Ext st₀ st
  index_node : st.indexOf node = some st₀.nextIndex
  next_lt : st₀.nextIndex < st.nextIndex
  low_reach : st.lowlink node = st₀.nextIndex ∨
    ∃ y ∈ st₀.stack, idx st y = st.lowlink node ∧ Reach succ node y
  stack : ∃ above, st.stack = above ++ st₀.stack ∧
    (∀ v ∈ above, st₀.nextIndex ≤ idx st v) ∧
    ∀ v ∈ above, ∀ w ∈ st₀.stack, w ∈ succ v → st.lowlink node ≤ idx st w

/-- The index of the node whose successors are visited. -/
theorem LoopInv.idx_node {st₀ : TarjanState α} {seen : List α}
    (h : LoopInv succ nodes path st₀ node seen st) : idx st node = st₀.nextIndex :=
  idx_of_index h.index_node

/-- The invariant of the loop holds on entry. -/
theorem LoopInv.start (h : Inv succ nodes path st) (hnode : node ∈ nodes)
    (hnew : st.indexOf node = none) (hreach : ∀ z ∈ path, Reach succ z node) :
    LoopInv succ nodes path st node [] (st.enter node) where
  inv := h.enter hnode hnew hreach
  fresh := hnew
  ext := ext_enter hnew
  index_node := by simp [TarjanState.enter]
  next_lt := Nat.lt_succ_self _
  fuel := unvisited_enter_lt hnode hnew
  seen_visited := by simp
  seen_low := by simp
  low_le := by simp [TarjanState.enter]
  low_reach := by
    refine ⟨node, List.mem_cons_self .., ?_, ReflTransGen.refl⟩
    rw [idx_enter, if_pos rfl]
    simp [TarjanState.enter]
  stack := ⟨[], rfl, by simp, by simp⟩

/-- What was on the stack stays there during the loop. -/
theorem LoopInv.mem_stack {st₀ : TarjanState α} {seen : List α} {v : α}
    (h : LoopInv succ nodes path st₀ node seen st) (hv : v ∈ st₀.stack) : v ∈ st.stack := by
  obtain ⟨above, hst, _, _⟩ := h.stack
  rw [hst]
  exact List.mem_append_right _ (List.mem_cons_of_mem _ hv)

/-- Lowering `lowlink[node]` to the index of a reachable stack vertex. -/
theorem LoopInv.lower {st₀ : TarjanState α} {seen : List α}
    (h : LoopInv succ nodes path st₀ node seen st) (bound : ℕ)
    (hbound : st.lowlink node ≤ bound ∨
      ∃ y ∈ st.stack, idx st y = bound ∧ Reach succ node y) :
    LoopInv succ nodes path st₀ node seen (st.lower node bound) := by
  have hlow : (st.lower node bound).lowlink node = min (st.lowlink node) bound := by
    simp [TarjanState.lower]
  have hle : (st.lower node bound).lowlink node ≤ st.lowlink node := by
    rw [hlow]
    exact min_le_left _ _
  refine ⟨h.inv.lower node bound, h.fresh, ⟨h.ext.index, ?_⟩, h.index_node, h.next_lt, h.fuel,
    h.seen_visited, ?_, hle.trans h.low_le, ?_, ?_⟩
  · intro v hv
    have hne : v ≠ node := by
      rintro rfl
      exact hv h.fresh
    simpa [TarjanState.lower, Function.update_of_ne hne] using h.ext.low v hv
  · intro w hw hws
    exact hle.trans (h.seen_low w hw hws)
  · rw [hlow]
    obtain ⟨y, hy, hyi, hyr⟩ := h.low_reach
    -- the new lowlink is the old one, or the index of the node that the bound came from
    rcases hbound with hb | ⟨z, hz, hzi, hzr⟩
    · exact ⟨y, hy, by rw [min_eq_left hb]; exact hyi, hyr⟩
    · rcases le_total (st.lowlink node) bound with hb | hb
      · exact ⟨y, hy, by rw [min_eq_left hb]; exact hyi, hyr⟩
      · exact ⟨z, hz, by rw [min_eq_right hb]; exact hzi, hzr⟩
  · obtain ⟨above, hst, hidx, hcross⟩ := h.stack
    exact ⟨above, hst, hidx, fun v hv w hw hvw => hle.trans (hcross v hv w hw hvw)⟩

/-- A scanned successor that has been visited and, if it was on the stack
before the visit of `node`, is accounted for in `lowlink[node]`. -/
theorem LoopInv.see {st₀ : TarjanState α} {seen : List α} {next : α}
    (h : LoopInv succ nodes path st₀ node seen st) (hvis : Visited st next)
    (hlow : next ∈ st₀.stack → st.lowlink node ≤ idx st next) :
    LoopInv succ nodes path st₀ node (seen ++ [next]) st := by
  refine ⟨h.inv, h.fresh, h.ext, h.index_node, h.next_lt, h.fuel, ?_, ?_, h.low_le,
    h.low_reach, h.stack⟩
  · intro w hw
    rcases List.mem_append.mp hw with hw | hw
    · exact h.seen_visited w hw
    · rw [List.mem_singleton.mp hw]
      exact hvis
  · intro w hw hws
    rcases List.mem_append.mp hw with hw | hw
    · exact h.seen_low w hw hws
    · rw [List.mem_singleton.mp hw] at hws ⊢
      exact hlow hws

/-- A tree edge: the visit of `next` returned in `st'`, and its lowlink has
been folded into the one of `node`. -/
theorem LoopInv.tree_edge {st₀ : TarjanState α} {seen : List α} {next : α}
    (h : LoopInv succ nodes path st₀ node seen st) (hnext : next ∈ succ node)
    (hnew : st.indexOf next = none)
    (hpost : Post succ nodes (node :: path) st next st') :
    LoopInv succ nodes path st₀ node (seen ++ [next])
      (st'.lower node (st'.lowlink next)) := by
  have hvn : Visited st node := visited_of_index h.index_node
  have hlown : st'.lowlink node = st.lowlink node := hpost.ext.low node hvn
  have hstart : ∀ {v}, v ∈ st₀.stack → Visited st v := by
    intro v hv
    exact h.inv.stack_visited v (h.mem_stack hv)
  obtain ⟨above, hst, hidx, hcross⟩ := h.stack
  -- the stack: what the visit of `next` left, what lay above `node` before, and `node`
  obtain ⟨above', hst', hidx', hcross'⟩ := hpost.stack
  have hstk : st'.stack = (above' ++ above) ++ node :: st₀.stack := by
    rw [hst', hst, List.append_assoc]
  have hlow : (st'.lower node (st'.lowlink next)).lowlink node =
      min (st.lowlink node) (st'.lowlink next) := by
    simp [TarjanState.lower, hlown]
  refine ⟨hpost.inv.lower _ _, h.fresh, ⟨?_, ?_⟩, ?_, h.next_lt.trans hpost.next_lt, ?_, ?_, ?_,
    ?_, ?_, ?_⟩
  · exact (h.ext.trans hpost.ext).index
  · intro v hv
    have hne : v ≠ node := by
      rintro rfl
      exact hv h.fresh
    simpa [TarjanState.lower, Function.update_of_ne hne] using (h.ext.trans hpost.ext).low v hv
  · exact hpost.ext.index node _ h.index_node
  · exact lt_of_le_of_lt hpost.ext.unvisited_le h.fuel
  · intro w hw
    rcases List.mem_append.mp hw with hw | hw
    · exact hpost.ext.visited (h.seen_visited w hw)
    · rw [List.mem_singleton.mp hw]
      exact visited_of_index hpost.index_node
  · intro w hw hws
    rcases List.mem_append.mp hw with hw | hw
    · rw [hlow]
      refine (min_le_left _ _).trans ?_
      have hseen := h.seen_low w hw hws
      rwa [← hpost.ext.idx_eq (h.seen_visited w hw)] at hseen
    · -- `next` was not on the stack before: it had not been visited
      rw [List.mem_singleton.mp hw] at hws
      exact absurd hnew (hstart hws)
  · rw [hlow]
    exact (min_le_left _ _).trans h.low_le
  · rw [hlow]
    obtain ⟨y, hy, hyi, hyr⟩ := h.low_reach
    have hyold : ∃ y ∈ st'.stack, idx st' y = st.lowlink node ∧ Reach succ node y := by
      refine ⟨y, ?_, ?_, hyr⟩
      · rw [hst']
        exact List.mem_append_right _ hy
      · rw [hpost.ext.idx_eq (h.inv.stack_visited y hy)]
        exact hyi
    rcases hpost.low_reach with hroot | ⟨z, hz, hzi, hzr⟩
    · -- `next` closed its own component: its lowlink is too large to matter
      have hbig : st.lowlink node ≤ st'.lowlink next := by
        rw [hroot]
        exact h.low_le.trans h.next_lt.le
      rw [min_eq_left hbig]
      exact hyold
    · rcases le_total (st.lowlink node) (st'.lowlink next) with hb | hb
      · rw [min_eq_left hb]
        exact hyold
      · rw [min_eq_right hb]
        refine ⟨z, ?_, hzi, ReflTransGen.head hnext hzr⟩
        show z ∈ st'.stack
        rw [hst']
        exact List.mem_append_right _ hz
  · refine ⟨above' ++ above, hstk, ?_, ?_⟩
    · intro v hv
      rcases List.mem_append.mp hv with hv | hv
      · exact lt_of_lt_of_le h.next_lt (hidx' v hv)
      · have hvv : Visited st v := by
          apply h.inv.stack_visited
          rw [hst]
          exact List.mem_append_left _ hv
        have := hidx v hv
        rwa [← hpost.ext.idx_eq hvv] at this
    · intro v hv w hw hvw
      rw [hlow]
      rcases List.mem_append.mp hv with hv | hv
      · exact (min_le_right _ _).trans (hcross' v hv w (h.mem_stack hw) hvw)
      · have := hcross v hv w hw hvw
        rw [← hpost.ext.idx_eq (hstart hw)] at this
        exact (min_le_left _ _).trans this

/-! ## Closing a component -/

/-- Popping stops at the node. -/
theorem popUntil_append {above below : List α} (hnot : node ∉ above) :
    popUntil node (above ++ node :: below) = (above ++ [node], below) := by
  induction above with
  | nil => simp [popUntil]
  | cons v above ih =>
      rw [List.mem_cons, not_or] at hnot
      have hv : v ≠ node := fun h => hnot.1 h.symm
      simp [popUntil, hv, ih hnot.2]

/-- Strict order of the indices makes the stack duplicate-free. -/
theorem Inv.stack_nodup (h : Inv succ nodes path st) : st.stack.Nodup := by
  refine h.stack_sorted.imp ?_
  rintro a b hlt rfl
  exact lt_irrefl _ hlt

/-- Closing pops the part of the stack down to `node`. -/
theorem close_of_stack (sort : List α → List α) {above below : List α} (hnot : node ∉ above)
    (hst : st.stack = above ++ node :: below) :
    (st.close sort node).stack = below ∧
      (st.close sort node).onStack = st.onStack \ (above ++ [node]).toFinset ∧
      (st.close sort node).components = st.components ++ [sort (above ++ [node])] := by
  have hpop : popUntil node st.stack = (above ++ [node], below) := by
    rw [hst]
    exact popUntil_append hnot
  unfold TarjanState.close
  rw [hpop]
  exact ⟨rfl, rfl, rfl⟩

/-- What is popped is closed with what was closed before. -/
theorem done_close {popped below : List α} (hinv : Inv succ nodes path st)
    (hst : st.stack = popped ++ below) (hclosed : (st.close sort node).stack = below) (v : α) :
    Done (st.close sort node) v ↔ Done st v ∨ v ∈ popped := by
  have hnd := hinv.stack_nodup
  rw [hst] at hnd
  unfold Done
  rw [hclosed, hst, List.mem_append, not_or]
  constructor
  · rintro ⟨hv, hns⟩
    by_cases hin : v ∈ popped
    · exact Or.inr hin
    · exact Or.inl ⟨hv, hin, hns⟩
  · -- the stack has no duplicates, so what is popped is gone from it
    rintro (⟨hv, _, hns⟩ | hin)
    · exact ⟨hv, hns⟩
    · refine ⟨hinv.stack_visited v ?_, fun hold => List.disjoint_of_nodup_append hnd hin hold⟩
      rw [hst]
      exact List.mem_append_left _ hin

/-- A closed vertex only reaches closed vertices. -/
theorem Inv.done_reach (h : Inv succ nodes path st) {a b : α} (ha : Done st a)
    (hr : Reach succ a b) : Done st b := by
  induction hr with
  | refl => exact ha
  | tail _ hedge ih => exact h.done_closed _ ih _ hedge

/-- A component is a set, in whatever order it is listed. -/
theorem IsScc.of_perm {C D : List α} (h : IsScc succ C) (hp : D.Perm C) : IsScc succ D := by
  refine ⟨?_, hp.nodup_iff.mpr h.2.1, ?_⟩
  · rintro rfl
    exact h.1 hp.symm.eq_nil
  · intro a ha b
    rw [hp.mem_iff]
    exact h.2.2 a (hp.mem_iff.mp ha) b

section Finish

variable {st₀ : TarjanState α} {seen above : List α}

/-- The path of the caller lies below the vertex being visited. -/
theorem LoopInv.path_below (h : LoopInv succ nodes path st₀ node seen st)
    (h₀ : Inv succ nodes path st₀) {z : α} (hz : z ∈ path) :
    z ∈ st₀.stack ∧ idx st z < st₀.nextIndex := by
  have hzs := h₀.path_stack z hz
  have hzv := h₀.stack_visited z hzs
  refine ⟨hzs, ?_⟩
  rw [h.ext.idx_eq hzv]
  exact h₀.idx_lt hzv

/-- What was on the stack before has a smaller index. -/
theorem LoopInv.stack_below (h : LoopInv succ nodes path st₀ node seen st)
    (h₀ : Inv succ nodes path st₀) {v : α} (hv : v ∈ st₀.stack) : idx st v < st₀.nextIndex := by
  have hvv := h₀.stack_visited v hv
  rw [h.ext.idx_eq hvv]
  exact h₀.idx_lt hvv

/-- What was pushed since has an index at least that of the node. -/
theorem LoopInv.stack_above (h : LoopInv succ nodes path st₀ node seen st)
    (hidx : ∀ v ∈ above, st₀.nextIndex < idx st v) {v : α} (hv : v ∈ above ++ [node]) :
    st₀.nextIndex ≤ idx st v := by
  rcases List.mem_append.mp hv with hv | hv
  · exact (hidx v hv).le
  · rw [List.mem_singleton.mp hv, h.idx_node]

/-- Once all successors of `node` are scanned, it leaves the path like the others. -/
theorem LoopInv.black_succ (h : LoopInv succ nodes path st₀ node seen st)
    (hseen : ∀ w ∈ succ node, w ∈ seen) :
    ∀ v, Visited st v → v ∉ path → ∀ w ∈ succ v, Visited st w := by
  intro v hv hnp w hw
  by_cases hvn : v = node
  · subst hvn
    exact h.seen_visited w (hseen w hw)
  · exact h.inv.black_succ v hv (by simp [hvn, hnp]) w hw

/-- Once all successors of `node` are scanned, an edge out of the part of the
stack above the old one stays there, leads to a closed vertex, or leads into
the old stack at an index that `lowlink[node]` bounds from below. -/
theorem LoopInv.edge_out (h : LoopInv succ nodes path st₀ node seen st)
    (h₀ : Inv succ nodes path st₀) (hseen : ∀ w ∈ succ node, w ∈ seen)
    (hst : st.stack = above ++ node :: st₀.stack)
    (hidx : ∀ v ∈ above, st₀.nextIndex < idx st v)
    (hcross : ∀ v ∈ above, ∀ w ∈ st₀.stack, w ∈ succ v → st.lowlink node ≤ idx st w)
    {v w : α} (hv : v ∈ above ++ [node]) (hw : w ∈ succ v) :
    w ∈ above ++ [node] ∨ Done st w ∨ (w ∈ st₀.stack ∧ st.lowlink node ≤ idx st w) := by
  -- the nodes above are finished, and the successors of the node itself have been gone through
  have hwv : Visited st w := by
    rcases List.mem_append.mp hv with hv | hv
    · have hvs : v ∈ st.stack := by
        rw [hst]
        exact List.mem_append_left _ hv
      refine h.inv.black_succ v (h.inv.stack_visited v hvs) ?_ w hw
      intro hpath
      have hgt := hidx v hv
      rcases List.mem_cons.mp hpath with rfl | hpath
      · rw [h.idx_node] at hgt
        exact lt_irrefl _ hgt
      · exact absurd (h.path_below h₀ hpath).2 (by omega)
    · rw [List.mem_singleton.mp hv] at hw
      exact h.seen_visited w (hseen w hw)
  by_cases hws : w ∈ st.stack
  · rw [hst, List.append_cons] at hws
    rcases List.mem_append.mp hws with hws | hws
    · exact Or.inl hws
    · refine Or.inr (Or.inr ⟨hws, ?_⟩)
      rcases List.mem_append.mp hv with hv | hv
      · exact hcross v hv w hws hw
      · rw [List.mem_singleton.mp hv] at hw
        exact h.seen_low w (hseen w hw) hws
  · exact Or.inr (Or.inl ⟨hwv, hws⟩)

/-- `node` is a root: what is above it on the stack is exactly its component,
and nothing reachable from there is open. -/
theorem LoopInv.root_scc (h : LoopInv succ nodes path st₀ node seen st)
    (h₀ : Inv succ nodes path st₀) (hseen : ∀ w ∈ succ node, w ∈ seen)
    (hst : st.stack = above ++ node :: st₀.stack)
    (hidx : ∀ v ∈ above, st₀.nextIndex < idx st v)
    (hcross : ∀ v ∈ above, ∀ w ∈ st₀.stack, w ∈ succ v → st.lowlink node ≤ idx st w)
    (hroot : st.lowlink node = st₀.nextIndex) :
    IsScc succ (above ++ [node]) ∧
      ∀ v ∈ above ++ [node], ∀ w ∈ succ v, w ∈ above ++ [node] ∨ Done st w := by
  have hmem : ∀ {v}, v ∈ above ++ [node] → v ∈ st.stack := by
    intro v hv
    rw [hst, List.append_cons]
    exact List.mem_append_left _ hv
  have hstep : ∀ v ∈ above ++ [node], ∀ w ∈ succ v, w ∈ above ++ [node] ∨ Done st w := by
    intro v hv w hw
    rcases h.edge_out h₀ hseen hst hidx hcross hv hw with hin | hdone | ⟨hold, hle⟩
    · exact Or.inl hin
    · exact Or.inr hdone
    · have := h.stack_below h₀ hold
      omega
  -- no path leaves what is above the root except into finished components
  have hclosed : ∀ v w, v ∈ above ++ [node] → Reach succ v w →
      w ∈ above ++ [node] ∨ Done st w := by
    intro v w hv hr
    induction hr with
    | refl => exact Or.inl hv
    | tail _ hedge ih =>
        rcases ih with hin | hdone
        · exact hstep _ hin _ hedge
        · exact Or.inr (h.inv.done_closed _ hdone _ hedge)
  -- so the root reaches all of them, and each of them the root
  have hto : ∀ v ∈ above ++ [node], Reach succ node v := by
    intro v hv
    apply h.inv.path_reaches node (List.mem_cons_self ..) v (hmem hv)
    rw [h.idx_node]
    exact h.stack_above hidx hv
  have hfrom : ∀ v ∈ above ++ [node], Reach succ v node := by
    intro v hv
    obtain ⟨z, hz, _, hr⟩ := h.inv.reaches_path v (hmem hv)
    rcases List.mem_cons.mp hz with rfl | hz
    · exact hr
    · -- a vertex of the caller's path is open and below `node`: out of reach
      have hzb := h.path_below h₀ hz
      rcases hclosed v z hv hr with hin | hdone
      · exact absurd (h.stack_above hidx hin) (by omega)
      · exact absurd (h.mem_stack hzb.1) hdone.2
  refine ⟨⟨by simp, ?_, ?_⟩, hstep⟩
  · have hnd := h.inv.stack_nodup
    rw [hst, List.append_cons] at hnd
    exact hnd.of_append_left
  · intro a ha b
    constructor
    · intro hb
      exact ⟨(hfrom a ha).trans (hto b hb), (hfrom b hb).trans (hto a ha)⟩
    · rintro ⟨hab, hba⟩
      rcases hclosed a b ha hab with hin | hdone
      · exact hin
      · exact absurd (hmem ha) (h.inv.done_reach hdone hba).2

/-- At a root the stack down to it is one component. -/
theorem LoopInv.post_root (h : LoopInv succ nodes path st₀ node seen st)
    (h₀ : Inv succ nodes path st₀) (hseen : ∀ w ∈ succ node, w ∈ seen)
    (hsort : ∀ l, (sort l).Perm l) (hroot : st.lowlink node = st₀.nextIndex) :
    Post succ nodes path st₀ node (st.close sort node) := by
  obtain ⟨above, hst, hidx, hcross⟩ := h.stack
  obtain ⟨hscc, hout⟩ := h.root_scc h₀ hseen hst hidx hcross hroot
  have hst' : st.stack = (above ++ [node]) ++ st₀.stack := by rw [hst, List.append_cons]
  have hnode : node ∉ above := by
    intro hin
    have := hidx node hin
    rw [h.idx_node] at this
    exact lt_irrefl _ this
  obtain ⟨hstack, hon, hcomps⟩ := close_of_stack sort hnode hst
  have hdone : ∀ v, Done (st.close sort node) v ↔ Done st v ∨ v ∈ above ++ [node] :=
    done_close h.inv hst' hstack
  have hmem : ∀ {v}, v ∈ sort (above ++ [node]) ↔ v ∈ above ++ [node] :=
    (hsort _).mem_iff
  refine ⟨⟨h.inv.index_lt, h.inv.in_nodes, ?_, ?_, ?_, ?_, ?_, ?_, ?_, ?_, ?_, ?_, ?_⟩,
    ⟨h.ext.index, h.ext.low⟩, h.index_node, h.next_lt, Or.inl hroot,
    ⟨[], by simp [hstack], by simp, by simp⟩⟩
  · rw [hstack]
    have := h.inv.stack_sorted
    rw [hst'] at this
    exact (List.pairwise_append.mp this).2.1
  · intro v hv
    rw [hstack] at hv
    exact h.inv.stack_visited v (h.mem_stack hv)
  · intro v
    have hnd := h.inv.stack_nodup
    rw [hst'] at hnd
    rw [hon, hstack, Finset.mem_sdiff, h.inv.onStack_iff, List.mem_toFinset, hst',
      List.mem_append]
    constructor
    · rintro ⟨hin | hin, hnot⟩
      · exact absurd hin hnot
      · exact hin
    · intro hin
      exact ⟨Or.inr hin, fun hin' => List.disjoint_of_nodup_append hnd hin' hin⟩
  · intro z hz
    rw [hstack]
    exact h₀.path_stack z hz
  · intro v hv
    rw [hstack] at hv
    obtain ⟨z, hz, hle, hr⟩ := h.inv.reaches_path v (h.mem_stack hv)
    rcases List.mem_cons.mp hz with rfl | hz
    · rw [h.idx_node] at hle
      exact absurd (h.stack_below h₀ hv) (by omega)
    · exact ⟨z, hz, hle, hr⟩
  · intro z hz v hv hle
    rw [hstack] at hv
    exact h.inv.path_reaches z (List.mem_cons_of_mem _ hz) v (h.mem_stack hv) hle
  · exact h.black_succ hseen
  · intro v hv w hw
    rw [hdone] at hv ⊢
    rcases hv with hv | hv
    · exact Or.inl (h.inv.done_closed v hv w hw)
    · exact (hout v hv w hw).symm
  · intro v
    rw [hdone, hcomps, h.inv.done_iff]
    constructor
    · rintro (⟨C, hC, hvC⟩ | hin)
      · exact ⟨C, List.mem_append_left _ hC, hvC⟩
      · exact ⟨_, List.mem_append_right _ (List.mem_singleton.mpr rfl), hmem.mpr hin⟩
    · rintro ⟨C, hC, hvC⟩
      rcases List.mem_append.mp hC with hC | hC
      · exact Or.inl ⟨C, hC, hvC⟩
      · rw [List.mem_singleton.mp hC] at hvC
        exact Or.inr (hmem.mp hvC)
  · intro C hC
    rw [hcomps] at hC
    rcases List.mem_append.mp hC with hC | hC
    · exact h.inv.sccs C hC
    · rw [List.mem_singleton.mp hC]
      exact hscc.of_perm (hsort _)
  · rw [hcomps, List.pairwise_append]
    refine ⟨h.inv.disjoint, List.pairwise_singleton _ _, ?_⟩
    intro C hC D hD
    rw [List.mem_singleton.mp hD]
    intro v hvC hvD
    -- a vertex of an older component is closed, one of the new component was on the stack
    refine ((h.inv.done_iff v).mpr ⟨C, hC, hvC⟩).2 ?_
    rw [hst']
    exact List.mem_append_left _ (hmem.mp hvD)

/-- At an inner node nothing is popped. -/
theorem LoopInv.post_inner (h : LoopInv succ nodes path st₀ node seen st)
    (h₀ : Inv succ nodes path st₀) (hseen : ∀ w ∈ succ node, w ∈ seen)
    (hinner : st.lowlink node ≠ st₀.nextIndex) :
    Post succ nodes path st₀ node st := by
  obtain ⟨above, hst, hidx, hcross⟩ := h.stack
  have hlt : st.lowlink node < st₀.nextIndex := lt_of_le_of_ne h.low_le hinner
  obtain ⟨y, hy, hyi, hyr⟩ := h.low_reach
  -- the low link is that of a vertex which was on the stack before
  have hyold : y ∈ st₀.stack := by
    rw [hst, List.append_cons] at hy
    rcases List.mem_append.mp hy with hy | hy
    · exact absurd (h.stack_above hidx hy) (by omega)
    · exact hy
  refine ⟨⟨h.inv.index_lt, h.inv.in_nodes, h.inv.stack_sorted, h.inv.stack_visited,
    h.inv.onStack_iff, ?_, ?_, ?_, ?_, h.inv.done_closed, h.inv.done_iff, h.inv.sccs,
    h.inv.disjoint⟩, h.ext, h.index_node, h.next_lt, Or.inr ⟨y, hyold, hyi, hyr⟩,
    ⟨above ++ [node], by rw [hst, List.append_cons], ?_, ?_⟩⟩
  · intro z hz
    exact h.inv.path_stack z (List.mem_cons_of_mem _ hz)
  · intro v hv
    obtain ⟨z, hz, hle, hr⟩ := h.inv.reaches_path v hv
    rcases List.mem_cons.mp hz with rfl | hz
    · -- go on from `node` to the old stack, and from there to the path
      obtain ⟨z', hz', hle', hr'⟩ := h₀.reaches_path y hyold
      refine ⟨z', hz', ?_, (hr.trans hyr).trans hr'⟩
      have hzv := h₀.stack_visited z' (h₀.path_stack z' hz')
      have hyv := h₀.stack_visited y hyold
      rw [← h.ext.idx_eq hzv, ← h.ext.idx_eq hyv, hyi] at hle'
      rw [h.idx_node] at hle
      omega
    · exact ⟨z, hz, hle, hr⟩
  · intro z hz v hv hle
    exact h.inv.path_reaches z (List.mem_cons_of_mem _ hz) v hv hle
  · exact h.black_succ hseen
  · intro v hv
    exact h.stack_above hidx hv
  · intro v hv w hw hvw
    rcases List.mem_append.mp hv with hv | hv
    · exact hcross v hv w hw hvw
    · rw [List.mem_singleton.mp hv] at hvw
      exact h.seen_low w (hseen w hvw) hw

end Finish

/-! ## The recursion and the top-level loop -/

/-- A visit with enough fuel establishes its postcondition. -/
theorem strongConnect_spec (hclosed : ∀ v ∈ nodes, ∀ w ∈ succ v, w ∈ nodes)
    (hsort : ∀ l, (sort l).Perm l) (fuel : ℕ) :
    ∀ (node : α) (st : TarjanState α) (path : List α), Inv succ nodes path st →
      node ∈ nodes → st.indexOf node = none → (∀ z ∈ path, Reach succ z node) →
      unvisited nodes st ≤ fuel →
      Post succ nodes path st node (strongConnect succ sort fuel node st) := by
  induction fuel with
  | zero =>
      intro node st path _ hnode hnew _ hfuel
      have hpos := unvisited_enter_lt hnode hnew
      omega
  | succ fuel ih =>
      intro node st₀ path h₀ hnode hnew hreach hfuel
      -- the scan: every prefix of the successors keeps `LoopInv`
      have hloop : ∀ (rest seen : List α) (st : TarjanState α),
          (∀ w ∈ rest, w ∈ succ node) → LoopInv succ nodes path st₀ node seen st →
          LoopInv succ nodes path st₀ node (seen ++ rest)
            (rest.foldl
              (fun st next =>
                if st.indexOf next = none then
                  let st' := strongConnect succ sort fuel next st
                  st'.lower node (st'.lowlink next)
                else if next ∈ st.onStack then
                  st.lower node ((st.indexOf next).getD 0)
                else st)
              st) := by
        intro rest
        induction rest with
        | nil =>
            intro seen st _ h
            simpa using h
        | cons next rest ihr =>
            intro seen st hrest h
            have hnext := hrest next (List.mem_cons_self ..)
            have hrest' : ∀ w ∈ rest, w ∈ succ node :=
              fun w hw => hrest w (List.mem_cons_of_mem _ hw)
            rw [List.foldl_cons, List.append_cons]
            apply ihr _ _ hrest'
            by_cases hvis : st.indexOf next = none
            · rw [if_pos hvis]
              apply h.tree_edge hnext hvis
              apply ih next st (node :: path) h.inv (hclosed node hnode next hnext) hvis
              · intro z hz
                have hzn : Reach succ z node := by
                  rcases List.mem_cons.mp hz with rfl | hz
                  · exact ReflTransGen.refl
                  · exact hreach z hz
                exact hzn.tail hnext
              · have := h.fuel
                omega
            · rw [if_neg hvis]
              by_cases hon : next ∈ st.onStack
              · rw [if_pos hon]
                have hstk := (h.inv.onStack_iff next).mp hon
                have hlow := h.lower (idx st next)
                  (Or.inr ⟨next, hstk, rfl, ReflTransGen.single hnext⟩)
                refine hlow.see hvis ?_
                intro _
                show (st.lower node (idx st next)).lowlink node ≤ idx st next
                simp [TarjanState.lower]
              · rw [if_neg hon]
                refine h.see hvis ?_
                intro hin
                exact absurd ((h.inv.onStack_iff next).mpr (h.mem_stack hin)) hon
      have hend := hloop (succ node) [] (st₀.enter node) (fun w hw => hw)
        (LoopInv.start h₀ hnode hnew hreach)
      rw [List.nil_append] at hend
      simp only [strongConnect]
      split_ifs with hroot
      · apply hend.post_root h₀ (fun w hw => hw) hsort
        rw [hend.index_node] at hroot
        exact (Option.some.inj hroot).symm
      · apply hend.post_inner h₀ (fun w hw => hw)
        intro heq
        apply hroot
        rw [hend.index_node, heq]

/-- Nothing is visited at the start. -/
theorem inv_empty (succ : α → List α) (nodes : List α) :
    Inv succ nodes [] (TarjanState.empty : TarjanState α) := by
  refine ⟨?_, ?_, List.Pairwise.nil, ?_, ?_, ?_, ?_, ?_, ?_, ?_, ?_, ?_, List.Pairwise.nil⟩ <;>
    simp [TarjanState.empty, Visited, Done]

/-- With an empty path nothing is left open. -/
theorem Inv.stack_nil (h : Inv succ nodes [] st) : st.stack = [] := by
  apply List.eq_nil_iff_forall_not_mem.mpr
  intro v hv
  obtain ⟨z, hz, _⟩ := h.reaches_path v hv
  simp at hz

/-- The loop over the nodes visits each of them, whatever was visited before. -/
theorem foldl_strongConnect_spec (hclosed : ∀ v ∈ nodes, ∀ w ∈ succ v, w ∈ nodes)
    (hsort : ∀ l, (sort l).Perm l) {rest : List α} (hrest : ∀ v ∈ rest, v ∈ nodes)
    {st : TarjanState α} (h : Inv succ nodes [] st) :
    let st' := rest.foldl
      (fun st node =>
        if st.indexOf node = none then strongConnect succ sort nodes.length node st else st) st
    Inv succ nodes [] st' ∧ Ext st st' ∧ ∀ v ∈ rest, Visited st' v := by
  induction rest generalizing st with
  | nil => exact ⟨h, ⟨fun _ _ hi => hi, fun _ _ => rfl⟩, by simp⟩
  | cons node rest ih =>
      have hnode := hrest node (List.mem_cons_self ..)
      have hrest' : ∀ v ∈ rest, v ∈ nodes := fun v hv => hrest v (List.mem_cons_of_mem _ hv)
      simp only [List.foldl_cons]
      by_cases hnew : st.indexOf node = none
      · -- a new root; there are as many units of fuel as there are nodes
        have hpost := strongConnect_spec hclosed hsort nodes.length node st [] h hnode hnew
          (by simp) List.countP_le_length
        obtain ⟨hinv, hext, hvis⟩ := ih hrest' hpost.inv
        rw [if_pos hnew]
        refine ⟨hinv, hpost.ext.trans hext, ?_⟩
        intro v hv
        rcases List.mem_cons.mp hv with rfl | hv
        · exact hext.visited (visited_of_index hpost.index_node)
        · exact hvis v hv
      · obtain ⟨hinv, hext, hvis⟩ := ih hrest' h
        rw [if_neg hnew]
        refine ⟨hinv, hext, ?_⟩
        intro v hv
        rcases List.mem_cons.mp hv with rfl | hv
        · exact hext.visited hnew
        · exact hvis v hv

/-- `tarjan` computes exactly the strongly connected components of the nodes:
they cover the nodes, are pairwise disjoint, and each one is a full class of
mutual reachability. -/
theorem tarjan_spec (hclosed : ∀ v ∈ nodes, ∀ w ∈ succ v, w ∈ nodes)
    (hsort : ∀ l, (sort l).Perm l) :
    (∀ v, v ∈ nodes ↔ ∃ C ∈ tarjan succ sort nodes, v ∈ C) ∧
      (tarjan succ sort nodes).Pairwise List.Disjoint ∧
      ∀ C ∈ tarjan succ sort nodes, IsScc succ C := by
  obtain ⟨hinv, _, hvis⟩ :=
    foldl_strongConnect_spec hclosed hsort (fun v hv => hv) (inv_empty succ nodes)
  refine ⟨?_, hinv.disjoint, hinv.sccs⟩
  intro v
  have hdone := hinv.done_iff v
  unfold tarjan
  rw [← hdone]
  constructor
  · intro hv
    refine ⟨hvis v hv, ?_⟩
    rw [hinv.stack_nil]
    simp
  · rintro ⟨hv, _⟩
    exact hinv.in_nodes v hv

end Scc
