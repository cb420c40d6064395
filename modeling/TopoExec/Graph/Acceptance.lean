import TopoExec.Lib.Text
import TopoExec.Graph.RegionVisits

/-! # Which graphs compile

`compile_graph` accepts a graph when none of its passes adds an error. The
ownership pass, the region pass and the unmatched-loop pass are
characterised one by one and assembled into `LoopsMatchCycles`: the composite
loops are exactly the cyclic classes of the immediate edges.

The ordering of the regions runs after these passes, on ids that two regions may
share. Then it may report a condensation that is still cyclic, or not end at all:
`accepts_exactly_iff` says when it does neither.
-/

namespace TopoExec

open Relation

/-- No composite-loop id is the id of a component outside that loop. -/
def NoLoopClash (graph : GraphSpec) : Prop :=
  ∀ loop ∈ graph.compositeLoops, Declared graph loop.id → loop.id ∈ loop.components

/-- A class of mutual reachability over the immediate edges. -/
def ImmediateScc (graph : GraphSpec) (S : Set String) : Prop :=
  ∃ a, Declared graph a ∧ S = {b | ImmediateReach graph a b ∧ ImmediateReach graph b a}

/-- More than one component, or one component with an immediate self-edge. -/
def CyclicClass (graph : GraphSpec) (S : Set String) : Prop :=
  S.Nontrivial ∨ ∃ a, S = {a} ∧ ImmediateEdge graph a a

/-- The component set of a loop. -/
def CompositeLoopSpec.componentSet (loop : CompositeLoopSpec) : Set String :=
  {c | c ∈ loop.components}

/-- The condition under which a graph compiles. -/
structure LoopsMatchCycles (graph : GraphSpec) : Prop where
  ids_nonempty : ∀ loop ∈ graph.compositeLoops, loop.id ≠ ""
  ids_distinct : (graph.compositeLoops.map CompositeLoopSpec.id).Nodup
  no_duplicates : ∀ loop ∈ graph.compositeLoops, loop.components.Nodup
  declared : ∀ loop ∈ graph.compositeLoops, ∀ c ∈ loop.components, Declared graph c
  loop_is_cycle : ∀ loop ∈ graph.compositeLoops,
    ImmediateScc graph loop.componentSet ∧ CyclicClass graph loop.componentSet
  cycle_is_loop : ∀ S, ImmediateScc graph S → CyclicClass graph S →
    ∃! loop, loop ∈ graph.compositeLoops ∧ loop.componentSet = S

/-! ## The ownership pass -/

section Ownership

variable {known : List String} {loop : CompositeLoopSpec}

/-- A loop claims a component without an error when it is known, claimed by no other loop and not
twice by this one. -/
theorem claimComponent_errors (s : OwnershipState × List String) (c : String) :
    (claimComponent known loop s c).1.errors = [] ↔
      s.1.errors = [] ∧ c ∉ s.2 ∧ c ∈ known ∧
        ∀ owner, s.1.loopsByComponent c = some owner → owner = loop.id := by
  unfold claimComponent
  by_cases hknown : c ∈ known
  · cases howner : s.1.loopsByComponent c with
    | none => by_cases hdup : c ∈ s.2 <;> simp [hknown, hdup]
    | some owner =>
        by_cases hdup : c ∈ s.2 <;> by_cases heq : owner = loop.id <;>
          simp [hknown, hdup, heq]
  · by_cases hdup : c ∈ s.2 <;> simp [hknown, hdup]

/-- A claim that adds no error records the loop as the owner. -/
theorem claimComponent_state {s : OwnershipState × List String} {c : String}
    (h : (claimComponent known loop s c).1.errors = []) :
    (claimComponent known loop s c).1.loopsByComponent =
        Function.update s.1.loopsByComponent c (some loop.id) ∧
      (claimComponent known loop s c).1.loopIds = s.1.loopIds ∧
      (claimComponent known loop s c).2 = c :: s.2 := by
  obtain ⟨_, hdup, hknown, howner⟩ := (claimComponent_errors s c).mp h
  unfold claimComponent
  simp only [hdup, hknown, not_true_eq_false, if_false]
  cases hc : s.1.loopsByComponent c with
  | none => simp
  | some owner =>
      have heq := howner owner hc
      simp [heq]

/-- By induction on the components of the loop. -/
theorem claimComponents (cs : List String) (s : OwnershipState × List String) :
    ((cs.foldl (claimComponent known loop) s).1.errors = [] ↔
      s.1.errors = [] ∧ cs.Nodup ∧ (∀ c ∈ cs, c ∉ s.2) ∧ (∀ c ∈ cs, c ∈ known) ∧
        ∀ c ∈ cs, ∀ owner, s.1.loopsByComponent c = some owner → owner = loop.id) ∧
    ((cs.foldl (claimComponent known loop) s).1.errors = [] →
      (cs.foldl (claimComponent known loop) s).1.loopIds = s.1.loopIds ∧
      ∀ c, (cs.foldl (claimComponent known loop) s).1.loopsByComponent c =
        if c ∈ cs then some loop.id else s.1.loopsByComponent c) := by
  induction cs generalizing s with
  | nil => simp
  | cons d cs ih =>
      obtain ⟨ih₁, ih₂⟩ := ih (claimComponent known loop s d)
      rw [List.foldl_cons]
      constructor
      · rw [ih₁]
        constructor
        · rintro ⟨herr, hnd, hseen, hknown, howner⟩
          obtain ⟨hs, hdup, hk, ho⟩ := (claimComponent_errors s d).mp herr
          obtain ⟨hby, _, hsn⟩ := claimComponent_state herr
          rw [hsn] at hseen
          rw [hby] at howner
          -- the first claim marks the component as seen, so no later one may repeat it
          have hdcs : d ∉ cs := fun hin => hseen d hin (List.mem_cons_self ..)
          refine ⟨hs, List.nodup_cons.mpr ⟨hdcs, hnd⟩, ?_, ?_, ?_⟩
          · intro c hc
            rcases List.mem_cons.mp hc with rfl | hc
            · exact hdup
            · exact fun hin => hseen c hc (List.mem_cons_of_mem _ hin)
          · intro c hc
            rcases List.mem_cons.mp hc with rfl | hc
            · exact hk
            · exact hknown c hc
          · intro c hc owner hown
            rcases List.mem_cons.mp hc with rfl | hcs
            · exact ho owner hown
            · apply howner c hcs owner
              have hne : c ≠ d := fun heq => hdcs (heq ▸ hcs)
              rwa [Function.update_of_ne hne]
        · rintro ⟨hs, hnd, hseen, hknown, howner⟩
          obtain ⟨hdcs, hnd'⟩ := List.nodup_cons.mp hnd
          have herr : (claimComponent known loop s d).1.errors = [] :=
            (claimComponent_errors s d).mpr ⟨hs, hseen d (List.mem_cons_self ..),
              hknown d (List.mem_cons_self ..), howner d (List.mem_cons_self ..)⟩
          obtain ⟨hby, _, hsn⟩ := claimComponent_state herr
          refine ⟨herr, hnd', ?_, fun c hc => hknown c (List.mem_cons_of_mem _ hc), ?_⟩
          · intro c hc
            rw [hsn, List.mem_cons, not_or]
            refine ⟨?_, hseen c (List.mem_cons_of_mem _ hc)⟩
            rintro rfl
            exact hdcs hc
          · intro c hc owner hown
            have hne : c ≠ d := by
              rintro rfl
              exact hdcs hc
            rw [hby, Function.update_of_ne hne] at hown
            exact howner c (List.mem_cons_of_mem _ hc) owner hown
      · intro hnil
        obtain ⟨hids, hby⟩ := ih₂ hnil
        obtain ⟨hby', hids', _⟩ := claimComponent_state (ih₁.mp hnil).1
        refine ⟨hids.trans hids', ?_⟩
        intro c
        rw [hby, hby']
        by_cases hc : c ∈ cs
        · simp [hc]
        · by_cases hcd : c = d
          · subst hcd
            simp
          · simp [hc, hcd]

/-- A loop is accepted when its id is new and all its claims are. -/
theorem claimLoop_errors (s : OwnershipState) :
    (claimLoop known s loop).errors = [] ↔
      s.errors = [] ∧ loop.id ≠ "" ∧ loop.id ∉ s.loopIds ∧ loop.components.Nodup ∧
        (∀ c ∈ loop.components, c ∈ known) ∧
        ∀ c ∈ loop.components, ∀ owner, s.loopsByComponent c = some owner → owner = loop.id := by
  unfold claimLoop
  by_cases hid : loop.id = ""
  · simp [hid]
  · simp only [hid, if_false]
    rw [(claimComponents loop.components _).1]
    by_cases hdup : loop.id ∈ s.loopIds <;> simp [hid, hdup]

/-- An accepted loop owns its components from then on. -/
theorem claimLoop_state {s : OwnershipState} (h : (claimLoop known s loop).errors = []) :
    (claimLoop known s loop).loopIds = loop.id :: s.loopIds ∧
      ∀ c, (claimLoop known s loop).loopsByComponent c =
        if c ∈ loop.components then some loop.id else s.loopsByComponent c := by
  obtain ⟨_, hid, hdup, _⟩ := (claimLoop_errors s).mp h
  unfold claimLoop at h ⊢
  simp only [hid, hdup, if_false] at h ⊢
  exact (claimComponents loop.components _).2 h

/-- The whole ownership pass, from an arbitrary state. -/
theorem claimLoops_errors (loops : List CompositeLoopSpec) (s : OwnershipState) :
    (loops.foldl (claimLoop known) s).errors = [] ↔
      s.errors = [] ∧ (∀ l ∈ loops, l.id ≠ "") ∧ (loops.map CompositeLoopSpec.id).Nodup ∧
        (∀ l ∈ loops, l.id ∉ s.loopIds) ∧ (∀ l ∈ loops, l.components.Nodup) ∧
        (∀ l ∈ loops, ∀ c ∈ l.components, c ∈ known) ∧
        (∀ l ∈ loops, ∀ c ∈ l.components, ∀ owner, s.loopsByComponent c = some owner →
          owner = l.id) ∧
        loops.Pairwise fun l l' => ∀ c ∈ l.components, c ∈ l'.components → l.id = l'.id := by
  induction loops generalizing s with
  | nil => simp
  | cons l loops ih =>
      rw [List.foldl_cons, ih]
      constructor
      · rintro ⟨herr, hne, hnd, hids, hcs, hknown, howner, hpw⟩
        obtain ⟨hs, hid, hdup, hnd', hk, ho⟩ := (claimLoop_errors s).mp herr
        obtain ⟨hids', hby⟩ := claimLoop_state herr
        rw [hids'] at hids
        refine ⟨hs, ?_, ?_, ?_, ?_, ?_, ?_, ?_⟩
        · exact List.forall_mem_cons.mpr ⟨hid, hne⟩
        · rw [List.map_cons, List.nodup_cons]
          refine ⟨?_, hnd⟩
          intro hin
          obtain ⟨l', hl', heq⟩ := List.mem_map.mp hin
          exact hids l' hl' (heq ▸ List.mem_cons_self ..)
        · refine List.forall_mem_cons.mpr ⟨hdup, ?_⟩
          exact fun l' hl' hin => hids l' hl' (List.mem_cons_of_mem _ hin)
        · exact List.forall_mem_cons.mpr ⟨hnd', hcs⟩
        · exact List.forall_mem_cons.mpr ⟨hk, hknown⟩
        -- what the first loop owns, a later loop may only claim under the same id
        · refine List.forall_mem_cons.mpr ⟨ho, ?_⟩
          intro l' hl' c hc owner hown
          by_cases hcl : c ∈ l.components
          · have hl := ho c hcl owner hown
            have hl'' := howner l' hl' c hc l.id (by rw [hby, if_pos hcl])
            rw [hl, hl'']
          · exact howner l' hl' c hc owner (by rw [hby, if_neg hcl]; exact hown)
        · refine List.pairwise_cons.mpr ⟨?_, hpw⟩
          intro l' hl' c hc hc'
          exact howner l' hl' c hc' l.id (by rw [hby, if_pos hc])
      · rintro ⟨hs, hne, hnd, hids, hcs, hknown, howner, hpw⟩
        obtain ⟨hpl, hpw'⟩ := List.pairwise_cons.mp hpw
        rw [List.map_cons, List.nodup_cons] at hnd
        have herr : (claimLoop known s l).errors = [] :=
          (claimLoop_errors s).mpr ⟨hs, (List.forall_mem_cons.mp hne).1,
            (List.forall_mem_cons.mp hids).1, (List.forall_mem_cons.mp hcs).1,
            (List.forall_mem_cons.mp hknown).1, (List.forall_mem_cons.mp howner).1⟩
        obtain ⟨hids', hby⟩ := claimLoop_state herr
        refine ⟨herr, (List.forall_mem_cons.mp hne).2, hnd.2, ?_, (List.forall_mem_cons.mp hcs).2,
          (List.forall_mem_cons.mp hknown).2, ?_, hpw'⟩
        · intro l' hl'
          rw [hids', List.mem_cons, not_or]
          refine ⟨?_, (List.forall_mem_cons.mp hids).2 l' hl'⟩
          intro heq
          exact hnd.1 (heq ▸ List.mem_map_of_mem hl')
        · intro l' hl' c hc owner hown
          rw [hby] at hown
          split_ifs at hown with hcl
          · rw [← Option.some.inj hown]
            exact hpl l' hl' c hcl hc
          · exact (List.forall_mem_cons.mp howner).2 l' hl' c hc owner hown

end Ownership

/-- The ownership pass is silent when loop ids are non-empty and distinct, and
the loops list declared components, once each and in one loop only. -/
theorem ownershipErrors_eq_nil (graph : GraphSpec) :
    ownershipErrors graph = [] ↔
      (∀ l ∈ graph.compositeLoops, l.id ≠ "") ∧
        (graph.compositeLoops.map CompositeLoopSpec.id).Nodup ∧
        (∀ l ∈ graph.compositeLoops, l.components.Nodup) ∧
        (∀ l ∈ graph.compositeLoops, ∀ c ∈ l.components, c ∈ componentIds graph) ∧
        graph.compositeLoops.Pairwise
          fun l l' => ∀ c ∈ l.components, c ∈ l'.components → l.id = l'.id := by
  unfold ownershipErrors
  rw [claimLoops_errors]
  simp

/-! ## Classes as sets -/

section Classes

variable {graph : GraphSpec} (hids : DistinctIds graph)

include hids

/-- A class that was found is a strongly connected component. -/
theorem immediateScc_of_mem {C : List String} (hC : C ∈ immediateSccs graph) :
    ImmediateScc graph {c | c ∈ C} := by
  have h := immediateSccs_partition hids
  obtain ⟨a, ha⟩ := List.exists_mem_of_ne_nil C (h.nonempty C hC)
  refine ⟨a, (h.cover a).mpr ⟨C, hC, ha⟩, ?_⟩
  ext b
  exact h.mutually C hC a ha b

/-- Every strongly connected component is found. -/
theorem exists_mem_of_immediateScc {S : Set String} (hS : ImmediateScc graph S) :
    ∃ C ∈ immediateSccs graph, {c | c ∈ C} = S := by
  have h := immediateSccs_partition hids
  obtain ⟨a, ha, rfl⟩ := hS
  obtain ⟨C, hC, haC⟩ := (h.cover a).mp ha
  refine ⟨C, hC, ?_⟩
  ext b
  exact h.mutually C hC a haC b

/-- A class is cyclic when it has two members or a self loop. -/
theorem isCyclic_iff {C : List String} (hC : C ∈ immediateSccs graph) :
    isCyclic graph C ↔ CyclicClass graph {c | c ∈ C} := by
  have h := immediateSccs_partition hids
  have hdecl : ∀ c ∈ C, Declared graph c := fun c hc => (h.cover c).mpr ⟨C, hC, hc⟩
  have hnd := h.nodup C hC
  have hne := h.nonempty C hC
  match C with
  | [] => exact absurd rfl hne
  | [c] =>
      have hself := hasImmediateSelfLoop_iff (hdecl c (List.mem_cons_self ..))
      have hset : {d | d ∈ [c]} = ({c} : Set String) := by
        ext d
        simp
      rw [hset]
      simp only [isCyclic, List.length_singleton, lt_irrefl, decide_false, Bool.false_or, hself]
      constructor
      · intro hedge
        exact Or.inr ⟨c, rfl, hedge⟩
      · rintro (hnt | ⟨a, ha, hedge⟩)
        · exact absurd hnt Set.not_nontrivial_singleton
        · rw [Set.singleton_eq_singleton_iff] at ha
          rw [ha]
          exact hedge
  | c :: d :: rest =>
      have hcd : c ≠ d := by
        rintro rfl
        simp at hnd
      have hcyc : isCyclic graph (c :: d :: rest) := by simp [isCyclic]
      refine iff_of_true hcyc (Or.inl ⟨c, ?_, d, ?_, hcd⟩) <;> simp

/-- Two classes with a common component are equal. -/
theorem immediateScc_unique {S T : Set String} (hS : ImmediateScc graph S)
    (hT : ImmediateScc graph T) {c : String} (hcS : c ∈ S) (hcT : c ∈ T) : S = T := by
  obtain ⟨C, hC, rfl⟩ := exists_mem_of_immediateScc hids hS
  obtain ⟨D, hD, rfl⟩ := exists_mem_of_immediateScc hids hT
  rw [(immediateSccs_partition hids).unique hC hD hcS hcT]

end Classes

/-! ## The region pass -/

/-- The loop that is found has the components of the class. -/
theorem matchingLoop_eq_some {graph : GraphSpec} {C : List String} {loop : CompositeLoopSpec}
    (h : matchingLoop graph C = some loop) :
    loop ∈ graph.compositeLoops ∧ loop.components.Perm C := by
  refine ⟨List.mem_of_find?_eq_some h, ?_⟩
  exact sameComponentSet_iff.mp (by simpa using List.find?_some h)

/-- A loop with the components of the class makes the search succeed. -/
theorem matchingLoop_isSome {graph : GraphSpec} {C : List String} {loop : CompositeLoopSpec}
    (hmem : loop ∈ graph.compositeLoops) (hperm : loop.components.Perm C) :
    ∃ first, matchingLoop graph C = some first := by
  rw [← Option.isSome_iff_exists, matchingLoop, List.find?_isSome]
  exact ⟨loop, hmem, sameComponentSet_iff.mpr hperm⟩

/-- A region is accepted when it has a loop exactly if it is cyclic. -/
theorem regionErrors_eq_nil {graph : GraphSpec} {C : List String} :
    regionErrors graph C = [] ↔ ((matchingLoop graph C).isSome ↔ isCyclic graph C) := by
  unfold regionErrors
  cases hm : matchingLoop graph C with
  | none => by_cases hc : isCyclic graph C <;> simp [hc]
  | some loop => by_cases hc : isCyclic graph C <;> simp [hc]

/-- Every loop is the one found for some class. -/
theorem unmatchedLoopErrors_eq_nil {graph : GraphSpec} :
    unmatchedLoopErrors graph = [] ↔
      ∀ loop ∈ graph.compositeLoops, ∃ C ∈ immediateSccs graph, ∃ first,
        matchingLoop graph C = some first ∧ first.id = loop.id := by
  simp only [unmatchedLoopErrors, List.map_eq_nil_iff, List.filter_eq_nil_iff, matchedLoopIds,
    List.mem_filterMap, Option.map_eq_some_iff, decide_not, Bool.not_eq_true',
    decide_eq_false_iff_not, not_not]

/-- Lists with the same members give the same set. -/
theorem componentSet_eq_of_perm {loop : CompositeLoopSpec} {C : List String}
    (h : loop.components.Perm C) : loop.componentSet = {c | c ∈ C} := by
  ext c
  exact h.mem_iff

/-- Lists without repetition that give the same set have the same members. -/
theorem perm_of_componentSet {loop : CompositeLoopSpec} {C : List String}
    (hnd : loop.components.Nodup) (hC : C.Nodup) (h : loop.componentSet = {c | c ∈ C}) :
    loop.components.Perm C := by
  refine (List.perm_ext_iff_of_nodup hnd hC).mpr ?_
  intro c
  exact Set.ext_iff.mp h c

/-- Loops with distinct ids are told apart by them. -/
theorem eq_of_id_eq {loops : List CompositeLoopSpec}
    (hnd : (loops.map CompositeLoopSpec.id).Nodup) {l l' : CompositeLoopSpec} (hl : l ∈ loops)
    (hl' : l' ∈ loops) (h : l.id = l'.id) : l = l' :=
  List.inj_on_of_nodup_map hnd hl hl' h

/-! ## Acceptance -/

/-- The passes before the ordering are silent exactly when the composite loops
are the cyclic classes. -/
theorem passErrors_eq_nil {graph : GraphSpec} (hids : DistinctIds graph) :
    passErrors graph = [] ↔ LoopsMatchCycles graph := by
  have hpart := immediateSccs_partition hids
  unfold passErrors
  rw [List.append_eq_nil_iff, List.append_eq_nil_iff, ownershipErrors_eq_nil,
    List.flatMap_eq_nil_iff, unmatchedLoopErrors_eq_nil]
  constructor
  · rintro ⟨⟨⟨hne, hidnd, hnd, hknown, hshare⟩, hregion⟩, hmatched⟩
    have hshare' := hshare.forall_of_forall_of_flip (fun l _ c _ _ => rfl)
      (hshare.imp fun h c hc hc' => (h c hc' hc).symm)
    -- ids are distinct, so the loop with the id that was found is the loop itself
    have hfind : ∀ loop ∈ graph.compositeLoops, ∃ C ∈ immediateSccs graph,
        matchingLoop graph C = some loop := by
      intro loop hloop
      obtain ⟨C, hC, first, hfirst, hid⟩ := hmatched loop hloop
      have heq := eq_of_id_eq hidnd (matchingLoop_eq_some hfirst).1 hloop hid
      exact ⟨C, hC, heq ▸ hfirst⟩
    refine ⟨hne, hidnd, hnd, fun l hl c hc => (mem_componentIds hids).mp (hknown l hl c hc),
      ?_, ?_⟩
    · intro loop hloop
      obtain ⟨C, hC, hm⟩ := hfind loop hloop
      have hset := componentSet_eq_of_perm (matchingLoop_eq_some hm).2
      have hcyc := (regionErrors_eq_nil.mp (hregion C hC)).mp (by simp [hm])
      rw [hset]
      exact ⟨immediateScc_of_mem hids hC, (isCyclic_iff hids hC).mp hcyc⟩
    · intro S hS hcyc
      obtain ⟨C, hC, rfl⟩ := exists_mem_of_immediateScc hids hS
      have hsome := (regionErrors_eq_nil.mp (hregion C hC)).mpr ((isCyclic_iff hids hC).mpr hcyc)
      obtain ⟨loop, hm⟩ := Option.isSome_iff_exists.mp hsome
      obtain ⟨hloop, hperm⟩ := matchingLoop_eq_some hm
      refine ⟨loop, ⟨hloop, componentSet_eq_of_perm hperm⟩, ?_⟩
      rintro loop' ⟨hloop', hset'⟩
      obtain ⟨c, hc⟩ := List.exists_mem_of_ne_nil C (hpart.nonempty C hC)
      have hc' : c ∈ loop'.componentSet := by
        rw [hset']
        exact hc
      exact eq_of_id_eq hidnd hloop' hloop
        (hshare' hloop' hloop c hc' (hperm.mem_iff.mpr hc))
  · intro h
    -- two loops with a common member cover the same cycle, so they are one
    have hcommon : ∀ l ∈ graph.compositeLoops, ∀ l' ∈ graph.compositeLoops,
        ∀ c ∈ l.components, c ∈ l'.components → l.id = l'.id := by
      intro l hl l' hl' c hc hc'
      obtain ⟨hscc, hcyc⟩ := h.loop_is_cycle l hl
      have hset := immediateScc_unique hids hscc (h.loop_is_cycle l' hl').1 hc hc'
      obtain ⟨_, _, huniq⟩ := h.cycle_is_loop l.componentSet hscc hcyc
      rw [huniq l ⟨hl, rfl⟩, huniq l' ⟨hl', hset.symm⟩]
    refine ⟨⟨⟨h.ids_nonempty, h.ids_distinct, h.no_duplicates, ?_, ?_⟩, ?_⟩, ?_⟩
    · exact fun l hl c hc => (mem_componentIds hids).mpr (h.declared l hl c hc)
    · exact List.pairwise_of_forall_mem_list fun l hl l' hl' => hcommon l hl l' hl'
    · intro C hC
      rw [regionErrors_eq_nil, isCyclic_iff hids hC]
      constructor
      · intro hsome
        obtain ⟨loop, hm⟩ := Option.isSome_iff_exists.mp hsome
        obtain ⟨hloop, hperm⟩ := matchingLoop_eq_some hm
        rw [← componentSet_eq_of_perm hperm]
        exact (h.loop_is_cycle loop hloop).2
      · intro hcyc
        obtain ⟨loop, ⟨hloop, hset⟩, _⟩ :=
          h.cycle_is_loop _ (immediateScc_of_mem hids hC) hcyc
        obtain ⟨first, hfirst⟩ := matchingLoop_isSome hloop
          (perm_of_componentSet (h.no_duplicates loop hloop) (hpart.nodup C hC) hset)
        simp [hfirst]
    · intro loop hloop
      obtain ⟨hscc, hcyc⟩ := h.loop_is_cycle loop hloop
      obtain ⟨C, hC, hset⟩ := exists_mem_of_immediateScc hids hscc
      obtain ⟨first, hfirst⟩ := matchingLoop_isSome hloop
        (perm_of_componentSet (h.no_duplicates loop hloop) (hpart.nodup C hC) hset.symm)
      obtain ⟨hmem, hperm⟩ := matchingLoop_eq_some hfirst
      obtain ⟨c, hc⟩ := List.exists_mem_of_ne_nil C (hpart.nonempty C hC)
      refine ⟨C, hC, first, hfirst, ?_⟩
      exact hcommon first hmem loop hloop c (hperm.mem_iff.mpr hc)
        ((Set.ext_iff.mp hset c).mp hc)

/-! ## Region ids -/

/-- No loop id is the id of a component that belongs to no loop. -/
def NoFreeClash (graph : GraphSpec) : Prop :=
  ∀ loop ∈ graph.compositeLoops, Declared graph loop.id →
    ∃ owner ∈ graph.compositeLoops, loop.id ∈ owner.components

/-- A graph without clashes has none with the free regions. -/
theorem NoLoopClash.noFreeClash {graph : GraphSpec} (h : NoLoopClash graph) :
    NoFreeClash graph :=
  fun loop hloop hdecl => ⟨loop, hloop, h loop hloop hdecl⟩

section RegionIds

variable {graph : GraphSpec} (hids : DistinctIds graph) (hmatch : LoopsMatchCycles graph)

include hids hmatch

/-- In an accepted graph a region is named by its loop or by its component. -/
theorem regionOfScc_id (i : Nat) {C : List String} (hC : C ∈ immediateSccs graph) :
    (∃ loop ∈ graph.compositeLoops, loop.componentSet = {c | c ∈ C} ∧
        (regionOfScc graph i C).id = loop.id) ∨
      ∃ c, C = [c] ∧ (∀ loop ∈ graph.compositeLoops, c ∉ loop.components) ∧
        (regionOfScc graph i C).id = c := by
  have hsilent := (passErrors_eq_nil hids).mpr hmatch
  unfold passErrors at hsilent
  rw [List.append_eq_nil_iff, List.append_eq_nil_iff, List.flatMap_eq_nil_iff] at hsilent
  have hregion := regionErrors_eq_nil.mp (hsilent.1.2 C hC)
  have hpart := immediateSccs_partition hids
  cases hm : matchingLoop graph C with
  | some loop =>
      obtain ⟨hloop, hperm⟩ := matchingLoop_eq_some hm
      exact Or.inl ⟨loop, hloop, componentSet_eq_of_perm hperm, by simp [regionOfScc, hm]⟩
  | none =>
      have hcyc : isCyclic graph C = false := by
        rw [hm] at hregion
        simpa using hregion
      obtain ⟨c, rfl, _⟩ := not_isCyclic (hpart.nonempty C hC) hcyc
      refine Or.inr ⟨c, rfl, ?_, by simp [regionOfScc, hm]⟩
      intro loop hloop hc
      obtain ⟨hscc, hcyc'⟩ := hmatch.loop_is_cycle loop hloop
      have hset := immediateScc_unique hids hscc (immediateScc_of_mem hids hC) hc
        (List.mem_cons_self ..)
      rw [hset, ← isCyclic_iff hids hC, hcyc] at hcyc'
      simp at hcyc'

/-- The ids of the regions are distinct exactly when no loop takes that of a free region. -/
theorem regionIds_nodup_iff : (regionIds graph).Nodup ↔ NoFreeClash graph := by
  have hpart := immediateSccs_partition hids
  constructor
  · intro hnd loop hloop hdecl
    by_contra hfree
    push Not at hfree
    -- the region of the loop and the region of the component share an id
    obtain ⟨C, hC, hset⟩ := exists_mem_of_immediateScc hids (hmatch.loop_is_cycle loop hloop).1
    obtain ⟨D, hD, hidD⟩ := (hpart.cover loop.id).mp hdecl
    obtain ⟨i, hi⟩ := List.mem_iff_getElem?.mp hC
    obtain ⟨j, hj⟩ := List.mem_iff_getElem?.mp hD
    have hidC : (regionOfScc graph i C).id = loop.id := by
      rcases regionOfScc_id hids hmatch i hC with ⟨l, hl, hlset, hid⟩ | ⟨c, rfl, hout, _⟩
      · obtain ⟨_, _, huniq⟩ := hmatch.cycle_is_loop _ (hmatch.loop_is_cycle loop hloop).1
          (hmatch.loop_is_cycle loop hloop).2
        rw [hid, huniq l ⟨hl, hlset.trans hset⟩, huniq loop ⟨hloop, rfl⟩]
      · exact absurd ((Set.ext_iff.mp hset c).mp (List.mem_cons_self ..)) (hout loop hloop)
    have hidD' : (regionOfScc graph j D).id = loop.id := by
      rcases regionOfScc_id hids hmatch j hD with ⟨l, hl, hlset, _⟩ | ⟨c, rfl, _, hid⟩
      · exact absurd ((Set.ext_iff.mp hlset loop.id).mpr hidD) (hfree l hl)
      · rw [hid]
        exact (List.mem_singleton.mp hidD).symm
    have hilt : i < (regionIds graph).length := by
      rw [length_regionIds]
      exact (List.getElem?_eq_some_iff.mp hi).1
    have hij : i = j := by
      apply (List.getElem?_inj hilt hnd).mp
      rw [getElem?_regionIds, getElem?_regionIds, hi, hj]
      simp [hidC, hidD']
    subst hij
    have hCD : C = D := Option.some.inj (hi.symm.trans hj)
    subst hCD
    exact hfree loop hloop ((Set.ext_iff.mp hset loop.id).mp hidD)
  · intro hfree
    rw [List.nodup_iff_getElem?_ne_getElem?]
    intro i j hij hj heq
    rw [length_regionIds] at hj
    have hi : i < (immediateSccs graph).length := by omega
    have hC := List.getElem_mem hi
    have hD := List.getElem_mem hj
    have hdisj : ∀ {c}, c ∈ (immediateSccs graph)[i] → c ∈ (immediateSccs graph)[j] → False := by
      intro c hcC hcD
      have := hpart.unique_index (List.getElem?_eq_getElem hi) (List.getElem?_eq_getElem hj)
        hcC hcD
      omega
    rw [getElem?_regionIds, getElem?_regionIds, List.getElem?_eq_getElem hi,
      List.getElem?_eq_getElem hj, Option.map_some, Option.map_some, Option.some.injEq] at heq
    -- a component named like a loop would have to be owned by some loop
    have hmixed : ∀ {k : Nat} (hk : k < (immediateSccs graph).length) {loop : CompositeLoopSpec}
        {c : String}, loop ∈ graph.compositeLoops → (immediateSccs graph)[k] = [c] →
        (∀ l ∈ graph.compositeLoops, c ∉ l.components) → loop.id ≠ c := by
      intro k hk loop c hloop hsingle hout hid
      have hdecl : Declared graph loop.id := by
        refine (hpart.cover loop.id).mpr ⟨_, List.getElem_mem hk, ?_⟩
        rw [hsingle, hid]
        exact List.mem_cons_self ..
      obtain ⟨owner, howner, hin⟩ := hfree loop hloop hdecl
      exact hout owner howner (hid ▸ hin)
    rcases regionOfScc_id hids hmatch i hC with ⟨l, hl, hlset, hid⟩ | ⟨c, hc, hout, hid⟩ <;>
      rcases regionOfScc_id hids hmatch j hD with
        ⟨l', hl', hlset', hid'⟩ | ⟨c', hc', hout', hid'⟩
    · have hll := eq_of_id_eq hmatch.ids_distinct hl hl' (by rw [← hid, ← hid', heq])
      subst hll
      obtain ⟨c, hc⟩ := List.exists_mem_of_ne_nil _ (hpart.nonempty _ hC)
      have hset := hlset.symm.trans hlset'
      exact hdisj hc ((Set.ext_iff.mp hset c).mp hc)
    · exact hmixed hj hl hc' hout' (by rw [← hid, ← hid', heq])
    · exact hmixed hi hl' hc hout (by rw [← hid', ← hid, heq])
    · have hcc : c = c' := by rw [← hid, ← hid', heq]
      subst hcc
      have hin : c ∈ [c] := List.mem_cons_self ..
      exact hdisj (hc ▸ hin) (hc' ▸ hin)

end RegionIds

/-! ## Results of the compilation -/

/-- `compile_graph` returns with the result of its parts, for some fuel. -/
theorem compilesTo_iff {graph : GraphSpec} {result : GraphCompileResult} :
    CompilesTo graph result ↔ ∃ fuel order, regionOrder fuel graph = some order ∧
      result.errors = passErrors graph ++
        (if order.length ≠ (regionIds graph).length then [cyclicCondensationError] else []) ∧
      result.ok = result.errors.isEmpty ∧
      result.plan.regions = compiledRegions graph ∧ result.plan.regionOrder = order ∧
      result.plan.componentRegion = componentRegion graph ∧
      result.plan.immediateSccs = immediateSccs graph := by
  unfold CompilesTo compileGraphImpl
  constructor
  · rintro ⟨fuel, h⟩
    cases ho : regionOrder fuel graph with
    | none => simp [ho] at h
    | some order =>
        rw [ho] at h
        obtain rfl := Option.some.inj h
        exact ⟨fuel, order, ho, rfl, rfl, rfl, rfl, rfl, rfl⟩
  · rintro ⟨fuel, order, ho, he, hok, hr, hro, hcr, hs⟩
    refine ⟨fuel, ?_⟩
    obtain ⟨ok, errors, plan⟩ := result
    obtain ⟨regions, regionOrder', componentRegion', immediateSccs'⟩ := plan
    simp only at he hok hr hro hcr hs
    subst he hok hr hro hcr hs
    simp [ho]

/-- In an accepted graph without free clashes the order is a topological
permutation of the region ids. -/
theorem accepted_order {graph : GraphSpec} (hids : DistinctIds graph)
    (hmatch : LoopsMatchCycles graph) (hfree : NoFreeClash graph) {fuel : Nat}
    {order : List String} (hrun : regionOrder fuel graph = some order) :
    order.Perm (regionIds graph) ∧
      ∀ l₁ b l₂, order = l₁ ++ b :: l₂ → ∀ a, RegionEdge graph a b → a ∈ l₁ := by
  obtain ⟨order', hrun', hperm, htopo⟩ := regionOrder_spec (immediateSccs_partition hids)
    ((regionIds_nodup_iff hids hmatch).mpr hfree)
  have heq : order = order' := Kahn.order_unique hrun hrun'
  subst heq
  exact ⟨hperm, htopo⟩

/-- What is accepted has its loops on its cycles. -/
theorem loopsMatchCycles_of_ok {graph : GraphSpec} (hids : DistinctIds graph)
    {result : GraphCompileResult} (hcompile : CompilesTo graph result) (hok : result.ok = true) :
    LoopsMatchCycles graph := by
  obtain ⟨fuel, order, _, herr, hok', _⟩ := compilesTo_iff.mp hcompile
  rw [hok', List.isEmpty_iff, herr, List.append_eq_nil_iff] at hok
  exact (passErrors_eq_nil hids).mp hok.1

/-! ## The text of the last error -/

theorem ne_cyclicCondensationError (e : String)
    (h : e.toList[0]? ≠ some 'c' ∨ e.toList[4]? ≠ some 'i') : e ≠ cyclicCondensationError := by
  rintro rfl
  revert h
  decide

/-- No error about ownership is the one about the order of the regions. -/
theorem claimComponent_texts {known : List String} {loop : CompositeLoopSpec}
    {s : OwnershipState × List String} {c : String}
    (hs : ∀ e ∈ s.1.errors, e ≠ cyclicCondensationError) :
    ∀ e ∈ (claimComponent known loop s c).1.errors, e ≠ cyclicCondensationError := by
  have hdup : ("composite_loop " ++ loop.id ++ " lists duplicate component " ++ c) ≠
      cyclicCondensationError :=
    ne_cyclicCondensationError _ (Or.inr (by simp))
  have hmissing : ("composite_loop " ++ loop.id ++ " references missing component " ++ c) ≠
      cyclicCondensationError :=
    ne_cyclicCondensationError _ (Or.inr (by simp))
  have howned : ∀ owner, ("component " ++ c ++ " is owned by multiple composite_loops: " ++
      owner ++ "," ++ loop.id) ≠ cyclicCondensationError :=
    fun owner => ne_cyclicCondensationError _ (Or.inr (by simp))
  have herrors : ∀ e ∈ s.1.errors ++ (if c ∈ s.2 then
      ["composite_loop " ++ loop.id ++ " lists duplicate component " ++ c] else []),
      e ≠ cyclicCondensationError := by
    intro e he
    rcases List.mem_append.mp he with he | he
    · exact hs e he
    · split_ifs at he
      · rw [List.mem_singleton.mp he]
        exact hdup
      · simp at he
  -- each error that is added is another text
  have hsnoc : ∀ {l : List String} {t : String}, (∀ e ∈ l, e ≠ cyclicCondensationError) →
      t ≠ cyclicCondensationError → ∀ e ∈ l ++ [t], e ≠ cyclicCondensationError := by
    intro l t hl ht e he
    rcases List.mem_append.mp he with he | he
    · exact hl e he
    · rw [List.mem_singleton.mp he]
      exact ht
  unfold claimComponent
  dsimp only
  by_cases hk : c ∈ known
  · rw [if_neg (not_not.mpr hk)]
    cases s.1.loopsByComponent c with
    | none => exact herrors
    | some owner =>
        by_cases ho : owner = loop.id
        · simpa only [ne_eq, ho, not_true_eq_false, if_false] using herrors
        · simpa only [ne_eq, ho, not_false_eq_true, if_true] using hsnoc herrors (howned owner)
  · rw [if_pos hk]
    exact hsnoc herrors hmissing

/-- No error about ownership is the one about the order of the regions. -/
theorem ownershipErrors_texts (graph : GraphSpec) :
    ∀ e ∈ ownershipErrors graph, e ≠ cyclicCondensationError := by
  -- by induction on the components of a loop, and then on the loops
  have hcomps : ∀ (loop : CompositeLoopSpec) (cs : List String)
      (s : OwnershipState × List String), (∀ e ∈ s.1.errors, e ≠ cyclicCondensationError) →
      ∀ e ∈ (cs.foldl (claimComponent (componentIds graph) loop) s).1.errors,
        e ≠ cyclicCondensationError := by
    intro loop cs
    induction cs with
    | nil => exact fun s hs => hs
    | cons c cs ih => exact fun s hs => ih _ (claimComponent_texts hs)
  have hloops : ∀ (loops : List CompositeLoopSpec) (s : OwnershipState),
      (∀ e ∈ s.errors, e ≠ cyclicCondensationError) →
      ∀ e ∈ (loops.foldl (claimLoop (componentIds graph)) s).errors,
        e ≠ cyclicCondensationError := by
    intro loops
    induction loops with
    | nil => exact fun s hs => hs
    | cons loop loops ih =>
        intro s hs
        apply ih
        unfold claimLoop
        split_ifs
        · intro e he
          rcases List.mem_append.mp he with he | he
          · exact hs e he
          · rw [List.mem_singleton.mp he]
            exact ne_cyclicCondensationError _ (by decide)
        · apply hcomps
          intro e he
          rcases List.mem_append.mp he with he | he
          · exact hs e he
          · rw [List.mem_singleton.mp he]
            exact ne_cyclicCondensationError _ (Or.inl (by simp))
        · apply hcomps
          simpa using hs
  exact hloops graph.compositeLoops {} (by simp)

/-- The errors of the earlier passes never carry the text of the last one. -/
theorem passErrors_texts (graph : GraphSpec) :
    ∀ e ∈ passErrors graph, e ≠ cyclicCondensationError := by
  intro e he
  unfold passErrors at he
  rcases List.mem_append.mp he with he | he
  · rcases List.mem_append.mp he with he | he
    · exact ownershipErrors_texts graph e he
    · obtain ⟨C, _, heC⟩ := List.mem_flatMap.mp he
      unfold regionErrors at heC
      split at heC
      · split_ifs at heC
        · rw [List.mem_singleton.mp heC]
          exact ne_cyclicCondensationError _ (Or.inl (by simp))
        · simp at heC
      · split_ifs at heC
        · simp at heC
        · rw [List.mem_singleton.mp heC]
          exact ne_cyclicCondensationError _ (Or.inr (by simp))
  · obtain ⟨loop, _, rfl⟩ := List.mem_map.mp he
    exact ne_cyclicCondensationError _ (Or.inr (by simp))

/-! ## Names of the regions -/

/-- No two loops share an id, and nothing is called like a region that has no name of its
own. -/
structure PlainNames (graph : GraphSpec) : Prop where
  loops : (graph.compositeLoops.map CompositeLoopSpec.id).Nodup
  components : ∀ i : Nat, ¬ Declared graph ("region_" ++ toString i)
  unnamed : ∀ i : Nat, ∀ loop ∈ graph.compositeLoops, loop.id ≠ "region_" ++ toString i

/-- How a region gets its id: from the loop over it, from its only component, or from its
position. -/
theorem regionOfScc_id_cases (graph : GraphSpec) (i : Nat) (C : List String) :
    (∃ loop ∈ graph.compositeLoops, loop.components.Perm C ∧
        (regionOfScc graph i C).id = loop.id) ∨
      (∃ c, C = [c] ∧ (regionOfScc graph i C).id = c) ∨
      (regionOfScc graph i C).id = "region_" ++ toString i := by
  unfold regionOfScc
  cases hmatching : matchingLoop graph C with
  | some loop =>
      obtain ⟨hloop, hperm⟩ := matchingLoop_eq_some hmatching
      exact Or.inl ⟨loop, hloop, hperm, rfl⟩
  | none =>
      match C with
      | [] => exact Or.inr (Or.inr rfl)
      | [c] => exact Or.inr (Or.inl ⟨c, rfl, rfl⟩)
      | _ :: _ :: _ => exact Or.inr (Or.inr rfl)

/-- With plain names the ids of the regions are pairwise distinct. -/
theorem regionIds_nodup_of_plainNames {graph : GraphSpec} (hids : DistinctIds graph)
    (hclash : NoLoopClash graph) (hplain : PlainNames graph) : (regionIds graph).Nodup := by
  have hpart := immediateSccs_partition hids
  rw [List.nodup_iff_getElem?_ne_getElem?]
  intro i j hij hj heq
  rw [length_regionIds] at hj
  have hi : i < (immediateSccs graph).length := by omega
  have hC := List.getElem?_eq_getElem hi
  have hD := List.getElem?_eq_getElem hj
  rw [getElem?_regionIds, getElem?_regionIds, hC, hD, Option.map_some, Option.map_some,
    Option.some.injEq] at heq
  generalize (immediateSccs graph)[i] = C at hC heq
  generalize (immediateSccs graph)[j] = D at hD heq
  have hCmem := List.mem_of_getElem? hC
  have hDmem := List.mem_of_getElem? hD
  have hdisjoint : ∀ {c}, c ∈ C → c ∈ D → False := by
    intro c hcC hcD
    have hsame := hpart.unique_index hC hD hcC hcD
    omega
  have hdeclared : ∀ {E : List String} {c : String}, E ∈ immediateSccs graph → E = [c] →
      Declared graph c := by
    rintro E c hE rfl
    exact (hpart.cover c).mpr ⟨[c], hE, List.mem_cons_self ..⟩
  -- a component called like a loop belongs to that loop
  have hmixed : ∀ {E F : List String} {c : String} {loop : CompositeLoopSpec},
      loop ∈ graph.compositeLoops → loop.components.Perm E → F ∈ immediateSccs graph →
      F = [c] → loop.id = c → c ∈ E ∧ c ∈ F := by
    rintro E F c loop hloop hperm hF rfl rfl
    exact ⟨hperm.mem_iff.mp (hclash loop hloop (hdeclared hF rfl)), List.mem_cons_self ..⟩
  rcases regionOfScc_id_cases graph i C with ⟨l, hl, hperm, hid⟩ | ⟨c, hc, hid⟩ | hid <;>
    rcases regionOfScc_id_cases graph j D with ⟨l', hl', hperm', hid'⟩ | ⟨c', hc', hid'⟩ | hid'
  · have hsame := eq_of_id_eq hplain.loops hl hl' (by rw [← hid, ← hid', heq])
    subst hsame
    obtain ⟨c, hc⟩ := List.exists_mem_of_ne_nil C (hpart.nonempty C hCmem)
    exact hdisjoint hc (hperm'.mem_iff.mp (hperm.mem_iff.mpr hc))
  · obtain ⟨hleft, hright⟩ := hmixed hl hperm hDmem hc' (by rw [← hid, ← hid', heq])
    exact hdisjoint hleft hright
  · exact hplain.unnamed j l hl (by rw [← hid, ← hid', heq])
  · obtain ⟨hright, hleft⟩ := hmixed hl' hperm' hCmem hc (by rw [← hid, ← hid', heq])
    exact hdisjoint hleft hright
  · have hsame : c = c' := by rw [← hid, ← hid', heq]
    subst hsame
    exact hdisjoint (hc ▸ List.mem_cons_self ..) (hc' ▸ List.mem_cons_self ..)
  · refine hplain.components j ?_
    rw [← hid', ← heq, hid]
    exact hdeclared hCmem hc
  · exact hplain.unnamed i l' hl' (by rw [← hid, ← hid', heq])
  · refine hplain.components i ?_
    rw [← hid, heq, hid']
    exact hdeclared hDmem hc'
  · have hnumbers := heq
    rw [hid, hid'] at hnumbers
    exact hij.ne (Text.numbered_injective "region_" hnumbers)

/-! ## Main results -/

instance (graph : GraphSpec) (c : String) : Decidable (Declared graph c) :=
  inferInstanceAs (Decidable (c ∈ _))

instance (graph : GraphSpec) : Decidable (NoLoopClash graph) :=
  inferInstanceAs (Decidable (∀ loop ∈ graph.compositeLoops, _))

/-- What acceptance promises of a graph: the compilation returns, it accepts the graph iff the
loops are the cyclic classes, and it does not report a cyclic condensation. -/
def AcceptsExactly (graph : GraphSpec) : Prop :=
  ∃ result, CompilesTo graph result ∧ (result.ok = true ↔ LoopsMatchCycles graph) ∧
    cyclicCondensationError ∉ result.errors

/-- Acceptance is exact when the regions are ordered, each of them once. -/
theorem acceptsExactly_iff_orderedOnce {graph : GraphSpec} (hids : DistinctIds graph) :
    AcceptsExactly graph ↔ RegionsOrderedOnce graph := by
  rw [← regionOrder_length_iff]
  constructor
  · rintro ⟨result, hcompile, -, hsilent⟩
    obtain ⟨fuel, order, hrun, herrors, -⟩ := compilesTo_iff.mp hcompile
    refine ⟨fuel, order, hrun, ?_⟩
    by_contra hlength
    rw [herrors, if_pos hlength] at hsilent
    exact hsilent (List.mem_append_right _ (List.mem_singleton_self _))
  · rintro ⟨fuel, order, hrun, hlength⟩
    refine ⟨_, ⟨fuel, by rw [compileGraphImpl, hrun]; rfl⟩, ?_, ?_⟩
    · simp [hlength, passErrors_eq_nil hids]
    · rw [if_neg (not_not.mpr hlength), List.append_nil]
      exact fun hmem => passErrors_texts graph _ hmem rfl

/-- Loops with ids of their own, where nothing is called like an unnamed region, are enough. -/
theorem acceptsExactly_of_plainNames {graph : GraphSpec} (hids : DistinctIds graph)
    (hclash : NoLoopClash graph) (hplain : PlainNames graph) : AcceptsExactly graph :=
  (acceptsExactly_iff_orderedOnce hids).mpr
    (.of_nodup hids (regionIds_nodup_of_plainNames hids hclash hplain))

/-- Acceptance. The compilation keeps its promises iff the ordering takes as many ids as there
are regions; what it accepts is right in any case. -/
theorem accepts_exactly_iff (graph : GraphSpec) (hids : DistinctIds graph)
    (hclash : NoLoopClash graph) :
    (AcceptsExactly graph ↔ RegionsOrderedOnce graph) ∧
      ((∃ result, CompilesTo graph result ∧ result.ok = true) ↔ LoopsMatchCycles graph) := by
  refine ⟨acceptsExactly_iff_orderedOnce hids, ?_, ?_⟩
  · rintro ⟨result, hcompile, hok⟩
    exact loopsMatchCycles_of_ok hids hcompile hok
  · intro hmatch
    have hnd := (regionIds_nodup_iff hids hmatch).mpr hclash.noFreeClash
    obtain ⟨result, hcompile, hok, -⟩ :=
      (acceptsExactly_iff_orderedOnce hids).mpr (.of_nodup hids hnd)
    exact ⟨result, hcompile, hok.mpr hmatch⟩

/-- Two components that feed each other, owned by one loop. -/
def feedbackPair : GraphSpec where
  components := [{ id := "plant" }, { id := "control" }]
  edges :=
    [{ id := "measure", fromEndpoint := "plant.out", toEndpoint := "control.in", hasKind := true },
     { id := "actuate", fromEndpoint := "control.out", toEndpoint := "plant.in", hasKind := true }]
  compositeLoops := [{ id := "servo", components := ["plant", "control"] }]

theorem feedbackPair_distinctIds : DistinctIds feedbackPair := ⟨by decide, by decide⟩

theorem feedbackPair_compiles :
    DistinctIds feedbackPair ∧ NoLoopClash feedbackPair ∧ AcceptsExactly feedbackPair ∧
      LoopsMatchCycles feedbackPair := by
  have hclash : NoLoopClash feedbackPair := by decide
  obtain ⟨hexactly, haccepts⟩ :=
    accepts_exactly_iff feedbackPair feedbackPair_distinctIds hclash
  have honce : RegionsOrderedOnce feedbackPair := .of_nodup feedbackPair_distinctIds (by decide)
  exact ⟨feedbackPair_distinctIds, hclash, hexactly.mpr honce,
    haccepts.mp ⟨_, ⟨1, rfl⟩, by decide⟩⟩

/-- Two loops with one id whose regions are connected: the region graph gets a
self-edge on the shared id. -/
def twinLoops : GraphSpec where
  components := [{ id := "a" }, { id := "b" }]
  edges :=
    [{ id := "aa", fromEndpoint := "a.out", toEndpoint := "a.in", hasKind := true },
     { id := "bb", fromEndpoint := "b.out", toEndpoint := "b.in", hasKind := true },
     { id := "ab", fromEndpoint := "a.out", toEndpoint := "b.in", hasKind := true }]
  compositeLoops := [{ id := "loop", components := ["a"] }, { id := "loop", components := ["b"] }]

/-- Two pairs of such loops. Both regions `A` are ready at first; the second pop of `A` makes
`B` ready in spite of its self-edge, and each pop of `B` pushes it again. -/
def twinPairs : GraphSpec where
  components := [{ id := "a1" }, { id := "a2" }, { id := "b1" }, { id := "b2" }]
  edges :=
    [{ id := "aa1", fromEndpoint := "a1.out", toEndpoint := "a1.in", hasKind := true },
     { id := "aa2", fromEndpoint := "a2.out", toEndpoint := "a2.in", hasKind := true },
     { id := "bb1", fromEndpoint := "b1.out", toEndpoint := "b1.in", hasKind := true },
     { id := "bb2", fromEndpoint := "b2.out", toEndpoint := "b2.in", hasKind := true },
     { id := "ab", fromEndpoint := "a1.out", toEndpoint := "b1.in", hasKind := true },
     { id := "bb", fromEndpoint := "b1.out", toEndpoint := "b2.in", hasKind := true }]
  compositeLoops :=
    [{ id := "A", components := ["a1"] }, { id := "A", components := ["a2"] },
     { id := "B", components := ["b1"] }, { id := "B", components := ["b2"] }]

/-- No numbers balance: `B` would have to be taken once more than it is. -/
theorem twinPairs_not_orderable : ¬ RegionsOrderable twinPairs := by
  rintro ⟨visits, hvisits⟩
  have hlinks : regionLinks twinPairs = [("A", "B"), ("B", "B")] := by decide
  have hA : visits.count "A" = 2 := by
    rw [hvisits, if_pos (by decide)]
    simp only [hlinks]
    simp
    decide
  have hB : visits.count "B" =
      visits.countP (fun other => decide ((other, "B") ∈ regionLinks twinPairs)) - 1 := by
    rw [hvisits, if_neg (by decide), Nat.zero_add]
    rfl
  have hboth : ∀ l : List String,
      l.countP (fun other => decide ((other, "B") ∈ regionLinks twinPairs)) =
        l.count "A" + l.count "B" := by
    intro l
    induction l with
    | nil => rfl
    | cons other l ih =>
        rw [List.countP_cons, ih, List.count_cons, List.count_cons, hlinks]
        by_cases hotherA : other = "A"
        · subst hotherA
          simp
          omega
        · by_cases hotherB : other = "B"
          · subst hotherB
            simp
            omega
          · simp [hotherA, hotherB]
  rw [hboth] at hB
  omega

/-- Loops that share an id: a cyclic condensation is reported, or the compilation does not
return. -/
theorem twinLoops_not_exact :
    (∃ result, CompilesTo twinLoops result ∧ cyclicCondensationError ∈ result.errors) ∧
      (∀ result, ¬ CompilesTo twinPairs result) ∧
      ¬ ∀ graph, DistinctIds graph → NoLoopClash graph → AcceptsExactly graph := by
  have hendless : ∀ result, ¬ CompilesTo twinPairs result := by
    intro result hcompile
    obtain ⟨fuel, order, hrun, -⟩ := compilesTo_iff.mp hcompile
    exact twinPairs_not_orderable (regionOrder_terminates_iff.mp ⟨fuel, order, hrun⟩)
  refine ⟨⟨_, ⟨0, rfl⟩, by decide⟩, hendless, ?_⟩
  intro hexact
  have hids : DistinctIds twinPairs := ⟨by decide, by decide⟩
  obtain ⟨result, hcompile, -⟩ := hexact twinPairs hids (by decide)
  exact hendless result hcompile

/-- `first` stands strictly before `second` in `order`. -/
def Precedes (order : List String) (first second : String) : Prop :=
  ∃ l₁ l₂ l₃, order = l₁ ++ first :: l₂ ++ second :: l₃

/-- An immediate edge between two regions of an accepted graph leads forward in
the region order. -/
theorem accepted_forward {graph : GraphSpec} (hids : DistinctIds graph)
    (hmatch : LoopsMatchCycles graph) (hfree : NoFreeClash graph) {fuel : Nat}
    {order : List String} (hrun : regionOrder fuel graph = some order)
    {r r' : CompiledGraphRegion} (hr : r ∈ compiledRegions graph)
    (hr' : r' ∈ compiledRegions graph) (hne : r ≠ r') {a b : String} (ha : a ∈ r.components)
    (hb : b ∈ r'.components) (hedge : ImmediateEdge graph a b) : Precedes order r.id r'.id := by
  obtain ⟨hperm, htopo⟩ := accepted_order hids hmatch hfree hrun
  obtain ⟨i, hi⟩ := List.mem_iff_getElem?.mp hr
  obtain ⟨j, hj⟩ := List.mem_iff_getElem?.mp hr'
  have hij : i ≠ j := by
    rintro rfl
    exact hne (Option.some.inj (hi.symm.trans hj))
  have hregion : RegionEdge graph r.id r'.id :=
    ⟨i, j, r.components, r'.components, hij, (compiledRegions_index hi).1,
      (compiledRegions_index hj).1, (compiledRegions_index hi).2, (compiledRegions_index hj).2,
      a, ha, b, hb, hedge⟩
  obtain ⟨l₁, l₂, hsplit⟩ := List.append_of_mem (hperm.mem_iff.mpr hregion.mem_right)
  obtain ⟨l₃, l₄, hsplit'⟩ := List.append_of_mem (htopo l₁ _ l₂ hsplit _ hregion)
  exact ⟨l₃, l₄, l₂, by rw [hsplit, hsplit']⟩

/-- The SCCs of an accepted graph are the classes of mutual reachability, and
the region order is a topological permutation of the regions. -/
theorem compiled_sccs_and_region_order (graph : GraphSpec) (hids : DistinctIds graph)
    (hclash : NoLoopClash graph) (result : GraphCompileResult)
    (hcompile : CompilesTo graph result) (hok : result.ok = true) :
    (result.plan.immediateSccs.flatten.Perm (graph.components.map ComponentNodeSpec.id) ∧
        ∀ C ∈ result.plan.immediateSccs, C ≠ []) ∧
      (∀ a b, Declared graph a → Declared graph b →
        ((∃ C ∈ result.plan.immediateSccs, a ∈ C ∧ b ∈ C) ↔
          ImmediateReach graph a b ∧ ImmediateReach graph b a)) ∧
      (result.plan.regionOrder.Perm (result.plan.regions.map CompiledGraphRegion.id) ∧
        result.plan.regionOrder.Nodup) ∧
      ∀ r ∈ result.plan.regions, ∀ r' ∈ result.plan.regions, r ≠ r' →
        ∀ a ∈ r.components, ∀ b ∈ r'.components, ImmediateEdge graph a b →
          Precedes result.plan.regionOrder r.id r'.id := by
  have hpart := immediateSccs_partition hids
  have hmatch := loopsMatchCycles_of_ok hids hcompile hok
  have hnd := (regionIds_nodup_iff hids hmatch).mpr hclash.noFreeClash
  obtain ⟨fuel, order, hrun, _, _, hregions, horder, _, hsccs⟩ := compilesTo_iff.mp hcompile
  have hperm := (accepted_order hids hmatch hclash.noFreeClash hrun).1
  rw [hsccs, hregions, horder, map_id_compiledRegions]
  refine ⟨⟨hpart.flatten_perm hids, hpart.nonempty⟩, ?_,
    ⟨hperm, hperm.nodup_iff.mpr hnd⟩, ?_⟩
  · intro a b ha _
    constructor
    · rintro ⟨C, hC, haC, hbC⟩
      exact (hpart.mutually C hC a haC b).mp hbC
    · intro hab
      obtain ⟨C, hC, haC⟩ := (hpart.cover a).mp ha
      exact ⟨C, hC, haC, (hpart.mutually C hC a haC b).mpr hab⟩
  · intro r hr r' hr' hne a ha b hb hedge
    exact accepted_forward hids hmatch hclash.noFreeClash hrun hr hr' hne ha hb hedge

/-- A chain with a feedback pair in the middle. -/
def pipelineWithLoop : GraphSpec where
  components := [{ id := "sink" }, { id := "plant" }, { id := "control" }, { id := "source" }]
  edges :=
    [{ id := "in", fromEndpoint := "source.out", toEndpoint := "plant.in", hasKind := true },
     { id := "measure", fromEndpoint := "plant.out", toEndpoint := "control.in", hasKind := true },
     { id := "actuate", fromEndpoint := "control.out", toEndpoint := "plant.in", hasKind := true },
     { id := "out", fromEndpoint := "control.out", toEndpoint := "sink.in", hasKind := true }]
  compositeLoops := [{ id := "servo", components := ["plant", "control"] }]

theorem pipelineWithLoop_ordered :
    ∃ result, CompilesTo pipelineWithLoop result ∧ result.ok = true ∧
      result.plan.regionOrder = ["source", "servo", "sink"] ∧
      result.plan.regionOrder.Perm (result.plan.regions.map CompiledGraphRegion.id) := by
  refine ⟨_, ⟨3, rfl⟩, by decide, by decide, ?_⟩
  exact (compiled_sccs_and_region_order pipelineWithLoop ⟨by decide, by decide⟩ (by decide) _
    ⟨3, rfl⟩ (by decide)).2.2.1.1

end TopoExec
