import TopoExec.Graph.Compile
import TopoExec.Lib.Fresh
import TopoExec.Lib.OrderedMap
import TopoExec.Lib.Text

/-! # Rendering as a Mermaid diagram

Ids of a graph may have any characters. `mermaid_label` escapes a text for a label, and
`build_mermaid_node_ids` gives every id a name of its own from a safe set of characters.

The source works on bytes. A character outside the safe set is one or more bytes, each of
which is replaced; texts are compared by their characters, which is the order of their
bytes.
-/

namespace TopoExec

/-! ## Labels and names -/

/-- One character of `mermaid_label`. -/
def mermaidLabelChar (character : Char) : List Char :=
  if character = '"' then "&quot;".toList
  else if character = '\\' then "&#92;".toList
  else if character = '[' then "&#91;".toList
  else if character = ']' then "&#93;".toList
  else if character = '\n' ∨ character = '\r' then [' ']
  else [character]

def mermaidLabel (text : String) : String :=
  String.ofList (text.toList.flatMap mermaidLabelChar)

def isMermaidSafe (character : Char) : Bool :=
  ('A' ≤ character && character ≤ 'Z') || ('a' ≤ character && character ≤ 'z') ||
    ('0' ≤ character && character ≤ '9') || character = '_' || character = '.' || character = '-'

/-- Each byte of a character outside the safe set becomes an underscore. -/
def mermaidNodeId (id : String) : String :=
  String.ofList (id.toList.flatMap fun character =>
    if isMermaidSafe character then [character]
    else List.replicate character.utf8Size '_')

/-- Made only of safe characters. -/
def MermaidSafe (name : String) : Prop := ∀ character ∈ name.toList, isMermaidSafe character = true

instance (name : String) : Decidable (MermaidSafe name) :=
  decidable_of_iff (name.toList.all isMermaidSafe = true) List.all_eq_true

/-! ## The ids of the nodes -/

/-- The ids that may stand for a node. -/
def mermaidIds (graph : GraphSpec) : List String :=
  graph.components.map ComponentNodeSpec.id ++
    graph.hierarchy.flatMap (fun hierarchy => hierarchy.id :: hierarchy.components) ++
    graph.compositeLoops.flatMap (fun loop => loop.id :: loop.components) ++
    graph.edges.flatMap fun edge => [edge.source, edge.target]

/-- `originals`, in the order of the set. -/
def mermaidOriginals (graph : GraphSpec) : List String := sortIds (mermaidIds graph).dedup

/-- `base + "_" + std::to_string(suffix)`. -/
def suffixedNodeId (base : String) (suffix : Nat) : String := base ++ "_" ++ toString suffix

/-- Suffixes tell names of one base apart. -/
theorem suffixedNodeId_injective (base : String) : Function.Injective (suffixedNodeId base) :=
  Text.numbered_injective (base ++ "_")

/-- The search of the second pass. -/
def freeNodeId (used : List String) (base : String) : String :=
  Fresh.search used (suffixedNodeId base) (suffixedNodeId_injective base) base 2

/-- `mapping` and `used`. -/
structure MermaidNames where
  mapping : OrderedMap String String := .empty
  used : List String := []
deriving DecidableEq

/-- One round of the first pass. -/
def claimSafeId (names : MermaidNames) (id : String) : MermaidNames :=
  if mermaidNodeId id = id then
    { mapping := names.mapping.insert id id, used := id :: names.used }
  else names

/-- One round of the second pass. -/
def assignNodeId (names : MermaidNames) (id : String) : MermaidNames :=
  match names.mapping.find id with
  | some _ => names
  | none =>
      let candidate := freeNodeId names.used (mermaidNodeId id)
      { mapping := names.mapping.insert id candidate, used := candidate :: names.used }

def buildMermaidNodeIds (graph : GraphSpec) : OrderedMap String String :=
  let originals := mermaidOriginals graph
  (originals.foldl assignNodeId (originals.foldl claimSafeId {})).mapping

/-! ## Safe names -/

/-- The name of an id is made of safe characters. -/
theorem mermaidNodeId_safe (id : String) : MermaidSafe (mermaidNodeId id) := by
  intro character hmem
  rw [mermaidNodeId, String.toList_ofList, List.mem_flatMap] at hmem
  obtain ⟨original, -, hmem⟩ := hmem
  split at hmem
  · rename_i hsafe
    rw [List.mem_singleton.1 hmem]
    exact hsafe
  · rw [List.eq_of_mem_replicate hmem]
    decide

/-- A safe id is its own name, and no other is. -/
theorem mermaidNodeId_eq_self_iff (id : String) : mermaidNodeId id = id ↔ MermaidSafe id := by
  constructor
  · intro h
    rw [← h]
    exact mermaidNodeId_safe id
  · intro hsafe
    have hflat : (id.toList.flatMap fun character =>
        if isMermaidSafe character then [character]
        else List.replicate character.utf8Size '_') =
      id.toList.flatMap fun character => [character] := by
      apply List.flatMap_congr
      intro character hmem
      rw [if_pos (hsafe character hmem)]
    rw [mermaidNodeId, hflat, List.flatMap_singleton', String.ofList_toList]

theorem MermaidSafe.append {left right : String} (hleft : MermaidSafe left)
    (hright : MermaidSafe right) : MermaidSafe (left ++ right) := by
  intro character hmem
  rw [String.toList_append, List.mem_append] at hmem
  rcases hmem with hmem | hmem
  · exact hleft character hmem
  · exact hright character hmem

theorem toString_safe (n : Nat) : MermaidSafe (toString n) := by
  intro character hmem
  rw [Nat.toString_eq_ofList_toDigits, String.toList_ofList] at hmem
  have hdigit := Nat.isDigit_of_mem_toDigits (by decide) (by decide) hmem
  simp only [Char.isDigit, Bool.and_eq_true, decide_eq_true_eq] at hdigit
  simp only [isMermaidSafe, Bool.or_eq_true, Bool.and_eq_true, decide_eq_true_eq]
  exact Or.inl (Or.inl (Or.inl (Or.inr hdigit)))

/-- A free name is made of safe characters. -/
theorem freeNodeId_safe (used : List String) {base : String} (h : MermaidSafe base) :
    MermaidSafe (freeNodeId used base) := by
  have hseparator : MermaidSafe "_" := by decide
  apply Fresh.search_of_forall 2 h
  intro n
  exact (h.append hseparator).append (toString_safe n)

/-! ## The passes -/

/-- After the first pass every name is the id itself. -/
structure ClaimedIds (names : MermaidNames) : Prop where
  exact : ∀ {id name}, names.mapping.find id = some name → name = id ∧ MermaidSafe id
  used : ∀ {id name}, names.mapping.find id = some name → name ∈ names.used

/-- In the second pass the names stay different from each other. -/
structure DistinctNames (names : MermaidNames) : Prop where
  injective : ∀ {id id' name}, names.mapping.find id = some name →
    names.mapping.find id' = some name → id = id'
  used : ∀ {id name}, names.mapping.find id = some name → name ∈ names.used
  safe : ∀ {id name}, names.mapping.find id = some name → MermaidSafe name

theorem ClaimedIds.distinct {names : MermaidNames} (h : ClaimedIds names) :
    DistinctNames names where
  injective := by
    intro id id' name hid hid'
    rw [← (h.exact hid).1, (h.exact hid').1]
  used := h.used
  safe := by
    intro id name hid
    rw [(h.exact hid).1]
    exact (h.exact hid).2

/-- A safe id claims itself. -/
theorem ClaimedIds.claim {names : MermaidNames} (h : ClaimedIds names) (id : String) :
    ClaimedIds (claimSafeId names id) := by
  unfold claimSafeId
  split
  · rename_i hself
    constructor
    · intro key name hfind
      rw [OrderedMap.find_insert] at hfind
      split at hfind
      · rename_i hkey
        cases hfind
        rw [← hkey]
        exact ⟨rfl, (mermaidNodeId_eq_self_iff _).1 hself⟩
      · exact h.exact hfind
    · intro key name hfind
      rw [OrderedMap.find_insert] at hfind
      split at hfind
      · cases hfind
        exact List.mem_cons_self ..
      · exact List.mem_cons_of_mem _ (h.used hfind)
  · exact h

/-- Claiming adds a safe id and changes no other name. -/
theorem claimSafeId_find (names : MermaidNames) (id key : String) :
    (claimSafeId names id).mapping.find key =
      if id = key ∧ MermaidSafe id then some id else names.mapping.find key := by
  unfold claimSafeId
  simp only [mermaidNodeId_eq_self_iff]
  by_cases hsafe : MermaidSafe id
  · rw [if_pos hsafe, OrderedMap.find_insert]
    simp only [hsafe, and_true]
  · simp [hsafe]

/-- The first pass: the safe ids have their own names, and the others have none. -/
theorem claimSafeIds_spec (ids : List String) :
    ClaimedIds (ids.foldl claimSafeId {}) ∧
      ∀ id ∈ ids, MermaidSafe id → (ids.foldl claimSafeId {}).mapping.find id = some id := by
  induction ids using List.reverseRecOn with
  | nil =>
      refine ⟨⟨?_, ?_⟩, ?_⟩
      · intro id name hfind
        cases hfind
      · intro id name hfind
        cases hfind
      · intro id hmem
        cases hmem
  | append_singleton ids last ih =>
      rw [List.foldl_append, List.foldl_cons, List.foldl_nil]
      refine ⟨ih.1.claim last, ?_⟩
      intro id hmem hsafe
      rw [claimSafeId_find]
      rcases List.mem_append.1 hmem with hmem | hmem
      · rw [ih.2 id hmem hsafe]
        split
        · rename_i hlast
          rw [hlast.1]
        · rfl
      · rw [List.mem_singleton.1 hmem] at hsafe ⊢
        rw [if_pos ⟨rfl, hsafe⟩]

/-- A name is assigned that no other id has. -/
theorem DistinctNames.assign {names : MermaidNames} (h : DistinctNames names) (id : String) :
    DistinctNames (assignNodeId names id) := by
  unfold assignNodeId
  split
  · exact h
  · dsimp only
    have hfree : freeNodeId names.used (mermaidNodeId id) ∉ names.used := Fresh.search_notMem _ _
    generalize hcandidate : freeNodeId names.used (mermaidNodeId id) = candidate at hfree
    constructor
    · -- A name that is in use cannot be the new one.
      intro key key' name hkey hkey'
      rw [OrderedMap.find_insert] at hkey hkey'
      split at hkey <;> split at hkey'
      · rename_i h₁ h₂
        rw [← h₁, ← h₂]
      · cases hkey
        exact absurd (h.used hkey') hfree
      · cases hkey'
        exact absurd (h.used hkey) hfree
      · exact h.injective hkey hkey'
    · intro key name hfind
      rw [OrderedMap.find_insert] at hfind
      split at hfind
      · cases hfind
        exact List.mem_cons_self ..
      · exact List.mem_cons_of_mem _ (h.used hfind)
    · intro key name hfind
      rw [OrderedMap.find_insert] at hfind
      split at hfind
      · cases hfind
        rw [← hcandidate]
        exact freeNodeId_safe _ (mermaidNodeId_safe id)
      · exact h.safe hfind

/-- A name stays once it is given. -/
theorem assignNodeId_keeps {names : MermaidNames} {key name : String} (id : String)
    (h : names.mapping.find key = some name) :
    (assignNodeId names id).mapping.find key = some name := by
  unfold assignNodeId
  split
  · exact h
  · rename_i hnone
    rw [OrderedMap.find_insert, if_neg, h]
    intro heq
    rw [← heq, hnone] at h
    cases h

/-- After the assignment the id has a name. -/
theorem assignNodeId_assigns (names : MermaidNames) (id : String) :
    ∃ name, (assignNodeId names id).mapping.find id = some name := by
  unfold assignNodeId
  split
  · rename_i name hname
    exact ⟨name, hname⟩
  · exact ⟨_, by rw [OrderedMap.find_insert, if_pos rfl]⟩

/-- The second pass: every id has a name. -/
theorem assignNodeIds_spec (ids : List String) {names : MermaidNames} (h : DistinctNames names) :
    DistinctNames (ids.foldl assignNodeId names) ∧
      (∀ {key name}, names.mapping.find key = some name →
        (ids.foldl assignNodeId names).mapping.find key = some name) ∧
      ∀ id ∈ ids, ∃ name, (ids.foldl assignNodeId names).mapping.find id = some name := by
  induction ids generalizing names with
  | nil =>
      refine ⟨h, fun hfind => hfind, ?_⟩
      intro id hmem
      cases hmem
  | cons first ids ih =>
      obtain ⟨hdistinct, hkeeps, hassigns⟩ := ih (h.assign first)
      refine ⟨hdistinct, fun hfind => hkeeps (assignNodeId_keeps first hfind), ?_⟩
      intro id hmem
      rcases List.mem_cons.1 hmem with rfl | hmem
      · obtain ⟨name, hname⟩ := assignNodeId_assigns names id
        exact ⟨name, hkeeps hname⟩
      · exact hassigns id hmem

/-! ## The map -/

/-- An id of a component, a subgraph or a loop, listed or declared, or of an endpoint. -/
def IsNodeId (graph : GraphSpec) (id : String) : Prop :=
  (∃ component ∈ graph.components, id = component.id) ∨
    (∃ hierarchy ∈ graph.hierarchy, id = hierarchy.id ∨ id ∈ hierarchy.components) ∨
    (∃ loop ∈ graph.compositeLoops, id = loop.id ∨ id ∈ loop.components) ∨
    ∃ edge ∈ graph.edges, id = componentIdFromEndpoint edge.fromEndpoint ∨
      id = componentIdFromEndpoint edge.toEndpoint

/-- The ids that are drawn are those of components and endpoints. -/
theorem mem_mermaidOriginals (graph : GraphSpec) (id : String) :
    id ∈ mermaidOriginals graph ↔ IsNodeId graph id := by
  rw [mermaidOriginals, sortIds, List.mem_insertionSort, List.mem_dedup, mermaidIds, IsNodeId]
  simp only [List.mem_append, List.mem_map, List.mem_flatMap, List.mem_cons, List.not_mem_nil,
    or_false, or_assoc, eq_comm, EdgeSpec.source, EdgeSpec.target]

/-- The state at the end of the second pass. -/
theorem mermaidNames_distinct (graph : GraphSpec) :
    DistinctNames ((mermaidOriginals graph).foldl assignNodeId
      ((mermaidOriginals graph).foldl claimSafeId {})) :=
  (assignNodeIds_spec _ (claimSafeIds_spec (mermaidOriginals graph)).1.distinct).1

/-- All names are safe. -/
theorem buildMermaidNodeIds_safe (graph : GraphSpec) {id name : String}
    (h : (buildMermaidNodeIds graph).find id = some name) : MermaidSafe name :=
  (mermaidNames_distinct graph).safe h

/-- The map has a name for every id, different ones for different ids; it leaves the safe
ids as they are, and gives safe names only. -/
theorem buildMermaidNodeIds_spec (graph : GraphSpec) :
    (∀ id, IsNodeId graph id → ((buildMermaidNodeIds graph).find id).isSome) ∧
      Set.InjOn (fun id => (buildMermaidNodeIds graph).find id) { id | IsNodeId graph id } ∧
      (∀ id, IsNodeId graph id → MermaidSafe id → (buildMermaidNodeIds graph).find id = some id) ∧
      ∀ id name, (buildMermaidNodeIds graph).find id = some name → MermaidSafe name := by
  obtain ⟨hclaimed, hself⟩ := claimSafeIds_spec (mermaidOriginals graph)
  obtain ⟨-, hkeeps, hassigns⟩ :=
    assignNodeIds_spec (mermaidOriginals graph) hclaimed.distinct
  have htotal : ∀ id, IsNodeId graph id → ∃ name, (buildMermaidNodeIds graph).find id = some name :=
    fun id hid => hassigns id ((mem_mermaidOriginals graph id).2 hid)
  refine ⟨?_, ?_, ?_, ?_⟩
  · intro id hid
    obtain ⟨name, hname⟩ := htotal id hid
    rw [hname]
    rfl
  · intro id hid id' _ heq
    obtain ⟨name, hname⟩ := htotal id hid
    have hname' : (buildMermaidNodeIds graph).find id' = some name := heq.symm.trans hname
    exact (mermaidNames_distinct graph).injective hname hname'
  · intro id hid hsafe
    exact hkeeps (hself id ((mem_mermaidOriginals graph id).2 hid) hsafe)
  · intro id name hname
    exact buildMermaidNodeIds_safe graph hname

end TopoExec
