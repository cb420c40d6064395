import TopoExec.Loader.WellFormed

/-! # Accepted texts

What the loader promises of the text of a document: it refuses no text that it accepts
under smaller limits, it loads the text of the flat document as the same graph, and
nothing that it returns is ill-formed.
-/

namespace TopoExec

open Check YamlNode

namespace GraphIo

variable {limits limits' : LoaderLimits} {library : YamlLibrary} {text : List UInt8}
  {graph : LoadedGraph}

/-! ## A document with one subgraph -/

def cellText : List UInt8 :=
  ("schema_version: 1\n" ++
    "graph:\n" ++
    "  name: g\n" ++
    "  kind: internal_test\n" ++
    "lanes:\n" ++
    "  main:\n" ++
    "    type: event_loop\n" ++
    "components: []\n" ++
    "edges: []\n" ++
    "subgraphs:\n" ++
    "  - id: cell\n" ++
    "    components:\n" ++
    "      - id: a\n" ++
    "        type: T\n" ++
    "        execution:\n" ++
    "          lane: main\n" ++
    "    edges: []\n").toList.flatMap String.utf8EncodeChar

def cellDocument : YamlNode :=
  .map [(.scalar "schema_version", .scalar "1"),
    (.scalar "graph", .map [(.scalar "name", .scalar "g"),
      (.scalar "kind", .scalar "internal_test")]),
    (.scalar "lanes", .map [(.scalar "main", .map [(.scalar "type", .scalar "event_loop")])]),
    (.scalar "components", .sequence []),
    (.scalar "edges", .sequence []),
    (.scalar "subgraphs", .sequence [.map [(.scalar "id", .scalar "cell"),
      (.scalar "components", .sequence [.map [(.scalar "id", .scalar "a"),
        (.scalar "type", .scalar "T"),
        (.scalar "execution", .map [(.scalar "lane", .scalar "main")])]]),
      (.scalar "edges", .sequence [])]])]

/-- The same graph with the subgraph written out. -/
def flatCellText : List UInt8 :=
  ("schema_version: 1\n" ++
    "graph:\n" ++
    "  name: g\n" ++
    "  kind: internal_test\n" ++
    "lanes:\n" ++
    "  main:\n" ++
    "    type: event_loop\n" ++
    "components:\n" ++
    "  - id: cell.a\n" ++
    "    type: T\n" ++
    "    execution:\n" ++
    "      lane: main\n" ++
    "edges: []\n" ++
    "composite_loops: []\n").toList.flatMap String.utf8EncodeChar

def flatCellDocument : YamlNode :=
  .map [(.scalar "schema_version", .scalar "1"),
    (.scalar "graph", .map [(.scalar "name", .scalar "g"),
      (.scalar "kind", .scalar "internal_test")]),
    (.scalar "lanes", .map [(.scalar "main", .map [(.scalar "type", .scalar "event_loop")])]),
    (.scalar "components", .sequence [.map [(.scalar "id", .scalar "cell.a"),
      (.scalar "type", .scalar "T"),
      (.scalar "execution", .map [(.scalar "lane", .scalar "main")])]]),
    (.scalar "edges", .sequence []),
    (.scalar "composite_loops", .sequence [])]

/-- What the library does with the two documents. -/
def cellLibrary : YamlLibrary where
  load := fun text =>
    if text = cellText then some cellDocument
    else if text = flatCellText then some flatCellDocument
    else none
  aliasReferences := fun _ => 0
  intOf := fun text => if text = "1" then some 1 else none
  doubleOf := fun _ => none
  boolOf := fun _ => none
  emit := fun _ => ""

def cellGraph : LoadedGraph where
  schemaVersion := 1
  name := "g"
  lanes := [{ id := "main", type := "event_loop" }]
  components :=
    [{ id := "cell.a", type := "T", execution := { lane := "main" }, eventSources := [{}]
       sourceInputs := [""] }]
  hierarchy := [{ id := "cell", components := ["cell.a"] }]

def cellRegistry : ComponentRegistry where
  contains := fun type => type = "T"
  describe := fun _ type => .ok { type := type }

/-- What is asked of a text before its nodes are read. -/
structure Admits (limits : LoaderLimits) (library : YamlLibrary) (text : List UInt8) : Prop where
  size : text.length ≤ limits.maxGraphInputBytes
  utf8 : isValidUtf8 text = true
  aliases : library.aliasReferences text ≤ limits.maxYamlAliasCount

theorem loadGraphText_eq_ok : loadGraphText limits library text = .ok graph ↔
    Admits limits library text ∧ ∃ root, library.load text = some root ∧
      loadGraphNode limits library root = .ok graph ∧
      enforceGraphStringLimits limits graph = .ok () := by
  unfold loadGraphText
  simp only [bind_eq_ok]
  constructor
  · rintro ⟨_, hsize, _, hutf8, _, haliases, root, hroot, loaded, hloaded, _, hstrings, hresult⟩
    cases hresult
    refine ⟨⟨?_, ?_, ?_⟩, root, ?_, hloaded, hstrings⟩
    · exact enforceLimit_eq_ok.mp hsize
    · simpa using refuse_eq_ok.mp hutf8
    · simpa using refuse_eq_ok.mp haliases
    · cases hload : library.load text with
      | none =>
          rw [hload] at hroot
          cases hroot
      | some given =>
          rw [hload] at hroot
          cases hroot
          rfl
  · rintro ⟨hadmits, root, hroot, hloaded, hstrings⟩
    refine ⟨(), enforceLimit_eq_ok.mpr hadmits.size, (), ?_, (), ?_, root, ?_, graph, hloaded, (),
      hstrings, rfl⟩
    · rw [refuse_eq_ok, hadmits.utf8]
      decide
    · exact refuse_eq_ok.mpr (Nat.not_lt.mpr hadmits.aliases)
    · rw [hroot]
      rfl

theorem cellText_load : loadGraphText {} cellLibrary cellText = .ok cellGraph := by
  have hroot : cellLibrary.load cellText = some cellDocument := by
    simp only [cellLibrary, if_true]
  rw [loadGraphText_eq_ok]
  refine ⟨⟨?_, ?_, Nat.zero_le _⟩, cellDocument, hroot, rfl, rfl⟩
  · change cellText.length ≤ 1024 * 1024
    decide +kernel
  · exact (isValidUtf8_iff _).mpr ⟨_, rfl⟩

/-- A text that is accepted is accepted under larger limits, as the same graph. -/
theorem loadGraphText_mono {text : List UInt8} {graph : LoadedGraph} (h : limits.Le limits')
    (hload : loadGraphText limits library text = .ok graph) :
    loadGraphText limits' library text = .ok graph := by
  refine Accepts.bind (enforceLimit_accepts h.graphInputBytes _ _) (fun _ => ?_) graph hload
  apply Accepts.bind (.refl _)
  intro _
  apply Accepts.bind (.refuse fun hcount => Nat.lt_of_le_of_lt h.yamlAliasCount hcount)
  intro _
  apply Accepts.bind (.refl _)
  intro root
  apply Accepts.bind (loadGraphNode_accepts h root)
  intro loaded
  exact .bind (enforceGraphStringLimits_accepts h loaded) fun _ => .refl _

theorem cellText_load_twice :
    loadGraphText { maxGraphInputBytes := 2 * 1024 * 1024, maxLanes := 1000 } cellLibrary cellText =
      .ok cellGraph := by
  refine loadGraphText_mono ?_ cellText_load
  constructor <;> decide

/-- The flat form drops what is bounded, and adds nothing. -/
theorem enforceGraphStringLimits_flat (h : enforceGraphStringLimits limits graph = .ok ()) :
    enforceGraphStringLimits limits graph.flat = .ok () := by
  unfold enforceGraphStringLimits at h ⊢
  simp only [bind_eq_ok] at h ⊢
  obtain ⟨_, hname, _, hkind, _, hruntime, _, hevent, _, hconfig, _, hlanes, _, hcomponents, _,
    hedges, _, hloops, -⟩ := h
  exact ⟨(), hname, (), hkind, (), hruntime, (), hevent, (), hconfig, (), hlanes, (), hcomponents,
    (), hedges, (), hloops, rfl⟩

/-- Writing out the subgraphs and the template instances by hand gives the same graph. -/
theorem loadGraphText_flattenDocument (hload : loadGraphText limits library text = .ok graph) :
    ∃ root subgraphs, library.load text = some root ∧
      documentSubgraphs limits root = .ok subgraphs ∧
      ∀ flatText, Admits limits library flatText →
        library.load flatText = some (flattenDocument root subgraphs) →
        loadGraphText limits library flatText = .ok graph.flat := by
  obtain ⟨-, root, hroot, hloaded, hstrings⟩ := loadGraphText_eq_ok.mp hload
  obtain ⟨entries, rfl, ⟨loading⟩⟩ := loadGraphNode_loading hloaded
  refine ⟨_, loading.subgraphs, hroot, loading.givenSubgraphs, ?_⟩
  intro flatText hadmits hflatText
  exact loadGraphText_eq_ok.mpr
    ⟨hadmits, _, hflatText, loading.flatten, enforceGraphStringLimits_flat hstrings⟩

theorem flatCellText_ne : flatCellText ≠ cellText := by decide +kernel

/-- The text with the subgraph written out is one that the library loads as the flat document. -/
theorem flatCellText_load : loadGraphText {} cellLibrary flatCellText = .ok cellGraph.flat := by
  obtain ⟨root, subgraphs, hroot, hsubgraphs, hflat⟩ := loadGraphText_flattenDocument cellText_load
  have hcell : cellLibrary.load cellText = some cellDocument := by
    simp only [cellLibrary, if_true]
  cases hcell.symm.trans hroot
  have hone : documentSubgraphs {} cellDocument = .ok [_] := rfl
  cases hone.symm.trans hsubgraphs
  have hadmits : Admits {} cellLibrary flatCellText := by
    refine ⟨?_, (isValidUtf8_iff _).mpr ⟨_, rfl⟩, Nat.zero_le _⟩
    change flatCellText.length ≤ 1024 * 1024
    decide +kernel
  apply hflat flatCellText hadmits
  simp only [cellLibrary, if_neg flatCellText_ne, if_true]
  rfl

/-- What the loader returns is well formed. -/
theorem loadGraphText_accepted (hload : loadGraphText limits library text = .ok graph) :
    graph.Accepted limits := by
  obtain ⟨-, root, -, hloaded, -⟩ := loadGraphText_eq_ok.mp hload
  obtain ⟨entries, -, ⟨loading⟩⟩ := loadGraphNode_loading hloaded
  exact loading.accepted

theorem cellGraph_accepted : cellGraph.Accepted {} := loadGraphText_accepted cellText_load

/-- The validation of a loaded graph returns exactly if that of its flat form does, it gives the
same plan, and it accepts the graph exactly if it accepts the flat form and no two of the
subgraphs have one id. -/
theorem loadGraphText_validateGraph (hload : loadGraphText limits library text = .ok graph)
    (fuel : Nat) (parseDouble : String → Option Double) (registry : ComponentRegistry) :
    (validateGraph fuel parseDouble registry graph.flat.toSpec).isSome =
        (validateGraph fuel parseDouble registry graph.toSpec).isSome ∧
      ∀ result flat, validateGraph fuel parseDouble registry graph.toSpec = some result →
        validateGraph fuel parseDouble registry graph.flat.toSpec = some flat →
        flat.compiledPlan = result.compiledPlan ∧
          (result.ok = true ↔
            flat.ok = true ∧ (graph.hierarchy.map GraphHierarchyEntry.id).Nodup) := by
  obtain ⟨-, root, -, hloaded, -⟩ := loadGraphText_eq_ok.mp hload
  obtain ⟨entries, -, ⟨loading⟩⟩ := loadGraphNode_loading hloaded
  refine ⟨validateGraph_flat_isSome graph fuel parseDouble registry, ?_⟩
  intro result flat hresult hflat
  obtain ⟨flat', hflat', hagrees⟩ := loading.accepted.validateGraph_flat hresult
  cases hflat.symm.trans hflat'
  exact hagrees

theorem cellGraph_validateGraph :
    ∃ flat, validateGraph 8 (fun _ => none) cellRegistry cellGraph.flat.toSpec = some flat ∧
      flat.ok = true := by
  have hvalidate : ∃ result,
      validateGraph 8 (fun _ => none) cellRegistry cellGraph.toSpec = some result ∧
        result.ok = true := by
    refine ⟨_, rfl, ?_⟩
    decide +kernel
  obtain ⟨result, hresult, hresultOk⟩ := hvalidate
  obtain ⟨hreturns, hagree⟩ :=
    loadGraphText_validateGraph cellText_load 8 (fun _ => none) cellRegistry
  rw [hresult] at hreturns
  obtain ⟨flat, hflat⟩ := Option.isSome_iff_exists.mp hreturns
  exact ⟨flat, hflat, ((hagree result flat hresult hflat).2.mp hresultOk).1⟩

end GraphIo

end TopoExec
