import TopoExec.Channel.Bus
import TopoExec.Graph.Validated

/-! # Which channels feed a trigger input

Validation takes an input `p` of a component `c` as connected when some edge
leads to the text `c.p`. The bus cuts that text at its last dot instead and files
the channel under what stands before it. The two agree for a port name without
dots; a port name with a dot passes validation on account of an edge to another
component.
-/

namespace TopoExec

/-! ## The bus of a list of edges -/

namespace RuntimeChannelBus

/-- The edges are added one after the other. -/
theorem ofEdges_concat (specs : List EdgeSpec) (spec : EdgeSpec) :
    ofEdges (specs ++ [spec]) = (ofEdges specs).addEdge spec := by
  simp [ofEdges]

/-- A component has the channels of the edges that lead to it, in their order. -/
theorem componentToChannels_ofEdges (specs : List EdgeSpec) (component : String) :
    ((ofEdges specs).componentToChannels component).getD [] =
      (specs.filter fun spec => spec.target = component).map EdgeSpec.id := by
  induction specs using List.reverseRecOn with
  | nil => rfl
  | append_singleton specs spec ih =>
      rw [ofEdges_concat]
      show (pushBack (ofEdges specs).componentToChannels spec.target spec.id component).getD [] = _
      unfold pushBack
      rw [List.filter_append, List.map_append, ← ih]
      by_cases htarget : spec.target = component
      · rw [← htarget, Function.update_self]
        simp
      · rw [Function.update_of_ne (Ne.symm htarget)]
        simp [htarget]

/-- With distinct ids every channel keeps the configuration of its edge. -/
theorem config_ofEdges {specs : List EdgeSpec} (hnd : (specs.map EdgeSpec.id).Nodup)
    {spec : EdgeSpec} (hmem : spec ∈ specs) :
    (ofEdges specs).config spec.id = .ofEdge spec := by
  induction specs using List.reverseRecOn with
  | nil => simp at hmem
  | append_singleton specs last ih =>
      rw [ofEdges_concat]
      show Function.update (ofEdges specs).config last.id (.ofEdge last) spec.id = _
      rw [List.map_append, List.nodup_append] at hnd
      rcases List.mem_append.mp hmem with hold | hnew
      · have hne : spec.id ≠ last.id :=
          hnd.2.2 spec.id (List.mem_map_of_mem hold) last.id (by simp)
        rw [Function.update_of_ne hne]
        exact ih hnd.1 hold
      · rw [List.mem_singleton] at hnew
        rw [hnew, Function.update_self]

/-- The channels that `drain_for_component_port` reads belong to the edges that
the last dot of their endpoint attributes to the component and the port. -/
theorem mem_channelIdsForComponentPort {specs : List EdgeSpec}
    (hnd : (specs.map EdgeSpec.id).Nodup) {component port id : String} :
    id ∈ (ofEdges specs).channelIdsForComponentPort component port ↔
      ∃ spec ∈ specs, spec.id = id ∧ spec.target = component ∧
        (port = "" ∨ portNameFromEndpoint spec.toEndpoint = port) := by
  rw [channelIdsForComponentPort, List.mem_filter, componentToChannels_ofEdges, List.mem_map]
  constructor
  · rintro ⟨⟨spec, hspec, rfl⟩, hport⟩
    rw [List.mem_filter, decide_eq_true_eq] at hspec
    rw [Bool.or_eq_true, decide_eq_true_eq, decide_eq_true_eq, config_ofEdges hnd hspec.1] at hport
    exact ⟨spec, hspec.1, rfl, hspec.2, hport⟩
  · rintro ⟨spec, hspec, rfl, htarget, hport⟩
    refine ⟨⟨spec, List.mem_filter.mpr ⟨hspec, by simpa using htarget⟩, rfl⟩, ?_⟩
    rw [Bool.or_eq_true, decide_eq_true_eq, decide_eq_true_eq, config_ofEdges hnd hspec]
    exact hport

end RuntimeChannelBus

/-! ## Trigger inputs of an accepted graph -/

/-- A trigger input of an accepted graph has a channel to drain exactly if its
name has no dot. -/
theorem trigger_input_wired_iff {fuel : Nat} {graph : GraphSpec} {result : GraphValidationResult}
    (h : validateGraphStructure fuel graph = some result) (hok : result.ok = true)
    {component : ComponentNodeSpec} (hcomponent : component ∈ graph.components) {port : String}
    (hport : port ∈ triggerPolicyInputsFor component) :
    (RuntimeChannelBus.ofEdges graph.edges).channelIdsForComponentPort component.id port ≠ [] ↔
      '.' ∉ port.toList := by
  have hvalid : Validated graph := validated_of_ok h hok
  have hmem : ∀ id,
      id ∈ (RuntimeChannelBus.ofEdges graph.edges).channelIdsForComponentPort component.id port ↔
        ∃ spec ∈ graph.edges, spec.id = id ∧ spec.target = component.id ∧
          (port = "" ∨ portNameFromEndpoint spec.toEndpoint = port) :=
    fun _ => RuntimeChannelBus.mem_channelIdsForComponentPort hvalid.edge_ids_nodup
  constructor
  · intro hne hdot
    -- no port name of the bus has a dot, and the empty name has none either
    rcases List.exists_mem_of_ne_nil _ hne with ⟨id, hid⟩
    rcases (hmem id).mp hid with ⟨spec, -, -, -, rfl | hname⟩
    · simp at hdot
    · rw [← hname] at hdot
      exact portNameFromEndpoint_no_dot spec.toEndpoint hdot
  · intro hdot
    rcases hvalid.trigger_inputs component hcomponent port hport with ⟨spec, hspec, hto⟩
    have htarget : spec.target = component.id := by
      rw [EdgeSpec.target, hto, componentIdFromEndpoint_endpointOf hdot]
    have hname : portNameFromEndpoint spec.toEndpoint = port := by
      rw [hto, portNameFromEndpoint_endpointOf hdot]
    exact List.ne_nil_of_mem ((hmem spec.id).mpr ⟨spec, hspec, rfl, htarget, Or.inr hname⟩)

/-- A source and a consumer that waits for its input `port`, which the edge to
`endpoint` feeds. -/
def feedGraph (others : List ComponentNodeSpec) (port endpoint : String) : GraphSpec where
  schemaVersion := 1
  name := "feed"
  lanes := [{ id := "main", type := "event_loop" }]
  components :=
    [{ id := "source", type := "Source", execution := { lane := "main" }
       eventSources := [{}] },
     { id := "cell", type := "Sink", execution := { lane := "main" }
       eventSources := [{ type := "message", inputs := [port] }]
       triggerPolicy := { type := "any_input" } }] ++ others
  edges := [{ id := "feed", fromEndpoint := "source.out", toEndpoint := endpoint, hasKind := true }]

theorem cell_in_wired :
    ∃ result, validateGraphStructure 3 (feedGraph [] "in" "cell.in") = some result ∧
      result.ok = true ∧
      ((RuntimeChannelBus.ofEdges (feedGraph [] "in" "cell.in").edges).channelIdsForComponentPort
        "cell" "in" ≠ [] ↔ '.' ∉ "in".toList) := by
  have hcell : (feedGraph [] "in" "cell.in").components[1] ∈
      (feedGraph [] "in" "cell.in").components := by decide
  have haccepted : ∃ result,
      validateGraphStructure 3 (feedGraph [] "in" "cell.in") = some result ∧ result.ok = true :=
    ⟨_, rfl, by decide⟩
  rcases haccepted with ⟨result, hresult, hok⟩
  exact ⟨result, hresult, hok, trigger_input_wired_iff hresult hok hcell (by decide)⟩

/-- `cell` waits for `arm.in`, and the edge to `cell.arm.in` feeds the input `in`
of the component `cell.arm`. -/
def dottedInput : GraphSpec :=
  feedGraph [{ id := "cell.arm", type := "Sink", execution := { lane := "main" }
               eventSources := [{}] }] "arm.in" "cell.arm.in"

/-- Validation accepts the graph, and there is nothing for the input to drain. -/
theorem dottedInput_not_wired :
    ∃ result, validateGraphStructure 4 dottedInput = some result ∧ result.ok = true ∧
      ∃ component ∈ dottedInput.components, ∃ port ∈ triggerPolicyInputsFor component,
        (RuntimeChannelBus.ofEdges dottedInput.edges).channelIdsForComponentPort
          component.id port = [] := by
  refine ⟨_, rfl, by decide, dottedInput.components[1], by decide, "arm.in", by decide, ?_⟩
  decide

end TopoExec
