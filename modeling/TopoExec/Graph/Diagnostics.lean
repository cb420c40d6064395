import Mathlib.Logic.Equiv.List
import TopoExec.Lib.Text
import TopoExec.Graph.LifecycleOrder
import TopoExec.Graph.Acceptance

/-! # The diagnostics of a validation

`add_error` files a diagnostic with every error text, and its code is found again
in the text: `diagnostic_code_for` looks for phrases, rule after rule. Only one of
the texts that report a missing component has the phrase that is looked for, and a
name in a text can have any of them.

`Violation` lists the faults whose codes the documentation fixes, each with the
place where the validation looks at it. `Violation.texts` are the texts with which
it is reported there; the code of a fault is the code of that text. A fault is
`Classified` if the validation returns and gives it the code that is fixed for it, under
all names of the components and edges.

Warnings and advisories are given their codes directly and are left out.
-/

namespace TopoExec

open Function

/-! ## Codes -/

/-- The codes of errors. -/
inductive DiagnosticCode where
  | unknownComponent
  | unknownPort
  | payloadTypeMismatch
  | missingRequiredInput
  | boundaryRoleMismatch
  | portMultiplicityMismatch
  | duplicateId
  | immediateCycleWithoutLoop
  | partialCompositeLoop
  | decorativeCompositeLoop
  | multiStateWriter
  | invalidMoveOnlyMultireader
  | invalidChannelPolicy
  | unsupportedLaneType
  | triggerMissingInput
  | incompatibleTriggerEdgeMode
  | unsupportedErrorPolicy
  | graphValidationError
deriving DecidableEq, Repr

/-- `error.find(phrase) != std::string::npos`. -/
def mentions (error phrase : String) : Bool := phrase.toList <:+: error.toList

/-- A rule of `diagnostic_code_for`: it applies if the text has all the phrases of
one of the lists. -/
structure CodeRule where
  code : DiagnosticCode
  phrases : List (List String)

def CodeRule.applies (rule : CodeRule) (error : String) : Bool :=
  rule.phrases.any fun phrases => phrases.all (mentions error)

/-- The first rule. -/
def unknownComponentRule : CodeRule where
  code := .unknownComponent
  phrases := [["unknown component"], ["unknown target component"], ["unknown source component"],
    ["references missing component"]]

/-- The rules between the first one and those for composite loops. -/
def structureRules : List CodeRule :=
  [⟨.unknownPort, [["unknown output port"], ["unknown input port"]]⟩,
    ⟨.payloadTypeMismatch, [["payload type mismatch"]]⟩,
    ⟨.missingRequiredInput, [["missing required input"]]⟩,
    ⟨.boundaryRoleMismatch, [["boundary role mismatch"]]⟩,
    ⟨.portMultiplicityMismatch, [["multiplicity"]]⟩,
    ⟨.duplicateId, [["duplicate component"], ["duplicate edge"], ["duplicate lane"],
      ["duplicate composite_loop"]]⟩,
    ⟨.immediateCycleWithoutLoop, [["immediate cycle"]]⟩]

def compositeLoopRules : List CodeRule :=
  [⟨.partialCompositeLoop, [["does not exactly match"], ["must match an immediate SCC"]]⟩,
    ⟨.decorativeCompositeLoop, [["does not own a cycle"]]⟩]

/-- The rules after those for composite loops. -/
def policyRules : List CodeRule :=
  [⟨.multiStateWriter, [["multiple writers"]]⟩,
    ⟨.invalidMoveOnlyMultireader, [["move_only"]]⟩,
    ⟨.invalidChannelPolicy, [["policy."], ["capacity"], ["overflow"]]⟩,
    ⟨.unsupportedLaneType, [["unsupported type", "lane "]]⟩,
    ⟨.triggerMissingInput, [["trigger_policy", "input"]]⟩,
    ⟨.incompatibleTriggerEdgeMode, [["trigger_policy"], ["event_source"]]⟩,
    ⟨.unsupportedErrorPolicy, [["execution.on_error"]]⟩]

/-- The rules in their order. -/
def codeRules : List CodeRule :=
  unknownComponentRule :: (structureRules ++ compositeLoopRules ++ policyRules)

/-- The code of the first rule that applies. -/
def codeBy (rules : List CodeRule) (error : String) : DiagnosticCode :=
  match rules with
  | [] => .graphValidationError
  | rule :: rules => if rule.applies error then rule.code else codeBy rules error

/-- `diagnostic_code_for`. -/
def diagnosticCodeFor (error : String) : DiagnosticCode := codeBy codeRules error

/-! ## Diagnostics -/

inductive DiagnosticCategory where
  | graphStructure
  | payload
  | channel
  | scheduler
  | trigger
deriving DecidableEq, Repr

/-- `graph_diagnostic_category`. -/
def graphDiagnosticCategory : DiagnosticCode → DiagnosticCategory
  | .payloadTypeMismatch | .invalidMoveOnlyMultireader => .payload
  | .multiStateWriter | .invalidChannelPolicy => .channel
  | .unsupportedLaneType | .unsupportedErrorPolicy => .scheduler
  | .triggerMissingInput | .incompatibleTriggerEdgeMode => .trigger
  | _ => .graphStructure

/-- `suggested_fix_for`. -/
def suggestedFixFor : DiagnosticCode → String
  | .unknownComponent =>
      "Check component ids referenced by edges, depends_on, and CompositeLoop declarations."
  | .unknownPort => "Check component descriptors and endpoint port names."
  | .payloadTypeMismatch =>
      "Align the source output and target input schema or payload_type, or insert an explicit " ++
        "transform."
  | .missingRequiredInput =>
      "Connect the required input or mark the port optional in the component descriptor."
  | .boundaryRoleMismatch =>
      "Align the graph boundary role with the descriptor's input/output boundary capability."
  | .portMultiplicityMismatch =>
      "Use one incoming edge or mark the descriptor input as multiple."
  | .duplicateId => "Use unique ids inside each graph section."
  | .immediateCycleWithoutLoop =>
      "Break the cycle with delay/state/async or declare an exact CompositeLoop."
  | .partialCompositeLoop =>
      "Make the CompositeLoop component set exactly match one immediate SCC."
  | .decorativeCompositeLoop =>
      "Remove the CompositeLoop or add the immediate feedback edges it owns."
  | .multiStateWriter =>
      "Keep one writer per state target until an explicit merge policy exists."
  | .invalidMoveOnlyMultireader =>
      "Use readers: single for move_only or switch to shared_view/copy."
  | .invalidChannelPolicy =>
      "Use a supported bounded channel mode, capacity, overflow, timestamp, owner, and copy " ++
        "policy."
  | .unsupportedLaneType => "Use event_loop, fixed_rate, or thread_pool."
  | .triggerMissingInput => "Add trigger inputs and matching incoming edges."
  | .incompatibleTriggerEdgeMode =>
      "Align event_sources, trigger_policy, and incoming edge modes."
  | .unsupportedErrorPolicy =>
      "Use fail_fast until continue/isolate policies are implemented."
  | .graphValidationError =>
      "Inspect the graph path and schema reference for the invalid contract."

structure GraphDiagnostic where
  code : DiagnosticCode
  message : String
  graphPath : String := ""
  involvedComponents : List String := []
  involvedEdges : List String := []
  suggestedFix : String
  category : DiagnosticCategory
deriving DecidableEq, Repr

/-- `token_after`: the word that follows `start` at the front of the message. -/
def tokenAfter (message start : String) : String :=
  if start.toList <+: message.toList then
    String.ofList ((message.toList.drop start.toList.length).takeWhile (· ≠ ' '))
  else ""

def makeDiagnostic (error : String) : GraphDiagnostic :=
  let code := diagnosticCodeFor error
  let component := tokenAfter error "component "
  let edge := tokenAfter error "edge "
  let lane := tokenAfter error "lane "
  let loop := tokenAfter error "composite_loop "
  { code := code
    message := error
    graphPath :=
      if component ≠ "" then "components." ++ component
      else if edge ≠ "" then "edges." ++ edge
      else if lane ≠ "" then "lanes." ++ lane
      else if loop ≠ "" then "composite_loops." ++ loop
      else if "graph.clock".toList <+: error.toList then "graph.clock"
      else if "runnable graph".toList <+: error.toList then "graph"
      else ""
    involvedComponents := if component ≠ "" then [component] else []
    involvedEdges := if component = "" ∧ edge ≠ "" then [edge] else []
    suggestedFix := suggestedFixFor code
    category := graphDiagnosticCategory code }

/-- The diagnostics that `add_error` files with the errors of a validation. -/
def GraphValidationResult.diagnostics (result : GraphValidationResult) : List GraphDiagnostic :=
  result.errors.map makeDiagnostic

/-! ## Renaming -/

/-- The component of an endpoint under a new name; the port stays. -/
def renameEndpoint (onComponent : String → String) (endpoint : String) : String :=
  if '.' ∈ endpoint.toList then
    endpointOf (onComponent (componentIdFromEndpoint endpoint)) (portNameFromEndpoint endpoint)
  else onComponent endpoint

section Rename

variable (onComponent onEdge : String → String)

def EdgeSpec.rename (edge : EdgeSpec) : EdgeSpec :=
  { edge with
    id := onEdge edge.id
    fromEndpoint := renameEndpoint onComponent edge.fromEndpoint
    toEndpoint := renameEndpoint onComponent edge.toEndpoint }

def ComponentNodeSpec.rename (component : ComponentNodeSpec) : ComponentNodeSpec :=
  { component with
    id := onComponent component.id
    dependsOn := component.dependsOn.map onComponent }

def CompositeLoopSpec.rename (loop : CompositeLoopSpec) : CompositeLoopSpec :=
  { loop with components := loop.components.map onComponent }

def GraphHierarchyEntry.rename (hierarchy : GraphHierarchyEntry) : GraphHierarchyEntry :=
  { hierarchy with
    components := hierarchy.components.map onComponent
    edges := hierarchy.edges.map onEdge }

/-- The graph with its components and edges under new names. -/
def GraphSpec.rename (graph : GraphSpec) : GraphSpec :=
  { graph with
    components := graph.components.map (ComponentNodeSpec.rename onComponent)
    edges := graph.edges.map (EdgeSpec.rename onComponent onEdge)
    compositeLoops := graph.compositeLoops.map (CompositeLoopSpec.rename onComponent)
    hierarchy := graph.hierarchy.map (GraphHierarchyEntry.rename onComponent onEdge) }

end Rename

/-! ## Violations -/

/-- A fault and the place where the validation looks at it. `earlier` are the edges,
or the loops, before the one at fault. -/
inductive Violation where
  | source (earlier : List EdgeSpec) (edge : EdgeSpec)
  | target (earlier : List EdgeSpec) (edge : EdgeSpec)
  | dependency (component : ComponentNodeSpec) (needed : String)
  | member (earlier : List CompositeLoopSpec) (loop : CompositeLoopSpec) (component : String)
  | outputPort (earlier : List EdgeSpec) (edge : EdgeSpec)
  | inputPort (earlier : List EdgeSpec) (edge : EdgeSpec)
  | unmatchedLoop (loop : CompositeLoopSpec)
  | triggerInput (component : ComponentNodeSpec) (input : String)

namespace Violation

/-- The graph has the fault. -/
def Of (registry : ComponentRegistry) (graph : GraphSpec) : Violation → Prop
  | source earlier edge => earlier ++ [edge] <+: graph.edges ∧ ¬ Declared graph edge.source
  | target earlier edge => earlier ++ [edge] <+: graph.edges ∧ ¬ Declared graph edge.target
  | dependency component needed =>
      component ∈ graph.components ∧ needed ∈ component.dependsOn ∧ ¬ Declared graph needed
  | member earlier loop component =>
      earlier ++ [loop] <+: graph.compositeLoops ∧ component ∈ loop.components ∧
        ¬ Declared graph component
  | outputPort earlier edge =>
      earlier ++ [edge] <+: graph.edges ∧ portNameFromEndpoint edge.fromEndpoint ≠ "" ∧
        ∃ descriptor, descriptorFor (descriptors (some registry) graph) edge.source =
            some descriptor ∧
          findPort descriptor.outputs (portNameFromEndpoint edge.fromEndpoint) = none
  | inputPort earlier edge =>
      earlier ++ [edge] <+: graph.edges ∧ portNameFromEndpoint edge.toEndpoint ≠ "" ∧
        ∃ descriptor, descriptorFor (descriptors (some registry) graph) edge.target =
            some descriptor ∧
          findPort descriptor.inputs (portNameFromEndpoint edge.toEndpoint) = none
  | unmatchedLoop loop =>
      loop ∈ graph.compositeLoops ∧
        ¬ (ImmediateScc graph loop.componentSet ∧ CyclicClass graph loop.componentSet)
  | triggerInput component input =>
      component ∈ graph.components ∧ input ∈ triggerPolicyInputsFor component ∧
        ∀ edge ∈ graph.edges, edge.toEndpoint ≠ endpointOf component.id input

/-- The codes that the fault may be given. -/
def codes : Violation → List DiagnosticCode
  | source .. | target .. | dependency .. | member .. => [.unknownComponent]
  | outputPort .. | inputPort .. => [.unknownPort]
  | unmatchedLoop .. => [.partialCompositeLoop, .decorativeCompositeLoop]
  | triggerInput .. => [.triggerMissingInput]

/-- The texts that report the fault. A loop without a cycle has two: one if it
matches no SCC at all, one if it matches an SCC that is not cyclic. -/
def texts : Violation → List String
  | source _ edge =>
      ["edge " ++ edge.id ++ " references missing source component " ++ edge.source]
  | target _ edge =>
      ["edge " ++ edge.id ++ " references missing target component " ++ edge.target]
  | dependency component needed =>
      ["component " ++ component.id ++ " depends_on missing component " ++ needed]
  | member _ loop component =>
      ["composite_loop " ++ loop.id ++ " references missing component " ++ component]
  | outputPort _ edge =>
      ["edge " ++ edge.id ++ " references missing output port " ++ edge.fromEndpoint]
  | inputPort _ edge =>
      ["edge " ++ edge.id ++ " references missing input port " ++ edge.toEndpoint]
  | unmatchedLoop loop =>
      ["composite_loop " ++ loop.id ++
          " must exactly match one immediate cyclic strongly connected component",
        "composite_loop " ++ loop.id ++
          " does not match an immediate cyclic strongly connected component"]
  | triggerInput component input =>
      ["component " ++ component.id ++ " trigger input has no incoming edge: " ++ input]

/-- What the ownership pass adds at one loop, after the loops before it. -/
def loopReports (graph : GraphSpec) (earlier : List CompositeLoopSpec)
    (loop : CompositeLoopSpec) : List String :=
  let s := earlier.foldl (claimLoop (componentIds graph)) {}
  (claimLoop (componentIds graph) { s with errors := [] } loop).errors

/-- What the validation adds where it looks at the fault. -/
def reports (registry : ComponentRegistry) (graph : GraphSpec) : Violation → List String
  | source earlier edge | target earlier edge | outputPort earlier edge
  | inputPort earlier edge =>
      edgeErrors (declaredIds graph) (descriptors (some registry) graph) earlier edge
  | dependency component _ => dependencyErrors graph component
  | member earlier loop _ =>
      if (declaredIds graph).Nodup then loopReports graph earlier loop else []
  | unmatchedLoop _ =>
      if (declaredIds graph).Nodup then
        (immediateSccs graph).flatMap (regionErrors graph) ++ unmatchedLoopErrors graph
      else []
  | triggerInput component _ => triggerInputErrors graph component

/-- The same fault in the renamed graph. -/
def rename (onComponent onEdge : String → String) : Violation → Violation
  | source earlier edge =>
      source (earlier.map (EdgeSpec.rename onComponent onEdge)) (edge.rename onComponent onEdge)
  | target earlier edge =>
      target (earlier.map (EdgeSpec.rename onComponent onEdge)) (edge.rename onComponent onEdge)
  | dependency component needed =>
      dependency (component.rename onComponent) (onComponent needed)
  | member earlier loop component =>
      member (earlier.map (CompositeLoopSpec.rename onComponent)) (loop.rename onComponent)
        (onComponent component)
  | outputPort earlier edge =>
      outputPort (earlier.map (EdgeSpec.rename onComponent onEdge))
        (edge.rename onComponent onEdge)
  | inputPort earlier edge =>
      inputPort (earlier.map (EdgeSpec.rename onComponent onEdge))
        (edge.rename onComponent onEdge)
  | unmatchedLoop loop => unmatchedLoop (loop.rename onComponent)
  | triggerInput component input => triggerInput (component.rename onComponent) input

/-- The validation returns with a diagnostic for the fault, which has this code, one of those
fixed for it. It also returns if the components and edges get other names, and the code of the
fault stays the same. -/
structure Classified (parseDouble : String → Option Double) (registry : ComponentRegistry)
    (graph : GraphSpec) (v : Violation) (code : DiagnosticCode) : Prop where
  fixed : code ∈ v.codes
  diagnosed : ∃ fuel result, validateGraph fuel parseDouble registry graph = some result ∧
    ∃ diagnostic ∈ result.diagnostics, diagnostic.message ∈ v.reports registry graph ∧
      diagnostic.message ∈ v.texts ∧ diagnostic.code = code
  nameless : ∀ onComponent onEdge : String → String, Injective onComponent → Injective onEdge →
    ∃ fuel result,
      validateGraph fuel parseDouble registry (graph.rename onComponent onEdge) = some result ∧
      ∀ diagnostic ∈ result.diagnostics,
        diagnostic.message ∈ (v.rename onComponent onEdge).texts → diagnostic.code = code

/-- A loop that owns no cycle is reported under its id, unless the id was taken up by a
loop that does own one. -/
def LoopReported (graph : GraphSpec) (loop : CompositeLoopSpec) : Prop :=
  loop.id ∉ matchedLoopIds graph ∨
    ∃ scc ∈ immediateSccs graph, isCyclic graph scc = false ∧
      (matchingLoop graph scc).map CompositeLoopSpec.id = some loop.id

/-- The faults that are filed rightly: the members of a loop, where the loops are looked at,
and a loop whose own id has a phrase that is looked for. -/
def Spelled (graph : GraphSpec) : Violation → Prop
  | member _ loop _ => loop.id ≠ "" ∧ (declaredIds graph).Nodup
  | unmatchedLoop loop =>
      (declaredIds graph).Nodup ∧ LoopReported graph loop ∧
        diagnosticCodeFor loop.id ∈ [.partialCompositeLoop, .decorativeCompositeLoop]
  | _ => False

end Violation

/-! ## Which rule applies -/

/-- A code that no rule gives, other than the last resort, is never given. -/
theorem codeBy_ne {rules : List CodeRule} {code : DiagnosticCode}
    (hrules : ∀ rule ∈ rules, rule.code ≠ code) (hcode : code ≠ .graphValidationError)
    (error : String) : codeBy rules error ≠ code := by
  induction rules with
  | nil => exact hcode.symm
  | cons rule rules ih =>
      unfold codeBy
      split_ifs
      · exact hrules rule (List.mem_cons_self ..)
      · exact ih fun rule' hrule' => hrules rule' (List.mem_cons_of_mem _ hrule')

/-- The first rule has its code to itself. -/
theorem diagnosticCodeFor_unknownComponent (error : String) :
    diagnosticCodeFor error = .unknownComponent ↔ unknownComponentRule.applies error := by
  unfold diagnosticCodeFor codeRules codeBy
  split_ifs with happlies
  · exact iff_of_true rfl happlies
  · have hothers : ∀ rule ∈ structureRules ++ compositeLoopRules ++ policyRules,
        rule.code ≠ .unknownComponent := by decide
    exact iff_of_false (codeBy_ne hothers (by decide) error) happlies

/-- A rule applies when the text contains all phrases of one of its lists. -/
theorem CodeRule.applies_iff (rule : CodeRule) (error : String) :
    rule.applies error ↔
      ∃ phrases ∈ rule.phrases, ∀ phrase ∈ phrases, phrase.toList <:+: error.toList := by
  simp [CodeRule.applies, mentions]

/-- A rule that applies to a piece of a text applies to the text. -/
theorem CodeRule.applies_of_piece {rule : CodeRule} {piece : String}
    (h : rule.applies piece) (before after : String) :
    rule.applies (before ++ piece ++ after) := by
  rw [CodeRule.applies_iff] at h ⊢
  obtain ⟨phrases, hphrases, hall⟩ := h
  refine ⟨phrases, hphrases, fun phrase hphrase => ?_⟩
  rw [String.toList_append, String.toList_append]
  exact List.infix_append_of_infix_left (List.infix_append_of_infix_right (hall phrase hphrase))

/-! ## Names that decide a code -/

/-- The name with a phrase of the first rule in front. -/
def markedName (name : String) : String := "unknown component" ++ name

theorem markedName_injective : Injective markedName := by
  intro name name' h
  have hlist : ("unknown component" ++ name).toList = ("unknown component" ++ name').toList :=
    congrArg String.toList h
  rw [String.toList_append, String.toList_append] at hlist
  exact String.toList_injective (List.append_cancel_left hlist)

/-- A marked name makes every text one about an unknown component. -/
theorem diagnosticCodeFor_marked (before name after : String) :
    diagnosticCodeFor (before ++ markedName name ++ after) = .unknownComponent := by
  have hname : unknownComponentRule.applies (markedName name) := by
    have hphrase : unknownComponentRule.applies "unknown component" := by decide
    have hpiece := CodeRule.applies_of_piece hphrase "" name
    rwa [String.empty_append] at hpiece
  exact (diagnosticCodeFor_unknownComponent _).mpr (CodeRule.applies_of_piece hname before after)

/-- A number for each name. -/
def nameNumber (name : String) : Nat := Encodable.encode (name.toList.map Char.toNat)

theorem nameNumber_injective : Injective nameNumber := by
  intro name name' h
  have hlist := Encodable.encode_injective h
  have hchar : Injective Char.toNat := fun c d hcd => Char.toNat_inj.mp hcd
  exact String.toList_injective (List.map_injective_iff.mpr hchar hlist)

/-- A name in a letter that no phrase has. -/
def blankName (name : String) : String :=
  String.ofList (List.replicate (nameNumber name + 1) '#')

theorem blankName_injective : Injective blankName := by
  intro name name' h
  have hlength := congrArg (fun text => text.toList.length) h
  simp only [blankName, String.toList_ofList, List.length_replicate] at hlength
  exact nameNumber_injective (Nat.succ_injective hlength)

/-- A blank name is made of one character. -/
theorem mem_blankName {name : String} {c : Char} (h : c ∈ (blankName name).toList) : c = '#' := by
  rw [blankName, String.toList_ofList] at h
  exact List.eq_of_mem_replicate h

theorem blankName_ne_empty (name : String) : blankName name ≠ "" := by
  intro hempty
  have hlength := congrArg (fun text => text.toList.length) hempty
  simp [blankName] at hlength

theorem markedName_ne_empty (name : String) : markedName name ≠ "" := by
  intro hempty
  have hlength := congrArg (fun text => text.toList.length) hempty
  simp [markedName] at hlength

/-- Around a blank name the first rule looks at the two sides only. -/
theorem unknownComponentRule_blank (before name after : String) :
    unknownComponentRule.applies (before ++ blankName name ++ after) ↔
      unknownComponentRule.applies before ∨ unknownComponentRule.applies after := by
  have hrule : ∀ phrases ∈ unknownComponentRule.phrases,
      phrases.length = 1 ∧ ∀ phrase ∈ phrases, '#' ∉ phrase.toList := by decide
  simp only [CodeRule.applies_iff]
  have hsplit : ∀ phrases ∈ unknownComponentRule.phrases,
      ((∀ phrase ∈ phrases, phrase.toList <:+: (before ++ blankName name ++ after).toList) ↔
        (∀ phrase ∈ phrases, phrase.toList <:+: before.toList) ∨
          ∀ phrase ∈ phrases, phrase.toList <:+: after.toList) := by
    intro phrases hphrases
    obtain ⟨hone, hclean⟩ := hrule phrases hphrases
    obtain ⟨phrase, rfl⟩ := List.length_eq_one_iff.mp hone
    simp only [List.mem_singleton, forall_eq, String.toList_append, blankName,
      String.toList_ofList] at hclean ⊢
    exact Text.infix_replicate_iff hclean _
  constructor
  · rintro ⟨phrases, hphrases, hall⟩
    rcases (hsplit phrases hphrases).mp hall with hbefore | hafter
    · exact Or.inl ⟨phrases, hphrases, hbefore⟩
    · exact Or.inr ⟨phrases, hphrases, hafter⟩
  · rintro (⟨phrases, hphrases, hall⟩ | ⟨phrases, hphrases, hall⟩)
    · exact ⟨phrases, hphrases, (hsplit phrases hphrases).mpr (Or.inl hall)⟩
    · exact ⟨phrases, hphrases, (hsplit phrases hphrases).mpr (Or.inr hall)⟩

/-- The code of a text does not depend on a name in it exactly if the text around the
name has a phrase of the first rule. -/
theorem code_ignores_name_iff (before after : String) :
    (∀ name name', diagnosticCodeFor (before ++ name ++ after) =
        diagnosticCodeFor (before ++ name' ++ after)) ↔
      unknownComponentRule.applies before ∨ unknownComponentRule.applies after := by
  constructor
  · intro hsame
    have hblank : diagnosticCodeFor (before ++ blankName "" ++ after) = .unknownComponent :=
      (hsame (blankName "") (markedName "")).trans (diagnosticCodeFor_marked before "" after)
    exact (unknownComponentRule_blank before "" after).mp
      ((diagnosticCodeFor_unknownComponent _).mp hblank)
  · intro happlies
    have hcode : ∀ name, diagnosticCodeFor (before ++ name ++ after) = .unknownComponent := by
      intro name
      rw [diagnosticCodeFor_unknownComponent]
      rcases happlies with hbefore | hafter
      · have hpiece := CodeRule.applies_of_piece hbefore "" (name ++ after)
        rwa [String.empty_append, ← String.append_assoc] at hpiece
      · have hpiece := CodeRule.applies_of_piece hafter (before ++ name) ""
        rwa [String.append_empty] at hpiece
    intro name name'
    rw [hcode, hcode]

/-! ## Texts with two names -/

/-- The marked name decides, wherever it stands. -/
theorem code_marked_first (start name middle last : String) :
    diagnosticCodeFor (start ++ markedName name ++ middle ++ last) = .unknownComponent := by
  have hassoc : start ++ markedName name ++ middle ++ last =
      start ++ markedName name ++ (middle ++ last) := String.append_assoc
  rw [hassoc]
  exact diagnosticCodeFor_marked start name (middle ++ last)

/-- A blank name has no phrase in it and completes none. -/
theorem code_blank_names {start middle : String} (hstart : ¬ unknownComponentRule.applies start)
    (hmiddle : ¬ unknownComponentRule.applies middle) (name last : String) :
    diagnosticCodeFor (start ++ blankName name ++ middle ++ blankName last) ≠
      .unknownComponent := by
  intro hcode
  have happlies := (diagnosticCodeFor_unknownComponent _).mp hcode
  have hlast := unknownComponentRule_blank (start ++ blankName name ++ middle) last ""
  rw [String.append_empty] at hlast
  rcases hlast.mp happlies with hbefore | hempty
  · rcases (unknownComponentRule_blank start name middle).mp hbefore with h | h
    · exact hstart h
    · exact hmiddle h
  · exact absurd hempty (by decide)

/-! ## Renamed graphs -/

/-- A renaming of the components under which every endpoint still parses. -/
structure PlainNaming (onComponent : String → String) : Prop where
  injective : Injective onComponent
  no_dot : ∀ name, '.' ∉ (onComponent name).toList

/-- Renaming to blank names keeps the graph's shape. -/
theorem plainNaming_blank : PlainNaming blankName := by
  refine ⟨blankName_injective, fun name hdot => ?_⟩
  exact absurd (mem_blankName hdot) (by decide)

/-- So does renaming to marked ones. -/
theorem plainNaming_marked : PlainNaming fun name => markedName (blankName name) := by
  refine ⟨fun _ _ h => blankName_injective (markedName_injective h), fun name hdot => ?_⟩
  rw [markedName, String.toList_append] at hdot
  rcases List.mem_append.mp hdot with hmark | hblank
  · exact absurd hmark (by decide)
  · exact absurd (mem_blankName hblank) (by decide)

/-- The endpoint of the renamed component. -/
theorem PlainNaming.component {onComponent : String → String} (h : PlainNaming onComponent)
    (endpoint : String) :
    componentIdFromEndpoint (renameEndpoint onComponent endpoint) =
      onComponent (componentIdFromEndpoint endpoint) := by
  unfold renameEndpoint
  split_ifs with hdot
  · exact componentIdFromEndpoint_endpointOf (portNameFromEndpoint_no_dot endpoint)
  · rw [componentIdFromEndpoint_of_no_dot (h.no_dot endpoint),
      componentIdFromEndpoint_of_no_dot hdot]

/-- An endpoint under new names belongs to a port only if it did before. -/
theorem PlainNaming.endpoint {onComponent : String → String} (h : PlainNaming onComponent)
    {endpoint component port : String}
    (hrenamed : renameEndpoint onComponent endpoint = endpointOf (onComponent component) port) :
    endpoint = endpointOf component port := by
  have hsame := h.component endpoint
  unfold renameEndpoint at hrenamed
  split_ifs at hrenamed with hdot
  · have hlists := congrArg String.toList hrenamed
    simp only [endpointOf, String.toList_append, List.append_assoc] at hlists
    -- the new names have no dots, so both texts split at the first one
    have hfirst : ∀ {name tail name' tail' : List Char}, '.' ∉ name → '.' ∉ name' →
        name ++ '.' :: tail = name' ++ '.' :: tail' → name = name' ∧ tail = tail' := by
      intro name tail name' tail' hname hname' heq
      have htake := congrArg (List.takeWhile (· ≠ '.')) heq
      rw [takeWhile_ne_append hname, takeWhile_ne_append hname'] at htake
      subst htake
      simpa using heq
    obtain ⟨hcomponent, hport⟩ :=
      hfirst (h.no_dot _) (h.no_dot _) (by simpa using hlists)
    have hcomponent := h.injective (String.toList_injective hcomponent)
    have hport := String.toList_injective hport
    rw [← endpointOf_parsed hdot, hcomponent, hport]
  · have hmem : '.' ∈ (onComponent endpoint).toList := by
      rw [hrenamed]
      simp [endpointOf]
    exact absurd hmem (h.no_dot endpoint)

/-- An injective renaming declares the images of what was declared. -/
theorem declared_rename_iff {onComponent onEdge : String → String}
    (h : Injective onComponent) {graph : GraphSpec} {component : String} :
    Declared (graph.rename onComponent onEdge) (onComponent component) ↔
      Declared graph component := by
  simp only [Declared, GraphSpec.rename, List.map_map, List.mem_map, Function.comp_apply,
    ComponentNodeSpec.rename]
  exact exists_congr fun other => and_congr_right fun _ => h.eq_iff

/-- Renaming no component leaves the endpoints alone. -/
theorem renameEndpoint_id (endpoint : String) : renameEndpoint id endpoint = endpoint := by
  unfold renameEndpoint
  split_ifs with hdot
  · exact endpointOf_parsed hdot
  · rfl

/-- Renaming edges alone leaves the endpoints. -/
@[simp]
theorem fromEndpoint_rename_id (edge : EdgeSpec) (onEdge : String → String) :
    (edge.rename id onEdge).fromEndpoint = edge.fromEndpoint :=
  renameEndpoint_id edge.fromEndpoint

@[simp]
theorem toEndpoint_rename_id (edge : EdgeSpec) (onEdge : String → String) :
    (edge.rename id onEdge).toEndpoint = edge.toEndpoint :=
  renameEndpoint_id edge.toEndpoint

theorem componentRename_id (component : ComponentNodeSpec) : component.rename id = component := by
  simp [ComponentNodeSpec.rename]

/-- The descriptors are those of the components. -/
theorem descriptors_rename_edges (registry : Option ComponentRegistry) (graph : GraphSpec)
    (onEdge : String → String) :
    descriptors registry (graph.rename id onEdge) = descriptors registry graph := by
  have hrename : ComponentNodeSpec.rename id = id := funext componentRename_id
  have hcomponents : (graph.rename id onEdge).components = graph.components := by
    rw [GraphSpec.rename, hrename, List.map_id]
  unfold descriptors
  rw [hcomponents]

/-! ## When a validation returns -/

/-- The regions can be ordered, or are not looked at since an id is declared twice. -/
def ValidationEnds (graph : GraphSpec) : Prop :=
  (declaredIds graph).Nodup → RegionsOrderable graph

/-- This is the condition under which the validation returns. -/
theorem validateGraph_returns_iff {parseDouble : String → Option Double}
    {registry : ComponentRegistry} {graph : GraphSpec} :
    (∃ fuel result, validateGraph fuel parseDouble registry graph = some result) ↔
      ValidationEnds graph := by
  constructor
  · rintro ⟨fuel, result, hrun⟩ hnodup
    simp only [validateGraph, validateGraphImpl, Option.bind_eq_bind, Option.bind_eq_some_iff,
      Option.pure_def, Option.some.injEq] at hrun
    obtain ⟨_, _, compile, hcompile, _⟩ := hrun
    rw [compileForValidation, if_pos hnodup] at hcompile
    simp only [compileGraphImpl, Option.bind_eq_bind, Option.bind_eq_some_iff] at hcompile
    obtain ⟨order, horder, _⟩ := hcompile
    exact regionOrder_terminates_iff.mp ⟨fuel, order, horder⟩
  · intro horderable
    obtain ⟨lifecycle, hlifecycle, -⟩ := lifecycle_ordered graph
    -- enough fuel for the order of the components and for that of the regions
    by_cases hnodup : (declaredIds graph).Nodup
    · obtain ⟨fuel, order, horder⟩ := regionOrder_terminates_iff.mpr (horderable hnodup)
      have hmore : regionOrder (max graph.components.length fuel) graph = some order :=
        Kahn.loop_mono (le_max_right ..) horder
      refine ⟨max graph.components.length fuel, Option.isSome_iff_exists.mp ?_⟩
      rw [validateGraph, validateGraphImpl, computeComponentLifecycleOrder,
        hlifecycle _ (le_max_left ..), compileForValidation, if_pos hnodup, compileGraphImpl, hmore]
      rfl
    · refine ⟨graph.components.length, Option.isSome_iff_exists.mp ?_⟩
      rw [validateGraph, validateGraphImpl, computeComponentLifecycleOrder,
        hlifecycle _ le_rfl, compileForValidation, if_neg hnodup]
      rfl

/-- The validation returns, whatever the components and edges are called. -/
def EndsUnderNames (graph : GraphSpec) : Prop :=
  ValidationEnds graph ∧ ∀ onComponent onEdge : String → String, Injective onComponent →
    Injective onEdge → ValidationEnds (graph.rename onComponent onEdge)

/-- A graph without immediate edges is such a graph. -/
theorem EndsUnderNames.of_no_immediate {graph : GraphSpec}
    (h : ∀ edge ∈ graph.edges, edge.isImmediate = false) : EndsUnderNames graph := by
  have hends : ∀ other : GraphSpec, (∀ edge ∈ other.edges, edge.isImmediate = false) →
      ValidationEnds other := by
    intro other hother _
    apply RegionsOrderable.of_no_links
    refine List.filterMap_eq_nil_iff.mpr fun edge hedge => ?_
    rw [regionEdgeOf, if_neg (by simp [hother edge hedge])]
  refine ⟨hends graph h, fun onComponent onEdge _ _ => hends _ ?_⟩
  intro edge hedge
  obtain ⟨original, horiginal, rfl⟩ := List.mem_map.mp hedge
  exact h original horiginal

/-- The errors of an edge, of the dependencies and of the trigger inputs of a component are
errors of the validation. -/
theorem mem_errors_of_mem_pass {fuel : Nat} {parseDouble : String → Option Double}
    {registry : ComponentRegistry} {graph : GraphSpec} {result : GraphValidationResult}
    (hrun : validateGraph fuel parseDouble registry graph = some result) {error : String}
    (herror : (∃ earlier edge, earlier ++ [edge] <+: graph.edges ∧
        error ∈ edgeErrors (declaredIds graph) (descriptors (some registry) graph) earlier edge) ∨
      (∃ component ∈ graph.components, error ∈ dependencyErrors graph component) ∨
      ∃ component ∈ graph.components, error ∈ triggerInputErrors graph component) :
    error ∈ result.errors := by
  simp only [validateGraph, validateGraphImpl, Option.bind_eq_bind, Option.bind_eq_some_iff,
    Option.pure_def, Option.some.injEq] at hrun
  obtain ⟨lifecycle, hlifecycle, compile, -, rfl⟩ := hrun
  unfold validationErrors
  simp only [List.mem_append]
  rcases herror with ⟨earlier, edge, ⟨later, hedges⟩, herror⟩ | ⟨component, hmem, herror⟩ |
    ⟨component, hmem, herror⟩
  · have hreport : error ∈ Loop.report
        (edgeErrors (declaredIds graph) (descriptors (some registry) graph)) [] graph.edges := by
      rw [← hedges, List.append_assoc, List.singleton_append]
      exact Loop.mem_report (by simpa using herror)
    simp only [hreport, true_or, or_true]
  · simp only [computeComponentLifecycleOrder, Option.bind_eq_bind, Option.bind_eq_some_iff,
      Option.pure_def, Option.some.injEq] at hlifecycle
    obtain ⟨order, -, rfl⟩ := hlifecycle
    have hlisted : error ∈ graph.components.flatMap (dependencyErrors graph) :=
      List.mem_flatMap.mpr ⟨component, hmem, herror⟩
    simp only [List.mem_append, hlisted, true_or, or_true]
  · have hlisted : error ∈ graph.components.flatMap (triggerInputErrors graph) :=
      List.mem_flatMap.mpr ⟨component, hmem, herror⟩
    simp only [hlisted, true_or, or_true]

namespace Violation

variable {registry : ComponentRegistry} {graph : GraphSpec} {result : GraphValidationResult}
  {v : Violation}

/-- A diagnostic has the code of its message. -/
theorem code_of_mem_diagnostics {diagnostic : GraphDiagnostic}
    (h : diagnostic ∈ result.diagnostics) :
    diagnostic.message ∈ result.errors ∧
      diagnostic.code = diagnosticCodeFor diagnostic.message := by
  obtain ⟨error, herror, rfl⟩ := List.mem_map.mp h
  exact ⟨herror, rfl⟩

end Violation

/-! ## The ownership pass -/

section Ownership

variable {known : List String} {loop : CompositeLoopSpec}

/-- The state of the pass with more errors before its own. -/
def OwnershipState.after (s : OwnershipState) (errors : List String) : OwnershipState :=
  { s with errors := errors ++ s.errors }

/-- What a claim adds does not depend on the errors before it. -/
theorem claimComponent_after (errors : List String) (s : OwnershipState) (seen : List String)
    (component : String) :
    claimComponent known loop (s.after errors, seen) component =
      ((claimComponent known loop (s, seen) component).1.after errors,
        (claimComponent known loop (s, seen) component).2) := by
  unfold claimComponent OwnershipState.after
  dsimp only
  by_cases hknown : component ∈ known
  · cases s.loopsByComponent component with
    | none => simp [hknown]
    | some owner => by_cases howner : owner = loop.id <;> simp [hknown, howner]
  · simp [hknown]

/-- What was reported before only stands in front. -/
theorem claimComponents_after (errors components : List String) (s : OwnershipState)
    (seen : List String) :
    components.foldl (claimComponent known loop) (s.after errors, seen) =
      ((components.foldl (claimComponent known loop) (s, seen)).1.after errors,
        (components.foldl (claimComponent known loop) (s, seen)).2) := by
  induction components generalizing s seen with
  | nil => rfl
  | cons component components ih =>
      rw [List.foldl_cons, List.foldl_cons, claimComponent_after]
      exact ih _ _

/-- A loop reports the same, whatever was reported before it. -/
theorem claimLoop_after (errors : List String) (s : OwnershipState) :
    claimLoop known (s.after errors) loop = (claimLoop known s loop).after errors := by
  unfold claimLoop
  by_cases hid : loop.id = ""
  · simp [hid, OwnershipState.after]
  · rw [if_neg hid, if_neg hid]
    have hcomponents : ∀ t : OwnershipState,
        (loop.components.foldl (claimComponent known loop) (t.after errors, [])).1 =
          (loop.components.foldl (claimComponent known loop) (t, [])).1.after errors := by
      intro t
      rw [claimComponents_after]
    dsimp only
    rw [← hcomponents]
    by_cases hdup : loop.id ∈ s.loopIds <;> simp [OwnershipState.after, hdup]

/-- The errors of a pass stay in the pass. -/
theorem claimLoops_keep_errors (loops : List CompositeLoopSpec) (s : OwnershipState) :
    s.errors <+: (loops.foldl (claimLoop known) s).errors := by
  induction loops generalizing s with
  | nil => exact List.prefix_rfl
  | cons loop loops ih =>
      have hstep : s.errors <+: (claimLoop known s loop).errors := by
        have hafter : s = ({ s with errors := [] } : OwnershipState).after s.errors := by
          simp [OwnershipState.after]
        have hloop : (claimLoop known s loop).errors =
            s.errors ++ (claimLoop known { s with errors := [] } loop).errors := by
          rw [hafter, claimLoop_after]
          simp [OwnershipState.after]
        rw [hloop]
        exact List.prefix_append _ _
      exact hstep.trans (ih (claimLoop known s loop))

/-- A member that is not declared is reported. -/
theorem missing_member_reported {components : List String} {component : String}
    (hmem : component ∈ components) (hknown : component ∉ known) (s : OwnershipState)
    (seen : List String) :
    "composite_loop " ++ loop.id ++ " references missing component " ++ component ∈
      (components.foldl (claimComponent known loop) (s, seen)).1.errors := by
  obtain ⟨before, rest, rfl⟩ := List.append_of_mem hmem
  rw [List.foldl_append, List.foldl_cons]
  -- the text is the last error of its step, and the other members only add to it
  generalize before.foldl (claimComponent known loop) (s, seen) = t
  have hstep : "composite_loop " ++ loop.id ++ " references missing component " ++ component ∈
      (claimComponent known loop t component).1.errors := by
    unfold claimComponent
    simp [hknown]
  generalize claimComponent known loop t component = u at hstep
  have hafter : u = (({ u.1 with errors := [] } : OwnershipState).after u.1.errors, u.2) := by
    simp [OwnershipState.after]
  rw [hafter, claimComponents_after]
  exact List.mem_append_left _ hstep

end Ownership

theorem declared_of_mem_componentIds {graph : GraphSpec} {component : String}
    (h : component ∈ componentIds graph) : Declared graph component := by
  have hfold : ∀ (components : List ComponentNodeSpec) (ids : List String),
      component ∈ components.foldl
        (fun ids component =>
          if component.id ≠ "" ∧ component.id ∉ ids then ids ++ [component.id] else ids) ids →
      component ∈ ids ∨ component ∈ components.map ComponentNodeSpec.id := by
    intro components
    induction components with
    | nil => exact fun ids hmem => Or.inl hmem
    | cons node components ih =>
        intro ids hmem
        rw [List.foldl_cons] at hmem
        rcases ih _ hmem with hids | hrest
        · split_ifs at hids
          · rcases List.mem_append.mp hids with hids | hnode
            · exact Or.inl hids
            · rw [List.mem_singleton.mp hnode]
              exact Or.inr (List.mem_cons_self ..)
          · exact Or.inl hids
        · exact Or.inr (List.mem_cons_of_mem _ hrest)
  rcases hfold graph.components [] h with hnil | hmem
  · exact absurd hnil (by simp)
  · exact hmem

/-- The errors of the compilation are errors of the validation. -/
theorem mem_errors_of_mem_passErrors {fuel : Nat} {parseDouble : String → Option Double}
    {registry : ComponentRegistry} {graph : GraphSpec} {result : GraphValidationResult}
    (hrun : validateGraph fuel parseDouble registry graph = some result)
    (hnodup : (declaredIds graph).Nodup) {error : String} (herror : error ∈ passErrors graph) :
    error ∈ result.errors := by
  simp only [validateGraph, validateGraphImpl, Option.bind_eq_bind, Option.bind_eq_some_iff,
    Option.pure_def, Option.some.injEq] at hrun
  obtain ⟨lifecycle, _, compile, hcompile, rfl⟩ := hrun
  rw [compileForValidation, if_pos hnodup] at hcompile
  simp only [compileGraphImpl, Option.bind_eq_bind, Option.bind_eq_some_iff, Option.pure_def,
    Option.some.injEq] at hcompile
  obtain ⟨order, _, rfl⟩ := hcompile
  exact List.mem_append_right _ (List.mem_append_left _ herror)

namespace Violation

variable {registry : ComponentRegistry} {graph : GraphSpec} {result : GraphValidationResult}

/-- What one loop reports is among the errors of all. -/
theorem mem_ownershipErrors_of_mem_loopReports {earlier : List CompositeLoopSpec}
    {loop : CompositeLoopSpec} (hloop : earlier ++ [loop] <+: graph.compositeLoops)
    {error : String} (herror : error ∈ loopReports graph earlier loop) :
    error ∈ ownershipErrors graph := by
  obtain ⟨later, hlater⟩ := hloop
  unfold ownershipErrors
  rw [← hlater, List.foldl_append, List.foldl_append, List.foldl_cons, List.foldl_nil]
  apply (claimLoops_keep_errors later _).subset
  unfold loopReports at herror
  dsimp only at herror
  generalize earlier.foldl (claimLoop (componentIds graph)) {} = s at herror ⊢
  have hafter : s = ({ s with errors := [] } : OwnershipState).after s.errors := by
    simp [OwnershipState.after]
  rw [hafter, claimLoop_after]
  exact List.mem_append_right _ herror

/-! ## Loops that own no cycle -/

/-- The id of a loop can be read off an error about it. -/
theorem composite_loop_text_injective {text : String} {id id' : String}
    (h : "composite_loop " ++ id ++ text = "composite_loop " ++ id' ++ text) : id = id' := by
  have hlist := congrArg String.toList h
  simp only [String.toList_append, List.append_assoc] at hlist
  exact String.toList_injective (List.append_cancel_right (List.append_cancel_left hlist))

/-- The two texts for such a loop differ before their common end. -/
theorem composite_loop_texts_ne (id id' : String) :
    "composite_loop " ++ id ++
        " must exactly match one immediate cyclic strongly connected component" ≠
      "composite_loop " ++ id' ++
        " does not match an immediate cyclic strongly connected component" := by
  intro h
  have hlist := congrArg String.toList h
  rw [String.toList_append, String.toList_append] at hlist
  have hleft : " must exactly match one immediate cyclic strongly connected component".toList <:+
      ("composite_loop " ++ id' ++
        " does not match an immediate cyclic strongly connected component").toList :=
    ⟨_, hlist⟩
  rw [String.toList_append] at hleft
  rcases List.suffix_or_suffix_of_suffix hleft (List.suffix_append _ _) with hends | hends
  · exact absurd hends (by decide)
  · exact absurd hends (by decide)

/-- A text that gets a code which only the first rules have shares it with every text on which
these rules agree. -/
theorem codeBy_eq_of_mem {rules rest : List CodeRule} {codes : List DiagnosticCode}
    {error error' : String} (hrules : ∀ rule ∈ rules, rule.applies error = rule.applies error')
    (hrest : ∀ code ∈ codes, (∀ rule ∈ rest, rule.code ≠ code) ∧ code ≠ .graphValidationError)
    (hmem : codeBy (rules ++ rest) error ∈ codes) :
    codeBy (rules ++ rest) error' = codeBy (rules ++ rest) error := by
  induction rules with
  | nil => exact absurd rfl (codeBy_ne (hrest _ hmem).1 (hrest _ hmem).2 error)
  | cons rule rules ih =>
      have hrule := hrules rule (List.mem_cons_self ..)
      rw [List.cons_append, codeBy, hrule] at hmem
      rw [List.cons_append, codeBy, codeBy, hrule]
      split_ifs at hmem ⊢ with happlies
      · rfl
      · exact ih (fun rule' hrule' => hrules rule' (List.mem_cons_of_mem _ hrule')) hmem

/-- A rule whose phrases neither lie around a piece nor over its seams looks at the piece. -/
theorem applies_between {rule : CodeRule} {before after : String}
    (h : ∀ phrases ∈ rule.phrases, ∀ phrase ∈ phrases,
      Text.ClearOf phrase.toList before.toList after.toList) (piece : String) :
    rule.applies (before ++ piece ++ after) = rule.applies piece := by
  rw [Bool.eq_iff_iff, CodeRule.applies_iff, CodeRule.applies_iff]
  have hphrase : ∀ phrases ∈ rule.phrases, ∀ phrase ∈ phrases,
      (phrase.toList <:+: (before ++ piece ++ after).toList ↔ phrase.toList <:+: piece.toList) := by
    intro phrases hphrases phrase hmem
    rw [String.toList_append, String.toList_append]
    exact Text.infix_between_iff (h phrases hphrases phrase hmem)
  constructor
  · rintro ⟨phrases, hphrases, hall⟩
    exact ⟨phrases, hphrases, fun phrase hmem =>
      (hphrase phrases hphrases phrase hmem).mp (hall phrase hmem)⟩
  · rintro ⟨phrases, hphrases, hall⟩
    exact ⟨phrases, hphrases, fun phrase hmem =>
      (hphrase phrases hphrases phrase hmem).mpr (hall phrase hmem)⟩

/-- The rules up to those for composite loops. -/
def loopRules : List CodeRule := unknownComponentRule :: (structureRules ++ compositeLoopRules)

/-- A text about a loop and the id of the loop get the same loop code, or neither gets one. -/
theorem loop_code {after : String}
    (h : ∀ rule ∈ loopRules, ∀ phrases ∈ rule.phrases, ∀ phrase ∈ phrases,
      Text.ClearOf phrase.toList "composite_loop ".toList after.toList) {id : String}
    (hcode : diagnosticCodeFor ("composite_loop " ++ id ++ after) ∈
        [.partialCompositeLoop, .decorativeCompositeLoop] ∨
      diagnosticCodeFor id ∈ [.partialCompositeLoop, .decorativeCompositeLoop]) :
    diagnosticCodeFor ("composite_loop " ++ id ++ after) = diagnosticCodeFor id := by
  have hsplit : codeRules = loopRules ++ policyRules := rfl
  have hrules : ∀ rule ∈ loopRules,
      rule.applies ("composite_loop " ++ id ++ after) = rule.applies id :=
    fun rule hrule => applies_between (h rule hrule) id
  unfold diagnosticCodeFor at hcode ⊢
  rw [hsplit] at hcode ⊢
  rcases hcode with htext | hid
  · exact (codeBy_eq_of_mem hrules (by decide) htext).symm
  · exact codeBy_eq_of_mem (fun rule hrule => (hrules rule hrule).symm) (by decide) hid

/-- No rule about loops has a phrase across the end of the text in front of an id. -/
theorem must_match_clear : ∀ rule ∈ loopRules, ∀ phrases ∈ rule.phrases, ∀ phrase ∈ phrases,
    Text.ClearOf phrase.toList "composite_loop ".toList
      " must exactly match one immediate cyclic strongly connected component".toList := by
  decide +kernel

theorem does_not_match_clear : ∀ rule ∈ loopRules, ∀ phrases ∈ rule.phrases, ∀ phrase ∈ phrases,
    Text.ClearOf phrase.toList "composite_loop ".toList
      " does not match an immediate cyclic strongly connected component".toList := by
  decide +kernel

/-- Which of the two texts is reported for a loop. -/
theorem loop_text_reported {loop : CompositeLoopSpec} {text : String}
    (htext : text ∈ (unmatchedLoop loop).texts)
    (hreport : text ∈ (immediateSccs graph).flatMap (regionErrors graph) ++
      unmatchedLoopErrors graph) : LoopReported graph loop := by
  simp only [texts, List.mem_cons, List.not_mem_nil, or_false] at htext
  rcases List.mem_append.mp hreport with hregion | hunmatched
  · obtain ⟨scc, hscc, herror⟩ := List.mem_flatMap.mp hregion
    right
    refine ⟨scc, hscc, ?_⟩
    unfold regionErrors at herror
    cases hmatch : matchingLoop graph scc with
    | none =>
        -- the text about a cycle without a loop starts differently
        rw [hmatch] at herror
        dsimp only at herror
        split_ifs at herror
        · rw [List.mem_singleton] at herror
          have hstart : text.toList[0]? = some 'i' := by
            rw [herror]
            simp
          rcases htext with rfl | rfl
          · simp at hstart
          · simp at hstart
        · simp at herror
    | some owner =>
        rw [hmatch] at herror
        dsimp only at herror
        split_ifs at herror with hcyclic
        · simp at herror
        · rw [List.mem_singleton] at herror
          rcases htext with rfl | rfl
          · exact absurd herror (composite_loop_texts_ne _ _)
          · have hid := composite_loop_text_injective herror
            exact ⟨by simpa using hcyclic, by simp [hid]⟩
  · obtain ⟨other, hother, herror⟩ := List.mem_map.mp hunmatched
    left
    rcases htext with rfl | rfl
    · rw [← composite_loop_text_injective herror]
      simpa using (List.mem_filter.mp hother).2
    · exact absurd herror (composite_loop_texts_ne _ _)

/-- A loop without its cycle is reported, in one of two texts. -/
theorem loop_reported {loop : CompositeLoopSpec} (hmem : loop ∈ graph.compositeLoops)
    (h : LoopReported graph loop) :
    ∃ text ∈ (unmatchedLoop loop).texts,
      text ∈ (immediateSccs graph).flatMap (regionErrors graph) ++ unmatchedLoopErrors graph := by
  rcases h with hunmatched | ⟨scc, hscc, hcyclic, hid⟩
  · refine ⟨_, List.mem_cons_self .., List.mem_append_right _ ?_⟩
    apply List.mem_map.mpr
    exact ⟨loop, List.mem_filter.mpr ⟨hmem, by simpa using hunmatched⟩, rfl⟩
  · obtain ⟨owner, howner, hsame⟩ := Option.map_eq_some_iff.mp hid
    refine ⟨_, List.mem_cons_of_mem _ (List.mem_cons_self ..), List.mem_append_left _ ?_⟩
    apply List.mem_flatMap.mpr
    refine ⟨scc, hscc, ?_⟩
    unfold regionErrors
    rw [howner]
    simp [hcyclic, hsame]

/-- Every text for a loop gets the loop code of the id, if one of the two is a loop code. -/
theorem unmatchedLoop_code {loop : CompositeLoopSpec} {text : String}
    (htext : text ∈ (unmatchedLoop loop).texts)
    (hcode : diagnosticCodeFor text ∈ [.partialCompositeLoop, .decorativeCompositeLoop] ∨
      diagnosticCodeFor loop.id ∈ [.partialCompositeLoop, .decorativeCompositeLoop]) :
    diagnosticCodeFor text = diagnosticCodeFor loop.id := by
  simp only [texts, List.mem_cons, List.not_mem_nil, or_false] at htext
  rcases htext with rfl | rfl
  · exact loop_code must_match_clear hcode
  · exact loop_code does_not_match_clear hcode

/-- A fault whose texts have one code under all names is classified once it is reported. -/
theorem classified_of_code {parseDouble : String → Option Double} {code : DiagnosticCode}
    (hends : EndsUnderNames graph) (hfixed : code ∈ v.codes)
    (hreported : ∀ fuel result, validateGraph fuel parseDouble registry graph = some result →
      ∃ text ∈ result.errors, text ∈ v.reports registry graph ∧ text ∈ v.texts)
    (hcode : ∀ onComponent onEdge, ∀ text ∈ (v.rename onComponent onEdge).texts,
      diagnosticCodeFor text = code)
    (hown : ∀ text ∈ v.texts, diagnosticCodeFor text = code) :
    Classified parseDouble registry graph v code := by
  refine ⟨hfixed, ?_, ?_⟩
  · obtain ⟨fuel, result, hrun⟩ := validateGraph_returns_iff.mpr hends.1
    obtain ⟨text, herror, hreports, htext⟩ := hreported fuel result hrun
    exact ⟨fuel, result, hrun, makeDiagnostic text, List.mem_map_of_mem herror, hreports, htext,
      hown text htext⟩
  · intro onComponent onEdge hcomponent hedge
    obtain ⟨fuel, result, hrun⟩ :=
      validateGraph_returns_iff.mpr (hends.2 onComponent onEdge hcomponent hedge)
    refine ⟨fuel, result, hrun, fun diagnostic hdiagnostic hmessage => ?_⟩
    rw [(code_of_mem_diagnostics hdiagnostic).2]
    exact hcode onComponent onEdge _ hmessage

theorem Classified.ends {parseDouble : String → Option Double} {code : DiagnosticCode}
    (h : Classified parseDouble registry graph v code) : EndsUnderNames graph := by
  refine ⟨?_, fun onComponent onEdge hcomponent hedge => ?_⟩
  · obtain ⟨fuel, result, hrun, -⟩ := h.diagnosed
    exact validateGraph_returns_iff.mp ⟨fuel, result, hrun⟩
  · obtain ⟨fuel, result, hrun, -⟩ := h.nameless onComponent onEdge hcomponent hedge
    exact validateGraph_returns_iff.mp ⟨fuel, result, hrun⟩

/-- An unmatched loop gets the code of its kind when its names spell no other. -/
theorem unmatchedLoop_classified_iff {parseDouble : String → Option Double}
    {loop : CompositeLoopSpec} (hmem : loop ∈ graph.compositeLoops) :
    (∃ code, Classified parseDouble registry graph (unmatchedLoop loop) code) ↔
      Spelled graph (unmatchedLoop loop) ∧ EndsUnderNames graph := by
  constructor
  · rintro ⟨code, h⟩
    obtain ⟨fuel, result, -, diagnostic, hdiagnostic, hreport, htext, hcode⟩ := h.diagnosed
    rw [(code_of_mem_diagnostics hdiagnostic).2] at hcode
    have hloopCode : diagnosticCodeFor diagnostic.message ∈
        [.partialCompositeLoop, .decorativeCompositeLoop] := by
      rw [hcode]
      exact h.fixed
    unfold reports at hreport
    split_ifs at hreport with hnodup
    · refine ⟨⟨hnodup, loop_text_reported htext hreport, ?_⟩, h.ends⟩
      rw [← unmatchedLoop_code htext (Or.inl hloopCode)]
      exact hloopCode
    · simp at hreport
  · rintro ⟨⟨hnodup, hreported, hcode⟩, hends⟩
    have hcodes : ∀ text ∈ (unmatchedLoop loop).texts,
        diagnosticCodeFor text = diagnosticCodeFor loop.id :=
      fun text htext => unmatchedLoop_code htext (Or.inr hcode)
    -- the id of the loop is the only name in the texts
    refine ⟨diagnosticCodeFor loop.id,
      classified_of_code hends hcode ?_ (fun _ _ => hcodes) hcodes⟩
    intro fuel result hrun
    obtain ⟨text, htext, hreport⟩ := loop_reported hmem hreported
    refine ⟨text, mem_errors_of_mem_passErrors hrun hnodup ?_, ?_, htext⟩
    · unfold passErrors
      rw [List.append_assoc]
      exact List.mem_append_right _ hreport
    · have hreports : (unmatchedLoop loop).reports registry graph =
          (immediateSccs graph).flatMap (regionErrors graph) ++ unmatchedLoopErrors graph :=
        if_pos hnodup
      rw [hreports]
      exact hreport

/-! ## Members of loops -/

theorem member_code (id component : String) :
    diagnosticCodeFor ("composite_loop " ++ id ++ " references missing component " ++ component) =
      .unknownComponent := by
  have hphrase : unknownComponentRule.applies " references missing component " := by decide
  exact (diagnosticCodeFor_unknownComponent _).mpr
    (CodeRule.applies_of_piece hphrase ("composite_loop " ++ id) component)

/-- A loop without an id is reported for that alone. -/
theorem loopReports_of_no_id {earlier : List CompositeLoopSpec} {loop : CompositeLoopSpec}
    (h : loop.id = "") :
    loopReports graph earlier loop = ["composite_loop id must not be empty"] := by
  unfold loopReports
  dsimp only
  rw [claimLoop, if_pos h]
  simp

/-- A missing member gets its code when its loop has an id. -/
theorem member_classified_iff {parseDouble : String → Option Double}
    {earlier : List CompositeLoopSpec} {loop : CompositeLoopSpec} {component : String}
    (hv : (member earlier loop component).Of registry graph) :
    (∃ code, Classified parseDouble registry graph (member earlier loop component) code) ↔
      Spelled graph (member earlier loop component) ∧ EndsUnderNames graph := by
  obtain ⟨hloop, hmem, hundeclared⟩ := hv
  constructor
  · rintro ⟨code, h⟩
    obtain ⟨fuel, result, -, diagnostic, -, hreport, htext, -⟩ := h.diagnosed
    unfold reports at hreport
    split_ifs at hreport with hnodup
    · refine ⟨⟨?_, hnodup⟩, h.ends⟩
      -- a loop without an id is passed over with another text
      intro hid
      have hother : diagnostic.message ∈ loopReports graph earlier loop := hreport
      rw [loopReports_of_no_id hid] at hother
      simp only [texts, List.mem_singleton] at htext
      rw [htext, hid] at hother
      have hchar : ("composite_loop " ++ "" ++ " references missing component " ++
          component).toList[15]? = "composite_loop id must not be empty".toList[15]? := by
        rw [List.mem_singleton.mp hother]
      simp at hchar
    · simp at hreport
  · rintro ⟨⟨hid, hnodup⟩, hends⟩
    refine ⟨.unknownComponent,
      classified_of_code hends (List.mem_singleton_self _) ?_ ?_ ?_⟩
    · intro fuel result hrun
      have hknown : component ∉ componentIds graph := fun h =>
        hundeclared (declared_of_mem_componentIds h)
      have hreport : "composite_loop " ++ loop.id ++ " references missing component " ++
          component ∈ loopReports graph earlier loop := by
        unfold loopReports
        dsimp only
        rw [claimLoop, if_neg hid]
        exact missing_member_reported hmem hknown _ _
      refine ⟨_, mem_errors_of_mem_passErrors hrun hnodup ?_, ?_, List.mem_singleton_self _⟩
      · unfold passErrors
        rw [List.append_assoc]
        exact List.mem_append_left _ (mem_ownershipErrors_of_mem_loopReports hloop hreport)
      · have hreports : (member earlier loop component).reports registry graph =
            loopReports graph earlier loop := if_pos hnodup
        rw [hreports]
        exact hreport
    · intro onComponent onEdge text htext
      rw [List.mem_singleton.mp htext]
      exact member_code loop.id (onComponent component)
    · intro text htext
      rw [List.mem_singleton.mp htext]
      exact member_code loop.id component

/-! ## Where the other faults are reported -/

section Reported

variable {ids : List String} {found : List (String × ComponentDescriptor)}
  {earlier : List EdgeSpec} {edge : EdgeSpec}

/-- An edge from a component that is not declared is reported. -/
theorem source_reported (hid : edge.id ≠ "") (hundeclared : edge.source ∉ ids) :
    "edge " ++ edge.id ++ " references missing source component " ++ edge.source ∈
      edgeErrors ids found earlier edge := by
  unfold edgeErrors
  rw [if_neg hid]
  simp [require, hundeclared]

/-- An edge to a component that is not declared is reported. -/
theorem target_reported (hid : edge.id ≠ "") (hundeclared : edge.target ∉ ids) :
    "edge " ++ edge.id ++ " references missing target component " ++ edge.target ∈
      edgeErrors ids found earlier edge := by
  unfold edgeErrors
  rw [if_neg hid]
  simp [require, hundeclared]

/-- A port that is looked up and not found. -/
theorem endpointPort_missing {ports : List PortDescriptor} {endpoint error : String}
    (hport : portNameFromEndpoint endpoint ≠ "")
    (hmissing : findPort ports (portNameFromEndpoint endpoint) = none) :
    endpointPort (some ports) endpoint error = (none, [error]) := by
  simp [endpointPort, hport, hmissing]

/-- An edge from a port that the descriptor of its source lacks is reported. -/
theorem outputPort_reported {descriptor : ComponentDescriptor} (hid : edge.id ≠ "")
    (hport : portNameFromEndpoint edge.fromEndpoint ≠ "")
    (hfound : descriptorFor found edge.source = some descriptor)
    (hmissing : findPort descriptor.outputs (portNameFromEndpoint edge.fromEndpoint) = none) :
    "edge " ++ edge.id ++ " references missing output port " ++ edge.fromEndpoint ∈
      edgeErrors ids found earlier edge := by
  unfold edgeErrors edgePortErrors
  rw [if_neg hid, hfound, Option.map_some, endpointPort_missing hport hmissing]
  simp

/-- An edge to a port that the descriptor of its target lacks is reported. -/
theorem inputPort_reported {descriptor : ComponentDescriptor} (hid : edge.id ≠ "")
    (hport : portNameFromEndpoint edge.toEndpoint ≠ "")
    (hfound : descriptorFor found edge.target = some descriptor)
    (hmissing : findPort descriptor.inputs (portNameFromEndpoint edge.toEndpoint) = none) :
    "edge " ++ edge.id ++ " references missing input port " ++ edge.toEndpoint ∈
      edgeErrors ids found earlier edge := by
  unfold edgeErrors edgePortErrors
  rw [if_neg hid, hfound, Option.map_some, endpointPort_missing hport hmissing]
  simp

/-- The first mention of a dependency that is not declared. -/
theorem dependency_reported {component : ComponentNodeSpec} {needed : String}
    (hneeded : needed ∈ component.dependsOn) (hundeclared : ¬ Declared graph needed) :
    "component " ++ component.id ++ " depends_on missing component " ++ needed ∈
      dependencyErrors graph component := by
  obtain ⟨before, after, hsplit, hfirst⟩ := List.eq_append_cons_of_mem hneeded
  have hindex : (lifecycleIndex graph needed).isSome = false := by
    simp only [lifecycleIndex, Option.isSome_map, Option.isSome_eq_false_iff,
      Option.isNone_iff_eq_none,
      List.find?_eq_none, List.mem_reverse]
    rintro ⟨other, index⟩ hmem hid
    refine hundeclared (List.mem_map.mpr ⟨other, ?_, by simpa using hid⟩)
    exact List.fst_mem_of_mem_zipIdx hmem
  unfold dependencyErrors
  rw [hsplit]
  refine Loop.mem_report ?_
  rw [List.nil_append, if_neg hfirst]
  simp [require, hindex]

/-- A trigger input that no edge feeds is reported. -/
theorem triggerInput_reported {component : ComponentNodeSpec} {input : String}
    (hinput : input ∈ triggerPolicyInputsFor component)
    (hunfed : endpointOf component.id input ∉ targetEndpoints graph) :
    "component " ++ component.id ++ " trigger input has no incoming edge: " ++ input ∈
      triggerInputErrors graph component :=
  List.mem_flatMap.mpr ⟨input, hinput, by simp [require, hunfed]⟩

end Reported

/-! ## Main results -/

/-- The code of a fault is that of the text with which a renamed graph reports it. -/
theorem Classified.code_of_renamed {parseDouble : String → Option Double}
    {code : DiagnosticCode} (h : Classified parseDouble registry graph v code)
    {onComponent onEdge : String → String} (hcomponent : Injective onComponent)
    (hedge : Injective onEdge) {text : String}
    (htext : text ∈ (v.rename onComponent onEdge).texts)
    (hreported : ∀ fuel result, validateGraph fuel parseDouble registry
      (graph.rename onComponent onEdge) = some result → text ∈ result.errors) :
    diagnosticCodeFor text ∈ v.codes := by
  obtain ⟨fuel, result, hrun, hcodes⟩ := h.nameless onComponent onEdge hcomponent hedge
  have hcode : diagnosticCodeFor text = code :=
    hcodes (makeDiagnostic text) (List.mem_map_of_mem (hreported fuel result hrun)) htext
  rw [hcode]
  exact h.fixed

/-- What is not declared stays so when names are told apart. -/
theorem undeclared_rename {onComponent onEdge : String → String} (h : Injective onComponent)
    {component : String} (hundeclared : ¬ Declared graph component) :
    onComponent component ∉ declaredIds (graph.rename onComponent onEdge) := fun hmem =>
  hundeclared ((declared_rename_iff h).mp (List.mem_filter.mp hmem).1)

theorem edges_prefix_rename (onComponent onEdge : String → String) {earlier : List EdgeSpec}
    {edge : EdgeSpec} (h : earlier ++ [edge] <+: graph.edges) :
    earlier.map (EdgeSpec.rename onComponent onEdge) ++ [edge.rename onComponent onEdge] <+:
      (graph.rename onComponent onEdge).edges := by
  simpa [GraphSpec.rename] using h.map (EdgeSpec.rename onComponent onEdge)

/-- The faults that are not about a loop are not classified: with the right names they are
reported under another code. -/
theorem not_classified_of_named {parseDouble : String → Option Double} {code : DiagnosticCode}
    (hv : v.Of registry graph)
    (hmember : ∀ earlier loop component, v ≠ member earlier loop component)
    (hloop : ∀ loop, v ≠ unmatchedLoop loop) :
    ¬ Classified parseDouble registry graph v code := by
  intro h
  cases v with
  | source earlier edge =>
      -- under blank names the text has none of the phrases
      have hcode := h.code_of_renamed blankName_injective blankName_injective
        (List.mem_singleton_self _) fun fuel result hrun =>
          mem_errors_of_mem_pass hrun (Or.inl ⟨_, _, edges_prefix_rename _ _ hv.1,
            source_reported (blankName_ne_empty _) (by
              rw [EdgeSpec.source, EdgeSpec.rename, plainNaming_blank.component]
              exact undeclared_rename blankName_injective hv.2)⟩)
      rw [EdgeSpec.source, EdgeSpec.rename, plainNaming_blank.component] at hcode
      exact code_blank_names (by decide) (by decide) _ _ (List.mem_singleton.mp hcode)
  | target earlier edge =>
      have hcode := h.code_of_renamed blankName_injective blankName_injective
        (List.mem_singleton_self _) fun fuel result hrun =>
          mem_errors_of_mem_pass hrun (Or.inl ⟨_, _, edges_prefix_rename _ _ hv.1,
            target_reported (blankName_ne_empty _) (by
              rw [EdgeSpec.target, EdgeSpec.rename, plainNaming_blank.component]
              exact undeclared_rename blankName_injective hv.2)⟩)
      rw [EdgeSpec.target, EdgeSpec.rename, plainNaming_blank.component] at hcode
      exact code_blank_names (by decide) (by decide) _ _ (List.mem_singleton.mp hcode)
  | dependency component needed =>
      obtain ⟨hmem, hneeded, hundeclared⟩ := hv
      have hcode := h.code_of_renamed blankName_injective blankName_injective
        (List.mem_singleton_self _) fun fuel result hrun =>
          mem_errors_of_mem_pass hrun (Or.inr (Or.inl ⟨_, List.mem_map_of_mem hmem,
            dependency_reported (List.mem_map_of_mem hneeded) fun hdeclared =>
              hundeclared ((declared_rename_iff blankName_injective).mp hdeclared)⟩))
      exact code_blank_names (by decide) (by decide) _ _ (List.mem_singleton.mp hcode)
  | member earlier loop component => exact hmember earlier loop component rfl
  | outputPort earlier edge =>
      obtain ⟨hedges, hport, descriptor, hfound, hmissing⟩ := hv
      -- an edge with a phrase of the first rule in its name
      have hcode := h.code_of_renamed injective_id markedName_injective
        (List.mem_singleton_self _) fun fuel result hrun =>
          mem_errors_of_mem_pass hrun (Or.inl ⟨_, _, edges_prefix_rename _ _ hedges,
            outputPort_reported (markedName_ne_empty _) (by simpa using hport)
              (by simpa [descriptors_rename_edges, EdgeSpec.source] using hfound)
              (by simpa using hmissing)⟩)
      have hmarked := code_marked_first "edge " edge.id " references missing output port "
        (edge.rename id markedName).fromEndpoint
      exact absurd (hmarked.symm.trans (List.mem_singleton.mp hcode)) (by decide)
  | inputPort earlier edge =>
      obtain ⟨hedges, hport, descriptor, hfound, hmissing⟩ := hv
      have hcode := h.code_of_renamed injective_id markedName_injective
        (List.mem_singleton_self _) fun fuel result hrun =>
          mem_errors_of_mem_pass hrun (Or.inl ⟨_, _, edges_prefix_rename _ _ hedges,
            inputPort_reported (markedName_ne_empty _) (by simpa using hport)
              (by simpa [descriptors_rename_edges, EdgeSpec.target] using hfound)
              (by simpa using hmissing)⟩)
      have hmarked := code_marked_first "edge " edge.id " references missing input port "
        (edge.rename id markedName).toEndpoint
      exact absurd (hmarked.symm.trans (List.mem_singleton.mp hcode)) (by decide)
  | unmatchedLoop loop => exact hloop loop rfl
  | triggerInput component input =>
      obtain ⟨hmem, hinput, hunfed⟩ := hv
      have hcode := h.code_of_renamed plainNaming_marked.injective injective_id
        (List.mem_singleton_self _) fun fuel result hrun =>
          mem_errors_of_mem_pass hrun (Or.inr (Or.inr ⟨_, List.mem_map_of_mem hmem,
            triggerInput_reported hinput (by
              intro htarget
              obtain ⟨renamed, hrenamed, hendpoint⟩ := List.mem_map.mp htarget
              obtain ⟨edge, hedge, rfl⟩ := List.mem_map.mp (List.mem_filter.mp hrenamed).1
              exact hunfed edge hedge (plainNaming_marked.endpoint hendpoint))⟩))
      have hmarked := code_marked_first "component " (blankName component.id)
        " trigger input has no incoming edge: " input
      exact absurd (hmarked.symm.trans (List.mem_singleton.mp hcode)) (by decide)

end Violation

/-- The codes of a validation. A fault is classified iff the validation returns under all
names of the components and edges, and the fault is a missing member of a loop that is looked
at, or a loop whose id happens to have a phrase for it. A text keeps its code under a change of
one of its names only if it has a phrase of the first rule elsewhere. -/
theorem diagnostic_codes_iff (parseDouble : String → Option Double)
    (registry : ComponentRegistry) (graph : GraphSpec) :
    (∀ v : Violation, v.Of registry graph →
      ((∃ code, v.Classified parseDouble registry graph code) ↔
        v.Spelled graph ∧ EndsUnderNames graph)) ∧
    ∀ before after : String,
      (∀ name name', diagnosticCodeFor (before ++ name ++ after) =
          diagnosticCodeFor (before ++ name' ++ after)) ↔
        unknownComponentRule.applies before ∨ unknownComponentRule.applies after := by
  refine ⟨fun v hv => ?_, code_ignores_name_iff⟩
  cases v with
  | member earlier loop component => exact Violation.member_classified_iff hv
  | unmatchedLoop loop => exact Violation.unmatchedLoop_classified_iff hv.1
  | _ =>
      refine iff_of_false ?_ And.left
      rintro ⟨code, hcode⟩
      refine Violation.not_classified_of_named hv ?_ ?_ hcode
      · exact fun _ _ _ => Violation.noConfusion
      · exact fun _ => Violation.noConfusion

/-- A registry with one type. -/
def cameraRegistry : ComponentRegistry where
  contains type := type = "camera"
  describe _ type := .ok { type := type, outputs := [{ name := "out" }] }

/-- A camera, and a loop over a component that is not there. -/
def hollowLoop : GraphSpec where
  schemaVersion := 1
  name := "line"
  lanes := [{ id := "main", type := "event_loop" }]
  components := [{
    id := "camera"
    type := "camera"
    execution := { lane := "main" }
    eventSources := [{ type := "manual" }] }]
  compositeLoops := [{ id := "control", components := ["ghost"] }]

/-- A loop over a missing component is reported as one. -/
theorem hollowLoop_member_classified :
    ∃ code, (Violation.member [] { id := "control", components := ["ghost"] } "ghost").Classified
      (fun _ => none) cameraRegistry hollowLoop code := by
  have hv : (Violation.member [] { id := "control", components := ["ghost"] } "ghost").Of
      cameraRegistry hollowLoop := by
    refine ⟨List.prefix_rfl, List.mem_singleton_self _, ?_⟩
    simp [Declared, hollowLoop]
  have hends : EndsUnderNames hollowLoop := .of_no_immediate (by simp [hollowLoop])
  exact ((diagnostic_codes_iff (fun _ => none) cameraRegistry hollowLoop).1 _ hv).mpr
    ⟨⟨by decide, by decide⟩, hends⟩

/-- An edge to a component that is not there. -/
def strayEdge : EdgeSpec where
  id := "e"
  fromEndpoint := "camera.out"
  toEndpoint := "ghost.in"
  hasKind := true

def strayGraph : GraphSpec where
  schemaVersion := 1
  name := "line"
  lanes := [{ id := "main", type := "event_loop" }]
  components := [{
    id := "camera"
    type := "camera"
    execution := { lane := "main" }
    eventSources := [{ type := "manual" }] }]
  edges := [strayEdge]

/-- The fault gets the fallback code, and another one as soon as the edge is named
`capacity`. -/
theorem strayEdge_misfiled :
    (Violation.target [] strayEdge).Of cameraRegistry strayGraph ∧
    (validateGraph 3 (fun _ => none) cameraRegistry strayGraph).map
        (fun result => result.diagnostics.map GraphDiagnostic.code) =
      some [.graphValidationError] ∧
    Injective (Equiv.swap "e" "capacity") ∧
    (validateGraph 3 (fun _ => none) cameraRegistry
        (strayGraph.rename id (Equiv.swap "e" "capacity"))).map
        (fun result => result.diagnostics.map GraphDiagnostic.code) =
      some [.invalidChannelPolicy] := by
  refine ⟨⟨List.prefix_rfl, ?_⟩, ?_, Equiv.injective _, ?_⟩
  · unfold Declared
    decide
  · decide +kernel
  · decide +kernel

end TopoExec
