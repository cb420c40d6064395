import TopoExec.Loader.Load

/-! # Raising the limits

The limits of the loader only stand on the right of comparisons, and the places that it
writes into its messages decide nothing. So a document that is accepted is accepted under
any larger limits, with the same graph. One lemma per reader says both at once: for larger
limits and for any other place, the reader accepts at least as much.
-/

namespace TopoExec

open Check

/-- Every limit is at least as large. -/
structure LoaderLimits.Le (limits limits' : LoaderLimits) : Prop where
  identifierBytes : limits.maxIdentifierBytes ≤ limits'.maxIdentifierBytes
  stringBytes : limits.maxStringBytes ≤ limits'.maxStringBytes
  graphInputBytes : limits.maxGraphInputBytes ≤ limits'.maxGraphInputBytes
  lanes : limits.maxLanes ≤ limits'.maxLanes
  components : limits.maxComponents ≤ limits'.maxComponents
  edges : limits.maxEdges ≤ limits'.maxEdges
  compositeLoops : limits.maxCompositeLoops ≤ limits'.maxCompositeLoops
  configDepth : limits.maxConfigDepth ≤ limits'.maxConfigDepth
  configValueBytes : limits.maxConfigValueBytes ≤ limits'.maxConfigValueBytes
  yamlAliasCount : limits.maxYamlAliasCount ≤ limits'.maxYamlAliasCount

theorem LoaderLimits.Le.refl (limits : LoaderLimits) : limits.Le limits := by
  constructor <;> exact Nat.le_refl _

namespace GraphIo

variable {limits limits' : LoaderLimits} {library : YamlLibrary}

/-! ## Accessors -/

/-- The error becomes an `invalid_argument`, and what succeeds stays as it is. -/
theorem orInvalid_eq_ok {α : Type} {check : Except String α} {a : α} :
    orInvalid check = .ok a ↔ check = .ok a := by
  cases check with
  | error e => simp [orInvalid, Except.mapError]
  | ok b => simp [orInvalid, Except.mapError]

/-- Whether a check succeeds does not depend on the kind of its error. -/
theorem orInvalid_accepts {α : Type} {check check' : Except String α} (h : Accepts check check') :
    Accepts (orInvalid check) (orInvalid check') := by
  intro a ha
  exact orInvalid_eq_ok.mpr (h a (orInvalid_eq_ok.mp ha))

/-- Whether a node is a map does not depend on the name it is reported under. -/
theorem requireMap_accepts (node : YamlNode) (context context' : String) :
    Accepts (requireMap node context) (requireMap node context') := by
  cases node with
  | map entries => exact .refl _
  | _ => exact .error _ _

/-- Whether a node is a sequence does not depend on the name it is reported under. -/
theorem requireSequence_accepts (node : YamlNode) (context context' : String) :
    Accepts (requireSequence node context) (requireSequence node context') := by
  cases node with
  | sequence items => exact .refl _
  | _ => exact .error _ _

/-- A key is there or not, whatever the map is called. -/
theorem requireNode_accepts (node : YamlNode) (key context context' : String) :
    Accepts (requireNode node key context) (requireNode node key context') := by
  apply Accepts.bind (.refl _)
  rintro (_ | child)
  · exact .error _ _
  · exact .refl _

theorem requireString_accepts (node : YamlNode) (key context context' : String) :
    Accepts (requireString node key context) (requireString node key context') :=
  .bind (requireNode_accepts node key context context') fun _ => .refl _

/-- A list of scalars is read the same under every name. -/
theorem optionalVector_accepts {α : Type} (value : YamlNode → Except LoadError α) (node : YamlNode)
    (key context context' : String) :
    Accepts (optionalVector value node key context) (optionalVector value node key context') := by
  apply Accepts.bind (.refl _)
  rintro (_ | child)
  · exact .refl _
  · exact .bind (requireSequence_accepts child _ _) fun _ => .refl _

/-- The fields that are allowed do not depend on the name of the map. -/
theorem rejectUnknownFields_accepts (node : YamlNode) (context context' : String)
    (allowed : List String) :
    Accepts (rejectUnknownFields node context allowed)
      (rejectUnknownFields node context' allowed) := by
  unfold rejectUnknownFields
  cases node with
  | null => exact .refl _
  | _ =>
      apply Accepts.bind (requireMap_accepts _ _ _)
      intro entries
      apply Accepts.forM
      intro entry
      apply Accepts.bind (.refl _)
      intro key
      exact .refuse id

/-! ## Bounds -/

/-- A count below a limit is below every larger one. -/
theorem enforceLimit_accepts {value limit limit' : Nat} (h : limit ≤ limit')
    (context context' : String) :
    Accepts (enforceLimit value limit context) (enforceLimit value limit' context') :=
  .refuse fun hlt => Nat.lt_of_le_of_lt h hlt

/-- The limit of a text is on its bytes. -/
theorem enforceStringLimit_eq_ok {limits : TemplateLimits} {value context : String} :
    enforceStringLimit limits value context = .ok () ↔
      value.utf8ByteSize ≤ limits.maxStringBytes := by
  unfold enforceStringLimit
  split_ifs with hlong
  · simp [hlong]
  · simp [Nat.not_lt.mp hlong]

/-- An identifier that some limits admit is admitted by larger ones. -/
theorem enforceIdentifierLimit_accepts (h : limits.Le limits') (value context context' : String) :
    Accepts (enforceIdentifierLimit limits.toGraphInputLimits value context)
      (enforceIdentifierLimit limits'.toGraphInputLimits value context') := by
  intro _ haccepted
  obtain ⟨hne, hsize⟩ := (enforceIdentifierLimit_eq_ok_iff _ _ _).mp haccepted
  exact (enforceIdentifierLimit_eq_ok_iff _ _ _).mpr ⟨hne, hsize.trans h.identifierBytes⟩

/-- A text that some limits admit is admitted by larger ones. -/
theorem enforceStringLimit_accepts (h : limits.Le limits') (value context context' : String) :
    Accepts (enforceStringLimit limits.toTemplateLimits value context)
      (enforceStringLimit limits'.toTemplateLimits value context') := by
  intro _ haccepted
  have hsize := enforceStringLimit_eq_ok.mp haccepted
  exact enforceStringLimit_eq_ok.mpr (hsize.trans h.stringBytes)

theorem identifierLimit_accepts (h : limits.Le limits') (value context context' : String) :
    Accepts (identifierLimit limits value context) (identifierLimit limits' value context') :=
  orInvalid_accepts (enforceIdentifierLimit_accepts h value context context')

theorem stringLimit_accepts (h : limits.Le limits') (value context context' : String) :
    Accepts (stringLimit limits value context) (stringLimit limits' value context') :=
  orInvalid_accepts (enforceStringLimit_accepts h value context context')

/-- The id of a component or an edge: the limit is all that the limits decide. -/
theorem checkedIdentifier_accepts (h : limits.Le limits') (value context context' : String) :
    Accepts (checkedIdentifier limits.toGraphInputLimits value context)
      (checkedIdentifier limits'.toGraphInputLimits value context') :=
  .bind (enforceIdentifierLimit_accepts h value context context') fun _ => .refl _

theorem checkedId_accepts (h : limits.Le limits') (value context context' : String) :
    Accepts (checkedId limits value context) (checkedId limits' value context') :=
  orInvalid_accepts (checkedIdentifier_accepts h value context context')

/-- The id of a node of a subgraph, read before it gets the name of its instance. -/
theorem localIdOf_accepts (h : limits.Le limits') (node : YamlNode) (context context' : String) :
    Accepts (localIdOf limits node context) (localIdOf limits' node context') :=
  .bind (requireString_accepts node "id" context context') fun value =>
    checkedId_accepts h value _ _

/-! ## Parts of a graph -/

mutual

/-- By induction on the node, over its items and its entries: larger limits admit a config that is
deeper, wider and has longer texts. -/
theorem enforceConfigLimits_accepts (h : limits.Le limits') (depth : Nat)
    (context context' : String) (node : YamlNode) :
    Accepts (enforceConfigLimits limits context depth node)
      (enforceConfigLimits limits' context' depth node) := by
  cases node with
  | null => exact .refl _
  | scalar text =>
      exact .bind (enforceLimit_accepts h.configDepth _ _) fun _ =>
        enforceLimit_accepts h.configValueBytes _ _
  | sequence items =>
      exact .bind (enforceLimit_accepts h.configDepth _ _) fun _ =>
        enforceConfigItems_accepts h (depth + 1) 0 context context' items
  | map entries =>
      exact .bind (enforceLimit_accepts h.configDepth _ _) fun _ =>
        enforceConfigEntries_accepts h (depth + 1) context context' entries

/-- The items of a sequence. -/
theorem enforceConfigItems_accepts (h : limits.Le limits') (depth index : Nat)
    (context context' : String) (items : List YamlNode) :
    Accepts (enforceConfigItems limits context depth index items)
      (enforceConfigItems limits' context' depth index items) := by
  cases items with
  | nil => exact .refl _
  | cons item rest =>
      exact .bind (enforceConfigLimits_accepts h depth _ _ item) fun _ =>
        enforceConfigItems_accepts h depth (index + 1) context context' rest

/-- The entries of a map, the keys with them. -/
theorem enforceConfigEntries_accepts (h : limits.Le limits') (depth : Nat)
    (context context' : String) (entries : List (YamlNode × YamlNode)) :
    Accepts (enforceConfigEntries limits context depth entries)
      (enforceConfigEntries limits' context' depth entries) := by
  cases entries with
  | nil => exact .refl _
  | cons entry rest =>
      obtain ⟨name, value⟩ := entry
      exact .bind (.refl _) fun key =>
        .bind (enforceLimit_accepts h.identifierBytes _ _) fun _ =>
          .bind (enforceConfigLimits_accepts h depth _ _ value) fun _ =>
            enforceConfigEntries_accepts h depth context context' rest

end

/-- The config of a component: its depth and size are all that the limits decide. -/
theorem readConfigNode_accepts (h : limits.Le limits') (config : Option YamlNode)
    (context context' : String) :
    Accepts (readConfigNode limits library config context)
      (readConfigNode limits' library config context') := by
  cases config with
  | none => exact .refl _
  | some node =>
      apply Accepts.bind (requireMap_accepts node _ _)
      intro entries
      apply Accepts.bind (enforceConfigLimits_accepts h 0 _ _ node)
      intro _
      apply Accepts.foldlM
      intro view entry
      apply Accepts.bind (.refl _)
      intro key
      -- a nested value is kept as text, of which the size is bounded again
      by_cases hnested : (entry.2.isMap || entry.2.isSequence) = true
      · rw [if_pos hnested, if_pos hnested]
        exact .bind (enforceLimit_accepts h.configValueBytes _ _) fun _ => .refl _
      · rw [if_neg hnested, if_neg hnested]
        exact .refl _

/-- The reader names the places inside a component by its id. -/
theorem readComponentNode_accepts (h : limits.Le limits') (node : YamlNode)
    (componentId context context' : String) :
    Accepts (readComponentNode limits library node componentId context)
      (readComponentNode limits' library node componentId context') := by
  apply Accepts.bind (requireMap_accepts node _ _)
  intro _
  apply Accepts.bind (checkedId_accepts h componentId _ _)
  intro id
  -- what is read in between knows neither the limits nor the place
  iterate 7
    apply Accepts.bind (.refl _)
    intro _
  apply Accepts.bind (.refl _)
  intro config
  exact .bind (readConfigNode_accepts h config _ _) fun _ => .refl _

/-- An edge is read from the same fields, its policies included. -/
theorem readEdgeNode_accepts (h : limits.Le limits') (node : YamlNode)
    (edgeId context context' : String) :
    Accepts (readEdgeNode limits library node edgeId context)
      (readEdgeNode limits' library node edgeId context') := by
  apply Accepts.bind (requireMap_accepts node _ _)
  intro _
  exact .bind (checkedId_accepts h edgeId _ _) fun _ => .refl _

/-- The policy of a composite loop has no limit. -/
theorem readLoopPolicy_accepts (node : YamlNode) (context context' : String) :
    Accepts (readLoopPolicy library node context) (readLoopPolicy library node context') := by
  apply Accepts.bind (requireMap_accepts node _ _)
  intro _
  apply Accepts.bind (rejectUnknownFields_accepts node _ _ _)
  intro _
  exact .bind (requireString_accepts node "type" _ _) fun _ => .refl _

/-- A composite loop is read from the same fields. -/
theorem readCompositeLoop_accepts (h : limits.Le limits') (node : YamlNode)
    (context context' : String) :
    Accepts (readCompositeLoop limits library node context)
      (readCompositeLoop limits' library node context') := by
  apply Accepts.bind (requireMap_accepts node _ _)
  intro _
  apply Accepts.bind (rejectUnknownFields_accepts node _ _ _)
  intro _
  apply Accepts.bind (requireString_accepts node "id" _ _)
  intro value
  apply Accepts.bind (checkedId_accepts h value _ _)
  intro id
  apply Accepts.bind (optionalVector_accepts _ node "components" _ _)
  intro components
  apply Accepts.bind (.refuse fun hempty => hempty)
  intro _
  apply Accepts.bind (requireNode_accepts node "loop_policy" _ _)
  intro policy
  exact .bind (readLoopPolicy_accepts policy _ _) fun _ => .refl _

/-- A lane is read from the same fields. -/
theorem readLane_accepts (h : limits.Le limits') (entry : YamlNode × YamlNode) :
    Accepts (readLane limits library entry) (readLane limits' library entry) := by
  apply Accepts.bind (.refl _)
  intro value
  exact .bind (checkedId_accepts h value _ _) fun _ => .refl _

/-- Two readers of the elements of a sequence. -/
theorem readEach_accepts {α : Type} {read read' : String → YamlNode → Except LoadError α}
    (h : ∀ context context' node, Accepts (read context node) (read' context' node))
    (context context' : String) (items : List YamlNode) :
    Accepts (readEach context items read) (readEach context' items read') := by
  apply Accepts.mapM
  intro item
  exact h _ _ item.1

/-! ## Subgraphs -/

/-- The limit of an id is checked on the id with the name of its instance in front. -/
theorem prefixedIdentifier_accepts (h : limits.Le limits')
    (namespaceId localId context context' : String) :
    Accepts (prefixedIdentifier limits namespaceId localId context)
      (prefixedIdentifier limits' namespaceId localId context') :=
  orInvalid_accepts (checkedIdentifier_accepts h _ context context')

/-- An endpoint of a subgraph is split and prefixed the same way. -/
theorem namespacedEndpoint_accepts (h : limits.Le limits')
    (namespaceId endpoint context context' : String) :
    Accepts (namespacedEndpoint limits namespaceId endpoint context)
      (namespacedEndpoint limits' namespaceId endpoint context') := by
  apply orInvalid_accepts
  unfold namespaceEndpoint
  dsimp only
  by_cases hempty : componentIdFromEndpoint endpoint = ""
  · rw [if_pos hempty]
    -- no limit makes this endpoint a valid one
    exact .error _ _
  · rw [if_neg hempty, if_neg hempty]
    exact .bind (enforceIdentifierLimit_accepts h _ _ _) fun _ => .refl _

/-- The members of a loop, each prefixed. -/
theorem namespacedRefs_accepts (h : limits.Le limits') (namespaceId : String)
    (localIds : List String) (context context' : String) :
    Accepts (namespacedRefs limits namespaceId localIds context)
      (namespacedRefs limits' namespaceId localIds context') := by
  apply orInvalid_accepts
  apply Accepts.mapM
  intro localId
  exact .bind (enforceIdentifierLimit_accepts h _ _ _) fun _ =>
    .bind (enforceIdentifierLimit_accepts h _ _ _) fun _ => .refl _

/-- A component of a subgraph. -/
theorem expandComponentNode_accepts (h : limits.Le limits') (namespaceId context context' : String)
    (node : YamlNode) :
    Accepts (expandComponentNode limits library namespaceId context node)
      (expandComponentNode limits' library namespaceId context' node) := by
  apply Accepts.bind (localIdOf_accepts h node _ _)
  intro localId
  apply Accepts.bind (prefixedIdentifier_accepts h _ _ _ _)
  intro id
  apply Accepts.bind (readComponentNode_accepts h node _ _ _)
  intro component
  exact .bind (namespacedRefs_accepts h _ _ _ _) fun _ => .refl _

/-- An edge of a subgraph, with both its endpoints. -/
theorem expandEdgeNode_accepts (h : limits.Le limits') (namespaceId context context' : String)
    (node : YamlNode) :
    Accepts (expandEdgeNode limits library namespaceId context node)
      (expandEdgeNode limits' library namespaceId context' node) := by
  apply Accepts.bind (localIdOf_accepts h node _ _)
  intro localId
  apply Accepts.bind (prefixedIdentifier_accepts h _ _ _ _)
  intro id
  apply Accepts.bind (readEdgeNode_accepts h node _ _ _)
  intro edge
  exact .bind (namespacedEndpoint_accepts h _ _ _ _) fun _ =>
    .bind (namespacedEndpoint_accepts h _ _ _ _) fun _ => .refl _

/-- A composite loop of a subgraph, with its members. -/
theorem expandLoopNode_accepts (h : limits.Le limits') (namespaceId context context' : String)
    (node : YamlNode) :
    Accepts (expandLoopNode limits library namespaceId context node)
      (expandLoopNode limits' library namespaceId context' node) := by
  apply Accepts.bind (readCompositeLoop_accepts h node _ _)
  intro loop
  apply Accepts.bind (prefixedIdentifier_accepts h _ _ _ _)
  intro id
  exact .bind (namespacedRefs_accepts h _ _ _ _) fun _ => .refl _

theorem optionalSequence_accepts (node : YamlNode) (key context context' : String) :
    Accepts (optionalSequence node key context) (optionalSequence node key context') := by
  apply Accepts.bind (.refl _)
  rintro (_ | child)
  · exact .refl _
  · exact requireSequence_accepts child _ _

/-- A subgraph is read under larger limits to the same expansion. -/
theorem readSubgraph_accepts (h : limits.Le limits') (node : YamlNode) (context context' : String) :
    Accepts (readSubgraph limits library node context)
      (readSubgraph limits' library node context') := by
  apply Accepts.bind (requireMap_accepts node _ _)
  intro _
  apply Accepts.bind (rejectUnknownFields_accepts node _ _ _)
  intro _
  apply Accepts.bind (localIdOf_accepts h node _ _)
  intro id
  apply Accepts.bind (requireNode_accepts node "components" _ _)
  intro components
  apply Accepts.bind (requireSequence_accepts components _ _)
  intro componentNodes
  apply Accepts.bind (.refuse fun hempty => hempty)
  intro _
  apply Accepts.bind (readEach_accepts (expandComponentNode_accepts h id) _ _ componentNodes)
  intro _
  apply Accepts.bind (requireNode_accepts node "edges" _ _)
  intro edges
  apply Accepts.bind (requireSequence_accepts edges _ _)
  intro edgeNodes
  apply Accepts.bind (readEach_accepts (expandEdgeNode_accepts h id) _ _ edgeNodes)
  intro _
  apply Accepts.bind (optionalSequence_accepts node "composite_loops" _ _)
  intro loopNodes
  exact .bind (readEach_accepts (expandLoopNode_accepts h id) _ _ loopNodes) fun _ => .refl _

/-- The expansion is appended to the same graph. -/
theorem appendSubgraphExpansion_accepts (h : limits.Le limits') (node : YamlNode)
    (graph : LoadedGraph) (context context' : String) :
    Accepts (appendSubgraphExpansion limits library node graph context)
      (appendSubgraphExpansion limits' library node graph context') :=
  .bind (readSubgraph_accepts h node context context') fun _ => .refl _

/-! ## Templates -/

/-- The text that a substitution gives may be longer, never different. -/
theorem substitutePlaceholders_accepts (h : limits.Le limits') (value : String)
    (parameters : OrderedMap String String) (context context' : String) :
    Accepts (substitutePlaceholders limits.toTemplateLimits value parameters context)
      (substitutePlaceholders limits'.toTemplateLimits value parameters context') := by
  intro result haccepted
  rw [substitutePlaceholders_eq_substitute, substitute_eq_ok_iff, not_fails_iff] at haccepted ⊢
  obtain ⟨⟨hterminated, hknown, hsize⟩, hresult⟩ := haccepted
  refine ⟨⟨hterminated, ?_, hsize.trans h.stringBytes⟩, hresult⟩
  intro placeholder hmem
  obtain ⟨⟨hne, hlength⟩, hfound⟩ := hknown placeholder hmem
  exact ⟨⟨hne, hlength.trans h.identifierBytes⟩, hfound⟩

mutual

/-- By induction on the node of the template, over its items and its entries. -/
theorem substituteTemplateNode_accepts (h : limits.Le limits')
    (parameters : OrderedMap String String) (context context' : String) (node : YamlNode) :
    Accepts (substituteTemplateNode limits parameters context node)
      (substituteTemplateNode limits' parameters context' node) := by
  cases node with
  | null => exact .refl _
  | scalar text =>
      exact .bind (orInvalid_accepts (substitutePlaceholders_accepts h text parameters _ _))
        fun _ => .refl _
  | sequence items =>
      exact .bind (substituteTemplateItems_accepts h parameters context context' 0 items)
        fun _ => .refl _
  | map entries =>
      exact .bind (substituteTemplateEntries_accepts h parameters context context' [] entries)
        fun _ => .refl _

/-- The items of a sequence of the template. -/
theorem substituteTemplateItems_accepts (h : limits.Le limits')
    (parameters : OrderedMap String String) (context context' : String) (index : Nat)
    (items : List YamlNode) :
    Accepts (substituteTemplateItems limits parameters context index items)
      (substituteTemplateItems limits' parameters context' index items) := by
  cases items with
  | nil => exact .refl _
  | cons item rest =>
      exact .bind (substituteTemplateNode_accepts h parameters _ _ item) fun _ =>
        .bind (substituteTemplateItems_accepts h parameters context context' (index + 1) rest)
          fun _ => .refl _

/-- The entries of a map of the template; a key that occurs again is refused under all limits. -/
theorem substituteTemplateEntries_accepts (h : limits.Le limits')
    (parameters : OrderedMap String String) (context context' : String)
    (output entries : List (YamlNode × YamlNode)) :
    Accepts (substituteTemplateEntries limits parameters context output entries)
      (substituteTemplateEntries limits' parameters context' output entries) := by
  cases entries with
  | nil => exact .refl _
  | cons entry rest =>
      obtain ⟨name, value⟩ := entry
      exact .bind (.refl _) fun text =>
        .bind (orInvalid_accepts (substitutePlaceholders_accepts h text parameters _ _))
          fun key =>
            .bind (substituteTemplateNode_accepts h parameters _ _ value) fun value' =>
              substituteTemplateEntries_accepts h parameters context context'
                (YamlNode.assign key value' output) rest

end

/-- The names of the parameters of a template, each of them once. -/
theorem checkParameterNames_accepts (h : limits.Le limits') (context context' : String)
    (seen parameters : List String) :
    Accepts (checkParameterNames limits context seen parameters)
      (checkParameterNames limits' context' seen parameters) := by
  induction parameters generalizing seen with
  | nil => exact .refl _
  | cons parameter rest ih =>
      exact .bind (checkedId_accepts h parameter _ _) fun _ =>
        .bind (.refuse fun hseen => hseen) fun _ => ih _

/-- The definition of a template. -/
theorem readGraphTemplate_accepts (h : limits.Le limits') (context context' : String)
    (node : YamlNode) :
    Accepts (readGraphTemplate limits context node) (readGraphTemplate limits' context' node) := by
  apply Accepts.bind (requireMap_accepts node _ _)
  intro _
  apply Accepts.bind (rejectUnknownFields_accepts node _ _ _)
  intro _
  apply Accepts.bind (localIdOf_accepts h node _ _)
  intro id
  apply Accepts.bind (optionalVector_accepts _ node "parameters" _ _)
  intro parameters
  apply Accepts.bind (checkParameterNames_accepts h _ _ [] parameters)
  intro _
  exact .bind (requireNode_accepts node "components" _ _) fun _ =>
    .bind (requireNode_accepts node "edges" _ _) fun _ => .refl _

/-- One parameter of an instance, known to the template. -/
theorem readParameter_accepts (h : limits.Le limits') (definition : GraphTemplateDefinition)
    (context context' : String) (values : OrderedMap String String)
    (entry : YamlNode × YamlNode) :
    Accepts (readParameter limits definition context values entry)
      (readParameter limits' definition context' values entry) := by
  apply Accepts.bind (.refl _)
  intro text
  apply Accepts.bind (checkedId_accepts h text _ _)
  intro name
  apply Accepts.bind (.refuse fun hunknown => hunknown)
  intro _
  obtain ⟨key, value⟩ := entry
  cases value with
  | scalar value =>
      exact .bind (orInvalid_accepts (enforceStringLimit_accepts h value _ _)) fun _ => .refl _
  | _ => exact .error _ _

theorem optionalEntries_accepts (node : YamlNode) (key context context' : String) :
    Accepts (optionalEntries node key context) (optionalEntries node key context') := by
  apply Accepts.bind (.refl _)
  rintro (_ | child)
  · exact .refl _
  · exact requireMap_accepts child _ _

/-- The parameters of an instance: none unknown, none missing. -/
theorem readTemplateInstanceParameters_accepts (h : limits.Le limits') (node : YamlNode)
    (definition : GraphTemplateDefinition) (context context' : String) :
    Accepts (readTemplateInstanceParameters limits node definition context)
      (readTemplateInstanceParameters limits' node definition context') := by
  apply Accepts.bind (optionalEntries_accepts node "parameters" _ _)
  intro entries
  apply Accepts.bind
  · apply Accepts.foldlM
    exact fun values entry => readParameter_accepts h definition _ _ values entry
  · intro values
    apply Accepts.bind
    · apply Accepts.forM
      exact fun name => .refuse fun hmissing => hmissing
    · exact fun _ => .refl _

/-- The node that an instance of a template stands for. -/
theorem templateExpansion_accepts (h : limits.Le limits')
    (templates : List GraphTemplateDefinition) (node : YamlNode) (context context' : String) :
    Accepts (templateExpansion limits templates node context)
      (templateExpansion limits' templates node context') := by
  apply Accepts.bind (requireMap_accepts node _ _)
  intro _
  apply Accepts.bind (rejectUnknownFields_accepts node _ _ _)
  intro _
  apply Accepts.bind (localIdOf_accepts h node _ _)
  intro instanceId
  apply Accepts.bind (requireString_accepts node "template" _ _)
  intro text
  apply Accepts.bind (checkedId_accepts h text _ _)
  intro templateId
  cases templates.find? fun definition => definition.id = templateId with
  | none => exact .error _ _
  | some definition =>
      apply Accepts.bind (readTemplateInstanceParameters_accepts h node definition _ _)
      intro values
      apply Accepts.bind (.refl _)
      intro components
      apply Accepts.bind (substituteTemplateNode_accepts h values _ _ _)
      intro _
      apply Accepts.bind (.refl _)
      intro edges
      apply Accepts.bind (substituteTemplateNode_accepts h values _ _ _)
      intro _
      apply Accepts.bind (.refl _)
      rintro (_ | loops)
      · exact .refl _
      · apply Accepts.bind _ fun _ => .refl _
        exact .bind (substituteTemplateNode_accepts h values _ _ loops) fun _ => .refl _

/-- An instance is expanded and appended as a subgraph is. -/
theorem appendTemplateInstanceExpansion_accepts (h : limits.Le limits')
    (templates : List GraphTemplateDefinition) (node : YamlNode) (graph : LoadedGraph)
    (context context' : String) :
    Accepts (appendTemplateInstanceExpansion limits library templates node graph context)
      (appendTemplateInstanceExpansion limits' library templates node graph context') :=
  .bind (templateExpansion_accepts h templates node context context') fun expansion =>
    appendSubgraphExpansion_accepts h expansion graph context context'

/-! ## The graph -/

/-- The name, the kind, the config and the clock of the graph. -/
theorem readGraphHeader_accepts (h : limits.Le limits') (root : YamlNode) (graph : LoadedGraph) :
    Accepts (readGraphHeader limits library root graph)
      (readGraphHeader limits' library root graph) := by
  iterate 4
    apply Accepts.bind (.refl _)
    intro _
  apply Accepts.bind (checkedId_accepts h _ _ _)
  intro name
  apply Accepts.bind (.refl _)
  intro kind
  apply Accepts.bind (.refl _)
  intro config
  exact .bind (readConfigNode_accepts h config _ _) fun _ => .refl _

/-- The lanes, counted before they are read. -/
theorem readLanes_accepts (h : limits.Le limits') (root : YamlNode) :
    Accepts (readLanes limits library root) (readLanes limits' library root) := by
  iterate 2
    apply Accepts.bind (.refl _)
    intro _
  apply Accepts.bind (enforceLimit_accepts h.lanes _ _)
  intro _
  exact .mapM (readLane_accepts h) _

theorem readComponent_accepts (h : limits.Le limits') (context context' : String)
    (node : YamlNode) :
    Accepts (readComponent limits library context node)
      (readComponent limits' library context' node) :=
  .bind (localIdOf_accepts h node _ _) fun id => readComponentNode_accepts h node id _ _

theorem readEdge_accepts (h : limits.Le limits') (context context' : String) (node : YamlNode) :
    Accepts (readEdge limits library context node) (readEdge limits' library context' node) :=
  .bind (localIdOf_accepts h node _ _) fun id => readEdgeNode_accepts h node id _ _

/-- The components, counted before they are read. -/
theorem readComponents_accepts (h : limits.Le limits') (root : YamlNode) :
    Accepts (readComponents limits library root) (readComponents limits' library root) := by
  iterate 2
    apply Accepts.bind (.refl _)
    intro _
  exact .bind (enforceLimit_accepts h.components _ _) fun _ =>
    readEach_accepts (readComponent_accepts h) _ _ _

/-- The edges, counted before they are read. -/
theorem readEdges_accepts (h : limits.Le limits') (root : YamlNode) :
    Accepts (readEdges limits library root) (readEdges limits' library root) := by
  iterate 2
    apply Accepts.bind (.refl _)
    intro _
  exact .bind (enforceLimit_accepts h.edges _ _) fun _ =>
    readEach_accepts (readEdge_accepts h) _ _ _

theorem countedSequence_accepts (root : YamlNode) (key : String) {limit limit' : Nat}
    (h : limit ≤ limit') :
    Accepts (countedSequence root key limit) (countedSequence root key limit') :=
  .bind (.refl _) fun _ => .bind (enforceLimit_accepts h _ _) fun _ => .refl _

/-- The composite loops, counted before they are read. -/
theorem readLoops_accepts (h : limits.Le limits') (root : YamlNode) :
    Accepts (readLoops limits library root) (readLoops limits' library root) :=
  .bind (countedSequence_accepts root _ h.compositeLoops) fun items =>
    readEach_accepts (fun _ _ node => readCompositeLoop_accepts h node _ _) _ _ items

/-- The subgraphs and instances in their order, no id twice. -/
theorem appendSubgraphs_accepts (h : limits.Le limits') (seen : List String)
    (items : List (YamlNode × Nat)) (graph : LoadedGraph) :
    Accepts (appendSubgraphs limits library seen items graph)
      (appendSubgraphs limits' library seen items graph) := by
  induction items generalizing seen graph with
  | nil => exact .refl _
  | cons item rest ih =>
      apply Accepts.bind (localIdOf_accepts h item.1 _ _)
      intro id
      apply Accepts.bind (.refl _)
      intro _
      exact .bind (appendSubgraphExpansion_accepts h item.1 graph _ _) fun graph' => ih _ graph'

/-- The templates in their order. -/
theorem readTemplates_accepts (h : limits.Le limits') (templates : List GraphTemplateDefinition)
    (items : List (YamlNode × Nat)) :
    Accepts (readTemplates limits templates items) (readTemplates limits' templates items) := by
  induction items generalizing templates with
  | nil => exact .refl _
  | cons item rest ih =>
      apply Accepts.bind (readGraphTemplate_accepts h _ _ item.1)
      intro definition
      exact .bind (.refl _) fun _ => ih _

/-- The counts again, now of what the subgraphs have added. -/
theorem enforceExpandedCounts_accepts (h : limits.Le limits') (graph : LoadedGraph) :
    Accepts (enforceExpandedCounts limits graph) (enforceExpandedCounts limits' graph) :=
  .bind (enforceLimit_accepts h.components _ _) fun _ =>
    .bind (enforceLimit_accepts h.edges _ _) fun _ => enforceLimit_accepts h.compositeLoops _ _

/-- The document is read in the same order under all limits. -/
theorem loadGraphNode_accepts (h : limits.Le limits') (root : YamlNode) :
    Accepts (loadGraphNode limits library root) (loadGraphNode limits' library root) := by
  iterate 5
    apply Accepts.bind (.refl _)
    intro _
  apply Accepts.bind (readGraphHeader_accepts h root _)
  intro graph
  apply Accepts.bind (readLanes_accepts h root)
  intro lanes
  apply Accepts.bind (readComponents_accepts h root)
  intro components
  apply Accepts.bind (readEdges_accepts h root)
  intro edges
  apply Accepts.bind (readLoops_accepts h root)
  intro compositeLoops
  apply Accepts.bind (countedSequence_accepts root _ h.components)
  intro subgraphs
  apply Accepts.bind (appendSubgraphs_accepts h [] _ _)
  intro expanded
  apply Accepts.bind (countedSequence_accepts root _ h.components)
  intro templateNodes
  apply Accepts.bind (readTemplates_accepts h [] _)
  intro templates
  apply Accepts.bind (countedSequence_accepts root _ h.components)
  intro instances
  apply Accepts.bind
  · apply Accepts.foldlM
    exact fun graph item => appendTemplateInstanceExpansion_accepts h templates item.1 graph _ _
  · intro graph'
    exact .bind (enforceExpandedCounts_accepts h graph') fun _ => .refl _

/-! ## Texts -/

/-- The texts of a config that was read. -/
theorem enforceConfigViewStringLimits_accepts (h : limits.Le limits') (config : ConfigView)
    (context : String) :
    Accepts (enforceConfigViewStringLimits limits config context)
      (enforceConfigViewStringLimits limits' config context) := by
  apply Accepts.forM
  intro entry
  exact .bind (enforceLimit_accepts h.identifierBytes _ _) fun _ =>
    enforceLimit_accepts h.configValueBytes _ _

/-- The texts of a lane. -/
theorem enforceLaneStringLimits_accepts (h : limits.Le limits') (lane : LoadedLane) :
    Accepts (enforceLaneStringLimits limits lane) (enforceLaneStringLimits limits' lane) := by
  apply Accepts.bind (identifierLimit_accepts h _ _ _)
  intro _
  iterate 6
    apply Accepts.bind (stringLimit_accepts h _ _ _)
    intro _
  exact stringLimit_accepts h _ _ _

/-- The texts of a component. -/
theorem enforceComponentStringLimits_accepts (h : limits.Le limits')
    (component : LoadedComponent) :
    Accepts (enforceComponentStringLimits limits component)
      (enforceComponentStringLimits limits' component) := by
  apply Accepts.bind (identifierLimit_accepts h _ _ _)
  intro _
  iterate 3
    apply Accepts.bind (stringLimit_accepts h _ _ _)
    intro _
  apply Accepts.bind (enforceConfigViewStringLimits_accepts h _ _)
  intro _
  apply Accepts.bind (.forM (fun _ => identifierLimit_accepts h _ _ _) _)
  intro _
  apply Accepts.bind
  · apply Accepts.forM
    intro source
    iterate 3
      apply Accepts.bind (stringLimit_accepts h _ _ _)
      intro _
    exact .forM (fun _ => stringLimit_accepts h _ _ _) _
  intro _
  iterate 3
    apply Accepts.bind (stringLimit_accepts h _ _ _)
    intro _
  apply Accepts.bind (.forM (fun _ => stringLimit_accepts h _ _ _) _)
  intro _
  apply Accepts.bind (identifierLimit_accepts h _ _ _)
  intro _
  exact .bind (stringLimit_accepts h _ _ _) fun _ => stringLimit_accepts h _ _ _

/-- The texts of an edge. -/
theorem enforceEdgeStringLimits_accepts (h : limits.Le limits') (edge : LoadedEdge) :
    Accepts (enforceEdgeStringLimits limits edge) (enforceEdgeStringLimits limits' edge) := by
  apply Accepts.bind (identifierLimit_accepts h _ _ _)
  intro _
  iterate 8
    apply Accepts.bind (stringLimit_accepts h _ _ _)
    intro _
  exact stringLimit_accepts h _ _ _

/-- The texts of a composite loop. -/
theorem enforceLoopStringLimits_accepts (h : limits.Le limits') (loop : LoadedLoop) :
    Accepts (enforceLoopStringLimits limits loop) (enforceLoopStringLimits limits' loop) := by
  apply Accepts.bind (identifierLimit_accepts h _ _ _)
  intro _
  apply Accepts.bind (.forM (fun _ => identifierLimit_accepts h _ _ _) _)
  intro _
  iterate 3
    apply Accepts.bind (stringLimit_accepts h _ _ _)
    intro _
  exact stringLimit_accepts h _ _ _

/-- The texts of an entry of the hierarchy. -/
theorem enforceHierarchyStringLimits_accepts (h : limits.Le limits')
    (entry : GraphHierarchyEntry) :
    Accepts (enforceHierarchyStringLimits limits entry)
      (enforceHierarchyStringLimits limits' entry) := by
  apply Accepts.bind (identifierLimit_accepts h _ _ _)
  intro _
  iterate 2
    apply Accepts.bind (.forM (fun _ => identifierLimit_accepts h _ _ _) _)
    intro _
  exact .forM (fun _ => identifierLimit_accepts h _ _ _) _

/-- All texts of the graph, those of its expansions included. -/
theorem enforceGraphStringLimits_accepts (h : limits.Le limits') (graph : LoadedGraph) :
    Accepts (enforceGraphStringLimits limits graph) (enforceGraphStringLimits limits' graph) := by
  apply Accepts.bind (identifierLimit_accepts h _ _ _)
  intro _
  iterate 3
    apply Accepts.bind (stringLimit_accepts h _ _ _)
    intro _
  apply Accepts.bind (enforceConfigViewStringLimits_accepts h _ _)
  intro _
  apply Accepts.bind (.forM (enforceLaneStringLimits_accepts h) _)
  intro _
  apply Accepts.bind (.forM (enforceComponentStringLimits_accepts h) _)
  intro _
  apply Accepts.bind (.forM (enforceEdgeStringLimits_accepts h) _)
  intro _
  exact .bind (.forM (enforceLoopStringLimits_accepts h) _) fun _ =>
    .forM (enforceHierarchyStringLimits_accepts h) _

end GraphIo

end TopoExec
