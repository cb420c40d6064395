import TopoExec.Loader.Fields
import TopoExec.Loader.Limits

/-! # Flat documents

What a document with subgraphs and template instances means is a document without them:
the components, edges and composite loops of every subgraph stand at the top, each name
of a subgraph with the id of the subgraph and a dot before it. `flattenDocument` writes
that document, and `loadGraphNode_flatten` says that it loads to the same graph.
-/

namespace TopoExec

open Check YamlNode

namespace GraphIo

variable {limits : LoaderLimits} {library : YamlLibrary}

/-! ## The flat document -/

/-- A name of a subgraph, as a name of the graph. -/
def qualify (namespaceId : String) (node : YamlNode) : YamlNode :=
  match node.asString with
  | .ok text => .scalar (endpointOf namespaceId text)
  | .error _ => node

def qualifyItems (namespaceId : String) : YamlNode → YamlNode
  | .sequence items => .sequence (items.map (qualify namespaceId))
  | node => node

def flattenComponent (namespaceId : String) (node : YamlNode) : YamlNode :=
  (node.modify "id" (qualify namespaceId)).modify "depends_on" (qualifyItems namespaceId)

def flattenEdge (namespaceId : String) (node : YamlNode) : YamlNode :=
  ((node.modify "id" (qualify namespaceId)).modify "from" (qualify namespaceId)).modify "to"
    (qualify namespaceId)

def flattenLoop (namespaceId : String) (node : YamlNode) : YamlNode :=
  (node.modify "id" (qualify namespaceId)).modify "components" (qualifyItems namespaceId)

/-- The elements of a list of subgraphs under a key, each one flattened. -/
def flattenItems (flatten : String → YamlNode → YamlNode) (key : String)
    (subgraphs : List YamlNode) : List YamlNode :=
  subgraphs.flatMap fun subgraph =>
    (subgraph.itemsOf key).map (flatten (subgraph.textOf "id"))

/-- The elements of the document under a key, followed by those of the subgraphs. -/
def flatSequence (flatten : String → YamlNode → YamlNode) (key : String) (root : YamlNode)
    (subgraphs : List YamlNode) : YamlNode :=
  .sequence (root.itemsOf key ++ flattenItems flatten key subgraphs)

def flattenDocument (root : YamlNode) (subgraphs : List YamlNode) : YamlNode :=
  match root with
  | .map entries =>
      .map (assign "composite_loops" (flatSequence flattenLoop "composite_loops" root subgraphs)
        (assign "edges" (flatSequence flattenEdge "edges" root subgraphs)
          (assign "components" (flatSequence flattenComponent "components" root subgraphs)
            (without ["subgraphs", "templates", "template_instances"] entries))))
  | node => node

/-- The subgraphs of a document, and those that its template instances stand for. -/
def documentSubgraphs (limits : LoaderLimits) (root : YamlNode) :
    Except LoadError (List YamlNode) := do
  let subgraphs ← countedSequence root "subgraphs" limits.maxComponents
  let templateNodes ← countedSequence root "templates" limits.maxComponents
  let templates ← readTemplates limits [] templateNodes.zipIdx
  let instances ← countedSequence root "template_instances" limits.maxComponents
  let expansions ← instances.zipIdx.mapM fun item =>
    templateExpansion limits templates item.1 (atIndex "template_instances" item.2)
  return subgraphs ++ expansions

/-! ## Names -/

/-- An id passes when it is not empty and not too long. -/
theorem checkedId_eq_ok {value context result : String} :
    checkedId limits value context = .ok result ↔
      result = value ∧ value ≠ "" ∧ value.utf8ByteSize ≤ limits.maxIdentifierBytes := by
  unfold checkedId checkedIdentifier
  rw [orInvalid_eq_ok, bind_eq_ok]
  constructor
  · rintro ⟨_, hlimit, hvalue⟩
    cases hvalue
    exact ⟨rfl, (enforceIdentifierLimit_eq_ok_iff _ _ _).mp hlimit⟩
  · rintro ⟨rfl, hlimit⟩
    exact ⟨(), (enforceIdentifierLimit_eq_ok_iff _ _ _).mpr hlimit, rfl⟩

/-- The id of an expanded node passes the check that an id of a flat document must pass. -/
theorem prefixedIdentifier_eq_ok {namespaceId localId context result : String}
    (h : prefixedIdentifier limits namespaceId localId context = .ok result) :
    result = endpointOf namespaceId localId ∧
      ∀ context', checkedId limits result context' = .ok result := by
  have hid : checkedId limits (endpointOf namespaceId localId) context = .ok result := h
  obtain ⟨rfl, hlimit⟩ := checkedId_eq_ok.mp hid
  exact ⟨rfl, fun _ => checkedId_eq_ok.mpr ⟨rfl, hlimit⟩⟩

/-- A port of a component of an instance is named the same from outside and from inside. -/
theorem endpointOf_assoc (namespaceId component port : String) :
    endpointOf (endpointOf namespaceId component) port =
      endpointOf namespaceId (endpointOf component port) := by
  simp only [endpointOf, String.append_assoc]

/-- An endpoint gets the namespace before it, whether it has a port or not. -/
theorem namespacedEndpoint_eq_ok {namespaceId endpoint context result : String}
    (h : namespacedEndpoint limits namespaceId endpoint context = .ok result) :
    result = endpointOf namespaceId endpoint := by
  have hresult := namespaceEndpoint_eq (orInvalid_eq_ok.mp h)
  by_cases hdot : '.' ∈ endpoint.toList
  · rw [if_pos hdot, endpointOf_assoc, endpointOf_parsed hdot] at hresult
    exact hresult
  · rw [if_neg hdot] at hresult
    exact hresult

/-- The members of an expanded loop are those of the loop, prefixed. -/
theorem namespacedRefs_eq_ok {namespaceId context : String} {localIds result : List String}
    (h : namespacedRefs limits namespaceId localIds context = .ok result) :
    result = localIds.map (endpointOf namespaceId) := by
  have hrefs := orInvalid_eq_ok.mp h
  unfold namespaceComponentRefs at hrefs
  clear h
  induction localIds generalizing result with
  | nil =>
      cases hrefs
      rfl
  | cons localId rest ih =>
      rw [List.mapM_cons] at hrefs
      obtain ⟨name, hname, hrefs⟩ := bind_eq_ok.mp hrefs
      obtain ⟨names, hnames, hrefs⟩ := bind_eq_ok.mp hrefs
      obtain ⟨-, -, hname⟩ := bind_eq_ok.mp hname
      obtain ⟨-, -, hname⟩ := bind_eq_ok.mp hname
      cases hname
      cases hrefs
      rw [ih hnames, List.map_cons, endpointOf]

/-- A qualified scalar reads as the prefixed text. -/
theorem qualify_ok {node : YamlNode} {text : String} (namespaceId : String)
    (h : node.asString = .ok text) :
    qualify namespaceId node = .scalar (endpointOf namespaceId text) := by
  unfold qualify
  rw [h]

/-- The text under a key, read from the flat node. -/
theorem requireString_qualified {node : YamlNode} {key context text : String}
    (namespaceId context' : String) (h : requireString node key context = .ok text) :
    requireString (node.modify key (qualify namespaceId)) key context' =
      .ok (endpointOf namespaceId text) := by
  obtain ⟨child, hchild, htext⟩ := bind_eq_ok.mp h
  have hqualified := qualify_ok namespaceId htext
  have hfield := field_modify (requireNode_eq_ok.mp hchild)
    (show qualify namespaceId child ≠ .null by simp [hqualified])
  unfold requireString
  refine bind_eq_ok.mpr ⟨_, requireNode_eq_ok.mpr hfield, ?_⟩
  rw [hqualified]
  rfl

/-- A qualified list reads as the prefixed texts. -/
theorem mapM_qualify {items : List YamlNode} {values : List String} (namespaceId : String)
    (h : items.mapM YamlNode.asString = .ok values) :
    (items.map (qualify namespaceId)).mapM YamlNode.asString =
      .ok (values.map (endpointOf namespaceId)) := by
  induction items generalizing values with
  | nil =>
      cases h
      rfl
  | cons item rest ih =>
      rw [List.mapM_cons] at h
      obtain ⟨value, hvalue, h⟩ := bind_eq_ok.mp h
      obtain ⟨tail, htail, h⟩ := bind_eq_ok.mp h
      cases h
      rw [List.map_cons, List.mapM_cons, qualify_ok namespaceId hvalue]
      exact bind_eq_ok.mpr ⟨_, rfl, bind_eq_ok.mpr ⟨_, ih htail, rfl⟩⟩

/-- The names under a key, read from the flat node. -/
theorem optionalStringVector_qualified {node : YamlNode} {key context : String}
    {values : List String} (namespaceId context' : String)
    (h : optionalStringVector node key context = .ok values) :
    optionalStringVector (node.modify key (qualifyItems namespaceId)) key context' =
      .ok (values.map (endpointOf namespaceId)) := by
  obtain ⟨given, hgiven, h⟩ := bind_eq_ok.mp h
  unfold optionalStringVector optionalVector
  cases given with
  | none =>
      cases h
      exact bind_eq_ok.mpr ⟨none, field_modify_none hgiven rfl, rfl⟩
  | some child =>
      obtain ⟨items, hitems, h⟩ := bind_eq_ok.mp h
      have hsequence := requireSequence_eq_ok.mp hitems
      subst hsequence
      refine bind_eq_ok.mpr ⟨_, field_modify hgiven (by simp [qualifyItems]), ?_⟩
      exact bind_eq_ok.mpr ⟨_, rfl, mapM_qualify namespaceId h⟩

/-! ## Components, edges and loops -/

/-- The other fields of a component stay as they are. -/
theorem field_flattenComponent (namespaceId : String) (node : YamlNode) {key : String}
    (hid : key ≠ "id") (hdepends : key ≠ "depends_on") :
    (flattenComponent namespaceId node).field key = node.field key := by
  unfold flattenComponent
  rw [field_modify_of_ne hdepends, field_modify_of_ne hid]

/-- The other fields of an edge stay as they are. -/
theorem field_flattenEdge (namespaceId : String) (node : YamlNode) {key : String}
    (hid : key ≠ "id") (hfrom : key ≠ "from") (hto : key ≠ "to") :
    (flattenEdge namespaceId node).field key = node.field key := by
  unfold flattenEdge
  rw [field_modify_of_ne hto, field_modify_of_ne hfrom, field_modify_of_ne hid]

/-- A map stays a map when one of its values changes. -/
theorem isMap_modify (key : String) (f : YamlNode → YamlNode) {node : YamlNode}
    {entries : List (YamlNode × YamlNode)} {context : String}
    (h : requireMap node context = .ok entries) (context' : String) :
    ∃ entries', requireMap (node.modify key f) context' = .ok entries' := by
  rw [requireMap_eq_ok] at h
  subst h
  exact ⟨_, rfl⟩

/-- The flat node of a component reads as the component under its new name. -/
theorem readComponentNode_flatten {node : YamlNode} {componentId context : String}
    {component : LoadedComponent} (namespaceId context' : String)
    (h : readComponentNode limits library node componentId context = .ok component) :
    readComponentNode limits library (flattenComponent namespaceId node) componentId context' =
      .ok { component with dependsOn := component.dependsOn.map (endpointOf namespaceId) } := by
  replace h := readComponentNode_accepts (.refl limits) node componentId context context' _ h
  have hsame := fun key => @field_flattenComponent namespaceId node key
  unfold readComponentNode at h ⊢
  -- the reads of the local node, in the order in which they are made
  obtain ⟨entries, hmap, h⟩ := bind_eq_ok.mp h
  obtain ⟨id, hid, h⟩ := bind_eq_ok.mp h
  obtain ⟨_, hfields, h⟩ := bind_eq_ok.mp h
  obtain ⟨type, htype, h⟩ := bind_eq_ok.mp h
  obtain ⟨sources, hsources, h⟩ := bind_eq_ok.mp h
  obtain ⟨trigger, htrigger, h⟩ := bind_eq_ok.mp h
  obtain ⟨execution, hexecution, h⟩ := bind_eq_ok.mp h
  obtain ⟨dependsOn, hdependsOn, h⟩ := bind_eq_ok.mp h
  obtain ⟨boundary, hboundary, h⟩ := bind_eq_ok.mp h
  obtain ⟨given, hgiven, h⟩ := bind_eq_ok.mp h
  obtain ⟨config, hconfig, h⟩ := bind_eq_ok.mp h
  cases h
  obtain ⟨entries', hmap'⟩ := isMap_modify "id" (qualify namespaceId) hmap context'
  obtain ⟨entries'', hmap''⟩ :=
    isMap_modify "depends_on" (qualifyItems namespaceId) hmap' context'
  refine bind_eq_ok.mpr ⟨entries'', hmap'', bind_eq_ok.mpr ⟨id, hid, ?_⟩⟩
  refine bind_eq_ok.mpr
    ⟨(), rejectUnknownFields_modify (rejectUnknownFields_modify hfields), ?_⟩
  rw [requireString_congr (hsame "type" (by decide) (by decide))]
  refine bind_eq_ok.mpr ⟨type, htype, ?_⟩
  -- none of these fields is changed
  have hsources' : readEventSources library (flattenComponent namespaceId node) id =
      .ok sources := by
    unfold readEventSources at hsources ⊢
    rw [hsame "event_sources" (by decide) (by decide)]
    exact hsources
  have htrigger' : readTriggerPolicy library (flattenComponent namespaceId node) id =
      .ok trigger := by
    unfold readTriggerPolicy at htrigger ⊢
    rw [hsame "trigger_policy" (by decide) (by decide)]
    exact htrigger
  have hexecution' : readExecutionSpec library (flattenComponent namespaceId node) id =
      .ok execution := by
    unfold readExecutionSpec at hexecution ⊢
    rw [requireNode_congr (hsame "execution" (by decide) (by decide))]
    exact hexecution
  have hboundary' : readBoundaryDescriptor (flattenComponent namespaceId node) id =
      .ok boundary := by
    unfold readBoundaryDescriptor at hboundary ⊢
    rw [hsame "boundary" (by decide) (by decide)]
    exact hboundary
  -- the dependencies are read from the field that was changed last
  have hdependsOn' : optionalStringVector (node.modify "id" (qualify namespaceId)) "depends_on"
      ("components." ++ id) = .ok dependsOn := by
    unfold optionalStringVector optionalVector at hdependsOn ⊢
    rw [field_modify_of_ne (by decide)]
    exact hdependsOn
  refine bind_eq_ok.mpr ⟨sources, hsources', bind_eq_ok.mpr ⟨trigger, htrigger', ?_⟩⟩
  refine bind_eq_ok.mpr ⟨execution, hexecution', bind_eq_ok.mpr ⟨_,
    optionalStringVector_qualified namespaceId _ hdependsOn', ?_⟩⟩
  rw [hsame "config" (by decide) (by decide)]
  exact bind_eq_ok.mpr ⟨boundary, hboundary', bind_eq_ok.mpr ⟨given, hgiven,
    bind_eq_ok.mpr ⟨config, hconfig, rfl⟩⟩⟩

/-- The id of a flat node. -/
theorem localIdOf_flatten {node flat : YamlNode} {namespaceId context localId id : String}
    (hlocal : localIdOf limits node context = .ok localId)
    (hid : prefixedIdentifier limits namespaceId localId (context ++ ".id") = .ok id)
    (hflat : flat.field "id" = (node.modify "id" (qualify namespaceId)).field "id")
    (context' : String) : localIdOf limits flat context' = .ok id := by
  obtain ⟨text, htext, hchecked⟩ := bind_eq_ok.mp hlocal
  obtain ⟨rfl, -⟩ := checkedId_eq_ok.mp hchecked
  obtain ⟨rfl, hbounded⟩ := prefixedIdentifier_eq_ok hid
  refine bind_eq_ok.mpr ⟨_, ?_, hbounded _⟩
  rw [requireString_congr hflat]
  exact requireString_qualified namespaceId context' htext

/-- A component of the flat document is the one that the expansion adds. -/
theorem readComponent_flatten {node : YamlNode} {namespaceId context : String}
    {component : LoadedComponent}
    (h : expandComponentNode limits library namespaceId context node = .ok component)
    (context' : String) :
    readComponent limits library context' (flattenComponent namespaceId node) = .ok component := by
  obtain ⟨localId, hlocal, h⟩ := bind_eq_ok.mp h
  obtain ⟨id, hid, h⟩ := bind_eq_ok.mp h
  obtain ⟨read, hread, h⟩ := bind_eq_ok.mp h
  obtain ⟨dependsOn, hdependsOn, h⟩ := bind_eq_ok.mp h
  cases h
  have hrefs := namespacedRefs_eq_ok hdependsOn
  subst hrefs
  have hflat : (flattenComponent namespaceId node).field "id" =
      (node.modify "id" (qualify namespaceId)).field "id" := field_modify_of_ne (by decide) _ _
  exact bind_eq_ok.mpr ⟨id, localIdOf_flatten hlocal hid hflat context',
    readComponentNode_flatten namespaceId context' hread⟩

/-- The flat node of an edge reads as the edge under its new names. -/
theorem readEdgeNode_flatten {node : YamlNode} {edgeId context : String} {edge : LoadedEdge}
    (namespaceId context' : String)
    (h : readEdgeNode limits library node edgeId context = .ok edge) :
    readEdgeNode limits library (flattenEdge namespaceId node) edgeId context' =
      .ok { edge with
        fromEndpoint := endpointOf namespaceId edge.fromEndpoint
        toEndpoint := endpointOf namespaceId edge.toEndpoint } := by
  replace h := readEdgeNode_accepts (.refl limits) node edgeId context context' _ h
  unfold readEdgeNode at h ⊢
  obtain ⟨entries, hmap, h⟩ := bind_eq_ok.mp h
  obtain ⟨id, hid, h⟩ := bind_eq_ok.mp h
  obtain ⟨_, hfields, h⟩ := bind_eq_ok.mp h
  obtain ⟨fromEndpoint, hfrom, h⟩ := bind_eq_ok.mp h
  obtain ⟨toEndpoint, hto, h⟩ := bind_eq_ok.mp h
  obtain ⟨given, hgiven, h⟩ := bind_eq_ok.mp h
  obtain ⟨kind, hkind, h⟩ := bind_eq_ok.mp h
  obtain ⟨policy, hpolicy, h⟩ := bind_eq_ok.mp h
  cases h
  obtain ⟨_, hmap⟩ := isMap_modify "id" (qualify namespaceId) hmap context'
  obtain ⟨_, hmap⟩ := isMap_modify "from" (qualify namespaceId) hmap context'
  obtain ⟨_, hmap⟩ := isMap_modify "to" (qualify namespaceId) hmap context'
  -- both endpoints come out qualified
  have hfrom' : requireString (flattenEdge namespaceId node) "from" ("edges." ++ id) =
      .ok (endpointOf namespaceId fromEndpoint) := by
    unfold flattenEdge
    rw [requireString_congr (field_modify_of_ne (by decide) _ _)]
    have hfrom : requireString (node.modify "id" (qualify namespaceId)) "from" ("edges." ++ id) =
        .ok fromEndpoint := by
      rw [requireString_congr (field_modify_of_ne (by decide) _ _)]
      exact hfrom
    exact requireString_qualified namespaceId _ hfrom
  have hto' : requireString (flattenEdge namespaceId node) "to" ("edges." ++ id) =
      .ok (endpointOf namespaceId toEndpoint) := by
    have hto : requireString ((node.modify "id" (qualify namespaceId)).modify "from"
        (qualify namespaceId)) "to" ("edges." ++ id) = .ok toEndpoint := by
      rw [requireString_congr (field_modify_of_ne (by decide) _ _),
        requireString_congr (field_modify_of_ne (by decide) _ _)]
      exact hto
    exact requireString_qualified namespaceId _ hto
  have hpolicy' : readEdgePolicy library (flattenEdge namespaceId node) id = .ok policy := by
    unfold readEdgePolicy at hpolicy ⊢
    rw [field_flattenEdge namespaceId node (by decide) (by decide) (by decide)]
    exact hpolicy
  refine bind_eq_ok.mpr ⟨_, hmap, bind_eq_ok.mpr ⟨id, hid, ?_⟩⟩
  refine bind_eq_ok.mpr ⟨(), rejectUnknownFields_modify (rejectUnknownFields_modify
    (rejectUnknownFields_modify hfields)), ?_⟩
  refine bind_eq_ok.mpr ⟨_, hfrom', bind_eq_ok.mpr ⟨_, hto', ?_⟩⟩
  rw [field_flattenEdge namespaceId node (by decide) (by decide) (by decide)]
  exact bind_eq_ok.mpr ⟨given, hgiven, bind_eq_ok.mpr ⟨kind, hkind,
    bind_eq_ok.mpr ⟨policy, hpolicy', rfl⟩⟩⟩

/-- An edge of the flat document is the one that the expansion adds. -/
theorem readEdge_flatten {node : YamlNode} {namespaceId context : String} {edge : LoadedEdge}
    (h : expandEdgeNode limits library namespaceId context node = .ok edge) (context' : String) :
    readEdge limits library context' (flattenEdge namespaceId node) = .ok edge := by
  obtain ⟨localId, hlocal, h⟩ := bind_eq_ok.mp h
  obtain ⟨id, hid, h⟩ := bind_eq_ok.mp h
  obtain ⟨read, hread, h⟩ := bind_eq_ok.mp h
  obtain ⟨fromEndpoint, hfrom, h⟩ := bind_eq_ok.mp h
  obtain ⟨toEndpoint, hto, h⟩ := bind_eq_ok.mp h
  cases h
  rw [namespacedEndpoint_eq_ok hfrom, namespacedEndpoint_eq_ok hto]
  have hflat : (flattenEdge namespaceId node).field "id" =
      (node.modify "id" (qualify namespaceId)).field "id" := by
    unfold flattenEdge
    rw [field_modify_of_ne (by decide), field_modify_of_ne (by decide)]
  exact bind_eq_ok.mpr ⟨id, localIdOf_flatten hlocal hid hflat context',
    readEdgeNode_flatten namespaceId context' hread⟩

/-- A loop of the flat document is the one that the expansion adds. -/
theorem readLoop_flatten {node : YamlNode} {namespaceId context : String} {loop : LoadedLoop}
    (h : expandLoopNode limits library namespaceId context node = .ok loop) (context' : String) :
    readCompositeLoop limits library (flattenLoop namespaceId node) context' = .ok loop := by
  obtain ⟨read, hread, h⟩ := bind_eq_ok.mp h
  obtain ⟨id, hid, h⟩ := bind_eq_ok.mp h
  obtain ⟨components, hcomponents, h⟩ := bind_eq_ok.mp h
  cases h
  have hrefs := namespacedRefs_eq_ok hcomponents
  subst hrefs
  replace hread := readCompositeLoop_accepts (.refl limits) node context context' _ hread
  unfold readCompositeLoop at hread ⊢
  obtain ⟨_, hmap, hread⟩ := bind_eq_ok.mp hread
  obtain ⟨_, hfields, hread⟩ := bind_eq_ok.mp hread
  obtain ⟨text, htext, hread⟩ := bind_eq_ok.mp hread
  obtain ⟨localId, hlocal, hread⟩ := bind_eq_ok.mp hread
  obtain ⟨names, hnames, hread⟩ := bind_eq_ok.mp hread
  obtain ⟨_, hnonempty, hread⟩ := bind_eq_ok.mp hread
  obtain ⟨policyNode, hpolicyNode, hread⟩ := bind_eq_ok.mp hread
  obtain ⟨policy, hpolicy, hread⟩ := bind_eq_ok.mp hread
  cases hread
  obtain ⟨rfl, -⟩ := checkedId_eq_ok.mp hlocal
  obtain ⟨rfl, hbounded⟩ := prefixedIdentifier_eq_ok hid
  obtain ⟨_, hmap⟩ := isMap_modify "id" (qualify namespaceId) hmap context'
  obtain ⟨_, hmap⟩ := isMap_modify "components" (qualifyItems namespaceId) hmap
    context'
  -- the id and the members come out qualified
  have htext' : requireString (flattenLoop namespaceId node) "id" context' =
      .ok (endpointOf namespaceId localId) := by
    unfold flattenLoop
    rw [requireString_congr (field_modify_of_ne (by decide) _ _)]
    exact requireString_qualified namespaceId context' htext
  have hnames' : optionalStringVector (node.modify "id" (qualify namespaceId)) "components"
      context' = .ok names := by
    unfold optionalStringVector optionalVector at hnames ⊢
    rw [field_modify_of_ne (by decide)]
    exact hnames
  have hpolicyNode' : requireNode (flattenLoop namespaceId node) "loop_policy" context' =
      .ok policyNode := by
    unfold flattenLoop
    rw [requireNode_congr (field_modify_of_ne (by decide) _ _),
      requireNode_congr (field_modify_of_ne (by decide) _ _)]
    exact hpolicyNode
  have hnonempty' : names.map (endpointOf namespaceId) ≠ [] := by
    intro hnil
    exact refuse_eq_ok.mp hnonempty (List.map_eq_nil_iff.mp hnil)
  refine bind_eq_ok.mpr ⟨_, hmap, bind_eq_ok.mpr
    ⟨(), rejectUnknownFields_modify (rejectUnknownFields_modify hfields), ?_⟩⟩
  refine bind_eq_ok.mpr ⟨_, htext', bind_eq_ok.mpr ⟨_, hbounded _, ?_⟩⟩
  refine bind_eq_ok.mpr ⟨_, optionalStringVector_qualified namespaceId context' hnames', ?_⟩
  refine bind_eq_ok.mpr ⟨(), refuse_eq_ok.mpr hnonempty', ?_⟩
  exact bind_eq_ok.mpr ⟨policyNode, hpolicyNode', bind_eq_ok.mpr ⟨policy, hpolicy, rfl⟩⟩

/-! ## Sequences -/

/-- The nodes are read as the values, wherever they stand. -/
def Reads {α : Type} (read : String → YamlNode → Except LoadError α) (nodes : List YamlNode)
    (values : List α) : Prop :=
  List.Forall₂ (fun node value => ∀ context, read context node = .ok value) nodes values

section

variable {α : Type} {read : String → YamlNode → Except LoadError α}

/-- Reading a sequence does not depend on the places of its elements. -/
theorem readEach_eq_ok (hplace : ∀ context context' node,
      Accepts (read context node) (read context' node)) {context : String}
    {nodes : List YamlNode} {values : List α} :
    readEach context nodes read = .ok values ↔ Reads read nodes values := by
  unfold readEach Reads
  rw [mapM_eq_ok]
  -- the place of the first element is arbitrary in the induction
  generalize 0 = index
  induction nodes generalizing index values with
  | nil => simp
  | cons node rest ih =>
      rw [List.zipIdx_cons, List.forall₂_cons_left_iff, List.forall₂_cons_left_iff]
      constructor
      · rintro ⟨value, tail, hvalue, htail, rfl⟩
        exact ⟨value, tail, fun context' => hplace _ context' node value hvalue,
          (ih (index + 1)).mp htail, rfl⟩
      · rintro ⟨value, tail, hvalue, htail, rfl⟩
        exact ⟨value, tail, hvalue _, (ih (index + 1)).mpr htail, rfl⟩

/-- Lists read one after the other read as one. -/
theorem Reads.append {nodes nodes' : List YamlNode} {values values' : List α}
    (h : Reads read nodes values) (h' : Reads read nodes' values') :
    Reads read (nodes ++ nodes') (values ++ values') := by
  induction h with
  | nil => exact h'
  | cons hhead _ ih => exact .cons hhead ih

/-- The elements of one subgraph, flattened. -/
theorem Reads.flatten {expand : String → YamlNode → Except LoadError α}
    {flatten : YamlNode → YamlNode}
    (hflatten : ∀ context node value, expand context node = .ok value →
      ∀ context', read context' (flatten node) = .ok value)
    {nodes : List YamlNode} {values : List α} (h : Reads expand nodes values) :
    Reads read (nodes.map flatten) values := by
  induction h with
  | nil => exact .nil
  | cons hhead _ ih => exact .cons (hflatten "" _ _ (hhead "")) ih

end

/-! ## Subgraphs -/

/-- What a subgraph adds, at whatever place it stands. -/
def Expands (limits : LoaderLimits) (library : YamlLibrary) (node : YamlNode)
    (expansion : Expansion) : Prop :=
  ∃ context, readSubgraph limits library node context = .ok expansion

/-- The text under the id is the id that the loader has read. -/
theorem textOf_localId {node : YamlNode} {context id : String}
    (h : localIdOf limits node context = .ok id) : node.textOf "id" = id := by
  obtain ⟨text, htext, hchecked⟩ := bind_eq_ok.mp h
  obtain ⟨rfl, -⟩ := checkedId_eq_ok.mp hchecked
  obtain ⟨child, hchild, hstring⟩ := bind_eq_ok.mp htext
  have hfield := requireNode_eq_ok.mp hchild
  unfold textOf
  rw [hfield]
  cases child with
  | scalar value =>
      cases hstring
      rfl
  | null =>
      -- a field that is given is not null
      cases node with
      | map entries =>
          simp only [field] at hfield
          split at hfield <;> simp_all
      | _ => cases hfield
  | sequence items => cases hstring
  | map entries => cases hstring

/-- The items under a required key. -/
theorem itemsOf_required {node child : YamlNode} {key context context' : String}
    {items : List YamlNode} (h : requireNode node key context = .ok child)
    (hitems : requireSequence child context' = .ok items) : node.itemsOf key = items := by
  unfold itemsOf
  rw [requireNode_eq_ok.mp h, requireSequence_eq_ok.mp hitems]

/-- The items under an optional key, none when it is absent. -/
theorem itemsOf_optional {node : YamlNode} {key context : String} {items : List YamlNode}
    (h : optionalSequence node key context = .ok items) : node.itemsOf key = items := by
  obtain ⟨given, hgiven, h⟩ := bind_eq_ok.mp h
  unfold itemsOf
  rw [hgiven]
  cases given with
  | none =>
      cases h
      rfl
  | some child => rw [requireSequence_eq_ok.mp h]

/-- A subgraph that is read, with its elements at the top of a document. -/
theorem Expands.flat {node : YamlNode} {expansion : Expansion}
    (h : Expands limits library node expansion) :
    Reads (readComponent limits library)
        ((node.itemsOf "components").map (flattenComponent (node.textOf "id")))
        expansion.components ∧
      Reads (readEdge limits library)
        ((node.itemsOf "edges").map (flattenEdge (node.textOf "id"))) expansion.edges ∧
      Reads (fun context node => readCompositeLoop limits library node context)
        ((node.itemsOf "composite_loops").map (flattenLoop (node.textOf "id")))
        expansion.compositeLoops := by
  obtain ⟨context, h⟩ := h
  obtain ⟨_, -, h⟩ := bind_eq_ok.mp h
  obtain ⟨_, -, h⟩ := bind_eq_ok.mp h
  obtain ⟨id, hid, h⟩ := bind_eq_ok.mp h
  obtain ⟨componentsNode, hcomponentsNode, h⟩ := bind_eq_ok.mp h
  obtain ⟨componentNodes, hcomponentNodes, h⟩ := bind_eq_ok.mp h
  obtain ⟨_, -, h⟩ := bind_eq_ok.mp h
  obtain ⟨components, hcomponents, h⟩ := bind_eq_ok.mp h
  obtain ⟨edgesNode, hedgesNode, h⟩ := bind_eq_ok.mp h
  obtain ⟨edgeNodes, hedgeNodes, h⟩ := bind_eq_ok.mp h
  obtain ⟨edges, hedges, h⟩ := bind_eq_ok.mp h
  obtain ⟨loopNodes, hloopNodes, h⟩ := bind_eq_ok.mp h
  obtain ⟨loops, hloops, h⟩ := bind_eq_ok.mp h
  cases h
  -- the flat nodes are made from the same lists of nodes
  rw [textOf_localId hid, itemsOf_required hcomponentsNode hcomponentNodes,
    itemsOf_required hedgesNode hedgeNodes, itemsOf_optional hloopNodes]
  refine ⟨?_, ?_, ?_⟩
  · have hreads := (readEach_eq_ok fun context context' node =>
      expandComponentNode_accepts (.refl limits) id context context' node).mp hcomponents
    exact hreads.flatten fun _ _ _ hexpand => readComponent_flatten hexpand
  · have hreads := (readEach_eq_ok fun context context' node =>
      expandEdgeNode_accepts (.refl limits) id context context' node).mp hedges
    exact hreads.flatten fun _ _ _ hexpand => readEdge_flatten hexpand
  · have hreads := (readEach_eq_ok fun context context' node =>
      expandLoopNode_accepts (.refl limits) id context context' node).mp hloops
    exact hreads.flatten fun _ _ _ hexpand => readLoop_flatten hexpand

/-- The elements of all the subgraphs under one key. -/
theorem reads_flattenItems {α : Type} {read : String → YamlNode → Except LoadError α}
    {flatten : String → YamlNode → YamlNode} {key : String} {part : Expansion → List α}
    (hone : ∀ node expansion, Expands limits library node expansion →
      Reads read ((node.itemsOf key).map (flatten (node.textOf "id"))) (part expansion))
    {subgraphs : List YamlNode} {expansions : List Expansion}
    (h : List.Forall₂ (Expands limits library) subgraphs expansions) :
    Reads read (flattenItems flatten key subgraphs) (expansions.flatMap part) := by
  induction h with
  | nil => exact .nil
  | cons hhead _ ih =>
      unfold flattenItems at ih ⊢
      rw [List.flatMap_cons, List.flatMap_cons]
      exact (hone _ _ hhead).append ih

/-- What a list of subgraphs makes of a graph. -/
theorem foldl_append (expansions : List Expansion) (graph : LoadedGraph) :
    expansions.foldl LoadedGraph.append graph =
      { graph with
        components := graph.components ++ expansions.flatMap Expansion.components
        edges := graph.edges ++ expansions.flatMap Expansion.edges
        compositeLoops := graph.compositeLoops ++ expansions.flatMap Expansion.compositeLoops
        hierarchy := graph.hierarchy ++ expansions.map Expansion.hierarchy } := by
  induction expansions generalizing graph with
  | nil => simp
  | cons expansion rest ih =>
      rw [List.foldl_cons, ih]
      simp [LoadedGraph.append]

/-- By induction on the subgraphs: each adds its own expansion. -/
theorem appendSubgraphs_expands {seen : List String} {items : List (YamlNode × Nat)}
    {graph graph' : LoadedGraph}
    (h : appendSubgraphs limits library seen items graph = .ok graph') :
    ∃ expansions, List.Forall₂ (Expands limits library) (items.map Prod.fst) expansions ∧
      graph' = expansions.foldl LoadedGraph.append graph := by
  induction items generalizing seen graph with
  | nil =>
      cases h
      exact ⟨[], .nil, rfl⟩
  | cons item rest ih =>
      obtain ⟨id, -, h⟩ := bind_eq_ok.mp h
      obtain ⟨_, -, h⟩ := bind_eq_ok.mp h
      obtain ⟨added, hadded, h⟩ := bind_eq_ok.mp h
      obtain ⟨expansion, hexpansion, hresult⟩ := bind_eq_ok.mp hadded
      cases hresult
      obtain ⟨expansions, hrest, rfl⟩ := ih h
      exact ⟨expansion :: expansions, .cons ⟨_, hexpansion⟩ hrest, rfl⟩

/-- The instances, as the subgraphs that they stand for. -/
theorem appendInstances_expands {templates : List GraphTemplateDefinition}
    {items : List (YamlNode × Nat)} {graph graph' : LoadedGraph}
    (h : items.foldlM (fun graph item =>
      appendTemplateInstanceExpansion limits library templates item.1 graph
        (atIndex "template_instances" item.2)) graph = .ok graph') :
    ∃ nodes expansions,
      items.mapM (fun item => templateExpansion limits templates item.1
        (atIndex "template_instances" item.2)) = .ok nodes ∧
      List.Forall₂ (Expands limits library) nodes expansions ∧
      graph' = expansions.foldl LoadedGraph.append graph := by
  induction items generalizing graph with
  | nil =>
      cases h
      exact ⟨[], [], rfl, .nil, rfl⟩
  | cons item rest ih =>
      rw [List.foldlM_cons] at h
      obtain ⟨added, hadded, h⟩ := bind_eq_ok.mp h
      obtain ⟨node, hnode, hadded⟩ := bind_eq_ok.mp hadded
      obtain ⟨expansion, hexpansion, hresult⟩ := bind_eq_ok.mp hadded
      cases hresult
      obtain ⟨nodes, expansions, hnodes, hrest, rfl⟩ := ih h
      refine ⟨node :: nodes, expansion :: expansions, ?_, .cons ⟨_, hexpansion⟩ hrest, rfl⟩
      rw [List.mapM_cons]
      exact bind_eq_ok.mpr ⟨node, hnode, bind_eq_ok.mpr ⟨nodes, hnodes, rfl⟩⟩

/-! ## The document -/

section

variable (entries : List (YamlNode × YamlNode)) (subgraphs : List YamlNode)

/-- A part of the document that holds no elements of subgraphs. -/
theorem field_flattenDocument {key : String}
    (h : key ∉ ["subgraphs", "templates", "template_instances"]) (hcomponents : key ≠ "components")
    (hedges : key ≠ "edges") (hloops : key ≠ "composite_loops") :
    (flattenDocument (.map entries) subgraphs).field key =
      (YamlNode.map entries).field key := by
  simp only [flattenDocument, field]
  rw [lookup_assign_of_ne hloops, lookup_assign_of_ne hedges, lookup_assign_of_ne hcomponents,
    lookup_without h]

/-- The flat document lists the components of the document and of its subgraphs. -/
theorem field_components :
    (flattenDocument (.map entries) subgraphs).field "components" =
      .ok (some (flatSequence flattenComponent "components" (.map entries) subgraphs)) := by
  simp only [flattenDocument, field]
  rw [lookup_assign_of_ne (by decide), lookup_assign_of_ne (by decide), lookup_assign]
  rfl

/-- The flat document lists the edges of the document and of its subgraphs. -/
theorem field_edges :
    (flattenDocument (.map entries) subgraphs).field "edges" =
      .ok (some (flatSequence flattenEdge "edges" (.map entries) subgraphs)) := by
  simp only [flattenDocument, field]
  rw [lookup_assign_of_ne (by decide), lookup_assign]
  rfl

/-- The flat document lists the loops of the document and of its subgraphs. -/
theorem field_compositeLoops :
    (flattenDocument (.map entries) subgraphs).field "composite_loops" =
      .ok (some (flatSequence flattenLoop "composite_loops" (.map entries) subgraphs)) := by
  simp only [flattenDocument, field]
  rw [lookup_assign]
  rfl

/-- A part that was written out is not there any more. -/
theorem countedSequence_removed {key : String} {limit : Nat}
    (h : key ∈ ["subgraphs", "templates", "template_instances"]) :
    countedSequence (flattenDocument (.map entries) subgraphs) key limit = .ok [] := by
  have hkeys : key ≠ "composite_loops" ∧ key ≠ "edges" ∧ key ≠ "components" := by
    revert h
    simp only [List.mem_cons, List.not_mem_nil, or_false]
    rintro (rfl | rfl | rfl) <;> decide
  have hfield : (flattenDocument (.map entries) subgraphs).field key = .ok none := by
    simp only [flattenDocument, field]
    rw [lookup_assign_of_ne hkeys.1, lookup_assign_of_ne hkeys.2.1,
      lookup_assign_of_ne hkeys.2.2, lookup_without_self h]
  refine bind_eq_ok.mpr ⟨[], bind_eq_ok.mpr ⟨none, hfield, rfl⟩, ?_⟩
  exact bind_eq_ok.mpr ⟨(), refuse_eq_ok.mpr (Nat.not_lt_zero _), rfl⟩

end

/-- Assigning a key adds no other key. -/
theorem mem_assign {key : String} {value : YamlNode} {entries : List (YamlNode × YamlNode)}
    {entry : YamlNode × YamlNode} (h : entry ∈ assign key value entries) :
    entry.1 = .scalar key ∨ ∃ original ∈ entries, original.1 = entry.1 := by
  induction entries with
  | nil =>
      rw [List.mem_singleton.mp h]
      exact Or.inl rfl
  | cons first rest ih =>
      unfold assign at h
      split_ifs at h
      · rcases List.mem_cons.mp h with rfl | hrest
        · exact Or.inr ⟨first, List.mem_cons_self, rfl⟩
        · exact Or.inr ⟨entry, List.mem_cons_of_mem _ hrest, rfl⟩
      · rcases List.mem_cons.mp h with rfl | hrest
        · exact Or.inr ⟨entry, List.mem_cons_self, rfl⟩
        · rcases ih hrest with hkey | ⟨original, horiginal, hkey⟩
          · exact Or.inl hkey
          · exact Or.inr ⟨original, List.mem_cons_of_mem _ horiginal, hkey⟩

/-- The flat document has no other keys than the three that are written. -/
theorem rejectUnknownFields_flattenDocument {entries : List (YamlNode × YamlNode)}
    {context : String} {allowed : List String} (subgraphs : List YamlNode)
    (h : rejectUnknownFields (.map entries) context allowed = .ok ())
    (hallowed : "components" ∈ allowed ∧ "edges" ∈ allowed ∧ "composite_loops" ∈ allowed) :
    rejectUnknownFields (flattenDocument (.map entries) subgraphs) context allowed = .ok () := by
  rw [rejectUnknownFields_eq_ok] at h
  change rejectUnknownFields (.map _) context allowed = .ok ()
  rw [rejectUnknownFields_eq_ok]
  intro entry hentry
  rcases mem_assign hentry with hkey | ⟨second, hsecond, hsame⟩
  · exact ⟨_, hallowed.2.2, by rw [hkey]; rfl⟩
  rw [← hsame]
  rcases mem_assign hsecond with hkey | ⟨third, hthird, hsame⟩
  · exact ⟨_, hallowed.2.1, by rw [hkey]; rfl⟩
  rw [← hsame]
  rcases mem_assign hthird with hkey | ⟨original, horiginal, hsame⟩
  · exact ⟨_, hallowed.1, by rw [hkey]; rfl⟩
  rw [← hsame]
  exact h original (List.mem_of_mem_filter horiginal)

/-- The header is read from parts of the document that stay as they are. -/
theorem readGraphHeader_congr {root root' : YamlNode} (h : root'.field "graph" = root.field "graph")
    (graph : LoadedGraph) :
    readGraphHeader limits library root' graph = readGraphHeader limits library root graph := by
  unfold readGraphHeader
  rw [requireNode_congr h]

/-- The lanes depend on their field only. -/
theorem readLanes_congr {root root' : YamlNode} (h : root'.field "lanes" = root.field "lanes") :
    readLanes limits library root' = readLanes limits library root := by
  unfold readLanes
  rw [requireNode_congr h]

theorem enforceLimit_eq_ok {value limit : Nat} {context : String} :
    enforceLimit value limit context = .ok () ↔ value ≤ limit :=
  refuse_eq_ok.trans Nat.not_lt

/-- The elements of the document followed by those of its subgraphs. -/
theorem readEach_flatSequence {α : Type} {read : String → YamlNode → Except LoadError α}
    (hplace : ∀ context context' node, Accepts (read context node) (read context' node))
    {context : String} {nodes : List YamlNode} {values values' : List α}
    (h : readEach context nodes read = .ok values) {flattened : List YamlNode}
    (h' : Reads read flattened values') :
    readEach context (nodes ++ flattened) read = .ok (values ++ values') :=
  (readEach_eq_ok hplace).mpr (((readEach_eq_ok hplace).mp h).append h')

/-- As many values are read as there are nodes. -/
theorem Reads.length_eq {α : Type} {read : String → YamlNode → Except LoadError α}
    {nodes : List YamlNode} {values : List α} (h : Reads read nodes values) :
    nodes.length = values.length := List.Forall₂.length_eq h

/-- The components of the flat document are the loaded ones and those of the expansions. -/
theorem readComponents_flat {entries : List (YamlNode × YamlNode)} {subgraphs : List YamlNode}
    {components added : List LoadedComponent}
    (h : readComponents limits library (.map entries) = .ok components)
    (hadded : Reads (readComponent limits library)
      (flattenItems flattenComponent "components" subgraphs) added)
    (hcount : (components ++ added).length ≤ limits.maxComponents) :
    readComponents limits library (flattenDocument (.map entries) subgraphs) =
      .ok (components ++ added) := by
  obtain ⟨child, hchild, h⟩ := bind_eq_ok.mp h
  obtain ⟨items, hitems, h⟩ := bind_eq_ok.mp h
  obtain ⟨_, -, hread⟩ := bind_eq_ok.mp h
  have hflat := readEach_flatSequence (readComponent_accepts (.refl limits)) hread hadded
  have hlength := ((readEach_eq_ok (readComponent_accepts (.refl limits))).mp hflat).length_eq
  refine bind_eq_ok.mpr ⟨_, requireNode_eq_ok.mpr (field_components entries subgraphs), ?_⟩
  unfold flatSequence
  rw [itemsOf_required hchild hitems]
  refine bind_eq_ok.mpr ⟨_, requireSequence_eq_ok.mpr rfl, ?_⟩
  exact bind_eq_ok.mpr ⟨(), enforceLimit_eq_ok.mpr (hlength ▸ hcount), hflat⟩

/-- The edges of the flat document are the loaded ones and those of the expansions. -/
theorem readEdges_flat {entries : List (YamlNode × YamlNode)} {subgraphs : List YamlNode}
    {edges added : List LoadedEdge} (h : readEdges limits library (.map entries) = .ok edges)
    (hadded : Reads (readEdge limits library) (flattenItems flattenEdge "edges" subgraphs) added)
    (hcount : (edges ++ added).length ≤ limits.maxEdges) :
    readEdges limits library (flattenDocument (.map entries) subgraphs) = .ok (edges ++ added) := by
  obtain ⟨child, hchild, h⟩ := bind_eq_ok.mp h
  obtain ⟨items, hitems, h⟩ := bind_eq_ok.mp h
  obtain ⟨_, -, hread⟩ := bind_eq_ok.mp h
  have hflat := readEach_flatSequence (readEdge_accepts (.refl limits)) hread hadded
  have hlength := ((readEach_eq_ok (readEdge_accepts (.refl limits))).mp hflat).length_eq
  refine bind_eq_ok.mpr ⟨_, requireNode_eq_ok.mpr (field_edges entries subgraphs), ?_⟩
  unfold flatSequence
  rw [itemsOf_required hchild hitems]
  refine bind_eq_ok.mpr ⟨_, requireSequence_eq_ok.mpr rfl, ?_⟩
  exact bind_eq_ok.mpr ⟨(), enforceLimit_eq_ok.mpr (hlength ▸ hcount), hflat⟩

/-- The composite loops may be missing in the document. -/
theorem readLoops_flat {entries : List (YamlNode × YamlNode)} {subgraphs : List YamlNode}
    {loops added : List LoadedLoop} (h : readLoops limits library (.map entries) = .ok loops)
    (hadded : Reads (fun context node => readCompositeLoop limits library node context)
      (flattenItems flattenLoop "composite_loops" subgraphs) added)
    (hcount : (loops ++ added).length ≤ limits.maxCompositeLoops) :
    readLoops limits library (flattenDocument (.map entries) subgraphs) = .ok (loops ++ added) := by
  have hplace : ∀ context context' node, Accepts
      (readCompositeLoop limits library node context)
      (readCompositeLoop limits library node context') :=
    fun context context' node => readCompositeLoop_accepts (.refl limits) node context context'
  obtain ⟨items, hitems, hread⟩ := bind_eq_ok.mp h
  obtain ⟨given, hgiven, hitems⟩ := bind_eq_ok.mp hitems
  obtain ⟨_, -, hresult⟩ := bind_eq_ok.mp hitems
  cases hresult
  have hflat := readEach_flatSequence hplace hread hadded
  have hlength := ((readEach_eq_ok hplace).mp hflat).length_eq
  refine bind_eq_ok.mpr ⟨items ++ flattenItems flattenLoop "composite_loops" subgraphs, ?_, hflat⟩
  refine bind_eq_ok.mpr ⟨items ++ flattenItems flattenLoop "composite_loops" subgraphs, ?_, ?_⟩
  · refine bind_eq_ok.mpr ⟨_, field_compositeLoops entries subgraphs, ?_⟩
    unfold flatSequence
    rw [itemsOf_optional hgiven]
    exact requireSequence_eq_ok.mpr rfl
  · exact bind_eq_ok.mpr ⟨(), enforceLimit_eq_ok.mpr (hlength ▸ hcount), rfl⟩

/-- Nothing of the header is a subgraph, and the version stays. -/
theorem readGraphHeader_keeps {root : YamlNode} {graph header : LoadedGraph}
    (h : readGraphHeader limits library root graph = .ok header) :
    header.hierarchy = graph.hierarchy ∧ header.schemaVersion = graph.schemaVersion := by
  obtain ⟨node, -, h⟩ := bind_eq_ok.mp h
  obtain ⟨_, -, h⟩ := bind_eq_ok.mp h
  obtain ⟨_, -, h⟩ := bind_eq_ok.mp h
  obtain ⟨text, -, h⟩ := bind_eq_ok.mp h
  obtain ⟨name, -, h⟩ := bind_eq_ok.mp h
  obtain ⟨kind, -, h⟩ := bind_eq_ok.mp h
  obtain ⟨given, -, h⟩ := bind_eq_ok.mp h
  obtain ⟨config, -, h⟩ := bind_eq_ok.mp h
  obtain ⟨clock, -, h⟩ := bind_eq_ok.mp h
  cases clock with
  | none =>
      cases h
      exact ⟨rfl, rfl⟩
  | some clock =>
      obtain ⟨_, -, h⟩ := bind_eq_ok.mp h
      obtain ⟨_, -, h⟩ := bind_eq_ok.mp h
      obtain ⟨runtimeDomain, -, h⟩ := bind_eq_ok.mp h
      obtain ⟨eventDomain, -, h⟩ := bind_eq_ok.mp h
      cases h
      exact ⟨rfl, rfl⟩

/-- The parts of a loaded document, with what each one was read from. -/
structure Loading (limits : LoaderLimits) (library : YamlLibrary)
    (entries : List (YamlNode × YamlNode)) (graph : LoadedGraph) where
  versionNode : YamlNode
  header : LoadedGraph
  lanes : List LoadedLane
  components : List LoadedComponent
  edges : List LoadedEdge
  compositeLoops : List LoadedLoop
  subgraphs : List YamlNode
  expansions : List Expansion
  fields : rejectUnknownFields (.map entries) "runtime graph"
    ["schema_version", "graph", "components", "lanes", "edges", "composite_loops", "subgraphs",
      "templates", "template_instances"] = .ok ()
  givenVersion : requireNode (.map entries) "schema_version" "runtime graph" = .ok versionNode
  supported : versionNode.convert library.intOf = .ok kTopoExecSchemaVersion
  readHeader : readGraphHeader limits library (.map entries)
    { schemaVersion := kTopoExecSchemaVersion } = .ok header
  readLanes : readLanes limits library (.map entries) = .ok lanes
  readComponents : readComponents limits library (.map entries) = .ok components
  readEdges : readEdges limits library (.map entries) = .ok edges
  readLoops : readLoops limits library (.map entries) = .ok compositeLoops
  givenSubgraphs : documentSubgraphs limits (.map entries) = .ok subgraphs
  expands : List.Forall₂ (Expands limits library) subgraphs expansions
  result : graph =
    { header with
      lanes := lanes
      components := components ++ expansions.flatMap Expansion.components
      edges := edges ++ expansions.flatMap Expansion.edges
      compositeLoops := compositeLoops ++ expansions.flatMap Expansion.compositeLoops
      hierarchy := expansions.map Expansion.hierarchy }
  counts : enforceExpandedCounts limits graph = .ok ()

/-- A loaded graph was put together step by step. -/
theorem loadGraphNode_loading {root : YamlNode} {graph : LoadedGraph}
    (h : loadGraphNode limits library root = .ok graph) :
    ∃ entries, root = .map entries ∧ Nonempty (Loading limits library entries graph) := by
  unfold loadGraphNode at h
  obtain ⟨entries, hroot, h⟩ := bind_eq_ok.mp h
  obtain rfl := requireMap_eq_ok.mp hroot
  obtain ⟨_, hfields, h⟩ := bind_eq_ok.mp h
  obtain ⟨versionNode, hversionNode, h⟩ := bind_eq_ok.mp h
  obtain ⟨version, hversion, h⟩ := bind_eq_ok.mp h
  obtain ⟨_, hsupported, h⟩ := bind_eq_ok.mp h
  obtain ⟨header, hheader, h⟩ := bind_eq_ok.mp h
  obtain ⟨lanes, hlanes, h⟩ := bind_eq_ok.mp h
  obtain ⟨components, hcomponents, h⟩ := bind_eq_ok.mp h
  obtain ⟨edges, hedges, h⟩ := bind_eq_ok.mp h
  obtain ⟨loops, hloops, h⟩ := bind_eq_ok.mp h
  obtain ⟨subgraphNodes, hsubgraphNodes, h⟩ := bind_eq_ok.mp h
  obtain ⟨withSubgraphs, hsubgraphs, h⟩ := bind_eq_ok.mp h
  obtain ⟨templateNodes, htemplateNodes, h⟩ := bind_eq_ok.mp h
  obtain ⟨templates, htemplates, h⟩ := bind_eq_ok.mp h
  obtain ⟨instanceNodes, hinstanceNodes, h⟩ := bind_eq_ok.mp h
  obtain ⟨expanded, hinstances, h⟩ := bind_eq_ok.mp h
  obtain ⟨_, hcounts, h⟩ := bind_eq_ok.mp h
  cases h
  obtain rfl := not_not.mp (refuse_eq_ok.mp hsupported)
  -- the header has no hierarchy, so what is appended is that of the expansions
  obtain ⟨expansions, hexpansions, rfl⟩ := appendSubgraphs_expands hsubgraphs
  obtain ⟨nodes, expansions', hnodes, hexpansions', rfl⟩ := appendInstances_expands hinstances
  rw [List.zipIdx_map_fst] at hexpansions
  have hgiven : documentSubgraphs limits (.map entries) = .ok (subgraphNodes ++ nodes) := by
    refine bind_eq_ok.mpr ⟨_, hsubgraphNodes, bind_eq_ok.mpr ⟨_, htemplateNodes, ?_⟩⟩
    refine bind_eq_ok.mpr ⟨_, htemplates, bind_eq_ok.mpr ⟨_, hinstanceNodes, ?_⟩⟩
    exact bind_eq_ok.mpr ⟨nodes, hnodes, rfl⟩
  have hnone : header.hierarchy = [] := (readGraphHeader_keeps hheader).1
  refine ⟨entries, rfl, ⟨?_⟩⟩
  exact
    { versionNode := versionNode
      header := header
      lanes := lanes
      components := components
      edges := edges
      compositeLoops := loops
      subgraphs := subgraphNodes ++ nodes
      expansions := expansions ++ expansions'
      fields := hfields
      givenVersion := hversionNode
      supported := hversion
      readHeader := hheader
      readLanes := hlanes
      readComponents := hcomponents
      readEdges := hedges
      readLoops := hloops
      givenSubgraphs := hgiven
      expands := List.rel_append hexpansions hexpansions'
      result := by
        rw [← List.foldl_append, foldl_append, hnone]
        rfl
      counts := hcounts }

/-- The graph without the record of its subgraphs. -/
def LoadedGraph.flat (graph : LoadedGraph) : LoadedGraph := { graph with hierarchy := [] }

/-- A document loads to the same graph as its flat form, but for the record of its
subgraphs. -/
theorem Loading.flatten {entries : List (YamlNode × YamlNode)} {graph : LoadedGraph}
    (loading : Loading limits library entries graph) :
    loadGraphNode limits library (flattenDocument (.map entries) loading.subgraphs) =
      .ok graph.flat := by
  have hcounts := loading.counts
  rw [loading.result] at hcounts
  obtain ⟨_, hcomponentCount, hcounts⟩ := bind_eq_ok.mp hcounts
  obtain ⟨_, hedgeCount, hloopCount⟩ := bind_eq_ok.mp hcounts
  -- the elements that the subgraphs add, at the top
  have hflatComponents :=
    reads_flattenItems (fun _ _ hone => (Expands.flat hone).1) loading.expands
  have hflatEdges := reads_flattenItems (fun _ _ hone => (Expands.flat hone).2.1) loading.expands
  have hflatLoops := reads_flattenItems (fun _ _ hone => (Expands.flat hone).2.2) loading.expands
  have hcomponents := readComponents_flat loading.readComponents hflatComponents
    (enforceLimit_eq_ok.mp hcomponentCount)
  have hedges := readEdges_flat loading.readEdges hflatEdges (enforceLimit_eq_ok.mp hedgeCount)
  have hloops := readLoops_flat loading.readLoops hflatLoops (enforceLimit_eq_ok.mp hloopCount)
  have hsame := fun key => @field_flattenDocument entries loading.subgraphs key
  have hversionNode := loading.givenVersion
  rw [← requireNode_congr (hsame "schema_version" (by decide) (by decide) (by decide) (by decide))]
    at hversionNode
  have hheader := loading.readHeader
  rw [← readGraphHeader_congr (hsame "graph" (by decide) (by decide) (by decide) (by decide))]
    at hheader
  have hlanes := loading.readLanes
  rw [← readLanes_congr (hsame "lanes" (by decide) (by decide) (by decide) (by decide))] at hlanes
  refine bind_eq_ok.mpr ⟨_, requireMap_eq_ok.mpr rfl, bind_eq_ok.mpr
    ⟨(), rejectUnknownFields_flattenDocument _ loading.fields (by decide), ?_⟩⟩
  refine bind_eq_ok.mpr ⟨_, hversionNode, bind_eq_ok.mpr ⟨_, loading.supported, ?_⟩⟩
  refine bind_eq_ok.mpr ⟨(), refuse_eq_ok.mpr (not_not.mpr rfl), ?_⟩
  refine bind_eq_ok.mpr ⟨_, hheader, bind_eq_ok.mpr ⟨_, hlanes, ?_⟩⟩
  refine bind_eq_ok.mpr ⟨_, hcomponents, bind_eq_ok.mpr ⟨_, hedges, ?_⟩⟩
  refine bind_eq_ok.mpr ⟨_, hloops, ?_⟩
  refine bind_eq_ok.mpr ⟨_, countedSequence_removed entries _ (by decide), ?_⟩
  refine bind_eq_ok.mpr ⟨_, rfl, ?_⟩
  refine bind_eq_ok.mpr ⟨_, countedSequence_removed entries _ (by decide), ?_⟩
  refine bind_eq_ok.mpr ⟨_, rfl, ?_⟩
  refine bind_eq_ok.mpr ⟨_, countedSequence_removed entries _ (by decide), ?_⟩
  refine bind_eq_ok.mpr ⟨_, rfl, bind_eq_ok.mpr ⟨(), ?_, ?_⟩⟩
  · exact bind_eq_ok.mpr ⟨(), hcomponentCount, bind_eq_ok.mpr ⟨(), hedgeCount, hloopCount⟩⟩
  · have hnone : loading.header.hierarchy = [] := (readGraphHeader_keeps loading.readHeader).1
    have hflat := congrArg LoadedGraph.flat loading.result
    rw [hflat, LoadedGraph.flat, hnone]
    rfl

end GraphIo

end TopoExec
