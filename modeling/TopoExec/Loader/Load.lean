import TopoExec.Graph.Utf8
import TopoExec.Graph.Validate
import TopoExec.Loader.Read

/-! # Loading a graph

`load_graph_text`: the bounds on the input, the document of the library, the graph with its
subgraphs and template instances written into it, and the bounds on all its texts.
-/

namespace TopoExec

namespace GraphIo

structure LoadedGraph where
  schemaVersion : Int := 0
  name : String := ""
  kind : String := "internal_test"
  clock : ClockPolicySpec := {}
  config : ConfigView := {}
  lanes : List LoadedLane := []
  components : List LoadedComponent := []
  edges : List LoadedEdge := []
  compositeLoops : List LoadedLoop := []
  hierarchy : List GraphHierarchyEntry := []
deriving DecidableEq, Repr

/-- The graph as validation and the runtime read it. -/
def LoadedGraph.toSpec (graph : LoadedGraph) : GraphSpec where
  components := graph.components.map LoadedComponent.toComponentNodeSpec
  edges := graph.edges.map LoadedEdge.toEdgeSpec
  compositeLoops := graph.compositeLoops.map LoadedLoop.toCompositeLoopSpec
  schemaVersion := graph.schemaVersion
  name := graph.name
  kind := graph.kind
  clock := graph.clock
  lanes := graph.lanes.map LoadedLane.toLaneSpec
  hierarchy := graph.hierarchy

/-- What one subgraph adds to a graph. -/
structure Expansion where
  id : String
  components : List LoadedComponent := []
  edges : List LoadedEdge := []
  compositeLoops : List LoadedLoop := []
deriving DecidableEq, Repr

def Expansion.hierarchy (expansion : Expansion) : GraphHierarchyEntry where
  id := expansion.id
  components := expansion.components.map fun component => component.id
  edges := expansion.edges.map fun edge => edge.id
  compositeLoops := expansion.compositeLoops.map fun loop => loop.id

def LoadedGraph.append (graph : LoadedGraph) (expansion : Expansion) : LoadedGraph :=
  { graph with
    components := graph.components ++ expansion.components
    edges := graph.edges ++ expansion.edges
    compositeLoops := graph.compositeLoops ++ expansion.compositeLoops
    hierarchy := graph.hierarchy ++ [expansion.hierarchy] }

section

variable (limits : LoaderLimits) (library : YamlLibrary)

/-- Read the elements of a sequence, each with its place. -/
def readEach {α : Type} (context : String) (items : List YamlNode)
    (read : String → YamlNode → Except LoadError α) : Except LoadError (List α) :=
  items.zipIdx.mapM fun item => read (atIndex context item.2) item.1

/-! ## Subgraphs -/

def prefixedIdentifier (namespaceId localId context : String) : Except LoadError String :=
  orInvalid (prefixedId limits.toGraphInputLimits namespaceId localId context)

def namespacedEndpoint (namespaceId endpoint context : String) : Except LoadError String :=
  orInvalid (namespaceEndpoint limits.toGraphInputLimits namespaceId endpoint context)

def namespacedRefs (namespaceId : String) (localIds : List String) (context : String) :
    Except LoadError (List String) :=
  orInvalid (namespaceComponentRefs limits.toGraphInputLimits namespaceId localIds context)

/-- The local id of an element of a subgraph. -/
def localIdOf (node : YamlNode) (context : String) : Except LoadError String := do
  checkedId limits (← requireString node "id" context) (context ++ ".id")

def expandComponentNode (namespaceId context : String) (node : YamlNode) :
    Except LoadError LoadedComponent := do
  let localId ← localIdOf limits node context
  let id ← prefixedIdentifier limits namespaceId localId (context ++ ".id")
  let component ← readComponentNode limits library node id context
  let dependsOn ← namespacedRefs limits namespaceId component.dependsOn
    ("components." ++ component.id ++ ".depends_on")
  return { component with dependsOn := dependsOn }

def expandEdgeNode (namespaceId context : String) (node : YamlNode) :
    Except LoadError LoadedEdge := do
  let localId ← localIdOf limits node context
  let id ← prefixedIdentifier limits namespaceId localId (context ++ ".id")
  let edge ← readEdgeNode limits library node id context
  let fromEndpoint ← namespacedEndpoint limits namespaceId edge.fromEndpoint
    ("edges." ++ edge.id ++ ".from")
  let toEndpoint ← namespacedEndpoint limits namespaceId edge.toEndpoint
    ("edges." ++ edge.id ++ ".to")
  return { edge with fromEndpoint := fromEndpoint, toEndpoint := toEndpoint }

def expandLoopNode (namespaceId context : String) (node : YamlNode) :
    Except LoadError LoadedLoop := do
  let loop ← readCompositeLoop limits library node context
  let id ← prefixedIdentifier limits namespaceId loop.id (context ++ ".id")
  let components ← namespacedRefs limits namespaceId loop.components
    ("composite_loops." ++ id ++ ".components")
  return { loop with id := id, components := components }

/-- The sequence under a key that may be missing. -/
def optionalSequence (node : YamlNode) (key context : String) :
    Except LoadError (List YamlNode) := do
  match ← node.field key with
  | none => return []
  | some child => requireSequence child context

def readSubgraph (node : YamlNode) (context : String) : Except LoadError Expansion := do
  let _ ← requireMap node context
  rejectUnknownFields node context ["id", "components", "edges", "composite_loops"]
  let id ← localIdOf limits node context
  let componentNodes ← requireSequence (← requireNode node "components" context)
    (context ++ ".components")
  Check.refuse (componentNodes = [])
    (.invalidArgument (context ++ ".components must contain at least one component"))
  let components ← readEach (context ++ ".components") componentNodes
    (expandComponentNode limits library id)
  let edgeNodes ← requireSequence (← requireNode node "edges" context) (context ++ ".edges")
  let edges ← readEach (context ++ ".edges") edgeNodes (expandEdgeNode limits library id)
  let loopNodes ← optionalSequence node "composite_loops" (context ++ ".composite_loops")
  let compositeLoops ← readEach (context ++ ".composite_loops") loopNodes
    (expandLoopNode limits library id)
  return { id := id, components := components, edges := edges, compositeLoops := compositeLoops }

def appendSubgraphExpansion (node : YamlNode) (graph : LoadedGraph) (context : String) :
    Except LoadError LoadedGraph := do
  return graph.append (← readSubgraph limits library node context)

/-! ## Templates -/

structure GraphTemplateDefinition where
  id : String
  parameters : List String := []
  body : YamlNode

mutual

def substituteTemplateNode (parameters : OrderedMap String String) (context : String) :
    YamlNode → Except LoadError YamlNode
  | .null => .ok .null
  | .scalar text => do
      return .scalar (← orInvalid
        (substitutePlaceholders limits.toTemplateLimits text parameters context))
  | .sequence items => do
      return .sequence (← substituteTemplateItems parameters context 0 items)
  | .map entries => do
      return .map (← substituteTemplateEntries parameters context [] entries)

def substituteTemplateItems (parameters : OrderedMap String String) (context : String)
    (index : Nat) : List YamlNode → Except LoadError (List YamlNode)
  | [] => .ok []
  | item :: rest => do
      let item ← substituteTemplateNode parameters (atIndex context index) item
      return item :: (← substituteTemplateItems parameters context (index + 1) rest)

/-- A key may come out twice; the later value takes the place of the earlier. -/
def substituteTemplateEntries (parameters : OrderedMap String String) (context : String)
    (output : List (YamlNode × YamlNode)) :
    List (YamlNode × YamlNode) → Except LoadError (List (YamlNode × YamlNode))
  | [] => .ok output
  | (name, value) :: rest => do
      let key ← orInvalid (substitutePlaceholders limits.toTemplateLimits (← name.asString)
        parameters (context ++ ".key"))
      let value ← substituteTemplateNode parameters (context ++ "." ++ key) value
      substituteTemplateEntries parameters context (YamlNode.assign key value output) rest

end

/-- The loop over the parameters of a template. -/
def checkParameterNames (context : String) : List String → List String → Except LoadError Unit
  | _, [] => .ok ()
  | seen, parameter :: rest => do
      let _ ← checkedId limits parameter (context ++ ".parameters")
      Check.refuse (parameter ∈ seen)
        (.invalidArgument (context ++ " lists duplicate template parameter " ++ parameter))
      checkParameterNames context (parameter :: seen) rest

def readGraphTemplate (context : String) (node : YamlNode) :
    Except LoadError GraphTemplateDefinition := do
  let _ ← requireMap node context
  rejectUnknownFields node context ["id", "parameters", "components", "edges", "composite_loops"]
  let id ← localIdOf limits node context
  let parameters ← optionalStringVector node "parameters" context
  checkParameterNames limits context [] parameters
  let _ ← requireNode node "components" context
  let _ ← requireNode node "edges" context
  return { id := id, parameters := parameters, body := node }

/-- The loop body over the parameters of an instance. -/
def readParameter (definition : GraphTemplateDefinition) (context : String)
    (values : OrderedMap String String) (entry : YamlNode × YamlNode) :
    Except LoadError (OrderedMap String String) := do
  let name ← checkedId limits (← entry.1.asString) (context ++ ".parameters key")
  Check.refuse (name ∉ definition.parameters)
    (.invalidArgument (context ++ " provides unknown template parameter " ++ name))
  -- a sequence, a map and a null are refused alike
  match entry.2 with
  | .scalar value => do
      orInvalid (enforceStringLimit limits.toTemplateLimits value
        (context ++ ".parameters." ++ name))
      return values.insert name value
  | _ => invalid (context ++ ".parameters." ++ name ++ " must be a scalar string")

/-- The entries under a key that may be missing. -/
def optionalEntries (node : YamlNode) (key context : String) :
    Except LoadError (List (YamlNode × YamlNode)) := do
  match ← node.field key with
  | none => return []
  | some child => requireMap child context

def readTemplateInstanceParameters (node : YamlNode) (definition : GraphTemplateDefinition)
    (context : String) : Except LoadError (OrderedMap String String) := do
  let entries ← optionalEntries node "parameters" (context ++ ".parameters")
  let values ← entries.foldlM (readParameter limits definition context) OrderedMap.empty
  definition.parameters.forM fun name =>
    Check.refuse (values.find name = none)
      (.invalidArgument (context ++ " is missing template parameter " ++ name))
  return values

/-- The subgraph that an instance stands for. -/
def templateExpansion (templates : List GraphTemplateDefinition) (node : YamlNode)
    (context : String) : Except LoadError YamlNode := do
  let _ ← requireMap node context
  rejectUnknownFields node context ["id", "template", "parameters"]
  let instanceId ← localIdOf limits node context
  let templateId ← checkedId limits (← requireString node "template" context)
    (context ++ ".template")
  match templates.find? fun definition => definition.id = templateId with
  | none => invalid (context ++ " references unknown template " ++ templateId)
  | some definition => do
      let values ← readTemplateInstanceParameters limits node definition context
      -- the three sections are substituted; the id is that of the instance
      let components ← substituteTemplateNode limits values (context ++ ".components")
        ((← definition.body.field "components").getD .null)
      let edges ← substituteTemplateNode limits values (context ++ ".edges")
        ((← definition.body.field "edges").getD .null)
      let loops ← (← definition.body.field "composite_loops").mapM
        (substituteTemplateNode limits values (context ++ ".composite_loops"))
      return .map ([(.scalar "id", .scalar instanceId), (.scalar "components", components),
        (.scalar "edges", edges)] ++
        (loops.map fun loops => (.scalar "composite_loops", loops)).toList)

def appendTemplateInstanceExpansion (templates : List GraphTemplateDefinition) (node : YamlNode)
    (graph : LoadedGraph) (context : String) : Except LoadError LoadedGraph := do
  let expansion ← templateExpansion limits templates node context
  appendSubgraphExpansion limits library expansion graph context

/-! ## The graph -/

/-- `graph.name`, `graph.kind`, `graph.config` and `graph.clock`. -/
def readGraphHeader (root : YamlNode) (graph : LoadedGraph) : Except LoadError LoadedGraph := do
  let context := "runtime graph.graph"
  let node ← requireNode root "graph" "runtime graph"
  let _ ← requireMap node context
  rejectUnknownFields node context ["name", "kind", "clock", "config"]
  let name ← checkedId limits (← requireString node "name" context) (context ++ ".name")
  let kind ← optionalString node "kind" "runnable"
  let config ← readConfigNode limits library (← node.field "config") (context ++ ".config")
  let graph := { graph with name := name, kind := kind, config := config }
  match ← node.field "clock" with
  | none => return graph
  | some clock =>
      let _ ← requireMap clock (context ++ ".clock")
      rejectUnknownFields clock (context ++ ".clock") ["runtime_domain", "event_domain"]
      let runtimeDomain ← optionalString clock "runtime_domain" "steady"
      let eventDomain ← optionalString clock "event_domain" "steady"
      return { graph with clock := { runtimeDomain := runtimeDomain, eventDomain := eventDomain } }

def readLanes (root : YamlNode) : Except LoadError (List LoadedLane) := do
  let entries ← requireMap (← requireNode root "lanes" "runtime graph") "runtime graph.lanes"
  enforceLimit entries.length limits.maxLanes "runtime graph.lanes count"
  entries.mapM (readLane limits library)

def readComponent (context : String) (node : YamlNode) : Except LoadError LoadedComponent := do
  readComponentNode limits library node (← localIdOf limits node context) context

def readEdge (context : String) (node : YamlNode) : Except LoadError LoadedEdge := do
  readEdgeNode limits library node (← localIdOf limits node context) context

def readComponents (root : YamlNode) : Except LoadError (List LoadedComponent) := do
  let items ← requireSequence (← requireNode root "components" "runtime graph")
    "runtime graph.components"
  enforceLimit items.length limits.maxComponents "runtime graph.components count"
  readEach "components" items (readComponent limits library)

def readEdges (root : YamlNode) : Except LoadError (List LoadedEdge) := do
  let items ← requireSequence (← requireNode root "edges" "runtime graph") "runtime graph.edges"
  enforceLimit items.length limits.maxEdges "runtime graph.edges count"
  readEach "edges" items (readEdge limits library)

/-- The elements under a key that may be missing. -/
def countedSequence (root : YamlNode) (key : String) (limit : Nat) :
    Except LoadError (List YamlNode) := do
  let items ← optionalSequence root key ("runtime graph." ++ key)
  enforceLimit items.length limit ("runtime graph." ++ key ++ " count")
  return items

def readLoops (root : YamlNode) : Except LoadError (List LoadedLoop) := do
  let items ← countedSequence root "composite_loops" limits.maxCompositeLoops
  readEach "composite_loops" items fun context node =>
    readCompositeLoop limits library node context

/-- The loop over the subgraphs. -/
def appendSubgraphs : List String → List (YamlNode × Nat) → LoadedGraph →
    Except LoadError LoadedGraph
  | _, [], graph => .ok graph
  | seen, item :: rest, graph => do
      let context := atIndex "subgraphs" item.2
      let id ← localIdOf limits item.1 context
      -- before anything else of the subgraph is read
      Check.refuse (id ∈ seen) (.invalidArgument ("duplicate subgraph: " ++ id))
      let graph ← appendSubgraphExpansion limits library item.1 graph context
      appendSubgraphs (id :: seen) rest graph

/-- The loop over the templates. -/
def readTemplates : List GraphTemplateDefinition → List (YamlNode × Nat) →
    Except LoadError (List GraphTemplateDefinition)
  | templates, [] => .ok templates
  | templates, item :: rest => do
      let definition ← readGraphTemplate limits (atIndex "templates" item.2) item.1
      Check.refuse (definition.id ∈ templates.map GraphTemplateDefinition.id)
        (.invalidArgument ("duplicate template: " ++ definition.id))
      readTemplates (templates ++ [definition]) rest

def enforceExpandedCounts (graph : LoadedGraph) : Except LoadError Unit := do
  enforceLimit graph.components.length limits.maxComponents
    "runtime graph expanded components count"
  enforceLimit graph.edges.length limits.maxEdges "runtime graph expanded edges count"
  enforceLimit graph.compositeLoops.length limits.maxCompositeLoops
    "runtime graph expanded composite_loops count"

def loadGraphNode (root : YamlNode) : Except LoadError LoadedGraph := do
  let _ ← requireMap root "runtime graph"
  rejectUnknownFields root "runtime graph"
    ["schema_version", "graph", "components", "lanes", "edges", "composite_loops", "subgraphs",
      "templates", "template_instances"]
  let schemaVersion ← (← requireNode root "schema_version" "runtime graph").convert library.intOf
  Check.refuse (schemaVersion ≠ kTopoExecSchemaVersion)
    (.invalidArgument ("runtime graph.schema_version must be " ++
      toString kTopoExecSchemaVersion))
  let graph ← readGraphHeader limits library root { schemaVersion := schemaVersion }
  let lanes ← readLanes limits library root
  let components ← readComponents limits library root
  let edges ← readEdges limits library root
  let compositeLoops ← readLoops limits library root
  let graph :=
    { graph with
      lanes := lanes, components := components, edges := edges, compositeLoops := compositeLoops }
  -- each section is bounded as it is read, what they expand to at the end
  let subgraphs ← countedSequence root "subgraphs" limits.maxComponents
  let graph ← appendSubgraphs limits library [] subgraphs.zipIdx graph
  let templateNodes ← countedSequence root "templates" limits.maxComponents
  let templates ← readTemplates limits [] templateNodes.zipIdx
  let instances ← countedSequence root "template_instances" limits.maxComponents
  let graph ← instances.zipIdx.foldlM (fun graph item =>
    appendTemplateInstanceExpansion limits library templates item.1 graph
      (atIndex "template_instances" item.2)) graph
  enforceExpandedCounts limits graph
  return graph

/-! ## Bounds on the texts -/

/-- `enforce_string_limit`. -/
def stringLimit (value context : String) : Except LoadError Unit :=
  orInvalid (enforceStringLimit limits.toTemplateLimits value context)

/-- `enforce_identifier_limit`. -/
def identifierLimit (value context : String) : Except LoadError Unit :=
  orInvalid (enforceIdentifierLimit limits.toGraphInputLimits value context)

def enforceConfigViewStringLimits (config : ConfigView) (context : String) :
    Except LoadError Unit :=
  config.values.forM fun entry => do
    enforceLimit entry.1.utf8ByteSize limits.maxIdentifierBytes
      (context ++ "." ++ entry.1 ++ " key length")
    enforceLimit entry.2.utf8ByteSize limits.maxConfigValueBytes
      (context ++ "." ++ entry.1 ++ " value size")

def enforceLaneStringLimits (lane : LoadedLane) : Except LoadError Unit := do
  let place := "lanes." ++ lane.id
  identifierLimit limits lane.id "lanes id"
  stringLimit limits lane.type (place ++ ".type")
  stringLimit limits lane.priority (place ++ ".priority")
  stringLimit limits lane.overflow (place ++ ".overflow")
  stringLimit limits lane.overrunPolicy (place ++ ".overrun_policy")
  stringLimit limits lane.threadName (place ++ ".thread_name")
  stringLimit limits lane.rtPolicy (place ++ ".rt_policy")
  stringLimit limits lane.isolationIntent (place ++ ".isolation_intent")

def enforceComponentStringLimits (component : LoadedComponent) : Except LoadError Unit := do
  let place := "components." ++ component.id
  identifierLimit limits component.id (place ++ ".id")
  stringLimit limits component.type (place ++ ".type")
  stringLimit limits component.boundaryDescriptor (place ++ ".boundary.descriptor")
  stringLimit limits component.boundaryRole.text (place ++ ".boundary.role")
  enforceConfigViewStringLimits limits component.config (place ++ ".config")
  component.dependsOn.forM fun dependency =>
    identifierLimit limits dependency (place ++ ".depends_on")
  (component.eventSources.zip component.sourceInputs).forM fun source => do
    stringLimit limits source.1.id (place ++ ".event_sources.id")
    stringLimit limits source.1.type (place ++ ".event_sources.type")
    stringLimit limits source.2 (place ++ ".event_sources.input")
    source.1.inputs.forM fun input => stringLimit limits input (place ++ ".event_sources.inputs")
  stringLimit limits component.triggerPolicy.type (place ++ ".trigger_policy.type")
  stringLimit limits component.triggerInput (place ++ ".trigger_policy.input")
  stringLimit limits component.triggerPolicy.condition (place ++ ".trigger_policy.condition")
  component.triggerPolicy.inputs.forM fun input =>
    stringLimit limits input (place ++ ".trigger_policy.inputs")
  identifierLimit limits component.execution.lane (place ++ ".execution.lane")
  stringLimit limits component.execution.priority (place ++ ".execution.priority")
  stringLimit limits component.execution.onError (place ++ ".execution.on_error")

def enforceEdgeStringLimits (edge : LoadedEdge) : Except LoadError Unit := do
  let place := "edges." ++ edge.id
  identifierLimit limits edge.id (place ++ ".id")
  stringLimit limits edge.fromEndpoint (place ++ ".from")
  stringLimit limits edge.toEndpoint (place ++ ".to")
  stringLimit limits edge.invalidKind (place ++ ".kind")
  stringLimit limits edge.policy.mode (place ++ ".policy.mode")
  stringLimit limits edge.policy.overflow (place ++ ".policy.overflow")
  stringLimit limits edge.policy.timestampDomain (place ++ ".policy.timestamp_domain")
  stringLimit limits edge.policy.copyPolicy (place ++ ".policy.copy_policy")
  stringLimit limits edge.policy.owner (place ++ ".policy.owner")
  stringLimit limits edge.policy.readers (place ++ ".policy.readers")

def enforceLoopStringLimits (loop : LoadedLoop) : Except LoadError Unit := do
  let place := "composite_loops." ++ loop.id
  identifierLimit limits loop.id (place ++ ".id")
  loop.components.forM fun component => identifierLimit limits component (place ++ ".components")
  stringLimit limits loop.loopPolicy.type (place ++ ".loop_policy.type")
  stringLimit limits loop.dropPolicy (place ++ ".loop_policy.drop_policy")
  stringLimit limits loop.loopPolicy.convergence (place ++ ".loop_policy.convergence")
  stringLimit limits loop.loopPolicy.partialSuccess (place ++ ".loop_policy.partial_success")

def enforceHierarchyStringLimits (entry : GraphHierarchyEntry) : Except LoadError Unit := do
  let place := "subgraphs." ++ entry.id
  identifierLimit limits entry.id (place ++ ".id")
  entry.components.forM fun component => identifierLimit limits component (place ++ ".components")
  entry.edges.forM fun edge => identifierLimit limits edge (place ++ ".edges")
  entry.compositeLoops.forM fun loop => identifierLimit limits loop (place ++ ".composite_loops")

def enforceGraphStringLimits (graph : LoadedGraph) : Except LoadError Unit := do
  identifierLimit limits graph.name "runtime graph.graph.name"
  stringLimit limits graph.kind "runtime graph.graph.kind"
  stringLimit limits graph.clock.runtimeDomain "runtime graph.graph.clock.runtime_domain"
  stringLimit limits graph.clock.eventDomain "runtime graph.graph.clock.event_domain"
  enforceConfigViewStringLimits limits graph.config "runtime graph.graph.config"
  graph.lanes.forM (enforceLaneStringLimits limits)
  graph.components.forM (enforceComponentStringLimits limits)
  graph.edges.forM (enforceEdgeStringLimits limits)
  graph.compositeLoops.forM (enforceLoopStringLimits limits)
  graph.hierarchy.forM (enforceHierarchyStringLimits limits)

/-- The bytes of a document, read within the limits. -/
def loadGraphText (text : List UInt8) : Except LoadError LoadedGraph := do
  enforceLimit text.length limits.maxGraphInputBytes "graph input size"
  Check.refuse (isValidUtf8 text = false)
    (.invalidArgument "graph input must be valid UTF-8 text")
  Check.refuse (limits.maxYamlAliasCount < library.aliasReferences text)
    (.invalidArgument ("graph input uses too many YAML aliases (" ++
      toString (library.aliasReferences text) ++ " exceeds limit " ++
      toString limits.maxYamlAliasCount ++ ")"))
  let root ← ((library.load text).map .ok).getD (.error .yaml)
  let graph ← loadGraphNode limits library root
  enforceGraphStringLimits limits graph
  return graph

end

end GraphIo

end TopoExec
