import MindscapeLocalCore.CompositionGraph.RuntimeLock
import MindscapeLocalCore.Library.Dependencies

/-!
Composition graphs and their validation. A graph without errors has unique nodes, edges
between them, and no cycle.
-/

namespace MindscapeLocalCore.CompositionGraph.Graph

open Library Values

def coreObjectReferenceNodeType : String := "object_reference"

/-- `CompositionGraphPort` -/
structure Port where
  id : String
  dataType : String
  required : Bool

/-- `CompositionGraphNodeType` -/
structure NodeType where
  id : String
  inputPorts : List Port
  outputPorts : List Port
  payloadSchema : List (String × Value)

/-- `CompositionGraphContract` -/
structure Contract where
  capabilityCode : String
  nodeTypes : List NodeType
  /-- `compile` is not `None` -/
  compiles : Bool

structure ContractsResponse where
  contracts : List Contract
  diagnostics : List Diagnostic

/-- `CompositionGraphNode` -/
structure Node where
  id : String
  type : String
  payload : List (String × Value)

/-- `CompositionGraphEdge` -/
structure Edge where
  id : String
  source : String
  target : String
  sourcePort : String
  targetPort : String

/-- The checks of `pydantic` and `jsonschema`: the text of the exception, if there is one. -/
structure Checks where
  objectRef : Option Value → Option String
  payload : List (String × Value) → List (String × Value) → Option String
  /-- how deep `visit` may nest -/
  recursionLimit : ℕ

def buildDiagnostic (code message : String) (nodeId edgeId portId : Option String)
    (metadata : List (String × Value)) : Diagnostic :=
  { code := code
    message := message
    severity := .error
    nodeId := nodeId
    edgeId := edgeId
    portId := portId
    metadata := metadata }

def stringSchema : Value := .dict [(.str "type", .str "string")]

def refSchema : Value :=
  .dict [(.str "type", .str "object"),
    (.str "required", .list [.str "uri", .str "owner_pack", .str "object_kind", .str "object_id"]),
    (.str "properties", .dict [(.str "uri", stringSchema), (.str "owner_pack", stringSchema),
      (.str "object_kind", stringSchema), (.str "object_id", stringSchema),
      (.str "workspace_id", stringSchema)]),
    (.str "additionalProperties", .bool true)]

/-- `build_core_object_reference_node_type` -/
def coreObjectReference : NodeType :=
  { id := coreObjectReferenceNodeType
    inputPorts := []
    outputPorts := [{
      id := "object"
      dataType := "object_ref"
      required := false }]
    payloadSchema := [("type", .str "object"), ("required", .list [.str "ref"]),
      ("properties", .dict [(.str "ref", refSchema)]), ("additionalProperties", .bool true)] }

/-- `node_type_map`: a later type replaces an earlier one of the same id. -/
def nodeTypeMap (contracts : List Contract) : String → Option NodeType :=
  (contracts.flatMap Contract.nodeTypes).foldl
    (fun types nodeType => Function.update types nodeType.id (some nodeType))
    (Function.update (fun _ => none) coreObjectReferenceNodeType (some coreObjectReference))

variable (checks : Checks)

def validateNodePayload (node : Node) (nodeType : NodeType) : List Diagnostic :=
  let reference :=
    if node.type = coreObjectReferenceNodeType then
      match checks.objectRef (node.payload.lookup "ref") with
      | none => []
      | some text => [buildDiagnostic "invalid_object_reference"
          ("object_reference payload requires a valid ObjectRef: " ++ text) (some node.id) none
          none []]
    else []
  let payload :=
    if nodeType.payloadSchema = [] then []
    else
      match checks.payload node.payload nodeType.payloadSchema with
      | none => []
      | some text => [buildDiagnostic "invalid_node_payload"
          ("Node payload does not match its payload_schema: " ++ text) (some node.id) none
          none []]
  reference ++ payload

def findPort (ports : List Port) (portId : String) : Option Port :=
  ports.find? fun port => port.id = portId

def dataTypesCompatible (sourceType targetType : String) : Bool :=
  sourceType = "any" || targetType = "any" || sourceType = targetType

def validatePack (selectedPrimaryPack : Option String) (requirePrimary : Bool)
    (contracts : List Contract) : List Diagnostic :=
  let selected := selectedPrimaryPack.getD ""
  let contract := contracts.reverse.find? fun contract => contract.capabilityCode = selected
  if requirePrimary = true ∧ selected = "" then
    [buildDiagnostic "missing_primary_pack" "Compile requires selected_primary_pack." none none
      none []]
  else if selected ≠ "" ∧ (contract.isNone ∨
      requirePrimary = true ∧ (contract.any fun contract => !contract.compiles) = true) then
    [buildDiagnostic "missing_primary_pack"
      "Selected primary pack does not expose a composition graph contract." none none none
      [("selected_primary_pack", .str selected)]]
  else []

structure NodeCheck where
  diagnostics : List Diagnostic
  nodeById : List Node

def NodeCheck.find (s : NodeCheck) (id : String) : Option Node :=
  s.nodeById.find? fun node => node.id = id

def NodeCheck.step (types : String → Option NodeType) (s : NodeCheck) (node : Node) : NodeCheck :=
  match s.find node.id with
  | some _ =>
      { s with diagnostics := s.diagnostics ++ [buildDiagnostic "duplicate_node_id"
          "Node ids must be unique." (some node.id) none none []] }
  | none =>
      match types node.type with
      | none =>
          { diagnostics := s.diagnostics ++ [buildDiagnostic "unknown_node_type"
              "Node type is not declared by core or an installed pack contract." (some node.id)
              none none [("node_type", .str node.type)]]
            nodeById := s.nodeById ++ [node] }
      | some nodeType =>
          { diagnostics := s.diagnostics ++ validateNodePayload checks node nodeType
            nodeById := s.nodeById ++ [node] }

structure EdgeCheck where
  diagnostics : List Diagnostic
  edgeIds : List String
  incomingByTargetPort : List (String × String)
  adjacency : String → List String

def portDiagnostics (edge : Edge) (sourceType targetType : NodeType) :
    List Diagnostic × Bool :=
  match findPort sourceType.outputPorts edge.sourcePort,
      findPort targetType.inputPorts edge.targetPort with
  | none, _ => ([buildDiagnostic "source_port_missing"
      "Edge source_port must exist on the source node output ports." none (some edge.id)
      (some edge.sourcePort) []], false)
  | some _, none => ([buildDiagnostic "target_port_missing"
      "Edge target_port must exist on the target node input ports." none (some edge.id)
      (some edge.targetPort) []], false)
  | some sourcePort, some targetPort =>
      if dataTypesCompatible sourcePort.dataType targetPort.dataType then ([], true)
      else ([buildDiagnostic "port_type_mismatch" "Edge port data types are not compatible." none
        (some edge.id) none [("source_data_type", .str sourcePort.dataType),
          ("target_data_type", .str targetPort.dataType)]], true)

def EdgeCheck.step (types : String → Option NodeType) (nodes : NodeCheck) (s : EdgeCheck)
    (edge : Edge) : EdgeCheck :=
  if edge.id ∈ s.edgeIds then
    { s with diagnostics := s.diagnostics ++ [buildDiagnostic "duplicate_edge_id"
        "Edge ids must be unique." none (some edge.id) none []] }
  else
    let s := { s with edgeIds := edge.id :: s.edgeIds }
    match nodes.find edge.source, nodes.find edge.target with
    | some source, some target =>
        match types source.type, types target.type with
        | some sourceType, some targetType =>
            let found := portDiagnostics edge sourceType targetType
            let s := { s with diagnostics := s.diagnostics ++ found.1 }
            if found.2 then
              { s with
                incomingByTargetPort := (edge.target, edge.targetPort) :: s.incomingByTargetPort
                adjacency := Function.update s.adjacency edge.source
                  (s.adjacency edge.source ++ [edge.target]) }
            else s
        | _, _ => s
    | _, _ =>
        { s with diagnostics := s.diagnostics ++ [buildDiagnostic "edge_endpoint_missing"
            "Edge source and target nodes must exist." none (some edge.id) none []] }

def requiredInputs (types : String → Option NodeType) (incoming : List (String × String))
    (node : Node) : List Diagnostic :=
  match types node.type with
  | none => []
  | some nodeType =>
      (nodeType.inputPorts.filter fun port => port.required && (node.id, port.id) ∉ incoming).map
        fun port => buildDiagnostic "missing_required_input"
          "Required input port is not connected." (some node.id) none (some port.id) []

/-- `has_cycle`, unless the calls nest too deep. A key that is listed again is left at once. -/
def hasCycle (adjacency : String → List String) (keys : List String) : Option Bool :=
  match DepthFirst.visitEach (DepthFirst.visit adjacency checks.recursionLimit []) [] keys with
  | .tooDeep => none
  | .cycle => some true
  | .done _ => some false

/-- The diagnostics of severity `error`. -/
def errors (diagnostics : List Diagnostic) : List Diagnostic :=
  diagnostics.filter fun diagnostic => diagnostic.severity = .error

/-- `validate_composition_graph`, unless it raises `RecursionError`. -/
def validateCompositionGraph (nodes : List Node) (edges : List Edge)
    (selectedPrimaryPack : Option String) (requirePrimary : Bool)
    (contracts : ContractsResponse) : Option (List Diagnostic) :=
  let types := nodeTypeMap contracts.contracts
  let checked := nodes.foldl (NodeCheck.step checks types) {
    diagnostics := contracts.diagnostics ++
      validatePack selectedPrimaryPack requirePrimary contracts.contracts
    nodeById := [] }
  let connected := edges.foldl (EdgeCheck.step types checked) {
    diagnostics := checked.diagnostics
    edgeIds := []
    incomingByTargetPort := []
    adjacency := fun _ => [] }
  let diagnostics := connected.diagnostics ++
    nodes.flatMap (requiredInputs types connected.incomingByTargetPort)
  match hasCycle checks connected.adjacency (nodes.map Node.id) with
  | none => none
  | some false => some (errors diagnostics)
  | some true => some (errors (diagnostics ++ [buildDiagnostic "cycle_detected"
      "Composition graph must be acyclic." none none none []]))

def Feeds (edges : List Edge) (source target : String) : Prop :=
  ∃ edge ∈ edges, edge.source = source ∧ edge.target = target

structure Clean (nodes : List Node) (edges : List Edge) : Prop where
  unique : (nodes.map Node.id).Nodup
  source : ∀ edge ∈ edges, edge.source ∈ nodes.map Node.id
  target : ∀ edge ∈ edges, edge.target ∈ nodes.map Node.id
  acyclic : Dependencies.Acyclic (Feeds edges)

variable {checks} {types : String → Option NodeType}

theorem errors_append {before after : List Diagnostic} :
    errors (before ++ after) = [] ↔ errors before = [] ∧ errors after = [] := by
  rw [errors, errors, errors, List.filter_append, List.append_eq_nil_iff]

theorem errors_built {code message : String} {nodeId edgeId portId : Option String}
    {metadata : List (String × Value)} :
    errors [buildDiagnostic code message nodeId edgeId portId metadata] ≠ [] := by
  intro h
  cases h

theorem find_eq_none {s : NodeCheck} {id : String} :
    s.find id = none ↔ id ∉ s.nodeById.map Node.id := by
  rw [NodeCheck.find, List.find?_eq_none, List.mem_map]
  constructor
  · rintro h ⟨node, hnode, rfl⟩
    exact h node hnode (decide_eq_true rfl)
  · intro h node hnode hid
    exact h ⟨node, hnode, of_decide_eq_true hid⟩

theorem mem_of_find {s : NodeCheck} {id : String} {node : Node} (h : s.find id = some node) :
    id ∈ s.nodeById.map Node.id := by
  by_contra hnot
  rw [find_eq_none.mpr hnot] at h
  cases h

theorem errors_of_foldl {σ β : Type} {step : σ → β → σ} (diagnostics : σ → List Diagnostic)
    (hstep : ∀ s item, ∃ more, diagnostics (step s item) = diagnostics s ++ more) {s : σ}
    {items : List β} (h : errors (diagnostics (items.foldl step s)) = []) :
    errors (diagnostics s) = [] := by
  induction items generalizing s with
  | nil => exact h
  | cons item rest ih =>
      obtain ⟨more, hmore⟩ := hstep s item
      have hnext := ih h
      rw [hmore] at hnext
      exact (errors_append.mp hnext).1

theorem step_diagnostics (s : NodeCheck) (node : Node) :
    ∃ more, (s.step checks types node).diagnostics = s.diagnostics ++ more := by
  rw [NodeCheck.step]
  split
  · exact ⟨_, rfl⟩
  · split
    · exact ⟨_, rfl⟩
    · exact ⟨_, rfl⟩

theorem node_of_errors_nil {s : NodeCheck} {node : Node}
    (h : errors (s.step checks types node).diagnostics = []) :
    (s.step checks types node).nodeById = s.nodeById ++ [node] ∧
      node.id ∉ s.nodeById.map Node.id ∧ types node.type ≠ none := by
  rw [NodeCheck.step] at h ⊢
  split at h
  · exact absurd (errors_append.mp h).2 errors_built
  · rename_i hfind
    split at h
    · exact absurd (errors_append.mp h).2 errors_built
    · rename_i nodeType htype
      refine ⟨rfl, find_eq_none.mp hfind, ?_⟩
      rw [htype]
      exact Option.some_ne_none nodeType

theorem nodes_of_errors_nil {nodes : List Node} {s : NodeCheck}
    (h : errors (nodes.foldl (NodeCheck.step checks types) s).diagnostics = [])
    (hnodup : (s.nodeById.map Node.id).Nodup)
    (htypes : ∀ node ∈ s.nodeById, types node.type ≠ none) :
    (nodes.foldl (NodeCheck.step checks types) s).nodeById = s.nodeById ++ nodes ∧
      ((s.nodeById ++ nodes).map Node.id).Nodup ∧
      ∀ node ∈ s.nodeById ++ nodes, types node.type ≠ none := by
  induction nodes generalizing s with
  | nil =>
      rw [List.append_nil]
      exact ⟨rfl, hnodup, htypes⟩
  | cons node nodes ih =>
      obtain ⟨hnodes, hnew, htype⟩ :=
        node_of_errors_nil (errors_of_foldl NodeCheck.diagnostics step_diagnostics h)
      have hnext := ih h
      rw [hnodes] at hnext
      have hsplit : s.nodeById ++ node :: nodes = s.nodeById ++ [node] ++ nodes := by
        rw [List.append_assoc]
        rfl
      rw [List.foldl_cons, hsplit]
      refine hnext ?_ fun other hother => ?_
      · rw [List.map_append, List.nodup_append']
        refine ⟨hnodup, List.nodup_singleton node.id, ?_⟩
        intro id hold hid
        rw [List.map_singleton, List.mem_singleton] at hid
        exact hnew (hid ▸ hold)
      · rcases List.mem_append.mp hother with hold | hlast
        · exact htypes other hold
        · rw [List.mem_singleton.mp hlast]
          exact htype

variable {checked : NodeCheck}

theorem portDiagnostics_fst_of_false {edge : Edge} {sourceType targetType : NodeType}
    (h : (portDiagnostics edge sourceType targetType).2 = false) :
    errors (portDiagnostics edge sourceType targetType).1 ≠ [] := by
  rw [portDiagnostics] at h ⊢
  split
  · exact errors_built
  · exact errors_built
  · rename_i hsource htarget
    rw [hsource, htarget] at h
    dsimp only at h
    split at h
    · cases h
    · cases h

theorem edge_diagnostics (s : EdgeCheck) (edge : Edge) :
    ∃ more, (s.step types checked edge).diagnostics = s.diagnostics ++ more := by
  rw [EdgeCheck.step]
  split
  · exact ⟨_, rfl⟩
  · dsimp only
    split
    · split
      · split
        · exact ⟨_, rfl⟩
        · exact ⟨_, rfl⟩
      · exact ⟨[], (List.append_nil _).symm⟩
    · exact ⟨_, rfl⟩

theorem edge_of_errors_nil {s : EdgeCheck} {edge : Edge}
    (htypes : ∀ node ∈ checked.nodeById, types node.type ≠ none)
    (h : errors (s.step types checked edge).diagnostics = []) :
    edge.source ∈ checked.nodeById.map Node.id ∧ edge.target ∈ checked.nodeById.map Node.id ∧
      (s.step types checked edge).adjacency = Function.update s.adjacency edge.source
        (s.adjacency edge.source ++ [edge.target]) := by
  rw [EdgeCheck.step] at h ⊢
  split at h
  · exact absurd (errors_append.mp h).2 errors_built
  · rename_i hnew
    rw [if_neg hnew]
    dsimp only at h ⊢
    split at h
    · rename_i source target hsource htarget
      split at h
      · rename_i sourceType targetType hsourceType htargetType
        split at h
        · rename_i hfollowed
          rw [if_pos hfollowed]
          exact ⟨mem_of_find hsource, mem_of_find htarget, rfl⟩
        · rename_i hfollowed
          exact absurd (errors_append.mp h).2
            (portDiagnostics_fst_of_false (Bool.eq_false_of_not_eq_true hfollowed))
      · rename_i hnone
        exfalso
        have hsourceType := htypes source (List.mem_of_find?_eq_some hsource)
        have htargetType := htypes target (List.mem_of_find?_eq_some htarget)
        obtain ⟨sourceType, hsourceType⟩ := Option.ne_none_iff_exists'.mp hsourceType
        obtain ⟨targetType, htargetType⟩ := Option.ne_none_iff_exists'.mp htargetType
        exact hnone sourceType targetType hsourceType htargetType
    · exact absurd (errors_append.mp h).2 errors_built

theorem edges_of_errors_nil {edges : List Edge} {s : EdgeCheck}
    (htypes : ∀ node ∈ checked.nodeById, types node.type ≠ none)
    (h : errors (edges.foldl (EdgeCheck.step types checked) s).diagnostics = []) :
    (∀ edge ∈ edges, edge.source ∈ checked.nodeById.map Node.id ∧
        edge.target ∈ checked.nodeById.map Node.id) ∧
      ∀ source target,
        target ∈ (edges.foldl (EdgeCheck.step types checked) s).adjacency source ↔
          target ∈ s.adjacency source ∨ Feeds edges source target := by
  induction edges generalizing s with
  | nil =>
      refine ⟨fun edge hedge => absurd hedge List.not_mem_nil, fun source target => ?_⟩
      refine (or_iff_left ?_).symm
      rintro ⟨edge, hedge, -⟩
      exact List.not_mem_nil hedge
  | cons edge edges ih =>
      obtain ⟨hsource, htarget, hadjacency⟩ :=
        edge_of_errors_nil htypes (errors_of_foldl EdgeCheck.diagnostics edge_diagnostics h)
      obtain ⟨hends, hfollowed⟩ := ih h
      constructor
      · intro other hother
        rcases List.mem_cons.mp hother with rfl | hother
        · exact ⟨hsource, htarget⟩
        · exact hends other hother
      · intro source target
        rw [List.foldl_cons, hfollowed, hadjacency]
        have hcons : Feeds (edge :: edges) source target ↔
            (edge.source = source ∧ edge.target = target) ∨ Feeds edges source target := by
          rw [Feeds, List.exists_mem_cons_iff]
          rfl
        rw [hcons, ← or_assoc]
        refine or_congr_left ?_
        by_cases hsame : source = edge.source
        · subst hsame
          rw [Function.update_self, List.mem_append, List.mem_singleton]
          refine or_congr_right ?_
          constructor
          · rintro rfl
            exact ⟨rfl, rfl⟩
          · rintro ⟨-, rfl⟩
            rfl
        · rw [Function.update_of_ne hsame]
          refine (or_iff_left ?_).symm
          rintro ⟨rfl, -⟩
          exact hsame rfl

theorem clean_of_valid {nodes : List Node} {edges : List Edge}
    {selectedPrimaryPack : Option String} {requirePrimary : Bool} {contracts : ContractsResponse}
    (h : validateCompositionGraph checks nodes edges selectedPrimaryPack requirePrimary contracts =
      some []) : Clean nodes edges := by
  rw [validateCompositionGraph] at h
  generalize hchecked : nodes.foldl (NodeCheck.step checks (nodeTypeMap contracts.contracts)) _ =
    checked at h
  generalize hconnected : edges.foldl
    (EdgeCheck.step (nodeTypeMap contracts.contracts) checked) _ = connected at h
  split at h
  · cases h
  · rename_i hcycle
    have herrors := (errors_append.mp (Option.some.inj h)).1
    rw [← hconnected] at herrors
    have hnodeErrors := errors_of_foldl EdgeCheck.diagnostics edge_diagnostics herrors
    dsimp only at hnodeErrors
    rw [← hchecked] at hnodeErrors
    obtain ⟨hnodes, hnodup, htypes⟩ := nodes_of_errors_nil hnodeErrors List.nodup_nil
      fun node hnode => absurd hnode List.not_mem_nil
    rw [hchecked, List.nil_append] at hnodes
    rw [List.nil_append] at hnodup htypes
    rw [← hnodes] at hnodup htypes
    obtain ⟨hends, hfollowed⟩ := edges_of_errors_nil htypes herrors
    rw [hconnected] at hfollowed
    rw [hnodes] at hnodup hends
    refine ⟨hnodup, fun edge hedge => (hends edge hedge).1, fun edge hedge => (hends edge hedge).2,
      ?_⟩
    rw [hasCycle] at hcycle
    split at hcycle
    · cases hcycle
    · cases hcycle
    · rename_i visited hvisited
      refine (DepthFirst.acyclic_of_visitEach hvisited ?_).mono ?_
      · intro node htargets
        obtain ⟨target, htarget⟩ := List.exists_mem_of_ne_nil _ htargets
        obtain ⟨edge, hedge, rfl, -⟩ :=
          ((hfollowed node target).mp htarget).resolve_left List.not_mem_nil
        exact (hends edge hedge).1
      · intro source target hfeeds
        exact (hfollowed source target).mpr (.inr hfeeds)
  · exact absurd (errors_append.mp (Option.some.inj h)).2 errors_built

end MindscapeLocalCore.CompositionGraph.Graph
