import MindscapeLocalCore.KnowledgeRetrieval.QuerySeed

/-!
Hybrid search: candidates of two channels are fused by rank, cut, checked once more and returned
with citations.
-/

namespace MindscapeLocalCore.KnowledgeRetrieval.HybridSearch

open Library Library.ItemDict Library.Json
open Library.JsonText (renderAscii)
open KnowledgeAuthorization.Store (ScopeType compact hexdigest)
open KnowledgeAuthorization.WriteContracts (PrincipalRef)
open Tables Scopes QuerySeed

/-! ### Requests -/

structure ScopeMembership where
  scopeType : ScopeType
  scopeId : String
  role : String
  revision : String

structure KnowledgePermission where
  name : String
  scopeType : ScopeType
  scopeId : String

/-- `RetrievalAccessContext`, with the role of its agent mask. -/
structure RetrievalAccessContext where
  subjectUserId : String
  tenantId : String
  principals : List PrincipalRef
  memberships : List ScopeMembership
  permissions : List KnowledgePermission
  principalSetHash : String
  agentRole : Option String

inductive RetrievalMode where
  | hybrid
  | localGraph
  | multiHop
  | globalGraph
  deriving DecidableEq

def RetrievalMode.value : RetrievalMode → String
  | .hybrid => "hybrid"
  | .localGraph => "local_graph"
  | .multiHop => "multi_hop"
  | .globalGraph => "global_graph"

/-- `KnowledgeRetrievalRequest`, its filters normalized. -/
structure KnowledgeRetrievalRequest where
  query : String
  accessContext : RetrievalAccessContext
  scopeType : ScopeType
  scopeId : String
  topK : ℕ
  filters : Filters
  retrievalMode : RetrievalMode
  queryEvidenceRefs : List CitationLookup
  query_given : PythonText.strip query ≠ "" ∨ queryEvidenceRefs ≠ []
  scope_given : PythonText.strip scopeId ≠ ""
  topK_bounds : 1 ≤ topK ∧ topK ≤ 20
  refs_bound : queryEvidenceRefs.length ≤ 8

/-- The database and the time that a transaction sees. -/
structure Snapshot where
  db : Database
  now : ℤ

def KnowledgeRetrievalRequest.queryContext (request : KnowledgeRetrievalRequest) (now : ℤ) :
    QueryContext where
  tenantId := request.accessContext.tenantId
  scopeType := request.scopeType
  scopeId := request.scopeId
  principals := request.accessContext.principals
  agentRole := request.accessContext.agentRole
  now := now

def admitRead (request : KnowledgeRetrievalRequest) : Except String Unit :=
  let context := request.accessContext
  if request.scopeType = .tenant ∨ PythonText.strip request.scopeId = "" then
    .error "knowledge_read_scope_invalid"
  else if ¬ ∃ principal ∈ context.principals,
      principal.type = .user ∧ principal.id = context.subjectUserId then
    .error "knowledge_read_subject_principal_required"
  else if (∃ principal ∈ context.principals,
        principal.type = .workspaceRole ∨ principal.type = .groupRole) ∧
      (¬ ∃ membership ∈ context.memberships,
        membership.scopeType = request.scopeType ∧ membership.scopeId = request.scopeId) ∧
      ¬ ∃ permission ∈ context.permissions,
        (permission.name = "knowledge.read" ∨ permission.name = "knowledge.read_all_scope") ∧
          permission.scopeType = request.scopeType ∧ permission.scopeId = request.scopeId then
    .error "knowledge_read_role_scope_unverified"
  else .ok ()

/-! ### Results -/

structure AuthorizedKnowledgeHit where
  knowledgeResourceId : String
  securityLabelId : String
  authzRevision : ℕ
  projectionRevisionId : Option String
  sourceApp : String
  sourceId : String
  content : String
  metadata : Dict
  score : Float
  channels : List String
  citation : Dict

structure GraphMetrics where
  seedCount : ℕ
  visitedNodes : ℕ
  visitedEdges : ℕ

structure KnowledgeRetrievalResult where
  hits : List AuthorizedKnowledgeHit
  requestedMode : RetrievalMode
  executedMode : RetrievalMode
  candidateCount : ℕ
  finalAuthorizedCount : ℕ
  transactionCount : ℕ
  degradedReasons : List String
  authorizationReceiptDigest : String
  graphMetrics : Option GraphMetrics
  fusionRevision : String
  channelCoverage : Dict

variable (engine : Engine)

/-! ### Candidates -/

/-- The dimension of the vectors of `external_docs`. -/
def vectorDimension : ℕ := 1536

def fitExternalDocsEmbedding (values : List Float) : Except String (List Float) :=
  if vectorDimension < values.length then
    .error ("document_embedding_dimension_exceeds_external_docs:" ++ values.length.repr ++ ":" ++
      vectorDimension.repr)
  else if values = [] then .error "document_embedding_is_empty"
  else .ok (values ++ List.replicate (vectorDimension - values.length) 0.0)

/-- `ORDER BY` a number, and a text where the numbers are equal. -/
def orderBy {α : Type} (before : Float → Float → Bool) (textLe : String → String → Bool)
    (key : α → Float × String) (rows : List α) : List α :=
  rows.mergeSort fun a b =>
    before (key a).1 (key b).1 || ((key a).1 == (key b).1 && textLe (key a).2 (key b).2)

def ascending (x y : Float) : Bool := x < y

def descending (x y : Float) : Bool := y < x

/-- The order of ids that are UUIDs, and of texts in Python. -/
def idLe (a b : String) : Bool := a ≤ b

variable (db : Database) (context : QueryContext) (filters : Filters)

def vectorRows (queryEmbedding : List Float) (modelName : String) (limit : ℕ) :
    List CandidateRow :=
  let embedded := (authorizedRows engine.jsonbText db context filters).filter fun row =>
    row.document.embedding.isSome ∧
      textAt engine.jsonbText row.document.metadata "embedding_model" = some modelName
  (orderBy ascending idLe
    (fun row =>
      (engine.cosineDistance (row.document.embedding.getD []) queryEmbedding, row.document.id))
    embedded).take limit

def lexicalDocument (title : Option String) (content : String) : engine.TsVector :=
  engine.append (engine.setweight (engine.toTsvector (title.getD "")) 'A')
    (engine.setweight (engine.toTsvector content) 'D')

def keywordRows (effectiveQuery : String) (limit : ℕ) : List CandidateRow :=
  let value := lexicalQuery engine effectiveQuery
  let lexical := fun row : CandidateRow =>
    lexicalDocument engine row.document.title row.document.content
  (orderBy descending idLe
    (fun row => (engine.tsRankCd (lexical row) value, row.document.id))
    ((authorizedRows engine.jsonbText db context filters).filter fun row =>
      engine.contains (lexical row) value = true)).take limit

/-- The rows of both channels and the bindings of the seed. -/
structure HybridCandidates where
  vector : List CandidateRow
  keyword : List CandidateRow
  seedBindings : List (String × ℕ)

def fetchHybridCandidates (request : KnowledgeRetrievalRequest)
    (embedding : Option (List Float × String)) (candidateLimit : ℕ) :
    Except String HybridCandidates := do
  let (query, seedBindings) ←
    effectiveQuery engine db context request.query request.queryEvidenceRefs
  let vector :=
    match embedding with
    | some (values, modelName) =>
        if modelName = "" then []
        else vectorRows engine db context request.filters values modelName candidateLimit
    | none => []
  return {
    vector := vector
    keyword := keywordRows engine db context request.filters query candidateLimit
    seedBindings := seedBindings }

def finalAuthorize (expectedBindings : List (String × ℕ)) : List (String × ℕ) :=
  (finalRows db context (sortedBindings expectedBindings)).foldl
    (fun result row => setItem row.1 row.2 result) []

/-- `final.get(resource_id) == revision` -/
def isFinal (final : List (String × ℕ)) (binding : String × ℕ) : Bool :=
  getItem binding.1 final = some binding.2

/-! ### Fusion -/

def rrfK : ℕ := 60

/-- An entry of `ranked`. -/
structure RankedRow where
  row : CandidateRow
  score : Float
  channels : List String

def addRank (channel : String) (ranked : List (String × RankedRow)) (place : CandidateRow × ℕ) :
    List (String × RankedRow) :=
  let identity := place.1.document.id
  let entry := (getItem identity ranked).getD { row := place.1, score := 0.0, channels := [] }
  setItem identity
    { entry with
      score := entry.score + 1.0 / Float.ofNat (rrfK + place.2)
      channels :=
        if channel ∈ entry.channels then entry.channels else entry.channels ++ [channel] }
    ranked

def rankedRows (candidates : HybridCandidates) : List (String × RankedRow) :=
  (candidates.keyword.zipIdx 1).foldl (addRank "keyword")
    ((candidates.vector.zipIdx 1).foldl (addRank "text_vector") [])

/-- The best rows, at most `top_k`. -/
def selectRanked (topK : ℕ) (ranked : List (String × RankedRow)) : List RankedRow :=
  (orderBy descending idLe (fun item => (item.score, item.row.document.id))
    (ranked.map Prod.snd)).take topK

/-! ### Answers -/

/-- `metadata.get(key) or default` -/
def truthyOr (metadata : Dict) (key : String) (default : Json) : Json :=
  match metadata.get? key with
  | some value => if value.truthy = true then value else default
  | none => default

/-- `str(metadata.get(key) or "")` -/
def textOr (metadata : Dict) (key : String) : String :=
  match truthyOr metadata key (.str "") with
  | .str value => value
  | value => engine.pythonText value

/-- `max(0.0, score)` -/
def atLeastZero (score : Float) : Float := if 0.0 < score then score else 0.0

def buildHit (item : RankedRow) : AuthorizedKnowledgeHit :=
  let row := item.row
  let document := row.document
  let metadata := document.metadata.getD []
  let projectionRevisionId := document.projectionRevisionId.filter fun id => id ≠ ""
  { knowledgeResourceId := row.knowledgeResourceId
    securityLabelId := row.securityLabelId
    authzRevision := row.authzRevision
    projectionRevisionId := projectionRevisionId
    sourceApp := document.sourceApp
    sourceId := document.sourceId
    content := document.content
    metadata := metadata
    score := atLeastZero item.score
    channels := item.channels
    citation := Dict.update []
      [("citation_id", .str ("external_doc:" ++ document.id)),
        ("knowledge_resource_id", .str row.knowledgeResourceId),
        ("security_label_id", .str row.securityLabelId),
        ("projection_revision_id", Json.ofOption projectionRevisionId),
        ("source_app", .str document.sourceApp),
        ("source_id", .str document.sourceId),
        ("source_ref", .str row.sourceRef),
        ("source_revision", .str (textOr engine metadata "revision_id")),
        ("content_hash", .str (hexdigest document.content)),
        ("chunk_id", (metadata.get? "chunk_id").getD .null),
        ("node_ids", truthyOr metadata "node_ids" (.arr [])),
        ("source_locations", truthyOr metadata "source_locations" (.arr []))] }

def bindingJson (binding : String × ℕ) : Json := .arr [.str binding.1, Json.nat binding.2]

def receiptStyle : JsonText.Style :=
  { compact with
    number := fun value =>
      match value with
      | .int value => toString value
      | .float _ _ _ => "" }

def receiptDigest (members : Dict) : String :=
  hexdigest (renderAscii receiptStyle (.obj (Dict.update [] members)))

def hitBindings (hits : List AuthorizedKnowledgeHit) : Json :=
  .arr (hits.map fun hit => bindingJson (hit.knowledgeResourceId, hit.authzRevision))

def modalityJson (modality : Option Modality) : Json := Json.ofOption (modality.map Modality.value)

/-- The response to the candidates, given what the final check returns. -/
def hybridResult (request : KnowledgeRetrievalRequest) (candidates : HybridCandidates)
    (selected : List RankedRow) (final : List (String × ℕ)) : KnowledgeRetrievalResult :=
  let seedIsFinal := candidates.seedBindings.all (isFinal final)
  let hits := (selected.filter fun item =>
    seedIsFinal && isFinal final (item.row.knowledgeResourceId, item.row.authzRevision)).map
    (buildHit engine)
  { hits := hits
    requestedMode := request.retrievalMode
    executedMode := .hybrid
    candidateCount := (rankedRows candidates).length
    finalAuthorizedCount := hits.length
    transactionCount :=
      if rankedRows candidates ≠ [] ∨ candidates.seedBindings ≠ [] then 2 else 1
    degradedReasons :=
      (if candidates.vector = [] then ["text_vector_unavailable_or_empty"] else []) ++
        (if candidates.keyword = [] then ["keyword_empty"] else []) ++
        (if request.queryEvidenceRefs = [] then []
          else ["query_evidence_vector_channel_not_admitted"]) ++
        if seedIsFinal = true then [] else ["query_evidence_revoked_before_final_authorization"]
    authorizationReceiptDigest := receiptDigest
      [("principal_set_hash", .str request.accessContext.principalSetHash),
        ("scope_type", .str request.scopeType.value),
        ("scope_id", .str request.scopeId),
        ("bindings", hitBindings hits),
        ("query_seed_bindings", .arr (candidates.seedBindings.map bindingJson))]
    graphMetrics := none
    fusionRevision := "rrf.k60.lexical-prefix.v2"
    channelCoverage := Dict.update []
      [("text_vector_candidates", Json.nat candidates.vector.length),
        ("keyword_candidates", Json.nat candidates.keyword.length),
        ("query_evidence_seed_count", Json.nat candidates.seedBindings.length),
        ("requested_modality", modalityJson request.filters.modality),
        ("applied_source_ids", .arr (request.filters.sourceIds.map .str))] }

def queryEmbedding (request : KnowledgeRetrievalRequest) :
    Except String (Option (List Float × String)) :=
  if request.queryEvidenceRefs ≠ [] then .ok none
  else
    match engine.generateEmbedding request.query with
    | some (values, modelName) =>
        if values = [] then .ok none
        else do
          let fitted ← fitExternalDocsEmbedding values
          return some (fitted, modelName)
    | none => .ok none

/-- `search` in hybrid mode: the candidates in one transaction, the final check in a later one. -/
def hybridSearch (candidatesAt finalAt : Snapshot) (request : KnowledgeRetrievalRequest) :
    Except String KnowledgeRetrievalResult := do
  admitRead request
  let embedding ← queryEmbedding engine request
  let candidates ← fetchHybridCandidates engine candidatesAt.db
    (request.queryContext candidatesAt.now) request embedding (min 60 (request.topK * 3))
  let selected := selectRanked request.topK (rankedRows candidates)
  let final := finalAuthorize finalAt.db (request.queryContext finalAt.now)
    (selected.map (fun item => (item.row.knowledgeResourceId, item.row.authzRevision)) ++
      candidates.seedBindings)
  return hybridResult engine request candidates selected final

end MindscapeLocalCore.KnowledgeRetrieval.HybridSearch
