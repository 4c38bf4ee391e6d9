import MindscapeLocalCore.KnowledgeRetrieval.HybridSearch

/-!
Graph search: entities that match the query, their neighborhood within budgets, and the mentions
or community reports that answer.
-/

namespace MindscapeLocalCore.KnowledgeRetrieval.GraphSearch

open Library Library.ItemDict Library.Json
open KnowledgeAuthorization.Store (hexdigest)
open Tables Scopes QuerySeed HybridSearch

variable (engine : Engine) (db : Database) (context : QueryContext) (filters : Filters)

/-! ### Mentions -/

structure MentionRow where
  authorized : AuthorizedProjection
  mention : Mention
  evidence : Option Evidence
  record : Option ProjectionRecord
  document : Option Document

def HoldsUnit (evidence : Option Evidence) (document : Document) : Prop :=
  ∃ found ∈ evidence,
    textAt engine.jsonbText document.metadata "chunk_id" = some found.unitKey ∨
      document.sourceId = found.unitKey

instance (evidence : Option Evidence) (document : Document) :
    Decidable (HoldsUnit engine evidence document) :=
  inferInstanceAs (Decidable (∃ _ ∈ _, _))

/-- The mentions of the authorised projections with their evidence, records and documents. -/
def joinedMentions : List MentionRow :=
  (authorizedProjections db context filters).flatMap fun authorized =>
    (db.mentions.filter fun mention =>
      mention.projectionRevisionId = authorized.projectionRevisionId ∧
        mention.knowledgeResourceId = authorized.knowledgeResourceId ∧
        mention.securityLabelId = authorized.securityLabelId).flatMap fun mention =>
      (Relational.leftJoin (fun evidence : Evidence =>
          some evidence.evidenceUnitRowId = mention.evidenceUnitRowId ∧
            evidence.projectionRevisionId = authorized.projectionRevisionId)
        db.evidence).flatMap fun evidence =>
        (Relational.leftJoin (fun record : ProjectionRecord =>
            some record.projectionRecordId = mention.projectionRecordId ∧
              record.projectionRevisionId = authorized.projectionRevisionId)
          db.records).flatMap fun record =>
          (Relational.leftJoin (fun document : Document =>
              document.projectionRevisionId = some authorized.projectionRevisionId ∧
                document.knowledgeResourceId = some authorized.knowledgeResourceId ∧
                HoldsUnit engine evidence document)
            db.documents).map fun document =>
            { authorized := authorized
              mention := mention
              evidence := evidence
              record := record
              document := document }

def MentionHasModality (row : MentionRow) : Prop :=
  ∀ requested ∈ filters.modality, ∃ channel ∈ db.channels,
    channel.projectionRevisionId = row.authorized.projectionRevisionId ∧
      (∃ id ∈ row.mention.evidenceUnitRowId, channel.evidenceUnitRowId = some id) ∧
      channel.modality = requested ∧ channel.state = "active"

instance (row : MentionRow) : Decidable (MentionHasModality db filters row) :=
  inferInstanceAs (Decidable (∀ _ ∈ _, _))

/-! ### Seeds -/

def MatchesQuery (query : String) (row : MentionRow) (entity : Entity) : Prop :=
  let value := lexicalQuery engine query
  let mention := row.mention
  engine.ilike entity.canonicalKey ("%" ++ query ++ "%") = true ∨
    engine.ilike mention.surfaceText ("%" ++ query ++ "%") = true ∨
    engine.contains
      (engine.toTsvector (entity.canonicalKey ++ " " ++ mention.surfaceText)) value = true ∨
    engine.contains (lexicalDocument engine (row.document.bind Document.title)
      ((row.document.map Document.content).getD "")) value = true ∨
    engine.contains
      (engine.toTsvector ((row.record.map ProjectionRecord.searchText).getD "")) value = true

instance (query : String) (row : MentionRow) (entity : Entity) :
    Decidable (MatchesQuery engine query row entity) :=
  inferInstanceAs (Decidable (_ ∨ _))

def matchedEntities (query : String) : List (Entity × Float) :=
  (joinedMentions engine db context filters).flatMap fun row =>
    (db.entities.filter fun entity =>
      entity.entityId = row.mention.entityId ∧ MatchesQuery engine query row entity ∧
        MentionHasModality db filters row).map fun entity => (entity, row.mention.confidence)

/-- The `MAX` of a group. -/
def maximum (values : List Float) : Float :=
  match values with
  | [] => 0.0
  | first :: rest => rest.foldl (fun a b => if a < b then b else a) first

/-- `GROUP BY` entity, the best first. -/
def seedEntities (query : String) (limit : ℕ) : List (Entity × Float) :=
  let rows := matchedEntities engine db context filters query
  (orderBy descending engine.textLe (fun group => (group.2, group.1.entityId))
    ((rows.map Prod.fst).dedup.map fun entity =>
      (entity, maximum ((rows.filter fun row => row.1 = entity).map Prod.snd)))).take limit

/-! ### Neighborhoods -/

/-- The depths of the entities and the edges found so far. -/
structure Visited where
  depths : List (String × ℕ)
  edges : List (String × GraphRelation)

def relationRows (frontier : List String) (limit : ℕ) : List GraphRelation :=
  (orderBy descending engine.textLe (fun relation => (relation.confidence, relation.relationId))
    ((authorizedProjections db context filters).flatMap fun authorized =>
      db.relations.filter fun relation =>
        relation.projectionRevisionId = authorized.projectionRevisionId ∧
          relation.visibilityPartitionHash = authorized.visibilityPartitionHash ∧
          (relation.sourceEntityId ∈ frontier ∨ relation.targetEntityId ∈ frontier))).take limit

def visitEndpoint (maxNodes depth : ℕ) (state : Visited × List String) (endpoint : String) :
    Visited × List String :=
  if endpoint ∉ state.1.depths.map Prod.fst ∧ state.1.depths.length < maxNodes then
    ({ state.1 with depths := setItem endpoint depth state.1.depths }, state.2 ++ [endpoint])
  else state

def visitEdge (maxNodes depth : ℕ) (state : Visited × List String) (edge : GraphRelation) :
    Visited × List String :=
  let edges :=
    if edge.relationId ∈ state.1.edges.map Prod.fst then state.1.edges
    else state.1.edges ++ [(edge.relationId, edge)]
  [edge.sourceEntityId, edge.targetEntityId].foldl (visitEndpoint maxNodes depth)
    ({ state.1 with edges := edges }, state.2)

def expand (maxNodes maxEdges : ℕ) : ℕ → ℕ → List String → Visited → Visited
  | 0, _, _, visited => visited
  | hops + 1, depth, frontier, visited =>
      if frontier = [] ∨ maxNodes ≤ visited.depths.length ∨ maxEdges ≤ visited.edges.length then
        visited
      else
        let rows := relationRows engine db context filters frontier
          (maxEdges - visited.edges.length)
        let next := rows.foldl (visitEdge maxNodes depth) (visited, [])
        expand maxNodes maxEdges hops (depth + 1) next.2 next.1

structure Budget where
  maxHops : ℕ
  maxNodes : ℕ
  maxEdges : ℕ

structure NeighborhoodRow where
  found : MentionRow
  graphDepth : ℕ
  graphRelationIds : List String

def relationIdsOf (visited : Visited) (entityId : String) : List String :=
  (visited.edges.filter fun item =>
    entityId = item.2.sourceEntityId ∨ entityId = item.2.targetEntityId).map Prod.fst

def neighborhoodRows (visited : Visited) (limit : ℕ) : List NeighborhoodRow :=
  ((orderBy descending engine.textLe
    (fun row => (row.mention.confidence, row.mention.mentionId))
    ((joinedMentions engine db context filters).filter fun row =>
      row.mention.entityId ∈ visited.depths.map Prod.fst ∧
        MentionHasModality db filters row)).take limit).map fun row =>
    { found := row
      graphDepth := (getItem row.mention.entityId visited.depths).getD 0
      graphRelationIds := relationIdsOf visited row.mention.entityId }

/-- `fetch_neighborhood_candidates`, for the text that is searched for. -/
def fetchNeighborhood (query : String) (budget : Budget) (resultLimit : ℕ) :
    List NeighborhoodRow × GraphMetrics :=
  let seeds := seedEntities engine db context filters query (min 20 budget.maxNodes)
  let depths := seeds.foldl (fun depths seed => setItem seed.1.entityId 0 depths) []
  let visited := expand engine db context filters budget.maxNodes budget.maxEdges budget.maxHops 1
    (depths.map Prod.fst) { depths := depths, edges := [] }
  if visited.depths = [] then ([], { seedCount := 0, visitedNodes := 0, visitedEdges := 0 })
  else
    (neighborhoodRows engine db context filters visited
      (min budget.maxNodes (max (resultLimit * 4) resultLimit)),
      { seedCount := seeds.length
        visitedNodes := visited.depths.length
        visitedEdges := visited.edges.length })

/-! ### Community reports -/

structure ReportRow where
  authorized : AuthorizedProjection
  community : Community
  report : CommunityReport
  keywordScore : Float

/-- `ORDER BY` score, rank and id of the report. -/
def reportBefore (a b : ReportRow) : Bool :=
  b.keywordScore < a.keywordScore ||
    (a.keywordScore == b.keywordScore && (b.report.rank < a.report.rank ||
      (a.report.rank == b.report.rank &&
        engine.textLe a.report.communityReportId b.report.communityReportId)))

/-- `fetch_global_candidates`, for the text that is searched for. -/
def fetchGlobal (query : String) (limit : ℕ) : List ReportRow :=
  (((authorizedProjections db context filters).flatMap fun authorized =>
    (db.communities.filter fun community =>
      community.projectionRevisionId = authorized.projectionRevisionId ∧
        community.knowledgeResourceId = authorized.knowledgeResourceId ∧
        community.securityLabelId = authorized.securityLabelId ∧
        community.authzRevision = authorized.authzRevision ∧
        community.visibilityPartitionHash =
          authorized.visibilityPartitionHash).flatMap fun community =>
      (db.reports.filter fun report =>
        report.communityId = community.communityId ∧ report.active = true ∧
          report.authzRevision = authorized.authzRevision ∧
          report.visibilityPartitionHash = authorized.visibilityPartitionHash).map fun report =>
        { authorized := authorized
          community := community
          report := report
          keywordScore := engine.tsRankCd
            (engine.toTsvector
              (report.summary ++ " " ++ engine.jsonbText (.arr report.findings)))
            (engine.websearchToTsquery query) }).mergeSort (reportBefore engine)).take limit

/-! ### Answers -/

def neighborhoodHit (row : NeighborhoodRow) : AuthorizedKnowledgeHit :=
  let mention := row.found.mention
  let authorized := row.found.authorized
  let document := row.found.document
  let recordId := mention.projectionRecordId.filter fun id => id ≠ ""
  let citationId :=
    match document, recordId with
    | some document, _ => "external_doc:" ++ document.id
    | none, some id => "projection_record:" ++ id
    | none, none => "graph_mention:" ++ mention.mentionId
  let contentHash :=
    match document, recordId with
    | some document, _ => hexdigest document.content
    | none, some _ => (row.found.record.map ProjectionRecord.contentHash).getD "None"
    | none, none => hexdigest mention.surfaceText
  let texts := [(document.map Document.content).getD "",
    (row.found.record.map ProjectionRecord.searchText).getD "", mention.surfaceText]
  let evidence := row.found.evidence
  { knowledgeResourceId := authorized.knowledgeResourceId
    securityLabelId := authorized.securityLabelId
    authzRevision := authorized.authzRevision
    projectionRevisionId := some authorized.projectionRevisionId
    sourceApp := authorized.sourceApp
    sourceId := authorized.sourceId
    content := (texts.find? fun text => text ≠ "").getD ""
    metadata := Dict.update ((document.bind Document.metadata).getD [])
      [("unit_key", Json.ofOption (evidence.map Evidence.unitKey)),
        ("unit_kind", Json.ofOption (evidence.map Evidence.unitKind)),
        ("owner_asset_ref", Json.ofOption (evidence.map Evidence.ownerAssetRef)),
        ("media_type", Json.ofOption (evidence.bind Evidence.mediaType)),
        ("anchor", .obj ((evidence.map Evidence.anchor).getD [])),
        ("record_values", .obj ((row.found.record.map ProjectionRecord.values).getD [])),
        ("graph_depth", Json.nat row.graphDepth),
        ("graph_relation_ids", .arr (row.graphRelationIds.map .str))]
    score := atLeastZero (mention.confidence / (1.0 + Float.ofNat row.graphDepth))
    channels := ["graph_neighborhood"]
    citation := Dict.update mention.citation
      [("citation_id", .str citationId),
        ("knowledge_resource_id", .str authorized.knowledgeResourceId),
        ("security_label_id", .str authorized.securityLabelId),
        ("projection_revision_id", .str authorized.projectionRevisionId),
        ("source_ref", .str authorized.sourceRef),
        ("content_hash", .str contentHash)] }

def globalHit (row : ReportRow) : AuthorizedKnowledgeHit :=
  let authorized := row.authorized
  { knowledgeResourceId := authorized.knowledgeResourceId
    securityLabelId := authorized.securityLabelId
    authzRevision := authorized.authzRevision
    projectionRevisionId := some authorized.projectionRevisionId
    sourceApp := authorized.sourceApp
    sourceId := authorized.sourceId
    content := row.report.summary
    metadata := Dict.update []
      [("community_id", .str row.community.communityId),
        ("community_level", Json.nat row.community.level),
        ("findings", .arr row.report.findings)]
    score := atLeastZero (row.keywordScore + row.report.rank)
    channels := ["graph_community_report"]
    citation := Dict.update []
      [("citation_id", .str ("community_report:" ++ row.report.communityReportId)),
        ("knowledge_resource_id", .str authorized.knowledgeResourceId),
        ("security_label_id", .str authorized.securityLabelId),
        ("projection_revision_id", .str authorized.projectionRevisionId),
        ("source_ref", .str authorized.sourceRef),
        ("supporting_citations", .arr row.report.supportingCitations),
        ("content_hash", .str (hexdigest row.report.summary))] }

structure GraphCandidates where
  rows : List ((String × ℕ) × AuthorizedKnowledgeHit)
  metrics : GraphMetrics

def bound (hit : AuthorizedKnowledgeHit) : (String × ℕ) × AuthorizedKnowledgeHit :=
  ((hit.knowledgeResourceId, hit.authzRevision), hit)

def graphCandidates (request : KnowledgeRetrievalRequest) (query : String) :
    Except String GraphCandidates :=
  match request.retrievalMode with
  | .globalGraph =>
      .ok { rows := (fetchGlobal engine db context filters query
              (min 40 (request.topK * 2))).map fun row => bound (globalHit row)
            metrics := { seedCount := 0, visitedNodes := 0, visitedEdges := 0 } }
  | .localGraph =>
      let (rows, metrics) := fetchNeighborhood engine db context filters query
        { maxHops := 2, maxNodes := 200, maxEdges := 400 } request.topK
      .ok { rows := rows.map fun row => bound (neighborhoodHit row), metrics := metrics }
  | .multiHop =>
      let (rows, metrics) := fetchNeighborhood engine db context filters query
        { maxHops := 3, maxNodes := 400, maxEdges := 800 } request.topK
      .ok { rows := rows.map fun row => bound (neighborhoodHit row), metrics := metrics }
  | .hybrid => .error "knowledge_graph_retrieval_mode_forbidden"

def GraphMetrics.json (metrics : GraphMetrics) : Json :=
  .obj (Dict.update []
    [("seed_count", Json.nat metrics.seedCount),
      ("visited_nodes", Json.nat metrics.visitedNodes),
      ("visited_edges", Json.nat metrics.visitedEdges)])

/-- The response to the candidates, given what the final check returns. -/
def graphResult (request : KnowledgeRetrievalRequest) (candidates : GraphCandidates)
    (seedBindings final : List (String × ℕ)) : KnowledgeRetrievalResult :=
  let seedIsFinal := seedBindings.all (isFinal final)
  let hits := ((candidates.rows.take request.topK).filter fun row =>
    seedIsFinal && isFinal final row.1).map Prod.snd
  { hits := hits
    requestedMode := request.retrievalMode
    executedMode := request.retrievalMode
    candidateCount := candidates.rows.length
    finalAuthorizedCount := hits.length
    transactionCount := if 0 < candidates.rows.length ∨ seedBindings ≠ [] then 2 else 1
    degradedReasons :=
      (if candidates.rows.length = 0 then ["authorized_graph_candidates_empty"] else []) ++
        if seedIsFinal = true then [] else ["query_evidence_revoked_before_final_authorization"]
    authorizationReceiptDigest := receiptDigest
      [("principal_set_hash", .str request.accessContext.principalSetHash),
        ("scope", .arr [.str request.scopeType.value, .str request.scopeId]),
        ("mode", .str request.retrievalMode.value),
        ("bindings", hitBindings hits),
        ("metrics", GraphMetrics.json candidates.metrics),
        ("query_seed_bindings", .arr (seedBindings.map bindingJson))]
    graphMetrics := some candidates.metrics
    fusionRevision :=
      if request.retrievalMode = .globalGraph then "community_report_rank.v1"
      else "graph_neighborhood_confidence_depth.v1"
    channelCoverage := Dict.update []
      [("graph_candidates", Json.nat candidates.rows.length),
        ("query_evidence_seed_count", Json.nat seedBindings.length),
        ("requested_modality", modalityJson request.filters.modality),
        ("applied_source_ids", .arr (request.filters.sourceIds.map .str))] }

/-- `search` of the graph service. -/
def graphSearch (candidatesAt finalAt : Snapshot) (request : KnowledgeRetrievalRequest) :
    Except String KnowledgeRetrievalResult := do
  admitRead request
  let atCandidates := request.queryContext candidatesAt.now
  let (query, seedBindings) ← effectiveQuery engine candidatesAt.db atCandidates request.query
    request.queryEvidenceRefs
  let candidates ← graphCandidates engine candidatesAt.db atCandidates request.filters request query
  let final := finalAuthorize finalAt.db (request.queryContext finalAt.now)
    ((candidates.rows.take request.topK).map Prod.fst ++ seedBindings)
  return graphResult request candidates seedBindings final

def search (candidatesAt finalAt : Snapshot) (request : KnowledgeRetrievalRequest) :
    Except String KnowledgeRetrievalResult :=
  if request.retrievalMode = .hybrid then hybridSearch engine candidatesAt finalAt request
  else graphSearch engine candidatesAt finalAt request

end MindscapeLocalCore.KnowledgeRetrieval.GraphSearch
