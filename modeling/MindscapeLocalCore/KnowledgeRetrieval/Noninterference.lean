import MindscapeLocalCore.KnowledgeRetrieval.Neighborhoods
import MindscapeLocalCore.KnowledgeRetrieval.Visibility

/-!
Search tells nothing about what the context is not authorised for: every query of it reads the
visible part of the database only.
-/

namespace MindscapeLocalCore.KnowledgeRetrieval.Noninterference

open Library
open KnowledgeAuthorization.Store (Label)
open Tables QuerySeed HybridSearch GraphSearch ScopeAgreement Visibility

variable {engine : Engine} {db : Database} {context : QueryContext} {filters : Filters}

/-! ### Rows of visible projections -/

theorem documentVisible_of_projection {document : Document} {id : String}
    (h : ProjectionVisible db context id) (hdocument : document.projectionRevisionId = some id) :
    DocumentVisible db context document :=
  .inr ⟨id, Option.mem_def.mpr hdocument, h⟩

/-! ### Query seeds -/

variable {ids : List String}

theorem documentSeeds_visible :
    documentSeeds (visible db context) context ids = documentSeeds db context ids := by
  unfold documentSeeds
  rw [seedProjections_visible]
  refine List.flatMap_congr fun authorized hauthorized => ?_
  congr 1
  exact Relational.filter_filter_of_imp fun document _ hdocument =>
    documentVisible_of_projection (projectionVisible_of_seed hauthorized) hdocument.1

theorem recordSeeds_visible :
    recordSeeds (visible db context) context ids = recordSeeds db context ids := by
  unfold recordSeeds
  rw [seedProjections_visible]
  refine List.flatMap_congr fun authorized hauthorized => ?_
  congr 1
  exact Relational.filter_filter_of_imp fun record _ hrecord =>
    hrecord.1 ▸ projectionVisible_of_seed hauthorized

theorem evidenceSeeds_visible :
    evidenceSeeds (visible db context) context ids = evidenceSeeds db context ids := by
  unfold evidenceSeeds
  rw [seedProjections_visible]
  refine List.flatMap_congr fun authorized hauthorized => ?_
  have hvisible := projectionVisible_of_seed hauthorized
  have hevidence : (visible db context).evidence.filter (fun evidence =>
        evidence.projectionRevisionId = authorized.projectionRevisionId ∧
          evidence.knowledgeResourceId = authorized.knowledgeResourceId ∧
          evidence.evidenceUnitRowId ∈ ids) =
      db.evidence.filter fun evidence =>
        evidence.projectionRevisionId = authorized.projectionRevisionId ∧
          evidence.knowledgeResourceId = authorized.knowledgeResourceId ∧
          evidence.evidenceUnitRowId ∈ ids :=
    Relational.filter_filter_of_imp fun evidence _ hevidence => hevidence.1 ▸ hvisible
  rw [hevidence]
  refine List.flatMap_congr fun evidence _ => ?_
  congr 1
  exact Relational.leftJoin_filter fun document _ hdocument =>
    documentVisible_of_projection hvisible hdocument.2

theorem mentionSeeds_visible :
    mentionSeeds (visible db context) context ids = mentionSeeds db context ids := by
  unfold mentionSeeds
  rw [seedProjections_visible]
  refine List.flatMap_congr fun authorized hauthorized => ?_
  congr 1
  exact Relational.filter_filter_of_imp fun mention _ hmention =>
    hmention.1 ▸ projectionVisible_of_seed hauthorized

theorem reportSeeds_visible :
    reportSeeds (visible db context) context ids = reportSeeds db context ids := by
  unfold reportSeeds
  rw [seedProjections_visible]
  refine List.flatMap_congr fun authorized hauthorized => ?_
  have hvisible := projectionVisible_of_seed hauthorized
  have hcommunities : (visible db context).communities.filter (fun community =>
        community.projectionRevisionId = authorized.projectionRevisionId ∧
          community.knowledgeResourceId = authorized.knowledgeResourceId ∧
          community.securityLabelId = authorized.securityLabelId ∧
          community.authzRevision = authorized.authzRevision) =
      db.communities.filter fun community =>
        community.projectionRevisionId = authorized.projectionRevisionId ∧
          community.knowledgeResourceId = authorized.knowledgeResourceId ∧
          community.securityLabelId = authorized.securityLabelId ∧
          community.authzRevision = authorized.authzRevision :=
    Relational.filter_filter_of_imp fun community _ hcommunity => hcommunity.1 ▸ hvisible
  rw [hcommunities]
  refine List.flatMap_congr fun community hcommunity => ?_
  obtain ⟨hmem, hjoined⟩ := List.mem_filter.mp hcommunity
  congr 1
  exact Relational.filter_filter_of_imp fun report _ hreport =>
    ⟨community, hmem, hreport.1.symm, (of_decide_eq_true hjoined).1 ▸ hvisible⟩

theorem seedTexts_visible (citations : List (String × String)) :
    seedTexts (visible db context) context citations = seedTexts db context citations := by
  simp only [seedTexts, documentSeeds_visible, recordSeeds_visible, evidenceSeeds_visible,
    mentionSeeds_visible, reportSeeds_visible]

theorem effectiveQuery_visible (query : String) (citations : List CitationLookup) :
    effectiveQuery engine (visible db context) context query citations =
      effectiveQuery engine db context query citations := by
  simp only [effectiveQuery, hydrateAuthorizedQuerySeed, seedTexts_visible]

/-! ### Hybrid search -/

theorem fetchHybridCandidates_visible (request : KnowledgeRetrievalRequest)
    (embedding : Option (List Float × String)) (limit : ℕ) :
    fetchHybridCandidates engine (visible db context) context request embedding limit =
      fetchHybridCandidates engine db context request embedding limit := by
  simp only [fetchHybridCandidates, effectiveQuery_visible, vectorRows, keywordRows,
    authorizedRows_visible]

theorem finalAuthorize_visible (expected : List (String × ℕ)) :
    finalAuthorize (visible db context) context expected = finalAuthorize db context expected := by
  simp only [finalAuthorize, finalRows_visible]

/-! ### Graph search -/

theorem mention_of_joined {row : MentionRow} (h : row ∈ joinedMentions engine db context filters) :
    row.mention ∈ db.mentions ∧
      row.mention.projectionRevisionId = row.authorized.projectionRevisionId ∧
      ProjectionVisible db context row.authorized.projectionRevisionId := by
  obtain ⟨authorized, hauthorized, h⟩ := List.mem_flatMap.mp h
  obtain ⟨mention, hmention, h⟩ := List.mem_flatMap.mp h
  obtain ⟨evidence, -, h⟩ := List.mem_flatMap.mp h
  obtain ⟨record, -, h⟩ := List.mem_flatMap.mp h
  obtain ⟨document, -, rfl⟩ := List.mem_map.mp h
  obtain ⟨hmem, hjoined⟩ := List.mem_filter.mp hmention
  exact ⟨hmem, (of_decide_eq_true hjoined).1, projectionVisible_of_authorized hauthorized⟩

theorem joinedMentions_visible :
    joinedMentions engine (visible db context) context filters =
      joinedMentions engine db context filters := by
  unfold joinedMentions
  rw [authorizedProjections_visible]
  refine List.flatMap_congr fun authorized hauthorized => ?_
  have hvisible := projectionVisible_of_authorized hauthorized
  have hmentions : (visible db context).mentions.filter (fun mention =>
        mention.projectionRevisionId = authorized.projectionRevisionId ∧
          mention.knowledgeResourceId = authorized.knowledgeResourceId ∧
          mention.securityLabelId = authorized.securityLabelId) =
      db.mentions.filter fun mention =>
        mention.projectionRevisionId = authorized.projectionRevisionId ∧
          mention.knowledgeResourceId = authorized.knowledgeResourceId ∧
          mention.securityLabelId = authorized.securityLabelId :=
    Relational.filter_filter_of_imp fun mention _ hmention => hmention.1 ▸ hvisible
  rw [hmentions]
  refine List.flatMap_congr fun mention _ => ?_
  have hevidence : Relational.leftJoin (fun evidence : Evidence =>
        some evidence.evidenceUnitRowId = mention.evidenceUnitRowId ∧
          evidence.projectionRevisionId = authorized.projectionRevisionId)
        (visible db context).evidence =
      Relational.leftJoin (fun evidence : Evidence =>
        some evidence.evidenceUnitRowId = mention.evidenceUnitRowId ∧
          evidence.projectionRevisionId = authorized.projectionRevisionId) db.evidence :=
    Relational.leftJoin_filter fun evidence _ hevidence => hevidence.2 ▸ hvisible
  rw [hevidence]
  refine List.flatMap_congr fun evidence _ => ?_
  have hrecords : Relational.leftJoin (fun record : ProjectionRecord =>
        some record.projectionRecordId = mention.projectionRecordId ∧
          record.projectionRevisionId = authorized.projectionRevisionId)
        (visible db context).records =
      Relational.leftJoin (fun record : ProjectionRecord =>
        some record.projectionRecordId = mention.projectionRecordId ∧
          record.projectionRevisionId = authorized.projectionRevisionId) db.records :=
    Relational.leftJoin_filter fun record _ hrecord => hrecord.2 ▸ hvisible
  rw [hrecords]
  refine List.flatMap_congr fun record _ => ?_
  congr 1
  exact Relational.leftJoin_filter fun document _ hdocument =>
    documentVisible_of_projection hvisible hdocument.1

theorem mentionHasModality_visible {row : MentionRow}
    (h : ProjectionVisible db context row.authorized.projectionRevisionId) :
    MentionHasModality (visible db context) filters row ↔ MentionHasModality db filters row := by
  refine forall₂_congr fun requested _ => ?_
  exact Relational.exists_mem_filter_iff fun channel _ hchannel => hchannel.1 ▸ h

theorem matchedEntities_visible (query : String) :
    matchedEntities engine (visible db context) context filters query =
      matchedEntities engine db context filters query := by
  unfold matchedEntities
  rw [joinedMentions_visible]
  refine List.flatMap_congr fun row hrow => ?_
  obtain ⟨hmem, hprojection, hvisible⟩ := mention_of_joined hrow
  simp only [mentionHasModality_visible hvisible]
  congr 1
  exact Relational.filter_filter_of_imp fun entity _ hentity =>
    ⟨row.mention, hmem, hentity.1.symm, hprojection ▸ hvisible⟩

theorem seedEntities_visible (query : String) (limit : ℕ) :
    seedEntities engine (visible db context) context filters query limit =
      seedEntities engine db context filters query limit := by
  simp only [seedEntities, matchedEntities_visible]

theorem relationRows_visible (frontier : List String) (limit : ℕ) :
    relationRows engine (visible db context) context filters frontier limit =
      relationRows engine db context filters frontier limit := by
  unfold relationRows
  rw [authorizedProjections_visible]
  congr 2
  refine List.flatMap_congr fun authorized hauthorized => ?_
  exact Relational.filter_filter_of_imp fun relation _ hrelation =>
    hrelation.1 ▸ projectionVisible_of_authorized hauthorized

theorem expand_visible (maxNodes maxEdges hops depth : ℕ) (frontier : List String)
    (visited : Visited) :
    expand engine (visible db context) context filters maxNodes maxEdges hops depth frontier
        visited =
      expand engine db context filters maxNodes maxEdges hops depth frontier visited := by
  induction hops generalizing depth frontier visited with
  | zero => rfl
  | succ hops ih => simp only [expand, relationRows_visible, ih]

theorem neighborhoodRows_visible (visited : Visited) (limit : ℕ) :
    neighborhoodRows engine (visible db context) context filters visited limit =
      neighborhoodRows engine db context filters visited limit := by
  unfold neighborhoodRows
  rw [joinedMentions_visible]
  congr 3
  refine List.filter_congr fun row hrow => ?_
  rw [decide_eq_decide, mentionHasModality_visible (mention_of_joined hrow).2.2]

theorem fetchNeighborhood_visible (query : String) (budget : Budget) (limit : ℕ) :
    fetchNeighborhood engine (visible db context) context filters query budget limit =
      fetchNeighborhood engine db context filters query budget limit := by
  simp only [fetchNeighborhood, seedEntities_visible, expand_visible, neighborhoodRows_visible]

theorem fetchGlobal_visible (query : String) (limit : ℕ) :
    fetchGlobal engine (visible db context) context filters query limit =
      fetchGlobal engine db context filters query limit := by
  unfold fetchGlobal
  rw [authorizedProjections_visible]
  congr 2
  refine List.flatMap_congr fun authorized hauthorized => ?_
  have hvisible := projectionVisible_of_authorized hauthorized
  have hcommunities : (visible db context).communities.filter (fun community =>
        community.projectionRevisionId = authorized.projectionRevisionId ∧
          community.knowledgeResourceId = authorized.knowledgeResourceId ∧
          community.securityLabelId = authorized.securityLabelId ∧
          community.authzRevision = authorized.authzRevision ∧
          community.visibilityPartitionHash = authorized.visibilityPartitionHash) =
      db.communities.filter fun community =>
        community.projectionRevisionId = authorized.projectionRevisionId ∧
          community.knowledgeResourceId = authorized.knowledgeResourceId ∧
          community.securityLabelId = authorized.securityLabelId ∧
          community.authzRevision = authorized.authzRevision ∧
          community.visibilityPartitionHash = authorized.visibilityPartitionHash :=
    Relational.filter_filter_of_imp fun community _ hcommunity => hcommunity.1 ▸ hvisible
  rw [hcommunities]
  refine List.flatMap_congr fun community hcommunity => ?_
  obtain ⟨hmem, hjoined⟩ := List.mem_filter.mp hcommunity
  congr 1
  exact Relational.filter_filter_of_imp fun report _ hreport =>
    ⟨community, hmem, hreport.1.symm, (of_decide_eq_true hjoined).1 ▸ hvisible⟩

theorem graphCandidates_visible (request : KnowledgeRetrievalRequest) (query : String) :
    graphCandidates engine (visible db context) context filters request query =
      graphCandidates engine db context filters request query := by
  simp only [graphCandidates, fetchGlobal_visible, fetchNeighborhood_visible]

/-! ### Two databases -/

def visibleTo (request : KnowledgeRetrievalRequest) (snapshot : Snapshot) : Snapshot where
  db := visible snapshot.db (request.queryContext snapshot.now)
  now := snapshot.now

variable {request : KnowledgeRetrievalRequest} {first second : Snapshot}

theorem hybridSearch_visible :
    hybridSearch engine (visibleTo request first) (visibleTo request second) request =
      hybridSearch engine first second request := by
  simp only [hybridSearch, visibleTo, fetchHybridCandidates_visible, finalAuthorize_visible]

theorem graphSearch_visible :
    graphSearch engine (visibleTo request first) (visibleTo request second) request =
      graphSearch engine first second request := by
  simp only [graphSearch, visibleTo, effectiveQuery_visible, graphCandidates_visible,
    finalAuthorize_visible]

theorem search_visible :
    search engine (visibleTo request first) (visibleTo request second) request =
      search engine first second request := by
  unfold search
  rw [hybridSearch_visible, graphSearch_visible]

/-- Databases that agree on what the request is authorised for get equal responses, in every
mode: those that the candidates are read from, and those that the final check reads. -/
theorem search_noninterference (engine : Engine) (request : KnowledgeRetrievalRequest)
    {first second first' second' : Snapshot}
    (hfirst : visibleTo request first = visibleTo request first')
    (hsecond : visibleTo request second = visibleTo request second') :
    search engine first second request = search engine first' second' request := by
  rw [← search_visible, hfirst, hsecond, search_visible]

/-! ### A resource of someone else -/

def otherResource : ResourceRow :=
  { sampleResource with knowledgeResourceId := "kr_2", securityLabelId := "ksl_2" }

def otherLabel : Label := { sampleLabel with securityLabelId := "ksl_2" }

def otherProjection : Projection :=
  { sampleProjection with projectionRevisionId := "kpr_2", knowledgeResourceId := "kr_2" }

def otherDocument : Document :=
  { sampleDocument with
    id := "00000000-0000-0000-0000-000000000002"
    content := "alpha beta"
    knowledgeResourceId := some "kr_2"
    securityLabelId := some "ksl_2"
    projectionRevisionId := some "kpr_2" }

def crowdedDatabase : Database :=
  { sampleDatabase with
    resources := [otherResource, sampleResource]
    labels := [otherLabel, sampleLabel]
    projections := [otherProjection, sampleProjection]
    documents := [otherDocument, sampleDocument]
    resource_keys := by decide
    label_keys := by decide }

def sampleRequest : KnowledgeRetrievalRequest where
  query := "alpha"
  accessContext :=
    { subjectUserId := "u1"
      tenantId := "local"
      principals := [reader]
      memberships := []
      permissions := []
      principalSetHash := "p1"
      agentRole := none }
  scopeType := .workspace
  scopeId := "w1"
  topK := 5
  filters := noFilters
  retrievalMode := .hybrid
  queryEvidenceRefs := []
  query_given := .inl (by decide)
  scope_given := by decide
  topK_bounds := by decide
  refs_bound := by decide

theorem crowded_search_eq :
    search Neighborhoods.wordEngine ⟨crowdedDatabase, 10⟩ ⟨crowdedDatabase, 11⟩ sampleRequest =
      search Neighborhoods.wordEngine ⟨sampleDatabase, 10⟩ ⟨sampleDatabase, 11⟩
        sampleRequest := by
  have hfirst : visibleTo sampleRequest ⟨crowdedDatabase, 10⟩ =
      visibleTo sampleRequest ⟨sampleDatabase, 10⟩ := by rfl
  have hsecond : visibleTo sampleRequest ⟨crowdedDatabase, 11⟩ =
      visibleTo sampleRequest ⟨sampleDatabase, 11⟩ := by rfl
  exact search_noninterference Neighborhoods.wordEngine sampleRequest hfirst hsecond

end MindscapeLocalCore.KnowledgeRetrieval.Noninterference
