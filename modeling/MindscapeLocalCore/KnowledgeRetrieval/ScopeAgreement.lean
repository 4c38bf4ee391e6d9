import MindscapeLocalCore.KnowledgeRetrieval.Scopes

/-!
All scopes admit the same resources: those that the context is authorised for.
-/

namespace MindscapeLocalCore.KnowledgeRetrieval.ScopeAgreement

open Library Library.Json
open KnowledgeAuthorization.Store (GrantRow Label)
open KnowledgeAuthorization.WriteContracts (PrincipalRef)
open Tables Scopes

variable (jsonbText : Json → String) (db : Database) (context : QueryContext)

structure Authorized (resource : ResourceRow) (label : Label) : Prop where
  isLabel : label.securityLabelId = resource.securityLabelId
  active : resource.active = true
  kept : resource.deletedAt = none
  tenant : resource.stable.tenantId = context.tenantId
  scopeType : resource.stable.ownerScopeType = context.scopeType
  scope : resource.stable.ownerScopeId = context.scopeId
  allowed : Granted db context .allow label
  notDenied : ¬ Granted db context .deny label
  unmasked : MaskAdmits db context resource.knowledgeResourceId

def noFilters : Filters where
  sourceApps := []
  sourceIds := []
  ownerCapabilities := []
  modality := none

def HybridAdmits (resource : ResourceRow) : Prop :=
  ∃ row ∈ authorizedRows jsonbText db context noFilters,
    row.knowledgeResourceId = resource.knowledgeResourceId

def GraphAdmits (resource : ResourceRow) : Prop :=
  ∃ row ∈ authorizedProjections db context noFilters,
    row.knowledgeResourceId = resource.knowledgeResourceId

def SeedAdmits (resource : ResourceRow) : Prop :=
  ∃ row ∈ seedProjections db context, row.knowledgeResourceId = resource.knowledgeResourceId

def FinalAdmits (resourceId : String) (authzRevision : ℕ) : Prop :=
  (resourceId, authzRevision) ∈ finalRows db context [(resourceId, authzRevision)]

def HasProjectedDocument (resource : ResourceRow) : Prop :=
  ∃ projection ∈ db.projections, projection.Live ∧
    projection.knowledgeResourceId = resource.knowledgeResourceId ∧
    ∃ document ∈ db.documents,
      document.projectionRevisionId = some projection.projectionRevisionId ∧
        document.knowledgeResourceId = some resource.knowledgeResourceId ∧
        document.securityLabelId = some resource.securityLabelId

variable {jsonbText db context} {resource other : ResourceRow} {label : Label} {filters : Filters}

theorem anyOf_nil (column : String) : AnyOf [] column := .inl rfl

theorem eq_of_sameResource (hmem : resource ∈ db.resources) (hother : other ∈ db.resources)
    (h : other.knowledgeResourceId = resource.knowledgeResourceId) : other = resource :=
  List.inj_on_of_nodup_map db.resource_keys hother hmem h

theorem mem_resourceJoin {α : Type} {on : ResourceRow → Prop} [DecidablePred on]
    {onLabel : ResourceRow → Label → Prop} [DecidableRel onLabel]
    {rows : ResourceRow → Label → List α} {row : α} :
    row ∈ resourceJoin db on onLabel rows ↔
      ∃ resource ∈ db.resources, on resource ∧ ∃ label ∈ db.labels,
        onLabel resource label ∧ row ∈ rows resource label := by
  simp only [resourceJoin, List.mem_flatMap, List.mem_filter, decide_eq_true_eq, and_assoc]

/-! ### What each scope admits -/

section

variable (hisLabel : label.securityLabelId = resource.securityLabelId)
variable (hactive : resource.active = true) (hkept : resource.deletedAt = none)

include hisLabel hactive hkept

theorem authorized_of_candidateWhere {document : Document} {joined : Option Projection}
    (h : CandidateWhere jsonbText db context filters document resource label joined) :
    Authorized db context resource label := by
  obtain ⟨htenant, htype, hscope, -, hallow, hdeny, -, -, -, -, hmask⟩ := h
  exact ⟨hisLabel, hactive, hkept, htenant, htype, hscope, hallow, hdeny, hmask⟩

theorem authorized_of_projectionWhere {projection : Projection}
    (h : ProjectionWhere db context filters projection resource label) :
    Authorized db context resource label := by
  obtain ⟨htenant, htype, hscope, -, hallow, hdeny, -, -, -, -, hmask⟩ := h
  exact ⟨hisLabel, hactive, hkept, htenant, htype, hscope, hallow, hdeny, hmask⟩

theorem authorized_of_seedWhere {projection : Projection}
    (h : SeedWhere db context projection resource label) :
    Authorized db context resource label := by
  obtain ⟨htenant, htype, hscope, -, hallow, hdeny, hmask⟩ := h
  exact ⟨hisLabel, hactive, hkept, htenant, htype, hscope, hallow, hdeny, hmask⟩

end

theorem authorized_of_mem_rowsOfDocument {document : Document} {row : CandidateRow}
    (h : row ∈ rowsOfDocument jsonbText db context filters document) :
    ∃ resource ∈ db.resources, ∃ label ∈ db.labels, Authorized db context resource label ∧
      some resource.knowledgeResourceId = document.knowledgeResourceId ∧
      row = candidateRow document resource label := by
  obtain ⟨resource, hresource, ⟨hid, -, hactive, hkept⟩, label, hlabel, hisLabel, hrow⟩ :=
    mem_resourceJoin.mp h
  obtain ⟨joined, hjoined, rfl⟩ := List.mem_map.mp hrow
  obtain ⟨-, hwhere⟩ := List.mem_filter.mp hjoined
  exact ⟨resource, hresource, label, hlabel,
    authorized_of_candidateWhere hisLabel hactive hkept (of_decide_eq_true hwhere), hid, rfl⟩

theorem authorized_of_mem_rowsOfProjection {projection : Projection} {row : AuthorizedProjection}
    (h : row ∈ rowsOfProjection db context filters projection) :
    ∃ resource ∈ db.resources, ∃ label ∈ db.labels, Authorized db context resource label ∧
      resource.knowledgeResourceId = projection.knowledgeResourceId ∧
      row = projectionRow projection resource label := by
  obtain ⟨resource, hresource, ⟨hid, hactive, hkept⟩, label, hlabel, hisLabel, hrow⟩ :=
    mem_resourceJoin.mp h
  split at hrow
  · rename_i hwhere
    exact ⟨resource, hresource, label, hlabel,
      authorized_of_projectionWhere hisLabel hactive hkept hwhere, hid, List.mem_singleton.mp hrow⟩
  · cases hrow

theorem authorized_of_mem_seedRowsOf {projection : Projection} {row : SeedProjection}
    (h : row ∈ seedRowsOf db context projection) :
    ∃ resource ∈ db.resources, ∃ label ∈ db.labels, Authorized db context resource label ∧
      resource.knowledgeResourceId = projection.knowledgeResourceId ∧
      row = seedRow projection resource label := by
  obtain ⟨resource, hresource, ⟨hid, hactive, hkept⟩, label, hlabel, hisLabel, hrow⟩ :=
    mem_resourceJoin.mp h
  split at hrow
  · rename_i hwhere
    exact ⟨resource, hresource, label, hlabel,
      authorized_of_seedWhere hisLabel hactive hkept hwhere, hid, List.mem_singleton.mp hrow⟩
  · cases hrow

theorem authorized_of_candidate {row : CandidateRow}
    (h : row ∈ authorizedRows jsonbText db context filters) :
    ∃ resource ∈ db.resources, ∃ label ∈ db.labels, Authorized db context resource label ∧
      row.knowledgeResourceId = resource.knowledgeResourceId ∧
      row.authzRevision = label.authzRevision := by
  obtain ⟨document, -, hrow⟩ := List.mem_flatMap.mp h
  obtain ⟨resource, hresource, label, hlabel, hauthorized, -, rfl⟩ :=
    authorized_of_mem_rowsOfDocument hrow
  exact ⟨resource, hresource, label, hlabel, hauthorized, rfl, rfl⟩

theorem authorized_of_projection {row : AuthorizedProjection}
    (h : row ∈ authorizedProjections db context filters) :
    ∃ resource ∈ db.resources, ∃ label ∈ db.labels, Authorized db context resource label ∧
      row.knowledgeResourceId = resource.knowledgeResourceId ∧
      row.authzRevision = label.authzRevision := by
  obtain ⟨projection, -, hrow⟩ := List.mem_flatMap.mp h
  obtain ⟨resource, hresource, label, hlabel, hauthorized, hid, rfl⟩ :=
    authorized_of_mem_rowsOfProjection hrow
  exact ⟨resource, hresource, label, hlabel, hauthorized, hid.symm, rfl⟩

theorem authorized_of_seed {row : SeedProjection} (h : row ∈ seedProjections db context) :
    ∃ resource ∈ db.resources, ∃ label ∈ db.labels, Authorized db context resource label ∧
      row.knowledgeResourceId = resource.knowledgeResourceId ∧
      row.authzRevision = label.authzRevision := by
  obtain ⟨projection, -, hrow⟩ := List.mem_flatMap.mp h
  obtain ⟨resource, hresource, label, hlabel, hauthorized, hid, rfl⟩ :=
    authorized_of_mem_seedRowsOf hrow
  exact ⟨resource, hresource, label, hlabel, hauthorized, hid.symm, rfl⟩

theorem finalAdmits_iff {resourceId : String} {authzRevision : ℕ} :
    FinalAdmits db context resourceId authzRevision ↔
      ∃ resource ∈ db.resources, ∃ label ∈ db.labels, Authorized db context resource label ∧
        resource.knowledgeResourceId = resourceId ∧ label.authzRevision = authzRevision := by
  unfold FinalAdmits finalRows
  rw [List.flatMap_singleton, rowsOfBinding, mem_resourceJoin]
  constructor
  · rintro ⟨resource, hresource, ⟨hid, hactive, hkept, htenant, htype, hscope⟩, label, hlabel,
      ⟨hisLabel, hrevision⟩, hrow⟩
    split at hrow
    · rename_i hwhere
      obtain ⟨hallow, hdeny, hmask⟩ := hwhere
      exact ⟨resource, hresource, label, hlabel,
        ⟨hisLabel, hactive, hkept, htenant, htype, hscope, hallow, hdeny, hmask⟩, hid, hrevision⟩
    · cases hrow
  · rintro ⟨resource, hresource, label, hlabel, hauthorized, hid, hrevision⟩
    refine ⟨resource, hresource, ⟨hid, hauthorized.active, hauthorized.kept, hauthorized.tenant,
      hauthorized.scopeType, hauthorized.scope⟩, label, hlabel, ⟨hauthorized.isLabel, hrevision⟩,
      ?_⟩
    have hwhere : FinalWhere db context resource label :=
      ⟨hauthorized.allowed, hauthorized.notDenied, hauthorized.unmasked⟩
    rw [if_pos hwhere, hid, hrevision]
    exact List.mem_singleton_self _

/-! ### A resource with an active projection -/

theorem hybridAdmits_of_authorized (hmem : resource ∈ db.resources) (hlabel : label ∈ db.labels)
    (hauthorized : Authorized db context resource label)
    (hprojected : HasProjectedDocument db resource) :
    HybridAdmits jsonbText db context resource := by
  obtain ⟨projection, hprojection, hlive, hsame, document, hdocument, hrevision, hresource,
    hsecurity⟩ := hprojected
  have hjoined : some projection ∈
      Relational.leftJoin (JoinsProjection document resource) db.projections :=
    Relational.mem_leftJoin.mpr (.inl ⟨projection, hprojection, ⟨hrevision.symm, hsame⟩, rfl⟩)
  have hwhere : CandidateWhere jsonbText db context noFilters document resource label
      (some projection) := by
    refine ⟨hauthorized.tenant, hauthorized.scopeType, hauthorized.scope, .inr ⟨?_, ?_⟩,
      hauthorized.allowed, hauthorized.notDenied, anyOf_nil _, anyOf_nil _, anyOf_nil _, ?_,
      hauthorized.unmasked⟩
    · rw [hrevision]
      exact Option.some_ne_none _
    · exact ⟨projection, rfl, hlive⟩
    · intro requested hrequested
      cases hrequested
  refine ⟨candidateRow document resource label, List.mem_flatMap.mpr ⟨document, hdocument, mem_resourceJoin.mpr ⟨resource, hmem,
    ⟨hresource.symm, hsecurity.symm, hauthorized.active, hauthorized.kept⟩, label, hlabel,
    hauthorized.isLabel, List.mem_map.mpr ⟨some projection,
      List.mem_filter.mpr ⟨hjoined, decide_eq_true hwhere⟩, rfl⟩⟩⟩, rfl⟩

theorem graphAdmits_of_authorized (hmem : resource ∈ db.resources) (hlabel : label ∈ db.labels)
    (hauthorized : Authorized db context resource label)
    (hprojected : HasProjectedDocument db resource) : GraphAdmits db context resource := by
  obtain ⟨projection, hprojection, hlive, hsame, -⟩ := hprojected
  have hwhere : ProjectionWhere db context noFilters projection resource label := by
    refine ⟨hauthorized.tenant, hauthorized.scopeType, hauthorized.scope, hlive,
      hauthorized.allowed, hauthorized.notDenied, anyOf_nil _, anyOf_nil _, anyOf_nil _, ?_,
      hauthorized.unmasked⟩
    intro requested hrequested
    cases hrequested
  refine ⟨projectionRow projection resource label, List.mem_flatMap.mpr ⟨projection, hprojection, mem_resourceJoin.mpr ⟨resource, hmem,
    ⟨hsame.symm, hauthorized.active, hauthorized.kept⟩, label, hlabel, hauthorized.isLabel, ?_⟩⟩,
    hsame⟩
  rw [if_pos hwhere]
  exact List.mem_singleton_self _

theorem seedAdmits_of_authorized (hmem : resource ∈ db.resources) (hlabel : label ∈ db.labels)
    (hauthorized : Authorized db context resource label)
    (hprojected : HasProjectedDocument db resource) : SeedAdmits db context resource := by
  obtain ⟨projection, hprojection, hlive, hsame, -⟩ := hprojected
  have hwhere : SeedWhere db context projection resource label :=
    ⟨hauthorized.tenant, hauthorized.scopeType, hauthorized.scope, hlive, hauthorized.allowed,
      hauthorized.notDenied, hauthorized.unmasked⟩
  refine ⟨seedRow projection resource label, List.mem_flatMap.mpr ⟨projection, hprojection, mem_resourceJoin.mpr ⟨resource, hmem,
    ⟨hsame.symm, hauthorized.active, hauthorized.kept⟩, label, hlabel, hauthorized.isLabel, ?_⟩⟩,
    hsame⟩
  rw [if_pos hwhere]
  exact List.mem_singleton_self _

theorem authorized_of_sameIds (hmem : resource ∈ db.resources) (hlabel : label ∈ db.labels)
    (hisLabel : label.securityLabelId = resource.securityLabelId)
    (h : ∃ other ∈ db.resources, ∃ otherLabel ∈ db.labels,
      Authorized db context other otherLabel ∧
        other.knowledgeResourceId = resource.knowledgeResourceId) :
    Authorized db context resource label := by
  obtain ⟨other, hother, otherLabel, hotherLabel, hauthorized, hid⟩ := h
  obtain rfl := eq_of_sameResource hmem hother hid
  have hsame : otherLabel.securityLabelId = label.securityLabelId :=
    hauthorized.isLabel.trans hisLabel.symm
  obtain rfl := List.inj_on_of_nodup_map db.label_keys hotherLabel hlabel hsame
  exact hauthorized

section

variable (hmem : resource ∈ db.resources) (hlabel : label ∈ db.labels)
variable (hisLabel : label.securityLabelId = resource.securityLabelId)

include hmem hlabel hisLabel

theorem hybridAdmits_iff (hprojected : HasProjectedDocument db resource) :
    HybridAdmits jsonbText db context resource ↔ Authorized db context resource label := by
  constructor
  · rintro ⟨row, hrow, hid⟩
    obtain ⟨other, hother, otherLabel, hotherLabel, hauthorized, hrowId, -⟩ :=
      authorized_of_candidate hrow
    exact authorized_of_sameIds hmem hlabel hisLabel
      ⟨other, hother, otherLabel, hotherLabel, hauthorized, hrowId.symm.trans hid⟩
  · intro hauthorized
    exact hybridAdmits_of_authorized hmem hlabel hauthorized hprojected

theorem graphAdmits_iff (hprojected : HasProjectedDocument db resource) :
    GraphAdmits db context resource ↔ Authorized db context resource label := by
  constructor
  · rintro ⟨row, hrow, hid⟩
    obtain ⟨other, hother, otherLabel, hotherLabel, hauthorized, hrowId, -⟩ :=
      authorized_of_projection hrow
    exact authorized_of_sameIds hmem hlabel hisLabel
      ⟨other, hother, otherLabel, hotherLabel, hauthorized, hrowId.symm.trans hid⟩
  · intro hauthorized
    exact graphAdmits_of_authorized hmem hlabel hauthorized hprojected

theorem seedAdmits_iff (hprojected : HasProjectedDocument db resource) :
    SeedAdmits db context resource ↔ Authorized db context resource label := by
  constructor
  · rintro ⟨row, hrow, hid⟩
    obtain ⟨other, hother, otherLabel, hotherLabel, hauthorized, hrowId, -⟩ :=
      authorized_of_seed hrow
    exact authorized_of_sameIds hmem hlabel hisLabel
      ⟨other, hother, otherLabel, hotherLabel, hauthorized, hrowId.symm.trans hid⟩
  · intro hauthorized
    exact seedAdmits_of_authorized hmem hlabel hauthorized hprojected

theorem finalAdmits_current_iff :
    FinalAdmits db context resource.knowledgeResourceId label.authzRevision ↔
      Authorized db context resource label := by
  rw [finalAdmits_iff]
  constructor
  · rintro ⟨other, hother, otherLabel, hotherLabel, hauthorized, hid, -⟩
    exact authorized_of_sameIds hmem hlabel hisLabel
      ⟨other, hother, otherLabel, hotherLabel, hauthorized, hid⟩
  · intro hauthorized
    exact ⟨resource, hmem, label, hlabel, hauthorized, rfl, rfl⟩

end

theorem finalAdmits_of_row {resourceId : String} {authzRevision : ℕ}
    (h : ∃ resource ∈ db.resources, ∃ label ∈ db.labels, Authorized db context resource label ∧
      resourceId = resource.knowledgeResourceId ∧ authzRevision = label.authzRevision) :
    FinalAdmits db context resourceId authzRevision := by
  obtain ⟨resource, hresource, label, hlabel, hauthorized, hid, hrevision⟩ := h
  exact finalAdmits_iff.mpr
    ⟨resource, hresource, label, hlabel, hauthorized, hid.symm, hrevision.symm⟩

/-- All scopes admit the same: of a resource with a document in an active projection, all four do
or none does, and the final check confirms every row of the other three. -/
theorem scopes_agree (jsonbText : Json → String) (db : Database) (context : QueryContext) :
    (∀ resource ∈ db.resources, ∀ label ∈ db.labels,
      label.securityLabelId = resource.securityLabelId → HasProjectedDocument db resource →
        (HybridAdmits jsonbText db context resource ↔ GraphAdmits db context resource) ∧
        (GraphAdmits db context resource ↔ SeedAdmits db context resource) ∧
        (SeedAdmits db context resource ↔
          FinalAdmits db context resource.knowledgeResourceId label.authzRevision)) ∧
    (∀ filters, ∀ row ∈ authorizedRows jsonbText db context filters,
      FinalAdmits db context row.knowledgeResourceId row.authzRevision) ∧
    (∀ filters, ∀ row ∈ authorizedProjections db context filters,
      FinalAdmits db context row.knowledgeResourceId row.authzRevision) ∧
    ∀ row ∈ seedProjections db context,
      FinalAdmits db context row.knowledgeResourceId row.authzRevision := by
  refine ⟨?_, ?_, ?_, ?_⟩
  · intro resource hmem label hlabel hisLabel hprojected
    have hhybrid : HybridAdmits jsonbText db context resource ↔
        Authorized db context resource label :=
      hybridAdmits_iff hmem hlabel hisLabel hprojected
    have hgraph : GraphAdmits db context resource ↔ Authorized db context resource label :=
      graphAdmits_iff hmem hlabel hisLabel hprojected
    have hseed : SeedAdmits db context resource ↔ Authorized db context resource label :=
      seedAdmits_iff hmem hlabel hisLabel hprojected
    have hfinal : FinalAdmits db context resource.knowledgeResourceId label.authzRevision ↔
        Authorized db context resource label :=
      finalAdmits_current_iff hmem hlabel hisLabel
    exact ⟨hhybrid.trans hgraph.symm, hgraph.trans hseed.symm, hseed.trans hfinal.symm⟩
  · intro filters row hrow
    exact finalAdmits_of_row (authorized_of_candidate hrow)
  · intro filters row hrow
    exact finalAdmits_of_row (authorized_of_projection hrow)
  · intro row hrow
    exact finalAdmits_of_row (authorized_of_seed hrow)

/-! ### A resource that a user may read -/

def sampleResource : ResourceRow where
  knowledgeResourceId := "kr_1"
  stable :=
    { tenantId := "local"
      ownerCapabilityCode := "document_ingestion"
      sourceKind := .document
      sourceRef := "document:d1"
      ownerScopeType := .workspace
      ownerScopeId := "w1" }
  sourceApp := "document_ingestion"
  sourceId := "d1"
  sourceRevision := "r1"
  securityLabelId := "ksl_1"
  active := true
  deletedAt := none

def sampleLabel : Label where
  securityLabelId := "ksl_1"
  classification := .private
  authzRevision := 1

def sampleProjection : Projection where
  projectionRevisionId := "kpr_1"
  knowledgeResourceId := "kr_1"
  visibilityPartitionHash := "v1"
  active := true
  status := .active

def sampleDocument : Document where
  id := "00000000-0000-0000-0000-000000000001"
  sourceApp := "document_ingestion"
  sourceId := "d1#0"
  title := none
  content := "alpha"
  embedding := none
  metadata := none
  knowledgeResourceId := some "kr_1"
  securityLabelId := some "ksl_1"
  projectionRevisionId := some "kpr_1"

def reader : PrincipalRef := ⟨.user, "u1", by decide⟩

def sampleGrant : GrantRow where
  grantId := "kg_1"
  securityLabelId := "ksl_1"
  principal := reader
  relation := .reader
  effect := .allow
  validFrom := none
  validUntil := some 100
  authzRevision := 1

def sampleDatabase : Database where
  resources := [sampleResource]
  labels := [sampleLabel]
  grants := [sampleGrant]
  masks := []
  projections := [sampleProjection]
  documents := [sampleDocument]
  evidence := []
  channels := []
  records := []
  entities := []
  mentions := []
  relations := []
  communities := []
  reports := []
  resource_keys := by simp
  label_keys := by simp

def sampleContext : QueryContext where
  tenantId := "local"
  scopeType := .workspace
  scopeId := "w1"
  principals := [reader]
  agentRole := some "writer"
  now := 10

theorem sampleDatabase_projected : HasProjectedDocument sampleDatabase sampleResource := by
  refine ⟨sampleProjection, List.mem_singleton_self _, ⟨rfl, .inl rfl⟩, rfl, sampleDocument,
    List.mem_singleton_self _, rfl, rfl, rfl⟩

theorem sample_scopes_agree :
    ((HybridAdmits (fun _ => "") sampleDatabase sampleContext sampleResource ↔
        GraphAdmits sampleDatabase sampleContext sampleResource) ∧
      (GraphAdmits sampleDatabase sampleContext sampleResource ↔
        SeedAdmits sampleDatabase sampleContext sampleResource) ∧
      (SeedAdmits sampleDatabase sampleContext sampleResource ↔
        FinalAdmits sampleDatabase sampleContext "kr_1" 1)) ∧
      FinalAdmits sampleDatabase sampleContext "kr_1" 1 := by
  refine ⟨(scopes_agree (fun _ => "") sampleDatabase sampleContext).1 sampleResource
    (List.mem_singleton_self _) sampleLabel (List.mem_singleton_self _) rfl
    sampleDatabase_projected, ?_⟩
  exact finalAdmits_iff.mpr ⟨sampleResource, List.mem_singleton_self _, sampleLabel,
    List.mem_singleton_self _, ⟨rfl, rfl, rfl, rfl, rfl, rfl, by decide, by decide, by decide⟩,
    rfl, rfl⟩

end MindscapeLocalCore.KnowledgeRetrieval.ScopeAgreement
