import MindscapeLocalCore.KnowledgeRetrieval.Tables
import MindscapeLocalCore.Library.Relational

/-!
The four authorisation scopes of retrieval, each with the joins and clauses of its own query, and
the one condition that all of them are.
-/

namespace MindscapeLocalCore.KnowledgeRetrieval.Scopes

open Library Library.Json
open KnowledgeAuthorization.Store (Label)
open Tables

/-- `JOIN knowledge_resources ON …` and `JOIN knowledge_security_labels ON …`. -/
def resourceJoin {α : Type} (db : Database) (on : ResourceRow → Prop) [DecidablePred on]
    (onLabel : ResourceRow → Label → Prop) [DecidableRel onLabel]
    (rows : ResourceRow → Label → List α) : List α :=
  (db.resources.filter fun resource => on resource).flatMap fun resource =>
    (db.labels.filter fun label => onLabel resource label).flatMap fun label =>
      rows resource label

/-! ### The scope of hybrid candidates -/

/-- `metadata->>key`; values that are no text are written by the database. -/
def textAt (jsonbText : Json → String) (metadata : Option Dict) (key : String) : Option String :=
  match metadata.bind fun members => members.get? key with
  | none => none
  | some .null => none
  | some (.str value) => some value
  | some value => some (jsonbText value)

variable (jsonbText : Json → String) (db : Database) (context : QueryContext)

def LegacyActive (document : Document) : Prop :=
  document.projectionRevisionId = none ∧
    ((textAt jsonbText document.metadata "active").getD "true").toLower = "true"

instance (document : Document) : Decidable (LegacyActive jsonbText document) :=
  inferInstanceAs (Decidable (_ ∧ _))

def DocumentHasModality (document : Document) (modality : Option Modality) : Prop :=
  ∀ requested ∈ modality,
    (requested = .text ∧ document.projectionRevisionId = none) ∨
      ∃ evidence ∈ db.evidence, ∃ channel ∈ db.channels,
        channel.evidenceUnitRowId = some evidence.evidenceUnitRowId ∧
          channel.projectionRevisionId = evidence.projectionRevisionId ∧
          some evidence.projectionRevisionId = document.projectionRevisionId ∧
          (evidence.externalDocId = some document.id ∨
            evidence.unitKey =
              (textAt jsonbText document.metadata "chunk_id").getD document.sourceId) ∧
          channel.modality = requested ∧ channel.state = "active"

instance (document : Document) (modality : Option Modality) :
    Decidable (DocumentHasModality jsonbText db document modality) :=
  inferInstanceAs (Decidable (∀ _ ∈ _, _))

/-- A row of `authorized_rows`. -/
structure CandidateRow where
  document : Document
  knowledgeResourceId : String
  securityLabelId : String
  sourceRef : String
  authzRevision : ℕ

/-- The columns that `authorized_rows` selects. -/
def candidateRow (document : Document) (resource : ResourceRow) (label : Label) :
    CandidateRow where
  document := document
  knowledgeResourceId := resource.knowledgeResourceId
  securityLabelId := resource.securityLabelId
  sourceRef := resource.stable.sourceRef
  authzRevision := label.authzRevision

/-- The `WHERE` of `AUTHORIZED_CANDIDATES_CTE`. -/
def CandidateWhere (filters : Filters) (document : Document) (resource : ResourceRow)
    (label : Label) (projection : Option Projection) : Prop :=
  resource.stable.tenantId = context.tenantId ∧
    resource.stable.ownerScopeType = context.scopeType ∧
    resource.stable.ownerScopeId = context.scopeId ∧
    (LegacyActive jsonbText document ∨
      document.projectionRevisionId ≠ none ∧ ∃ row ∈ projection, row.Live) ∧
    Granted db context .allow label ∧
    ¬ Granted db context .deny label ∧
    AnyOf filters.sourceApps document.sourceApp ∧
    AnyOf filters.sourceIds document.sourceId ∧
    AnyOf filters.ownerCapabilities resource.stable.ownerCapabilityCode ∧
    DocumentHasModality jsonbText db document filters.modality ∧
    MaskAdmits db context resource.knowledgeResourceId

instance (filters : Filters) (document : Document) (resource : ResourceRow) (label : Label)
    (projection : Option Projection) :
    Decidable (CandidateWhere jsonbText db context filters document resource label projection) :=
  inferInstanceAs (Decidable (_ ∧ _))

/-- `LEFT JOIN knowledge_resource_projections ON …`. -/
def JoinsProjection (document : Document) (resource : ResourceRow) (projection : Projection) :
    Prop :=
  some projection.projectionRevisionId = document.projectionRevisionId ∧
    projection.knowledgeResourceId = resource.knowledgeResourceId

instance (document : Document) (resource : ResourceRow) (projection : Projection) :
    Decidable (JoinsProjection document resource projection) :=
  inferInstanceAs (Decidable (_ ∧ _))

def rowsOfDocument (filters : Filters) (document : Document) : List CandidateRow :=
  resourceJoin db
    (fun resource =>
      some resource.knowledgeResourceId = document.knowledgeResourceId ∧
        some resource.securityLabelId = document.securityLabelId ∧
        resource.active = true ∧ resource.deletedAt = none)
    (fun resource label => label.securityLabelId = resource.securityLabelId)
    fun resource label =>
      ((Relational.leftJoin (JoinsProjection document resource) db.projections).filter
        fun projection =>
          CandidateWhere jsonbText db context filters document resource label projection).map
        fun _ => candidateRow document resource label

/-- `AUTHORIZED_CANDIDATES_CTE` -/
def authorizedRows (filters : Filters) : List CandidateRow :=
  db.documents.flatMap (rowsOfDocument jsonbText db context filters)

/-! ### The scope of graph queries -/

/-- A row of `authorized_projections`. -/
structure AuthorizedProjection where
  projectionRevisionId : String
  knowledgeResourceId : String
  visibilityPartitionHash : String
  securityLabelId : String
  sourceApp : String
  sourceId : String
  sourceRef : String
  authzRevision : ℕ

/-- The columns that `authorized_projections` selects. -/
def projectionRow (projection : Projection) (resource : ResourceRow) (label : Label) :
    AuthorizedProjection where
  projectionRevisionId := projection.projectionRevisionId
  knowledgeResourceId := projection.knowledgeResourceId
  visibilityPartitionHash := projection.visibilityPartitionHash
  securityLabelId := resource.securityLabelId
  sourceApp := resource.sourceApp
  sourceId := resource.sourceId
  sourceRef := resource.stable.sourceRef
  authzRevision := label.authzRevision

def ProjectionHasModality (projection : Projection) (modality : Option Modality) : Prop :=
  ∀ requested ∈ modality, ∃ channel ∈ db.channels,
    channel.projectionRevisionId = projection.projectionRevisionId ∧
      channel.modality = requested ∧ channel.state = "active"

instance (projection : Projection) (modality : Option Modality) :
    Decidable (ProjectionHasModality db projection modality) :=
  inferInstanceAs (Decidable (∀ _ ∈ _, _))

/-- The `WHERE` of `AUTHORIZED_PROJECTIONS_CTE`. -/
def ProjectionWhere (filters : Filters) (projection : Projection) (resource : ResourceRow)
    (label : Label) : Prop :=
  resource.stable.tenantId = context.tenantId ∧
    resource.stable.ownerScopeType = context.scopeType ∧
    resource.stable.ownerScopeId = context.scopeId ∧
    projection.Live ∧
    Granted db context .allow label ∧
    ¬ Granted db context .deny label ∧
    AnyOf filters.sourceApps resource.sourceApp ∧
    AnyOf filters.sourceIds resource.sourceId ∧
    AnyOf filters.ownerCapabilities resource.stable.ownerCapabilityCode ∧
    ProjectionHasModality db projection filters.modality ∧
    MaskAdmits db context resource.knowledgeResourceId

instance (filters : Filters) (projection : Projection) (resource : ResourceRow) (label : Label) :
    Decidable (ProjectionWhere db context filters projection resource label) :=
  inferInstanceAs (Decidable (_ ∧ _))

def rowsOfProjection (filters : Filters) (projection : Projection) : List AuthorizedProjection :=
  resourceJoin db
    (fun resource =>
      resource.knowledgeResourceId = projection.knowledgeResourceId ∧
        resource.active = true ∧ resource.deletedAt = none)
    (fun resource label => label.securityLabelId = resource.securityLabelId)
    fun resource label =>
      if ProjectionWhere db context filters projection resource label then
        [projectionRow projection resource label]
      else []

/-- `AUTHORIZED_PROJECTIONS_CTE` -/
def authorizedProjections (filters : Filters) : List AuthorizedProjection :=
  db.projections.flatMap (rowsOfProjection db context filters)

/-! ### The scope of query seeds -/

/-- A row of the `authorized_projections` of a seed. -/
structure SeedProjection where
  projectionRevisionId : String
  knowledgeResourceId : String
  securityLabelId : String
  authzRevision : ℕ

/-- The columns that the `authorized_projections` of a seed selects. -/
def seedRow (projection : Projection) (resource : ResourceRow) (label : Label) :
    SeedProjection where
  projectionRevisionId := projection.projectionRevisionId
  knowledgeResourceId := projection.knowledgeResourceId
  securityLabelId := resource.securityLabelId
  authzRevision := label.authzRevision

/-- The `WHERE` of `_AUTHORIZED_SEED_CTE`. -/
def SeedWhere (projection : Projection) (resource : ResourceRow) (label : Label) : Prop :=
  resource.stable.tenantId = context.tenantId ∧
    resource.stable.ownerScopeType = context.scopeType ∧
    resource.stable.ownerScopeId = context.scopeId ∧
    projection.Live ∧
    Granted db context .allow label ∧
    ¬ Granted db context .deny label ∧
    MaskAdmits db context resource.knowledgeResourceId

instance (projection : Projection) (resource : ResourceRow) (label : Label) :
    Decidable (SeedWhere db context projection resource label) :=
  inferInstanceAs (Decidable (_ ∧ _))

def seedRowsOf (projection : Projection) : List SeedProjection :=
  resourceJoin db
    (fun resource =>
      resource.knowledgeResourceId = projection.knowledgeResourceId ∧
        resource.active = true ∧ resource.deletedAt = none)
    (fun resource label => label.securityLabelId = resource.securityLabelId)
    fun resource label =>
      if SeedWhere db context projection resource label then
        [seedRow projection resource label]
      else []

/-- `_AUTHORIZED_SEED_CTE` -/
def seedProjections : List SeedProjection := db.projections.flatMap (seedRowsOf db context)

/-! ### The final check -/

/-- The `WHERE` of `final_authorize`. -/
def FinalWhere (resource : ResourceRow) (label : Label) : Prop :=
  Granted db context .allow label ∧
    ¬ Granted db context .deny label ∧
    MaskAdmits db context resource.knowledgeResourceId

instance (resource : ResourceRow) (label : Label) :
    Decidable (FinalWhere db context resource label) :=
  inferInstanceAs (Decidable (_ ∧ _))

def rowsOfBinding (binding : String × ℕ) : List (String × ℕ) :=
  resourceJoin db
    (fun resource =>
      resource.knowledgeResourceId = binding.1 ∧
        resource.active = true ∧ resource.deletedAt = none ∧
        resource.stable.tenantId = context.tenantId ∧
        resource.stable.ownerScopeType = context.scopeType ∧
        resource.stable.ownerScopeId = context.scopeId)
    (fun resource label =>
      label.securityLabelId = resource.securityLabelId ∧ label.authzRevision = binding.2)
    fun resource label =>
      if FinalWhere db context resource label then
        [(resource.knowledgeResourceId, label.authzRevision)]
      else []

/-- The rows that `final_authorize` reads for the bindings it expects. -/
def finalRows (expected : List (String × ℕ)) : List (String × ℕ) :=
  expected.flatMap (rowsOfBinding db context)

end MindscapeLocalCore.KnowledgeRetrieval.Scopes
