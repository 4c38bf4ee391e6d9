import MindscapeLocalCore.KnowledgeAuthorization.Store

/-!
The tables that retrieval reads, who reads them, and the clauses of the authorisation.
-/

namespace MindscapeLocalCore.KnowledgeRetrieval.Tables

open Library.Json KnowledgeAuthorization.Store KnowledgeAuthorization.WriteContracts

/-! ### Rows -/

/-- A row of `knowledge_resources`, which may be deleted. -/
structure ResourceRow extends Resource where
  deletedAt : Option ℤ

/-- A row of `knowledge_resource_agent_masks`. -/
structure MaskRow where
  knowledgeResourceId : String
  agentRole : String
  effect : Effect

inductive ProjectionStatus where
  | staged
  | active
  | degradedChannels
  | degradedGraph
  | superseded
  | revoked
  deriving DecidableEq

/-- A row of `knowledge_resource_projections`. -/
structure Projection where
  projectionRevisionId : String
  knowledgeResourceId : String
  visibilityPartitionHash : String
  active : Bool
  status : ProjectionStatus

/-- A row of `external_docs`; its metadata is an object. -/
structure Document where
  id : String
  sourceApp : String
  sourceId : String
  title : Option String
  content : String
  embedding : Option (List Float)
  metadata : Option Dict
  knowledgeResourceId : Option String
  securityLabelId : Option String
  projectionRevisionId : Option String

inductive Modality where
  | text
  | image
  | video
  | audio
  deriving DecidableEq

def Modality.value : Modality → String
  | .text => "text"
  | .image => "image"
  | .video => "video"
  | .audio => "audio"

/-- A row of `knowledge_evidence_units`. -/
structure Evidence where
  evidenceUnitRowId : String
  projectionRevisionId : String
  knowledgeResourceId : String
  unitKey : String
  unitKind : String
  ownerAssetRef : String
  contentHash : String
  mediaType : Option String
  anchor : Dict
  externalDocId : Option String

/-- A row of `knowledge_embedding_channel_receipts`. -/
structure ChannelReceipt where
  projectionRevisionId : String
  evidenceUnitRowId : Option String
  modality : Modality
  state : String

/-- A row of `knowledge_projection_records`. -/
structure ProjectionRecord where
  projectionRecordId : String
  projectionRevisionId : String
  knowledgeResourceId : String
  searchText : String
  values : Dict
  contentHash : String

/-- A row of `knowledge_graph_entities`. -/
structure Entity where
  entityId : String
  canonicalKey : String
  deriving DecidableEq

/-- A row of `knowledge_graph_mentions`. -/
structure Mention where
  mentionId : String
  entityId : String
  projectionRevisionId : String
  knowledgeResourceId : String
  securityLabelId : String
  evidenceUnitRowId : Option String
  projectionRecordId : Option String
  surfaceText : String
  confidence : Float
  citation : Dict

/-- A row of `knowledge_graph_relations`. -/
structure GraphRelation where
  relationId : String
  projectionRevisionId : String
  sourceEntityId : String
  targetEntityId : String
  confidence : Float
  visibilityPartitionHash : String

/-- A row of `knowledge_graph_communities`. -/
structure Community where
  communityId : String
  projectionRevisionId : String
  knowledgeResourceId : String
  securityLabelId : String
  authzRevision : ℕ
  level : ℕ
  visibilityPartitionHash : String

/-- A row of `knowledge_graph_community_reports`. -/
structure CommunityReport where
  communityReportId : String
  communityId : String
  authzRevision : ℕ
  visibilityPartitionHash : String
  summary : String
  findings : List Json
  rank : Float
  supportingCitations : List Json
  active : Bool

structure Database where
  resources : List ResourceRow
  labels : List Label
  grants : List GrantRow
  masks : List MaskRow
  projections : List Projection
  documents : List Document
  evidence : List Evidence
  channels : List ChannelReceipt
  records : List ProjectionRecord
  entities : List Entity
  mentions : List Mention
  relations : List GraphRelation
  communities : List Community
  reports : List CommunityReport
  resource_keys : (resources.map fun resource => resource.knowledgeResourceId).Nodup
  label_keys : (labels.map fun label => label.securityLabelId).Nodup

/-! ### Who reads -/

/-- What every query takes of the access context, the scope and `NOW()`. -/
structure QueryContext where
  tenantId : String
  scopeType : ScopeType
  scopeId : String
  principals : List PrincipalRef
  agentRole : Option String
  now : ℤ

structure Filters where
  sourceApps : List String
  sourceIds : List String
  ownerCapabilities : List String
  modality : Option Modality

/-- `column = ANY(values)`, where no values are no condition. -/
def AnyOf (values : List String) (column : String) : Prop := values = [] ∨ column ∈ values

instance (values : List String) (column : String) : Decidable (AnyOf values column) :=
  inferInstanceAs (Decidable (_ ∨ _))

/-! ### Clauses -/

variable (db : Database) (context : QueryContext)

def InForce (grant : GrantRow) : Prop :=
  (∀ validFrom ∈ grant.validFrom, validFrom ≤ context.now) ∧
    (∀ validUntil ∈ grant.validUntil, context.now < validUntil)

instance (grant : GrantRow) : Decidable (InForce context grant) :=
  inferInstanceAs (Decidable (_ ∧ _))

/-- `EXISTS` of a grant with the effect to a principal of the request. -/
def Granted (effect : Effect) (label : Label) : Prop :=
  ∃ grant ∈ db.grants, grant.principal ∈ context.principals ∧
    grant.securityLabelId = label.securityLabelId ∧
    grant.authzRevision = label.authzRevision ∧ grant.effect = effect ∧ InForce context grant

instance (effect : Effect) (label : Label) : Decidable (Granted db context effect label) :=
  inferInstanceAs (Decidable (∃ _ ∈ _, _))

/-- `EXISTS` of a mask of the resource with the effect, for a role. -/
def HasMask (resourceId agentRole : String) (effect : Effect) : Prop :=
  ∃ mask ∈ db.masks, mask.knowledgeResourceId = resourceId ∧ mask.agentRole = agentRole ∧
    mask.effect = effect

instance (resourceId agentRole : String) (effect : Effect) :
    Decidable (HasMask db resourceId agentRole effect) :=
  inferInstanceAs (Decidable (∃ _ ∈ _, _))

def MaskAdmits (resourceId : String) : Prop :=
  ∀ agentRole ∈ context.agentRole,
    (¬ ∃ mask ∈ db.masks, mask.knowledgeResourceId = resourceId) ∨
      ¬ HasMask db resourceId agentRole .deny ∧
        ((¬ ∃ mask ∈ db.masks, mask.knowledgeResourceId = resourceId ∧ mask.effect = .allow) ∨
          HasMask db resourceId agentRole .allow)

instance (resourceId : String) : Decidable (MaskAdmits db context resourceId) :=
  inferInstanceAs (Decidable (∀ _ ∈ _, _))

/-- `status IN ('active', 'degraded_channels', 'degraded_graph')` of an active projection. -/
def Projection.Live (projection : Projection) : Prop :=
  projection.active = true ∧
    (projection.status = .active ∨ projection.status = .degradedChannels ∨
      projection.status = .degradedGraph)

instance (projection : Projection) : Decidable projection.Live :=
  inferInstanceAs (Decidable (_ ∧ _))

end MindscapeLocalCore.KnowledgeRetrieval.Tables
