import MindscapeLocalCore.KnowledgeRetrieval.ScopeAgreement

/-!
The part of a database that a context is authorised for, and that the scopes read nothing else.
-/

namespace MindscapeLocalCore.KnowledgeRetrieval.Visibility

open Library Library.Json
open KnowledgeAuthorization.Store (Label)
open KnowledgeAuthorization.WriteContracts (Effect)
open Tables Scopes ScopeAgreement

variable (db : Database) (context : QueryContext)

instance (resource : ResourceRow) (label : Label) :
    Decidable (Authorized db context resource label) :=
  decidable_of_iff
    (label.securityLabelId = resource.securityLabelId ∧ resource.active = true ∧
      resource.deletedAt = none ∧ resource.stable.tenantId = context.tenantId ∧
      resource.stable.ownerScopeType = context.scopeType ∧
      resource.stable.ownerScopeId = context.scopeId ∧ Granted db context .allow label ∧
      ¬ Granted db context .deny label ∧ MaskAdmits db context resource.knowledgeResourceId)
    ⟨fun ⟨h₁, h₂, h₃, h₄, h₅, h₆, h₇, h₈, h₉⟩ => ⟨h₁, h₂, h₃, h₄, h₅, h₆, h₇, h₈, h₉⟩,
      fun h => ⟨h.isLabel, h.active, h.kept, h.tenant, h.scopeType, h.scope, h.allowed,
        h.notDenied, h.unmasked⟩⟩

/-! ### What is visible -/

def Readable (resource : ResourceRow) : Prop :=
  ∃ label ∈ db.labels, Authorized db context resource label

instance (resource : ResourceRow) : Decidable (Readable db context resource) :=
  inferInstanceAs (Decidable (∃ _ ∈ _, _))

def ResourceVisible (resourceId : String) : Prop :=
  ∃ resource ∈ db.resources,
    resource.knowledgeResourceId = resourceId ∧ Readable db context resource

instance (resourceId : String) : Decidable (ResourceVisible db context resourceId) :=
  inferInstanceAs (Decidable (∃ _ ∈ _, _))

def LabelVisible (labelId : String) : Prop :=
  ∃ resource ∈ db.resources, resource.securityLabelId = labelId ∧ Readable db context resource

instance (labelId : String) : Decidable (LabelVisible db context labelId) :=
  inferInstanceAs (Decidable (∃ _ ∈ _, _))

def ProjectionVisible (projectionRevisionId : String) : Prop :=
  ∃ projection ∈ db.projections, projection.projectionRevisionId = projectionRevisionId ∧
    ResourceVisible db context projection.knowledgeResourceId

instance (projectionRevisionId : String) :
    Decidable (ProjectionVisible db context projectionRevisionId) :=
  inferInstanceAs (Decidable (∃ _ ∈ _, _))

def DocumentVisible (document : Document) : Prop :=
  (∃ id ∈ document.knowledgeResourceId, ResourceVisible db context id) ∨
    ∃ id ∈ document.projectionRevisionId, ProjectionVisible db context id

instance (document : Document) : Decidable (DocumentVisible db context document) :=
  inferInstanceAs (Decidable (_ ∨ _))

def EntityVisible (entityId : String) : Prop :=
  ∃ mention ∈ db.mentions, mention.entityId = entityId ∧
    ProjectionVisible db context mention.projectionRevisionId

instance (entityId : String) : Decidable (EntityVisible db context entityId) :=
  inferInstanceAs (Decidable (∃ _ ∈ _, _))

def CommunityVisible (communityId : String) : Prop :=
  ∃ community ∈ db.communities, community.communityId = communityId ∧
    ProjectionVisible db context community.projectionRevisionId

instance (communityId : String) : Decidable (CommunityVisible db context communityId) :=
  inferInstanceAs (Decidable (∃ _ ∈ _, _))

/-- The database without everything that the context is not authorised for. -/
def visible : Database where
  resources := db.resources.filter fun resource => Readable db context resource
  labels := db.labels.filter fun label => LabelVisible db context label.securityLabelId
  grants := db.grants.filter fun grant => LabelVisible db context grant.securityLabelId
  masks := db.masks.filter fun mask => ResourceVisible db context mask.knowledgeResourceId
  projections := db.projections.filter fun projection =>
    ResourceVisible db context projection.knowledgeResourceId
  documents := db.documents.filter fun document => DocumentVisible db context document
  evidence := db.evidence.filter fun evidence =>
    ProjectionVisible db context evidence.projectionRevisionId
  channels := db.channels.filter fun channel =>
    ProjectionVisible db context channel.projectionRevisionId
  records := db.records.filter fun record =>
    ProjectionVisible db context record.projectionRevisionId
  entities := db.entities.filter fun entity => EntityVisible db context entity.entityId
  mentions := db.mentions.filter fun mention =>
    ProjectionVisible db context mention.projectionRevisionId
  relations := db.relations.filter fun relation =>
    ProjectionVisible db context relation.projectionRevisionId
  communities := db.communities.filter fun community =>
    ProjectionVisible db context community.projectionRevisionId
  reports := db.reports.filter fun report => CommunityVisible db context report.communityId
  resource_keys := db.resource_keys.sublist (List.filter_sublist.map _)
  label_keys := db.label_keys.sublist (List.filter_sublist.map _)

variable {db context} {resource : ResourceRow} {label : Label}

/-! ### The clauses -/

theorem granted_visible {effect : Effect}
    (h : LabelVisible db context label.securityLabelId) :
    Granted (visible db context) context effect label ↔ Granted db context effect label := by
  refine Relational.exists_mem_filter_iff fun grant _ hgrant => ?_
  obtain ⟨-, hlabel, -⟩ := hgrant
  exact hlabel ▸ h

theorem maskAdmits_visible {resourceId : String} (h : ResourceVisible db context resourceId) :
    MaskAdmits (visible db context) context resourceId ↔ MaskAdmits db context resourceId := by
  have hany : (∃ mask ∈ (visible db context).masks, mask.knowledgeResourceId = resourceId) ↔
      ∃ mask ∈ db.masks, mask.knowledgeResourceId = resourceId :=
    Relational.exists_mem_filter_iff fun mask _ hmask => hmask ▸ h
  have hallow : (∃ mask ∈ (visible db context).masks,
        mask.knowledgeResourceId = resourceId ∧ mask.effect = .allow) ↔
      ∃ mask ∈ db.masks, mask.knowledgeResourceId = resourceId ∧ mask.effect = .allow :=
    Relational.exists_mem_filter_iff fun mask _ hmask => hmask.1 ▸ h
  have hrole : ∀ agentRole effect,
      HasMask (visible db context) resourceId agentRole effect ↔
        HasMask db resourceId agentRole effect := fun agentRole effect =>
    Relational.exists_mem_filter_iff fun mask _ hmask => hmask.1 ▸ h
  simp only [MaskAdmits, hany, hallow, hrole]

theorem labelVisible_of_readable (hmem : resource ∈ db.resources)
    (hreadable : Readable db context resource)
    (hlabel : label.securityLabelId = resource.securityLabelId) :
    LabelVisible db context label.securityLabelId :=
  ⟨resource, hmem, hlabel.symm, hreadable⟩

/-! ### Joins with resources and labels -/

theorem resourceJoin_visible {α : Type} {on : ResourceRow → Prop} [DecidablePred on]
    {onLabel : ResourceRow → Label → Prop} [DecidableRel onLabel]
    {rows rows' : ResourceRow → Label → List α}
    (hlabel : ∀ resource label, onLabel resource label →
      label.securityLabelId = resource.securityLabelId)
    (hread : ∀ resource ∈ db.resources, on resource → ∀ label ∈ db.labels,
      onLabel resource label → rows resource label ≠ [] → Readable db context resource)
    (hsame : ∀ resource ∈ db.resources, on resource → Readable db context resource →
      ∀ label ∈ db.labels, onLabel resource label → rows' resource label = rows resource label) :
    resourceJoin (visible db context) on onLabel rows' = resourceJoin db on onLabel rows := by
  unfold resourceJoin
  have hswap : (visible db context).resources.filter (fun resource => on resource) =
      (db.resources.filter fun resource => on resource).filter
        fun resource => Readable db context resource := by
    show (db.resources.filter _).filter _ = _
    rw [List.filter_filter, List.filter_filter]
    exact List.filter_congr fun resource _ => Bool.and_comm _ _
  rw [hswap]
  have hrest : ∀ f : ResourceRow → List α,
      (∀ resource ∈ db.resources.filter fun resource => on resource, f resource ≠ [] →
        Readable db context resource) →
        ((db.resources.filter fun resource => on resource).filter fun resource =>
          Readable db context resource).flatMap f =
            (db.resources.filter fun resource => on resource).flatMap f :=
    fun _ => Relational.flatMap_filter
  rw [← hrest]
  · refine List.flatMap_congr fun resource hresource => ?_
    obtain ⟨hresource, hreadable⟩ := List.mem_filter.mp hresource
    obtain ⟨hmem, hon⟩ := List.mem_filter.mp hresource
    have hlabels : (visible db context).labels.filter (fun label => onLabel resource label) =
        db.labels.filter fun label => onLabel resource label :=
      Relational.filter_filter_of_imp fun label _ hon' =>
        labelVisible_of_readable hmem (of_decide_eq_true hreadable) (hlabel resource label hon')
    rw [hlabels]
    refine List.flatMap_congr fun label hmemLabel => ?_
    obtain ⟨hmemLabel, honLabel⟩ := List.mem_filter.mp hmemLabel
    exact hsame resource hmem (of_decide_eq_true hon) (of_decide_eq_true hreadable) label
      hmemLabel (of_decide_eq_true honLabel)
  · intro resource hresource hrows
    obtain ⟨hmem, hon⟩ := List.mem_filter.mp hresource
    obtain ⟨row, hrow⟩ := List.exists_mem_of_ne_nil _ hrows
    obtain ⟨label, hmemLabel, hrow⟩ := List.mem_flatMap.mp hrow
    obtain ⟨hmemLabel, honLabel⟩ := List.mem_filter.mp hmemLabel
    exact hread resource hmem (of_decide_eq_true hon) label hmemLabel (of_decide_eq_true honLabel)
      (List.ne_nil_of_mem hrow)

theorem resourceVisible_of_readable (hmem : resource ∈ db.resources)
    (hreadable : Readable db context resource) :
    ResourceVisible db context resource.knowledgeResourceId :=
  ⟨resource, hmem, rfl, hreadable⟩

/-! ### The scopes -/

variable {jsonbText : Json → String} {filters : Filters} {document : Document}
variable {projection : Projection}

theorem projectionHasModality_visible {modality : Option Modality}
    (h : ProjectionVisible db context projection.projectionRevisionId) :
    ProjectionHasModality (visible db context) projection modality ↔
      ProjectionHasModality db projection modality := by
  refine forall₂_congr fun requested _ => ?_
  exact Relational.exists_mem_filter_iff fun channel _ hchannel => hchannel.1 ▸ h

theorem documentHasModality_visible {modality : Option Modality}
    (h : ∀ id ∈ document.projectionRevisionId, ProjectionVisible db context id) :
    DocumentHasModality jsonbText (visible db context) document modality ↔
      DocumentHasModality jsonbText db document modality := by
  refine forall₂_congr fun requested _ => or_congr_right ?_
  have hevidence : ∀ evidence : Evidence,
      some evidence.projectionRevisionId = document.projectionRevisionId →
        ProjectionVisible db context evidence.projectionRevisionId := fun evidence hsame =>
    h _ (Option.mem_def.mpr hsame.symm)
  constructor
  · rintro ⟨evidence, hmem, channel, hchannel, hrest⟩
    exact ⟨evidence, List.mem_of_mem_filter hmem, channel, List.mem_of_mem_filter hchannel, hrest⟩
  · rintro ⟨evidence, hmem, channel, hchannel, hunit, hsame, hdocument, hrest⟩
    have hvisible := hevidence evidence hdocument
    have hchannelVisible : ProjectionVisible db context channel.projectionRevisionId := by
      rw [hsame]
      exact hvisible
    exact ⟨evidence, List.mem_filter.mpr ⟨hmem, decide_eq_true hvisible⟩, channel,
      List.mem_filter.mpr ⟨hchannel, decide_eq_true hchannelVisible⟩, hunit, hsame, hdocument,
      hrest⟩

theorem candidateWhere_visible {joined : Option Projection}
    (hresource : ResourceVisible db context resource.knowledgeResourceId)
    (hlabel : LabelVisible db context label.securityLabelId)
    (hjoined : ∀ projection ∈ joined, projection ∈ db.projections ∧
      JoinsProjection document resource projection) :
    CandidateWhere jsonbText (visible db context) context filters document resource label joined ↔
      CandidateWhere jsonbText db context filters document resource label joined := by
  have hmodality : (LegacyActive jsonbText document ∨
      document.projectionRevisionId ≠ none ∧ ∃ row ∈ joined, row.Live) →
      (DocumentHasModality jsonbText (visible db context) document filters.modality ↔
        DocumentHasModality jsonbText db document filters.modality) := by
    intro hactive
    refine documentHasModality_visible fun id hid => ?_
    rcases hactive with ⟨hnone, -⟩ | ⟨-, projection, hprojection, -⟩
    · rw [hnone] at hid
      cases hid
    · obtain ⟨hmem, hsame, howner⟩ := hjoined projection hprojection
      refine ⟨projection, hmem, ?_, howner ▸ hresource⟩
      rw [Option.mem_def.mp hid] at hsame
      exact Option.some.inj hsame
  simp only [CandidateWhere, granted_visible hlabel, maskAdmits_visible hresource]
  refine and_congr_right fun _ => and_congr_right fun _ => and_congr_right fun _ =>
    and_congr_right fun hactive => ?_
  rw [hmodality hactive]

theorem leftJoin_visible (hresource : ResourceVisible db context resource.knowledgeResourceId) :
    Relational.leftJoin (JoinsProjection document resource) (visible db context).projections =
      Relational.leftJoin (JoinsProjection document resource) db.projections :=
  Relational.leftJoin_filter fun _ _ hjoins => hjoins.2 ▸ hresource

theorem rowsOfDocument_visible :
    rowsOfDocument jsonbText (visible db context) context filters document =
      rowsOfDocument jsonbText db context filters document := by
  refine resourceJoin_visible (fun _ _ hlabel => hlabel) ?_ ?_
  · rintro resource hmem ⟨-, -, hactive, hkept⟩ label hlabel hisLabel hrows
    obtain ⟨row, hrow⟩ := List.exists_mem_of_ne_nil _ hrows
    obtain ⟨joined, hjoined, -⟩ := List.mem_map.mp hrow
    obtain ⟨-, hwhere⟩ := List.mem_filter.mp hjoined
    exact ⟨label, hlabel,
      authorized_of_candidateWhere hisLabel hactive hkept (of_decide_eq_true hwhere)⟩
  · intro resource hmem hon hreadable label hlabel hisLabel
    have hresource := resourceVisible_of_readable hmem hreadable
    rw [leftJoin_visible hresource]
    congr 1
    refine List.filter_congr fun joined hjoined => ?_
    rw [decide_eq_decide]
    refine candidateWhere_visible hresource (labelVisible_of_readable hmem hreadable hisLabel) ?_
    intro projection hprojection
    rcases Relational.mem_leftJoin.mp hjoined with ⟨found, hfound, hjoins, hsame⟩ | ⟨hnone, -⟩
    · rw [hsame] at hprojection
      cases hprojection
      exact ⟨hfound, hjoins⟩
    · rw [hnone] at hprojection
      cases hprojection

theorem authorizedRows_visible :
    authorizedRows jsonbText (visible db context) context filters =
      authorizedRows jsonbText db context filters := by
  have hrows : rowsOfDocument jsonbText (visible db context) context filters =
      rowsOfDocument jsonbText db context filters := funext fun _ => rowsOfDocument_visible
  unfold authorizedRows
  rw [hrows]
  refine Relational.flatMap_filter fun document _ hdocument => ?_
  obtain ⟨row, hrow⟩ := List.exists_mem_of_ne_nil _ hdocument
  obtain ⟨resource, hmem, label, hlabel, hauthorized, hid, -⟩ :=
    authorized_of_mem_rowsOfDocument hrow
  exact .inl ⟨_, Option.mem_def.mpr hid.symm, resource, hmem, rfl, label, hlabel, hauthorized⟩

theorem projectionWhere_visible
    (hresource : ResourceVisible db context resource.knowledgeResourceId)
    (hlabel : LabelVisible db context label.securityLabelId)
    (hprojection : ProjectionVisible db context projection.projectionRevisionId) :
    ProjectionWhere (visible db context) context filters projection resource label ↔
      ProjectionWhere db context filters projection resource label := by
  simp only [ProjectionWhere, granted_visible hlabel, maskAdmits_visible hresource,
    projectionHasModality_visible hprojection]

theorem seedWhere_visible
    (hresource : ResourceVisible db context resource.knowledgeResourceId)
    (hlabel : LabelVisible db context label.securityLabelId) :
    SeedWhere (visible db context) context projection resource label ↔
      SeedWhere db context projection resource label := by
  simp only [SeedWhere, granted_visible hlabel, maskAdmits_visible hresource]

theorem finalWhere_visible
    (hresource : ResourceVisible db context resource.knowledgeResourceId)
    (hlabel : LabelVisible db context label.securityLabelId) :
    FinalWhere (visible db context) context resource label ↔
      FinalWhere db context resource label := by
  simp only [FinalWhere, granted_visible hlabel, maskAdmits_visible hresource]

theorem rowsOfProjection_visible (hmem : projection ∈ db.projections) :
    rowsOfProjection (visible db context) context filters projection =
      rowsOfProjection db context filters projection := by
  refine resourceJoin_visible (fun _ _ hlabel => hlabel) ?_ ?_
  · rintro resource - ⟨-, hactive, hkept⟩ label hlabel hisLabel hrows
    split at hrows
    · rename_i hwhere
      exact ⟨label, hlabel, authorized_of_projectionWhere hisLabel hactive hkept hwhere⟩
    · exact absurd rfl hrows
  · rintro resource hresource ⟨hid, -, -⟩ hreadable label - hisLabel
    have hvisible := resourceVisible_of_readable hresource hreadable
    have hprojection : ProjectionVisible db context projection.projectionRevisionId :=
      ⟨projection, hmem, rfl, hid ▸ hvisible⟩
    have hwhere : ProjectionWhere (visible db context) context filters projection resource label ↔
        ProjectionWhere db context filters projection resource label :=
      projectionWhere_visible hvisible (labelVisible_of_readable hresource hreadable hisLabel)
        hprojection
    exact if_congr hwhere rfl rfl

theorem authorizedProjections_visible :
    authorizedProjections (visible db context) context filters =
      authorizedProjections db context filters := by
  unfold authorizedProjections
  have hrows : (visible db context).projections.flatMap
        (rowsOfProjection (visible db context) context filters) =
      (visible db context).projections.flatMap (rowsOfProjection db context filters) :=
    List.flatMap_congr fun projection hprojection =>
      rowsOfProjection_visible (List.mem_of_mem_filter hprojection)
  rw [hrows]
  refine Relational.flatMap_filter fun projection _ hprojection => ?_
  obtain ⟨row, hrow⟩ := List.exists_mem_of_ne_nil _ hprojection
  obtain ⟨resource, hmem, label, hlabel, hauthorized, hid, -⟩ :=
    authorized_of_mem_rowsOfProjection hrow
  exact ⟨resource, hmem, hid, label, hlabel, hauthorized⟩

theorem seedRowsOf_visible :
    seedRowsOf (visible db context) context projection = seedRowsOf db context projection := by
  refine resourceJoin_visible (fun _ _ hlabel => hlabel) ?_ ?_
  · rintro resource - ⟨-, hactive, hkept⟩ label hlabel hisLabel hrows
    split at hrows
    · rename_i hwhere
      exact ⟨label, hlabel, authorized_of_seedWhere hisLabel hactive hkept hwhere⟩
    · exact absurd rfl hrows
  · intro resource hresource _ hreadable label _ hisLabel
    have hwhere : SeedWhere (visible db context) context projection resource label ↔
        SeedWhere db context projection resource label :=
      seedWhere_visible (resourceVisible_of_readable hresource hreadable)
        (labelVisible_of_readable hresource hreadable hisLabel)
    exact if_congr hwhere rfl rfl

theorem seedProjections_visible :
    seedProjections (visible db context) context = seedProjections db context := by
  have hrows : seedRowsOf (visible db context) context = seedRowsOf db context :=
    funext fun _ => seedRowsOf_visible
  unfold seedProjections
  rw [hrows]
  refine Relational.flatMap_filter fun projection _ hprojection => ?_
  obtain ⟨row, hrow⟩ := List.exists_mem_of_ne_nil _ hprojection
  obtain ⟨resource, hmem, label, hlabel, hauthorized, hid, -⟩ := authorized_of_mem_seedRowsOf hrow
  exact ⟨resource, hmem, hid, label, hlabel, hauthorized⟩

theorem finalRows_visible (expected : List (String × ℕ)) :
    finalRows (visible db context) context expected = finalRows db context expected := by
  refine List.flatMap_congr fun binding _ => ?_
  refine resourceJoin_visible (fun _ _ hlabel => hlabel.1) ?_ ?_
  · rintro resource - ⟨-, hactive, hkept, htenant, htype, hscope⟩ label hlabel ⟨hisLabel, -⟩ hrows
    split at hrows
    · rename_i hwhere
      exact ⟨label, hlabel, hisLabel, hactive, hkept, htenant, htype, hscope, hwhere.1,
        hwhere.2.1, hwhere.2.2⟩
    · exact absurd rfl hrows
  · intro resource hresource _ hreadable label _ hisLabel
    have hwhere := finalWhere_visible (resourceVisible_of_readable hresource hreadable)
      (labelVisible_of_readable hresource hreadable hisLabel.1)
    exact if_congr hwhere rfl rfl

/-! ### What the scopes have is visible -/

theorem projectionVisible_of_authorized {row : AuthorizedProjection}
    (h : row ∈ authorizedProjections db context filters) :
    ProjectionVisible db context row.projectionRevisionId := by
  obtain ⟨projection, hprojection, hrow⟩ := List.mem_flatMap.mp h
  obtain ⟨resource, hmem, label, hlabel, hauthorized, hid, rfl⟩ :=
    authorized_of_mem_rowsOfProjection hrow
  exact ⟨projection, hprojection, rfl, resource, hmem, hid, label, hlabel, hauthorized⟩

theorem projectionVisible_of_seed {row : SeedProjection}
    (h : row ∈ seedProjections db context) :
    ProjectionVisible db context row.projectionRevisionId := by
  obtain ⟨projection, hprojection, hrow⟩ := List.mem_flatMap.mp h
  obtain ⟨resource, hmem, label, hlabel, hauthorized, hid, rfl⟩ :=
    authorized_of_mem_seedRowsOf hrow
  exact ⟨projection, hprojection, rfl, resource, hmem, hid, label, hlabel, hauthorized⟩

end MindscapeLocalCore.KnowledgeRetrieval.Visibility
