import MindscapeLocalCore.KnowledgeAuthorization.GrantReplacement
import MindscapeLocalCore.Library.Table

/-!
The replacement of the grants of a resource, and the lookup of the resource that follows it: both
return one hash exactly where the mutation is written as the session of the database writes it.
-/

namespace MindscapeLocalCore.KnowledgeAuthorization.RepeatableReplacements

open Library Library.DateTimes Library.UniqueInsert WriteContracts Store GrantReplacement

/-! ### The database -/

/-- The indexes hold, and resources and labels have the identities that are derived for them. -/
structure WellFormed (db : Database) : Prop where
  labels : Apart SameLabel db.labels
  resources : Apart SameResource db.resources
  identified : ∀ resource ∈ db.resources,
    knowledgeResourceId resource.stable = some resource.knowledgeResourceId ∧
      securityLabelId resource.knowledgeResourceId = some resource.securityLabelId
  labelled : ∀ resource ∈ db.resources, ∃ label ∈ db.labels,
    label.securityLabelId = resource.securityLabelId

variable {session : Session} {db : Database} {resource : Resource} {label : Label}
  {context : AccessContext} {mutation : KnowledgeAclMutation}

theorem labelOf_of_mem (h : Apart SameLabel db.labels) (hlabel : label ∈ db.labels)
    (hid : label.securityLabelId = resource.securityLabelId) : labelOf db resource = some label := by
  refine Table.find_of_unique hlabel (decide_eq_true hid) fun other hother hsame => ?_
  refine eq_of_apart h (fun _ _ hclash => hclash.symm) hother hlabel ?_
  exact (of_decide_eq_true hsame).trans hid.symm

theorem sameResource_symm {row other : Resource} (h : SameResource row other) :
    SameResource other row := by
  rcases h with hid | hstable | hlabel
  · exact .inl hid.symm
  · exact .inr (.inl hstable.symm)
  · exact .inr (.inr hlabel.symm)

theorem eq_of_sameResource (h : WellFormed db) {row other : Resource} (hrow : row ∈ db.resources)
    (hother : other ∈ db.resources) (hsame : SameResource row other) : row = other :=
  eq_of_apart h.resources (fun _ _ => sameResource_symm) hrow hother hsame

/-! ### Exact and repeatable -/

def rowContent (row : GrantRow) : GrantKey × Option ℤ × Option ℤ :=
  (row.key, row.validFrom, row.validUntil)

def storedContent (session : Session) (grant : KnowledgeGrant) : GrantKey × Option ℤ × Option ℤ :=
  (grant.key, grant.validFrom.map session.momentOf, grant.validUntil.map session.momentOf)

def activeGrants (db : Database) (resource : Resource) : List GrantRow :=
  ((labelOf db resource).map fun label =>
    grantsAt label.securityLabelId label.authzRevision db.grants).getD []

def LookedUpAsStored (identity : KnowledgeResourceIdentity) (resource : Resource) : Prop :=
  identity.sourceApp = resource.sourceApp ∧ identity.sourceId = resource.sourceId ∧
    identity.sourceRevision = resource.sourceRevision ∧ resource.active = true

/-- A replacement has stored the grants of the mutation, and a lookup that follows computes its
hash again and changes no grant; hash collisions apart. -/
structure ReplacedBy (session : Session) (db : Database) (binding : Binding) (resource : Resource)
    (mutation : KnowledgeAclMutation) : Prop where
  exact : (activeGrants db resource).map rowContent = mutation.grants.map (storedContent session)
  repeated : ∀ identity reader, identity.stable = resource.stable →
    ∃ db' again, ensureResource session db identity reader none [] = some (db', again) ∧
      (db'.labels = db.labels ∧ db'.grants = db.grants ∧ db'.audit = db.audit) ∧
        (LookedUpAsStored identity resource → db' = db) ∧
          again.visibilityPartitionHash = binding.visibilityPartitionHash
  uncollided : ∀ read, currentGrants session binding.securityLabelId binding.authzRevision
    db.grants = some read → ¬ Collides read mutation.grants

def Replaces (session : Session) (db : Database) (resource : Resource) (context : AccessContext)
    (mutation : KnowledgeAclMutation) : Prop :=
  ∃ db' binding,
    replaceExistingResourceGrants session db resource.knowledgeResourceId resource.stable.tenantId
        resource.stable.ownerScopeType resource.stable.ownerScopeId context mutation =
      some (db', binding) ∧ ReplacedBy session db' binding resource mutation

/-- The mutation is written as the session of the database writes it: one grant for each
principal, relation and effect, times with the offset of the session, in its order. -/
structure AsSession (session : Session) (mutation : KnowledgeAclMutation) : Prop where
  apart : mutation.grants.Pairwise fun grant other => grant.key ≠ other.key
  written : ∀ grant ∈ mutation.grants, GrantWritten session grant
  ordered : InDatabaseOrder session mutation.grants

/-! ### The replacement -/

def bindingOf (resource : Resource) (revision : ℕ) (grants : List KnowledgeGrant) : Binding where
  knowledgeResourceId := resource.knowledgeResourceId
  securityLabelId := resource.securityLabelId
  authzRevision := revision
  visibilityPartitionHash := visibilityPartitionHash grants
  created := false

def replaced (session : Session) (db : Database) (resource : Resource) (revision : ℕ)
    (audit : List AuditRow) (mutation : KnowledgeAclMutation) : Database where
  labels := db.labels.map (raiseRevision resource.securityLabelId revision)
  resources := db.resources
  grants := othersOf resource.securityLabelId db.grants ++
    rowsOf session resource.securityLabelId (revision + 1) mutation.grants
  audit := audit

theorem not_blank_label (h : WellFormed db) (hresource : resource ∈ db.resources) :
    ¬ PythonText.Blank resource.securityLabelId :=
  not_blank_stableId (h.identified resource hresource).2

theorem not_blank_resource (h : WellFormed db) (hresource : resource ∈ db.resources) :
    ¬ PythonText.Blank resource.knowledgeResourceId :=
  not_blank_stableId (h.identified resource hresource).1

theorem find_resource (h : WellFormed db) (hresource : resource ∈ db.resources) :
    (db.resources.find? fun row =>
      row.knowledgeResourceId = resource.knowledgeResourceId ∧
        row.stable.tenantId = resource.stable.tenantId ∧
          row.stable.ownerScopeType = resource.stable.ownerScopeType ∧
            row.stable.ownerScopeId = resource.stable.ownerScopeId) = some resource := by
  refine Table.find_of_unique hresource (decide_eq_true ⟨rfl, rfl, rfl, rfl⟩) fun other hother hsame => ?_
  exact eq_of_sameResource h hother hresource (.inl (of_decide_eq_true hsame).1)

theorem replace_eq_some_iff (h : WellFormed db) (hresource : resource ∈ db.resources)
    (hlabel : label ∈ db.labels) (hid : label.securityLabelId = resource.securityLabelId)
    (hexpected : mutation.expectedAuthzRevision = label.authzRevision) {db' : Database}
    {binding : Binding} :
    replaceExistingResourceGrants session db resource.knowledgeResourceId resource.stable.tenantId
        resource.stable.ownerScopeType resource.stable.ownerScopeId context mutation =
      some (db', binding) ↔
      (∀ grant ∈ mutation.grants, TimesTaken session grant) ∧
        mutation.grants.Pairwise (fun grant other => grant.key ≠ other.key) ∧
          IdsFree db resource.knowledgeResourceId resource.securityLabelId label.authzRevision
              mutation.grants ∧
            (∃ audit, insertAudit resource.knowledgeResourceId resource.securityLabelId
                label.authzRevision (label.authzRevision + 1) context "grants_replaced"
                mutation.grants db.audit = some audit ∧
              db' = replaced session db resource label.authzRevision audit mutation) ∧
              binding = bindingOf resource (label.authzRevision + 1) mutation.grants := by
  have hfound : ∃ row ∈ db.labels, row.securityLabelId = resource.securityLabelId ∧
      row.authzRevision = label.authzRevision := ⟨label, hlabel, hid, rfl⟩
  rw [replaceExistingResourceGrants]
  simp only [Option.bind_eq_bind, find_resource h hresource, Option.bind_some,
    labelOf_of_mem h.labels hlabel hid, Option.bind_eq_some_iff, Prod.exists]
  simp only [hid, replaceGrants_eq_some hexpected hfound,
    insertGrants_eq_some (not_blank_label h hresource), insertRows_rowsOf]
  constructor
  · rintro ⟨db', revision', ⟨rfl, rows, audit, ⟨htimes, hapart, hsingle, hfresh, rfl⟩, haudit, rfl⟩,
      hbinding⟩
    obtain ⟨rfl, rfl⟩ := Prod.mk.inj (Option.some.inj hbinding)
    have hunaudited := (insertAudit_isSome (not_blank_resource h hresource)).mp
      (Option.isSome_iff_exists.mpr ⟨audit, haudit⟩)
    exact ⟨htimes, hapart, ⟨hsingle, hfresh, hunaudited⟩, ⟨audit, haudit, rfl⟩, rfl⟩
  · rintro ⟨htimes, hapart, hfree, ⟨audit, haudit, rfl⟩, rfl⟩
    exact ⟨_, _, ⟨rfl, _, audit, ⟨htimes, hapart, hfree.single, hfree.fresh, rfl⟩, haudit, rfl⟩, rfl⟩

/-! ### What is in force after it -/

section After

variable {audit : List AuditRow}

theorem raiseRevision_id (labelId : String) (revision : ℕ) (row : Label) :
    (raiseRevision labelId revision row).securityLabelId = row.securityLabelId := by
  rw [raiseRevision]
  split
  · rfl
  · rfl

theorem labelOf_replaced (h : WellFormed db) (hlabel : label ∈ db.labels)
    (hid : label.securityLabelId = resource.securityLabelId) :
    labelOf (replaced session db resource label.authzRevision audit mutation) resource =
      some { label with authzRevision := label.authzRevision + 1 } := by
  refine labelOf_of_mem ?_ ?_ hid
  · refine apart_map h.labels fun row other hsame => ?_
    rw [SameLabel, raiseRevision_id, raiseRevision_id] at hsame
    exact hsame
  · refine List.mem_map.mpr ⟨label, hlabel, ?_⟩
    rw [raiseRevision, if_pos ⟨hid, rfl⟩]

theorem grantsAt_replaced {revision : ℕ} :
    grantsAt resource.securityLabelId (revision + 1)
        (replaced session db resource revision audit mutation).grants =
      rowsOf session resource.securityLabelId (revision + 1) mutation.grants := by
  rw [grantsAt, replaced, List.filter_append, List.filter_eq_nil_iff.mpr, List.nil_append,
    List.filter_eq_self]
  · intro row hrow
    obtain ⟨grant, -, rfl⟩ := List.mem_map.mp hrow
    exact decide_eq_true ⟨rfl, rfl⟩
  · intro row hrow hsame
    have hother := of_decide_eq_true (List.mem_filter.mp hrow).2
    exact hother (of_decide_eq_true hsame).1

theorem activeGrants_replaced (h : WellFormed db) (hlabel : label ∈ db.labels)
    (hid : label.securityLabelId = resource.securityLabelId) :
    (activeGrants (replaced session db resource label.authzRevision audit mutation) resource).map
        rowContent = mutation.grants.map (storedContent session) := by
  rw [activeGrants, labelOf_replaced h hlabel hid]
  simp only [Option.map_some, Option.getD_some, hid]
  rw [grantsAt_replaced, rowsOf, List.map_map]
  rfl

/-- The database as a lookup of the resource leaves it. -/
def touched (db : Database) (identity : KnowledgeResourceIdentity) (resource : Resource) :
    Database :=
  { db with
    resources := db.resources.map fun row =>
      if row.knowledgeResourceId = resource.knowledgeResourceId then touchResource identity row
      else row }

theorem touched_of_lookedUp (h : WellFormed db) (hresource : resource ∈ db.resources)
    {identity : KnowledgeResourceIdentity} (hlooked : LookedUpAsStored identity resource) :
    touched db identity resource = db := by
  have hrows : db.resources.map (fun row =>
      if row.knowledgeResourceId = resource.knowledgeResourceId then touchResource identity row
      else row) = db.resources := by
    refine (List.map_congr_left fun row hrow => ?_).trans (List.map_id _)
    split
    · rename_i hid
      obtain rfl := eq_of_sameResource h hrow hresource (.inl hid)
      obtain ⟨happ, hsource, hrevision, hactive⟩ := hlooked
      rw [touchResource, happ, hsource, hrevision, ← hactive]
      rfl
    · rfl
  rw [touched, hrows]

theorem ensureResource_existing (hidentified : ∀ row ∈ db.resources,
      knowledgeResourceId row.stable = some row.knowledgeResourceId ∧
        securityLabelId row.knowledgeResourceId = some row.securityLabelId)
    (hfound : (db.resources.find? fun row => row.stable = resource.stable) = some resource)
    (hlabel : labelOf db resource = some label) {identity : KnowledgeResourceIdentity}
    (hstable : identity.stable = resource.stable) {initial : List KnowledgeGrant} :
    ensureResource session db identity context none initial =
      (currentGrants session resource.securityLabelId label.authzRevision db.grants).bind
        fun grants =>
          if grants = [] then none
          else
            some (touched db identity resource,
              bindingOf resource label.authzRevision grants) := by
  obtain ⟨hresourceId, hlabelId⟩ := hidentified resource (List.mem_of_find?_eq_some hfound)
  have hsame : findOrCreate session db identity context resource.knowledgeResourceId
      resource.securityLabelId initial =
        some (touched db identity resource, label.authzRevision, false) := by
    rw [findOrCreate]
    simp only [hstable, hfound, Option.bind_some, hlabel, Option.map_some]
    rw [if_neg (by simp)]
    rfl
  rw [ensureResource, hstable]
  simp only [Option.bind_eq_bind, hresourceId, Option.bind_some, hlabelId, hsame]
  rfl

theorem find_stable (h : WellFormed db) (hresource : resource ∈ db.resources) :
    (db.resources.find? fun row => row.stable = resource.stable) = some resource := by
  refine Table.find_of_unique hresource (decide_eq_true rfl) fun other hother hsame => ?_
  exact eq_of_sameResource h hother hresource (.inr (.inl (of_decide_eq_true hsame)))

theorem currentGrants_replaced {revision : ℕ} :
    currentGrants session resource.securityLabelId (revision + 1)
        (replaced session db resource revision audit mutation).grants =
      (Sorting.sortBy (· ≤ ·) (rowKey session)
        (rowsOf session resource.securityLabelId (revision + 1) mutation.grants)).mapM
          (readGrant session) := by
  rw [currentGrants, grantsAt_replaced]

theorem ensureResource_replaced (h : WellFormed db) (hresource : resource ∈ db.resources)
    (hlabel : label ∈ db.labels) (hid : label.securityLabelId = resource.securityLabelId)
    {identity : KnowledgeResourceIdentity} (hstable : identity.stable = resource.stable) :
    ensureResource session (replaced session db resource label.authzRevision audit mutation) identity
        context none [] =
      (currentGrants session resource.securityLabelId (label.authzRevision + 1)
        (replaced session db resource label.authzRevision audit mutation).grants).bind
        fun grants =>
          if grants = [] then none
          else
            some (touched (replaced session db resource label.authzRevision audit mutation) identity
              resource, bindingOf resource (label.authzRevision + 1) grants) := by
  have hidentified : ∀ row ∈ (replaced session db resource label.authzRevision audit
      mutation).resources, knowledgeResourceId row.stable = some row.knowledgeResourceId ∧
        securityLabelId row.knowledgeResourceId = some row.securityLabelId := h.identified
  have hstored := find_stable h hresource
  have hfound : ((replaced session db resource label.authzRevision audit
      mutation).resources.find? fun row => row.stable = resource.stable) = some resource :=
    hstored
  exact ensureResource_existing hidentified hfound (labelOf_replaced h hlabel hid) hstable

theorem touched_replaced (h : WellFormed db) (hresource : resource ∈ db.resources)
    {revision : ℕ} {identity : KnowledgeResourceIdentity}
    (hlooked : LookedUpAsStored identity resource) :
    touched (replaced session db resource revision audit mutation) identity resource =
      replaced session db resource revision audit mutation := by
  have hrows := congrArg Database.resources (touched_of_lookedUp h hresource hlooked)
  exact congrArg
    (fun resources => { replaced session db resource revision audit mutation with
      resources := resources }) hrows

end After

/-- A replacement with the current revision is exact and repeatable exactly where the mutation is
written as the session writes it and its identities are free. -/
theorem replaces_iff (h : WellFormed db) (hresource : resource ∈ db.resources)
    (hlabel : label ∈ db.labels) (hid : label.securityLabelId = resource.securityLabelId)
    (hexpected : mutation.expectedAuthzRevision = label.authzRevision) :
    Replaces session db resource context mutation ↔
      AsSession session mutation ∧ IdsFree db resource.knowledgeResourceId
        resource.securityLabelId label.authzRevision mutation.grants := by
  constructor
  · rintro ⟨db', binding, hreplace, hreplaced⟩
    obtain ⟨-, hapart, hfree, ⟨audit, -, rfl⟩, rfl⟩ :=
      (replace_eq_some_iff h hresource hlabel hid hexpected).mp hreplace
    let identity : KnowledgeResourceIdentity :=
      ⟨resource.stable, resource.sourceApp, resource.sourceId, resource.sourceRevision, .private⟩
    obtain ⟨db'', again, hensure, -, -, hhash⟩ := hreplaced.repeated identity context rfl
    rw [ensureResource_replaced h hresource hlabel hid rfl] at hensure
    obtain ⟨read, hread, hensure⟩ := Option.bind_eq_some_iff.mp hensure
    split at hensure
    · cases hensure
    · obtain ⟨-, rfl⟩ := Prod.mk.inj (Option.some.inj hensure)
      obtain rfl : read = mutation.grants :=
        hash_eq_iff.mp ⟨hhash, hreplaced.uncollided read hread⟩
      rw [currentGrants_replaced] at hread
      obtain ⟨hwritten, hordered⟩ := (readBack_iff hapart).mp hread
      exact ⟨⟨hapart, hwritten, hordered⟩, hfree⟩
  · rintro ⟨⟨hapart, hwritten, hordered⟩, hfree⟩
    obtain ⟨audit, haudit⟩ := Option.isSome_iff_exists.mp
      ((insertAudit_isSome (not_blank_resource h hresource)).mpr hfree.unaudited)
    have htimes : ∀ grant ∈ mutation.grants, TimesTaken session grant :=
      fun grant hgrant => timesTaken_of_written (hwritten grant hgrant)
    have hread : currentGrants session resource.securityLabelId (label.authzRevision + 1)
        (replaced session db resource label.authzRevision audit mutation).grants =
          some mutation.grants := by
      rw [currentGrants_replaced]
      exact (readBack_iff hapart).mpr ⟨hwritten, hordered⟩
    refine ⟨_, _, (replace_eq_some_iff h hresource hlabel hid hexpected).mpr
      ⟨htimes, hapart, hfree, ⟨audit, haudit, rfl⟩, rfl⟩, ?_⟩
    constructor
    · exact activeGrants_replaced h hlabel hid
    · intro identity reader hstable
      refine ⟨touched (replaced session db resource label.authzRevision audit mutation) identity
        resource, bindingOf resource (label.authzRevision + 1) mutation.grants, ?_,
        ⟨rfl, rfl, rfl⟩, fun hlooked => touched_replaced h hresource hlooked, rfl⟩
      rw [ensureResource_replaced h hresource hlabel hid hstable, hread, Option.bind_some,
        if_neg mutation.nonempty]
    · intro read hagain hcollides
      exact hcollides.1 (Option.some.inj (hagain.symm.trans hread))

/-! ### One hash for one set of grants -/

def SameGrants (mutation mutation' : KnowledgeAclMutation) : Prop :=
  ∀ content, content ∈ mutation.grants.map KnowledgeGrant.content ↔
    content ∈ mutation'.grants.map KnowledgeGrant.content

def WrittenAlike (mutation mutation' : KnowledgeAclMutation) : Prop :=
  ∀ grant ∈ mutation.grants, ∀ grant' ∈ mutation'.grants,
    grant.content = grant'.content → grant = grant'

theorem eq_of_content (mutation : KnowledgeAclMutation) {grant grant' : KnowledgeGrant}
    (hgrant : grant ∈ mutation.grants) (hgrant' : grant' ∈ mutation.grants)
    (hcontent : grant.content = grant'.content) : grant = grant' := by
  have hapart : Apart (fun grant other => grant.content = other.content) mutation.grants :=
    mutation.distinct
  exact eq_of_apart hapart (fun _ _ hsame => hsame.symm) hgrant hgrant' hcontent

theorem sameHash_iff {mutation mutation' : KnowledgeAclMutation}
    (hsame : SameGrants mutation mutation') :
    (visibilityPartitionHash mutation.grants = visibilityPartitionHash mutation'.grants ∧
        ¬ Collides mutation.grants mutation'.grants) ↔
      WrittenAlike mutation mutation' := by
  rw [hash_eq_iff]
  constructor
  · intro hgrants grant hgrant grant' hgrant' hcontent
    rw [← hgrants] at hgrant'
    exact eq_of_content mutation hgrant hgrant' hcontent
  · intro halike
    have hmem : ∀ grant, grant ∈ mutation.grants ↔ grant ∈ mutation'.grants := by
      intro grant
      constructor
      · intro hgrant
        obtain ⟨grant', hgrant', hcontent⟩ := List.mem_map.mp
          ((hsame grant.content).mp (List.mem_map_of_mem hgrant))
        exact halike grant hgrant grant' hgrant' hcontent.symm ▸ hgrant'
      · intro hgrant'
        obtain ⟨grant', hgrant, hcontent⟩ := List.mem_map.mp
          ((hsame grant.content).mpr (List.mem_map_of_mem hgrant'))
        exact halike grant' hgrant grant hgrant' hcontent ▸ hgrant
    have hnodup : ∀ mutation : KnowledgeAclMutation, mutation.grants.Nodup :=
      fun mutation => mutation.distinct.imp fun hne hsame => hne (congrArg _ hsame)
    have hperm : mutation.grants.Perm mutation'.grants :=
      (List.perm_ext_iff_of_nodup (hnodup mutation) (hnodup mutation')).mpr hmem
    refine hperm.eq_of_pairwise ?_ mutation.sorted mutation'.sorted
    intro grant grant' _ _ hle hge
    exact sortKey_inj.mp (le_antisymm hle hge)

/-! ### Reachable databases -/

/-- Replacing grants is exact and repeatable exactly where the mutation is written as the session
writes it, and the hash of a set of grants is one exactly where they are written alike. -/
theorem replacement_iff (session : Session) :
    (∀ db resource label context mutation, WellFormed db → resource ∈ db.resources →
      label ∈ db.labels → label.securityLabelId = resource.securityLabelId →
        mutation.expectedAuthzRevision = label.authzRevision →
          (Replaces session db resource context mutation ↔
            AsSession session mutation ∧ IdsFree db resource.knowledgeResourceId
              resource.securityLabelId label.authzRevision mutation.grants)) ∧
      ∀ mutation mutation', SameGrants mutation mutation' →
        ((visibilityPartitionHash mutation.grants = visibilityPartitionHash mutation'.grants ∧
            ¬ Collides mutation.grants mutation'.grants) ↔ WrittenAlike mutation mutation') :=
  ⟨fun _ _ _ _ _ h hresource hlabel hid hexpected =>
      replaces_iff h hresource hlabel hid hexpected,
    fun _ _ => sameHash_iff⟩

section Sample

def utc : Session where
  offsetAt _ := 0
  ofWall wall := wall
  collationKey text := text.toList.map Char.toNat
  accepted _ := by decide
  collation_inj a b h :=
    String.toList_inj.mp (List.map_injective_iff.mpr (fun _ _ => Char.toNat_inj.mp) h)

def sampleStable : StableIdentity where
  tenantId := "local"
  ownerCapabilityCode := "capability"
  sourceKind := .document
  sourceRef := "document:1"
  ownerScopeType := .workspace
  ownerScopeId := "workspace"

def sampleResourceId : String := (knowledgeResourceId sampleStable).getD ""

def sampleLabelId : String := (securityLabelId sampleResourceId).getD ""

def sampleResource : Resource where
  knowledgeResourceId := sampleResourceId
  stable := sampleStable
  sourceApp := "app"
  sourceId := "1"
  sourceRevision := "1"
  securityLabelId := sampleLabelId
  active := true

def sampleLabel : Label where
  securityLabelId := sampleLabelId
  classification := .private
  authzRevision := 1

def sampleContext : AccessContext where
  subjectUserId := "user"
  principalSetHash := ""
  token := by decide

/-- A microsecond at the start of the calendar, in UTC. -/
def sampleTime (wall : ℕ) (h : wall ≤ 3) : DateTime where
  wall := wall
  offset := some 0
  wall_lt := by
    rw [wallBound, dayLength]
    omega
  offset_lt := by
    rintro _ ⟨⟩
    rw [dayLength]
    omega

theorem isToken_reader : isToken "reader" = true := by
  decide

theorem from_le {validFrom validUntil : ℕ} (hfrom : validFrom < validUntil)
    (huntil : validUntil ≤ 3) : validFrom ≤ 3 :=
  hfrom.le.trans huntil

theorem isWindow_sampleTime {validFrom validUntil : ℕ} (hfrom : validFrom < validUntil)
    (huntil : validUntil ≤ 3) :
    isWindow (some (sampleTime validFrom (from_le hfrom huntil)))
      (some (sampleTime validUntil huntil)) = true := by
  simp only [isWindow, le?, DateTime.moment, sampleTime, Option.getD_some, if_true,
    decide_eq_true_eq, Option.some.injEq]
  refine decide_eq_false ?_
  omega

def sampleGrant (validFrom validUntil : ℕ) (hfrom : validFrom < validUntil)
    (huntil : validUntil ≤ 3) : KnowledgeGrant where
  principal := ⟨.user, "reader", isToken_reader⟩
  relation := .reader
  effect := .allow
  validFrom := some (sampleTime validFrom (from_le hfrom huntil))
  validUntil := some (sampleTime validUntil huntil)
  window := isWindow_sampleTime hfrom huntil

def sampleDatabase : Database where
  labels := [sampleLabel]
  resources := [sampleResource]
  grants := rowsOf utc sampleLabelId 1 (grantsOfCreation sampleContext [])
  audit := (insertAudit sampleResourceId sampleLabelId 0 1 sampleContext "resource_created"
    (grantsOfCreation sampleContext []) []).getD []

theorem sampleDatabase_wellFormed : WellFormed sampleDatabase := by
  have hidentified : knowledgeResourceId sampleStable = some sampleResourceId ∧
      securityLabelId sampleResourceId = some sampleLabelId := by
    have hresource : (knowledgeResourceId sampleStable).isSome = true :=
      stableId_isSome (by decide)
    obtain ⟨id, hid⟩ := Option.isSome_iff_exists.mp hresource
    have hlabel : (securityLabelId id).isSome = true := by
      refine stableId_isSome fun part hpart => ?_
      rw [List.mem_singleton.mp hpart]
      exact not_blank_stableId hid
    obtain ⟨labelId, hlabelId⟩ := Option.isSome_iff_exists.mp hlabel
    rw [sampleLabelId, sampleResourceId, hid, Option.getD_some, hlabelId]
    exact ⟨rfl, rfl⟩
  constructor
  · exact List.pairwise_singleton _ _
  · exact List.pairwise_singleton _ _
  · intro resource hresource
    obtain rfl := List.mem_singleton.mp hresource
    exact hidentified
  · intro resource hresource
    obtain rfl := List.mem_singleton.mp hresource
    exact ⟨sampleLabel, List.mem_singleton_self _, rfl⟩

def twoWindows : List KnowledgeGrant :=
  [sampleGrant 0 1 (by decide) (by decide), sampleGrant 2 3 (by decide) (by decide)]

/-- The contract accepts two grants that differ in their windows, and they are not stored. -/
theorem twoWindows_not_replaced :
    WellFormed sampleDatabase ∧ ∃ mutation, KnowledgeAclMutation.create 1 twoWindows =
      some mutation ∧ ¬ Replaces utc sampleDatabase sampleResource sampleContext mutation := by
  refine ⟨sampleDatabase_wellFormed, ?_⟩
  have hnonempty : twoWindows ≠ [] := List.cons_ne_nil _ _
  obtain ⟨mutation, hcreate, hrevision, hgrants⟩ := exists_create (Nat.le_refl 1) hnonempty
  refine ⟨mutation, hcreate, fun hreplaces => ?_⟩
  have hresource : sampleResource ∈ sampleDatabase.resources := List.mem_singleton_self _
  have hlabel : sampleLabel ∈ sampleDatabase.labels := List.mem_singleton_self _
  have hapart := ((replaces_iff sampleDatabase_wellFormed hresource hlabel rfl hrevision).mp
    hreplaces).1.apart
  have hfirsts : firstsBy KnowledgeGrant.content twoWindows = twoWindows := by
    have hne : (sampleGrant 2 3 (by decide) (by decide)).content ≠
        (sampleGrant 0 1 (by decide) (by decide)).content := by
      intro hcontent
      have hmoment := congrArg (fun content => content.2.1) hcontent
      exact absurd hmoment (by decide)
    simp only [twoWindows, firstsBy, List.filter_nil, List.filter_cons, decide_eq_true hne,
      if_true]
  rw [hgrants, perm_normalize.pairwise_iff fun hne => Ne.symm hne, hfirsts, twoWindows,
    List.pairwise_pair] at hapart
  exact hapart rfl

def onceMutation : KnowledgeAclMutation where
  expectedAuthzRevision := 1
  grants := [sampleGrant 0 1 (by decide) (by decide)]
  positive := by decide
  distinct := List.pairwise_singleton _ _
  sorted := List.pairwise_singleton _ _
  nonempty := List.cons_ne_nil _ _

theorem once_replaced_iff :
    AsSession utc onceMutation ∧
      (Replaces utc sampleDatabase sampleResource sampleContext onceMutation ↔
        AsSession utc onceMutation ∧ IdsFree sampleDatabase sampleResourceId sampleLabelId 1
          onceMutation.grants) ∧
        visibilityPartitionHash onceMutation.grants =
          visibilityPartitionHash onceMutation.grants := by
  have halike : WrittenAlike onceMutation onceMutation := by
    intro grant hgrant grant' hgrant' _
    exact (List.mem_singleton.mp hgrant).trans (List.mem_singleton.mp hgrant').symm
  refine ⟨⟨List.pairwise_singleton _ _, ?_, List.pairwise_singleton _ _⟩,
    (replacement_iff utc).1 sampleDatabase sampleResource sampleLabel sampleContext onceMutation
      sampleDatabase_wellFormed (List.mem_singleton_self _) (List.mem_singleton_self _) rfl rfl,
    (((replacement_iff utc).2 onceMutation onceMutation fun _ => Iff.rfl).mpr halike).1⟩
  intro grant hgrant
  obtain rfl := List.mem_singleton.mp hgrant
  constructor
  · rintro _ ⟨⟩
    rfl
  · rintro _ ⟨⟩
    rfl

end Sample

end MindscapeLocalCore.KnowledgeAuthorization.RepeatableReplacements
