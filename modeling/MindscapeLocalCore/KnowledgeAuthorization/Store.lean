import Mathlib
import MindscapeLocalCore.KnowledgeAuthorization.WriteContracts
import MindscapeLocalCore.Library.JsonText
import MindscapeLocalCore.Library.PythonText
import MindscapeLocalCore.Library.HashChain
import MindscapeLocalCore.Library.UniqueInsert

/-!
The store of resources, labels, grants and the ACL audit: grants go into the database as moments
and come back in the time zone of its session.
-/

namespace MindscapeLocalCore.KnowledgeAuthorization.Store

open Library Library.DateTimes Library.Json Library.UniqueInsert WriteContracts

/-! ### The session of the database -/

/-- Offsets that a `timestamptz` literal may have: whole seconds, below sixteen hours. -/
def AcceptedOffset (o : ℤ) : Prop := o % 1000000 = 0 ∧ o.natAbs < 57600000000

instance (o : ℤ) : Decidable (AcceptedOffset o) := inferInstanceAs (Decidable (_ ∧ _))

structure Session where
  /-- the offset that the time zone of the session has at a moment -/
  offsetAt : ℤ → ℤ
  /-- the moment that a wall clock without offset is taken for -/
  ofWall : ℕ → ℤ
  /-- texts are ordered as these keys are -/
  collationKey : String → List ℕ
  accepted : ∀ moment, AcceptedOffset (offsetAt moment)
  collation_inj : Function.Injective collationKey

variable (session : Session)

def Session.momentOf (time : DateTime) : ℤ :=
  match time.offset with
  | none => session.ofWall time.wall
  | some o => time.wall - o

def Accepts (time : DateTime) : Prop := ∀ o ∈ time.offset, AcceptedOffset o

instance (time : DateTime) : Decidable (Accepts time) :=
  inferInstanceAs (Decidable (∀ o ∈ time.offset, AcceptedOffset o))

def Session.read (moment : ℤ) : Option DateTime :=
  let wall := moment + session.offsetAt moment
  if h : 0 ≤ wall ∧ wall < wallBound then
    some
      { wall := wall.toNat
        offset := some (session.offsetAt moment)
        wall_lt := by omega
        offset_lt := by
          rintro _ ⟨⟩
          exact Nat.lt_trans (session.accepted moment).2 (by decide) }
  else none

/-! ### Identities -/

/-- `hashlib.sha256(text.encode("utf-8")).hexdigest()` -/
def hexdigest (text : String) : String :=
  String.ofList (Hex.hexText 64 (Sha256.sha256 text.toUTF8).toNat)

def stableId (idPrefix : String) (parts : List String) : Option String :=
  let normalized := parts.map PythonText.strip
  if "" ∈ normalized then none
  else some (idPrefix ++ "_" ++ hexdigest ("\x1f".intercalate normalized))

inductive SourceKind where
  | object
  | artifact
  | memory
  | document
  deriving DecidableEq

def SourceKind.value : SourceKind → String
  | .object => "object"
  | .artifact => "artifact"
  | .memory => "memory"
  | .document => "document"

inductive ScopeType where
  | tenant
  | workspace
  | group
  deriving DecidableEq

def ScopeType.value : ScopeType → String
  | .tenant => "tenant"
  | .workspace => "workspace"
  | .group => "group"

inductive Classification where
  | «private»
  | workspace
  | group
  deriving DecidableEq

structure StableIdentity where
  tenantId : String
  ownerCapabilityCode : String
  sourceKind : SourceKind
  sourceRef : String
  ownerScopeType : ScopeType
  ownerScopeId : String
  deriving DecidableEq

structure KnowledgeResourceIdentity where
  stable : StableIdentity
  sourceApp : String
  sourceId : String
  sourceRevision : String
  classification : Classification

def knowledgeResourceId (identity : StableIdentity) : Option String :=
  stableId "kr" [identity.ownerCapabilityCode, identity.sourceKind.value, identity.sourceRef,
    identity.ownerScopeType.value, identity.ownerScopeId]

def securityLabelId (resourceId : String) : Option String := stableId "ksl" [resourceId]

def securityGrantId (labelId : String) (key : GrantKey) : Option String :=
  stableId "kg" (labelId :: key.texts)

def aclMutationId (resourceId : String) (authzRevision : ℕ) (diffDigest : String) :
    Option String :=
  stableId "kam" [resourceId, authzRevision.repr, diffDigest]

/-! ### Hashes -/

def optionText (time : Option DateTime) : Json :=
  match time with
  | some time => .str (isoformat time)
  | none => .null

/-- A grant of `_canonical_grants`, in the order of `sort_keys`. -/
def canonicalGrant (grant : KnowledgeGrant) : Json :=
  .obj [("effect", .str grant.effect.value), ("principal_id", .str grant.principal.id),
    ("principal_type", .str grant.principal.type.value),
    ("relation", .str grant.relation.value), ("valid_from", optionText grant.validFrom),
    ("valid_until", optionText grant.validUntil)]

/-- `separators=(",", ":")`; the documents hold no numbers. -/
def compact : JsonText.Style where
  itemSeparator := ","
  keySeparator := ":"
  number _ := ""

/-- `visibility_partition_hash_for_grants` -/
def visibilityPartitionHash (grants : List KnowledgeGrant) : String :=
  hexdigest (JsonText.render compact (.arr (grants.map canonicalGrant)))

def diffPayload (event : String) (grants : List KnowledgeGrant) : Json :=
  .obj [("event", .str event), ("grants", .arr (grants.map canonicalGrant))]

def diffDigest (event : String) (grants : List KnowledgeGrant) : String :=
  hexdigest (JsonText.render compact (diffPayload event grants))

/-! ### Rows -/

/-- A row of `knowledge_security_labels`. -/
structure Label where
  securityLabelId : String
  classification : Classification
  authzRevision : ℕ

/-- A row of `knowledge_resources`. -/
structure Resource where
  knowledgeResourceId : String
  stable : StableIdentity
  sourceApp : String
  sourceId : String
  sourceRevision : String
  securityLabelId : String
  active : Bool

/-- A row of `knowledge_security_label_grants`. -/
structure GrantRow where
  grantId : String
  securityLabelId : String
  principal : PrincipalRef
  relation : Relation
  effect : Effect
  validFrom : Option ℤ
  validUntil : Option ℤ
  authzRevision : ℕ

def GrantRow.key (row : GrantRow) : GrantKey where
  principalType := row.principal.type
  principalId := row.principal.id
  relation := row.relation
  effect := row.effect

/-- A row of `knowledge_acl_audit_log`. -/
structure AuditRow where
  mutationId : String
  actorUserId : String
  principalContextHash : String
  knowledgeResourceId : String
  securityLabelId : String
  oldAuthzRevision : ℕ
  newAuthzRevision : ℕ
  diffDigest : String
  normalizedDiff : Json

structure Database where
  labels : List Label
  resources : List Resource
  grants : List GrantRow
  audit : List AuditRow

def SameResource (row other : Resource) : Prop :=
  row.knowledgeResourceId = other.knowledgeResourceId ∨ row.stable = other.stable ∨
    row.securityLabelId = other.securityLabelId

instance : DecidableRel SameResource := fun _ _ => inferInstanceAs (Decidable (_ ∨ _ ∨ _))

def SameGrant (row other : GrantRow) : Prop :=
  row.grantId = other.grantId ∨
    row.securityLabelId = other.securityLabelId ∧ row.key = other.key

instance : DecidableRel SameGrant := fun _ _ => inferInstanceAs (Decidable (_ ∨ _ ∧ _))

def SameLabel (row other : Label) : Prop := row.securityLabelId = other.securityLabelId

instance : DecidableRel SameLabel := fun _ _ => inferInstanceAs (Decidable (_ = _))

def SameAudit (row other : AuditRow) : Prop := row.mutationId = other.mutationId

instance : DecidableRel SameAudit := fun _ _ => inferInstanceAs (Decidable (_ = _))

/-- The subject of a `RetrievalAccessContext` and the hash of its principals. -/
structure AccessContext where
  subjectUserId : String
  principalSetHash : String
  token : isToken subjectUserId = true

/-- `KnowledgeResourceBinding` -/
structure Binding where
  knowledgeResourceId : String
  securityLabelId : String
  authzRevision : ℕ
  visibilityPartitionHash : String
  created : Bool

/-! ### Writing grants -/

/-- `ck_knowledge_grants_validity_window` -/
def windowHolds : Option ℤ → Option ℤ → Bool
  | some validFrom, some validUntil => validFrom < validUntil
  | _, _ => true

def storedRow (labelId : String) (authzRevision : ℕ) (grantId : String) (grant : KnowledgeGrant) :
    GrantRow where
  grantId := grantId
  securityLabelId := labelId
  principal := grant.principal
  relation := grant.relation
  effect := grant.effect
  validFrom := grant.validFrom.map session.momentOf
  validUntil := grant.validUntil.map session.momentOf
  authzRevision := authzRevision

def TimesTaken (grant : KnowledgeGrant) : Prop :=
  (∀ time ∈ grant.validFrom, Accepts time) ∧ (∀ time ∈ grant.validUntil, Accepts time) ∧
    windowHolds (grant.validFrom.map session.momentOf) (grant.validUntil.map session.momentOf) =
      true

instance (grant : KnowledgeGrant) : Decidable (TimesTaken session grant) :=
  inferInstanceAs (Decidable (_ ∧ _ ∧ _))

def grantRow (labelId : String) (authzRevision : ℕ) (grant : KnowledgeGrant) : Option GrantRow := do
  let id ← securityGrantId labelId grant.key
  if TimesTaken session grant then some (storedRow session labelId authzRevision id grant) else none

def insertGrants (labelId : String) (authzRevision : ℕ) (grants : List KnowledgeGrant)
    (rows : List GrantRow) : Option (List GrantRow) := do
  let news ← grants.mapM (grantRow session labelId authzRevision)
  insertRows SameGrant news rows

def insertAudit (resourceId labelId : String) (oldRevision newRevision : ℕ)
    (context : AccessContext) (event : String) (grants : List KnowledgeGrant)
    (rows : List AuditRow) : Option (List AuditRow) := do
  let digest := diffDigest event grants
  let id ← aclMutationId resourceId newRevision digest
  insertRow SameAudit
    { mutationId := id
      actorUserId := context.subjectUserId
      principalContextHash := context.principalSetHash
      knowledgeResourceId := resourceId
      securityLabelId := labelId
      oldAuthzRevision := oldRevision
      newAuthzRevision := newRevision
      diffDigest := digest
      normalizedDiff := diffPayload event grants }
    rows

def raiseRevision (labelId : String) (currentRevision : ℕ) (label : Label) : Label :=
  if label.securityLabelId = labelId ∧ label.authzRevision = currentRevision then
    { label with authzRevision := currentRevision + 1 }
  else label

def othersOf (labelId : String) (rows : List GrantRow) : List GrantRow :=
  rows.filter fun row => row.securityLabelId ≠ labelId

def replaceGrants (db : Database) (resourceId labelId : String) (currentRevision : ℕ)
    (context : AccessContext) (mutation : KnowledgeAclMutation) : Option (Database × ℕ) :=
  if mutation.expectedAuthzRevision ≠ currentRevision then none
  else
    let newRevision := currentRevision + 1
    if ∃ label ∈ db.labels, label.securityLabelId = labelId ∧
        label.authzRevision = currentRevision then do
      let labels := db.labels.map (raiseRevision labelId currentRevision)
      let grants ← insertGrants session labelId newRevision mutation.grants
        (othersOf labelId db.grants)
      let audit ← insertAudit resourceId labelId currentRevision newRevision context
        "grants_replaced" mutation.grants db.audit
      some ({ db with labels := labels, grants := grants, audit := audit }, newRevision)
    else none

/-! ### Reading grants -/

def rowKey (row : GrantRow) :
    List (List ℕ) ×ₗ WithBot ℤ ×ₗ WithBot ℤ :=
  toLex (row.key.texts.map session.collationKey, toLex (row.validFrom, row.validUntil))

def readGrant (row : GrantRow) : Option KnowledgeGrant := do
  let validFrom ← row.validFrom.mapM session.read
  let validUntil ← row.validUntil.mapM session.read
  if h : isWindow validFrom validUntil = true then
    some
      { principal := row.principal
        relation := row.relation
        effect := row.effect
        validFrom := validFrom
        validUntil := validUntil
        window := h }
  else none

def grantsAt (labelId : String) (authzRevision : ℕ) (rows : List GrantRow) : List GrantRow :=
  rows.filter fun row => row.securityLabelId = labelId ∧ row.authzRevision = authzRevision

def currentGrants (labelId : String) (authzRevision : ℕ) (rows : List GrantRow) :
    Option (List KnowledgeGrant) :=
  (Sorting.sortBy (· ≤ ·) (rowKey session) (grantsAt labelId authzRevision rows)).mapM
    (readGrant session)

/-! ### Operations -/

def labelOf (db : Database) (resource : Resource) : Option Label :=
  db.labels.find? fun label => label.securityLabelId = resource.securityLabelId

def replaceExistingResourceGrants (db : Database) (resourceId tenantId : String)
    (scopeType : ScopeType) (scopeId : String) (context : AccessContext)
    (mutation : KnowledgeAclMutation) : Option (Database × Binding) := do
  let resource ← db.resources.find? fun resource =>
    resource.knowledgeResourceId = resourceId ∧ resource.stable.tenantId = tenantId ∧
      resource.stable.ownerScopeType = scopeType ∧ resource.stable.ownerScopeId = scopeId
  let label ← labelOf db resource
  let (db, revision) ← replaceGrants session db resourceId label.securityLabelId
    label.authzRevision context mutation
  some (db,
    { knowledgeResourceId := resourceId
      securityLabelId := label.securityLabelId
      authzRevision := revision
      visibilityPartitionHash := visibilityPartitionHash mutation.grants
      created := false })

def grantsOfCreation (context : AccessContext) (initialGrants : List KnowledgeGrant) :
    List KnowledgeGrant :=
  let owner : KnowledgeGrant :=
    { principal := ⟨.user, context.subjectUserId, context.token⟩
      relation := .owner
      effect := .allow
      validFrom := none
      validUntil := none
      window := rfl }
  Sorting.sortBy (· ≤ ·) (fun grant => grant.key.texts)
    (firstsBy KnowledgeGrant.content (owner :: initialGrants))

def createResource (db : Database) (identity : KnowledgeResourceIdentity) (context : AccessContext)
    (resourceId labelId : String) (initialGrants : List KnowledgeGrant) : Option Database := do
  let grants := grantsOfCreation context initialGrants
  let labels ← insertRow SameLabel
    { securityLabelId := labelId, classification := identity.classification, authzRevision := 1 }
    db.labels
  let resources ← insertRow SameResource
    { knowledgeResourceId := resourceId
      stable := identity.stable
      sourceApp := identity.sourceApp
      sourceId := identity.sourceId
      sourceRevision := identity.sourceRevision
      securityLabelId := labelId
      active := true }
    db.resources
  let rows ← insertGrants session labelId 1 grants db.grants
  let audit ← insertAudit resourceId labelId 0 1 context "resource_created" grants db.audit
  some { labels := labels, resources := resources, grants := rows, audit := audit }

def touchResource (identity : KnowledgeResourceIdentity) (resource : Resource) : Resource :=
  { resource with
    sourceApp := identity.sourceApp
    sourceId := identity.sourceId
    sourceRevision := identity.sourceRevision
    active := true }

def findOrCreate (db : Database) (identity : KnowledgeResourceIdentity) (context : AccessContext)
    (resourceId labelId : String) (initialGrants : List KnowledgeGrant) :
    Option (Database × ℕ × Bool) :=
  let existing := db.resources.find? fun resource => resource.stable = identity.stable
  match existing.bind fun resource => (labelOf db resource).map fun label => (resource, label) with
  | none => do
      let db ← createResource session db identity context resourceId labelId initialGrants
      some (db, 1, true)
  | some (resource, label) =>
      if resource.knowledgeResourceId ≠ resourceId ∨ resource.securityLabelId ≠ labelId then none
      else
        let resources := db.resources.map fun row =>
          if row.knowledgeResourceId = resourceId then touchResource identity row else row
        some ({ db with resources := resources }, label.authzRevision, false)

def applyMutation (db : Database) (resourceId labelId : String) (currentRevision : ℕ)
    (context : AccessContext) : Option KnowledgeAclMutation → Option (Database × ℕ)
  | some mutation => replaceGrants session db resourceId labelId currentRevision context mutation
  | none => some (db, currentRevision)

def ensureResource (db : Database) (identity : KnowledgeResourceIdentity) (context : AccessContext)
    (mutation : Option KnowledgeAclMutation) (initialGrants : List KnowledgeGrant) :
    Option (Database × Binding) := do
  let resourceId ← knowledgeResourceId identity.stable
  let labelId ← securityLabelId resourceId
  let (db, found, created) ←
    findOrCreate session db identity context resourceId labelId initialGrants
  let (db, revision) ← applyMutation session db resourceId labelId found context mutation
  let grants ← currentGrants session labelId revision db.grants
  if grants = [] then none
  else
    some (db,
      { knowledgeResourceId := resourceId
        securityLabelId := labelId
        authzRevision := revision
        visibilityPartitionHash := visibilityPartitionHash grants
        created := created })

end MindscapeLocalCore.KnowledgeAuthorization.Store
