import Mathlib.Data.List.Dedup
import MindscapeLocalCore.AccessControl.Schema
/-!
The transactions of the access-control repository. Each one runs alone and leaves the
tables as they were where it raises. An id that `uuid4` gives is a parameter.
-/

namespace MindscapeLocalCore.AccessControl.Repository

open Schema Library.Guarded Library.Table Library.UniqueInsert

/-- `str.lower`, and the digests of a text in hexadecimal. -/
structure Platform where
  lower : String → String
  sha256 : String → String
  md5 : String → String

/-! ### Guards -/

/-- `_lock_scope`: the first writer of a scope creates its policy. -/
def lockScope (scope : Scope) (expectedRevision : ℤ) (tables : Tables) :
    Except AccessError (ℤ × Tables) :=
  match lookup Policy.scope scope tables.policies with
  | none => do
      require (expectedRevision = 0) .revisionConflict
      require scope.Valid (.integrity .check)
      .ok (1, { tables with policies := tables.policies ++ [⟨scope, 1⟩] })
  | some policy => do
      require (policy.revision = expectedRevision) .revisionConflict
      .ok (policy.revision, tables)

def lockActiveGrant (principalId : String) (scope : Scope) (tables : Tables) : Option Grant :=
  tables.grants.find? fun grant => decide (grant.Active principalId scope)

def Another (now : Timestamp) (role : Role) (scope : Scope) (principalId : String)
    (grants : List Grant) : Prop :=
  ∃ grant ∈ grants, grant.scope = scope ∧ grant.roleKey = role ∧ grant.status = .active ∧
    grant.principalId ≠ principalId ∧ grant.Unexpired now

instance (now : Timestamp) (role : Role) (scope : Scope) (principalId : String)
    (grants : List Grant) : Decidable (Another now role scope principalId grants) :=
  inferInstanceAs (Decidable (∃ grant ∈ grants, _))

def requireAnotherOwner (now : Timestamp) (scopeId principalId : String) (tables : Tables) :
    Except AccessError Unit :=
  require (Another now .workspaceOwner (workspace scopeId) principalId tables.grants) .lastOwner

def requireAnotherLocalCoreSuperAdmin (now : Timestamp) (principalId : String)
    (tables : Tables) : Except AccessError Unit :=
  require (Another now .localCoreSuperAdmin localCore principalId tables.grants)
    .lastAdministrator

def recordMutation (revision : ℤ) (scope : Scope) (actorPrincipalId action : String)
    (targetPrincipalId : Option String) (metadata : List (String × String))
    (tables : Tables) : ℤ × Tables :=
  let policies := amend Policy.scope scope
    (fun policy => { policy with revision := revision + 1 }) tables.policies
  let auditEvents := match lookup Policy.scope scope tables.policies with
    | none => tables.auditEvents
    | some _ =>
        tables.auditEvents ++
          [{ scope, actorPrincipalId, action, targetPrincipalId, metadata }]
  (revision + 1, { tables with policies, auditEvents })

/-! ### Grants -/

/-- `DO UPDATE SET role_key = EXCLUDED.role_key, expires_at = NULL`. -/
def regranted (roleKey : Role) (grant : Grant) : Grant :=
  { grant with roleKey, expiresAt := none }

/-- Insert an active grant: `resolve` is what becomes of the one that the principal has on
the scope already. A new row needs its principal and its policy. -/
def insertGrant (resolve : Grant → Grant) (grant : Grant) (tables : Tables) :
    Except AccessError Tables := do
  require (grant.roleKey.Fits grant.scope.scopeType) (.integrity .check)
  let grants ← stored (insertOnConflict sameActive sameGrantId resolve grant tables.grants)
  require ((∃ old ∈ tables.grants, sameActive grant old) ∨
      (∃ principal ∈ tables.principals, principal.id = grant.principalId) ∧
        ∃ policy ∈ tables.policies, policy.scope = grant.scope)
    (.integrity .foreignKey)
  .ok { tables with grants }

def activeGrant (id principalId : String) (scope : Scope) (roleKey : Role)
    (createdBy : String) : Grant where
  id := id
  principalId := principalId
  scope := scope
  roleKey := roleKey
  status := .active
  expiresAt := none
  createdBy := createdBy

/-! ### Mutations -/

def createInvitation (invitationId : String) (scope : Scope) (email : String) (roleKey : Role)
    (tokenHash : String) (expiresAt : Timestamp) (actorPrincipalId : String)
    (expectedRevision : ℤ) (tables : Tables) : Except AccessError (ℤ × Tables) := do
  let (revision, tables) ← lockScope scope expectedRevision tables
  require (roleKey.Fits scope.scopeType) (.integrity .check)
  let invitations ← stored (insertRow sameInvitation
    { id := invitationId, scope, email, roleKey, tokenHash, status := .pending, expiresAt,
      createdBy := actorPrincipalId, acceptedPrincipalId := none } tables.invitations)
  .ok (recordMutation revision scope actorPrincipalId "invitation.created" none
    [("invitation_id", invitationId)] { tables with invitations })

def validateInvitation (p : Platform) (now : Timestamp) (verifiedEmail : String) :
    Option Invitation → Except AccessError Invitation
  | none => .error .invitationInvalid
  | some invitation => do
      require (invitation.status = .pending) .invitationInvalid
      require (now < invitation.expiresAt) .invitationExpired
      require (p.lower invitation.email = p.lower verifiedEmail) .invitationEmailMismatch
      .ok invitation

def insertPrincipalBinding (principalId bindingId : String) (identity : VerifiedIdentity)
    (verifiedEmail : String) (tables : Tables) : Except AccessError Tables := do
  let principals ← stored (insertRow samePrincipal
    ⟨principalId, .human, some verifiedEmail, .active⟩ tables.principals)
  let bindings ← stored (insertRow sameBinding
    ⟨bindingId, principalId, identity, some verifiedEmail, .active⟩ tables.bindings)
  .ok { tables with principals, bindings }

def activeBinding (identity : VerifiedIdentity) (tables : Tables) : Option Binding :=
  tables.bindings.find? fun binding =>
    decide (binding.identity = identity ∧ binding.status = .active)

def accepted (principalId : String) (invitation : Invitation) : Invitation :=
  { invitation with status := .accepted, acceptedPrincipalId := some principalId }

/-- `_consume_invitation`: where the invitation is not pending any more or the scope has no
policy, no revision comes back. -/
def consumeInvitation (invitationId principalId : String) (scope : Scope) (tables : Tables) :
    Except AccessError (ℤ × Tables) :=
  if ∃ invitation ∈ tables.invitations,
      invitation.id = invitationId ∧ invitation.status = .pending then
    match lookup Policy.scope scope tables.policies with
    | none => .error .invitationInvalid
    | some policy =>
        .ok (policy.revision + 1,
          { tables with
            invitations := tables.invitations.map fun invitation =>
              if invitation.id = invitationId ∧ invitation.status = .pending then
                accepted principalId invitation
              else invitation
            policies := amend Policy.scope scope
              (fun policy => { policy with revision := policy.revision + 1 }) tables.policies
            auditEvents := tables.auditEvents ++
              [{ scope, actorPrincipalId := principalId, action := "invitation.accepted",
                 targetPrincipalId := some principalId,
                 metadata := [("invitation_id", invitationId)] }] })
  else .error .invitationInvalid

structure Acceptance where
  principalId : String
  scope : Scope
  roleKey : Role
  revision : ℤ

/-- The ids that `uuid4` gives to an acceptance. -/
structure AcceptanceIds where
  principalId : String
  bindingId : String
  grantId : String

def acceptInvitation (p : Platform) (now : Timestamp) (ids : AcceptanceIds)
    (tokenHash : String) (identity : VerifiedIdentity) (verifiedEmail : String)
    (tables : Tables) : Except AccessError (Acceptance × Tables) := do
  let invitation ← validateInvitation p now verifiedEmail
    (lookup Invitation.tokenHash tokenHash tables.invitations)
  let (principalId, tables) ← match activeBinding identity tables with
    | some binding => .ok (binding.principalId, tables)
    | none => do
        let tables ← insertPrincipalBinding ids.principalId ids.bindingId identity verifiedEmail
          tables
        .ok (ids.principalId, tables)
  let tables ← insertGrant (regranted invitation.roleKey)
    (activeGrant ids.grantId principalId invitation.scope invitation.roleKey principalId) tables
  let (revision, tables) ← consumeInvitation invitation.id principalId invitation.scope tables
  .ok (⟨principalId, invitation.scope, invitation.roleKey, revision⟩, tables)

def upsertGrant (now : Timestamp) (grantId principalId : String) (scope : Scope)
    (roleKey : Role) (actorPrincipalId : String) (expectedRevision : ℤ) (tables : Tables) :
    Except AccessError (ℤ × Tables) := do
  let (revision, tables) ← lockScope scope expectedRevision tables
  let existing := lockActiveGrant principalId scope tables
  if scope.scopeType = .workspace ∧ (existing.any fun grant => grant.roleKey = .workspaceOwner) ∧
      roleKey ≠ .workspaceOwner then
    requireAnotherOwner now scope.scopeId principalId tables
  let tables ← insertGrant (regranted roleKey)
    (activeGrant grantId principalId scope roleKey actorPrincipalId) tables
  .ok (recordMutation revision scope actorPrincipalId "grant.changed" (some principalId) [] tables)

def revoked (grant : Grant) : Grant := { grant with status := .revoked }

def revokeGrant (now : Timestamp) (principalId : String) (scope : Scope)
    (actorPrincipalId : String) (expectedRevision : ℤ) (tables : Tables) :
    Except AccessError (ℤ × Tables) := do
  let (revision, tables) ← lockScope scope expectedRevision tables
  let existing := lockActiveGrant principalId scope tables
  if existing.any fun grant => grant.roleKey = .workspaceOwner then
    requireAnotherOwner now scope.scopeId principalId tables
  if existing.any fun grant => grant.roleKey = .localCoreSuperAdmin then
    requireAnotherLocalCoreSuperAdmin now principalId tables
  let grants := tables.grants.map fun grant =>
    if grant.Active principalId scope then revoked grant else grant
  .ok (recordMutation revision scope actorPrincipalId "grant.revoked" (some principalId) []
    { tables with grants })

/-! ### Identities -/

/-- `INSERT INTO access_principals … ON CONFLICT (id) DO UPDATE`. -/
def ensurePrincipal (resolve : Principal → Principal) (principal : Principal) (tables : Tables) :
    Except AccessError Tables := do
  let principals ← stored (insertOnConflict samePrincipal never resolve principal
    tables.principals)
  .ok { tables with principals }

/-- `INSERT INTO access_identity_bindings … ON CONFLICT (provider, issuer, subject) DO
UPDATE`. -/
def ensureBinding (resolve : Binding → Binding) (binding : Binding) (tables : Tables) :
    Except AccessError Tables := do
  let bindings ← stored (insertOnConflict sameIdentity sameBindingId resolve binding
    tables.bindings)
  .ok { tables with bindings }

/-- `INSERT INTO access_scope_policies … ON CONFLICT DO NOTHING`. -/
def ensurePolicy (scope : Scope) (tables : Tables) : Except AccessError Tables := do
  require scope.Valid (.integrity .check)
  let policies ← stored (insertOnConflict sameScope never id ⟨scope, 1⟩ tables.policies)
  .ok { tables with policies }

def localPrincipalId (localUserId : String) : String := "local-" ++ localUserId

def localIdentity (localUserId : String) : VerifiedIdentity := ⟨"local", "local-core", localUserId⟩

def localPrincipal (localUserId : String) : Principal :=
  ⟨localPrincipalId localUserId, .localUser, none, .active⟩

def localBinding (localUserId : String) : Binding :=
  ⟨"local-binding-" ++ localUserId, localPrincipalId localUserId, localIdentity localUserId,
    none, .active⟩

def ensureLocalPrincipal (localUserId : String) (tables : Tables) : Except AccessError Tables :=
  ensurePrincipal (fun principal => { principal with status := .active })
    (localPrincipal localUserId) tables

def ensureLocalBinding (localUserId : String) (tables : Tables) : Except AccessError Tables :=
  ensureBinding
    (fun binding => { binding with
      principalId := localPrincipalId localUserId, status := .active })
    (localBinding localUserId) tables

def localGrant (localUserId : String) : Grant :=
  activeGrant ("local-grant-" ++ localUserId) (localPrincipalId localUserId) localCore
    .localCoreSuperAdmin "host-bootstrap"

def ensureLocalRecoveryOwner (localUserId : String) (tables : Tables) :
    Except AccessError (String × Tables) := do
  let tables ← ensureLocalPrincipal localUserId tables
  let tables ← ensureLocalBinding localUserId tables
  let tables ← ensurePolicy localCore tables
  let tables ← insertGrant (regranted .localCoreSuperAdmin) (localGrant localUserId) tables
  .ok (localPrincipalId localUserId, tables)

/-- The columns of `workspaces` that are read. -/
structure Workspace where
  id : String
  ownerUserId : Option String

structure Owner where
  workspaceId : String
  ownerUserId : String

/-- The `owners` of the statement. -/
def owners (workspaces : List Workspace) : List Owner :=
  workspaces.filterMap fun row =>
    match row.ownerUserId with
    | none => none
    | some ownerUserId =>
        if ownerUserId = "" then none else some ⟨row.id, ownerUserId⟩

def ownerGrant (p : Platform) (actorId : String) (owner : Owner) : Grant :=
  activeGrant (p.md5 ("owner:" ++ owner.ownerUserId ++ ":" ++ owner.workspaceId))
    (localPrincipalId owner.ownerUserId) (workspace owner.workspaceId) .workspaceOwner actorId

/-- `backfill_workspace_owners`: the number of grants that were inserted. -/
def backfillWorkspaceOwners (p : Platform) (actorId : String) (workspaces : List Workspace)
    (tables : Tables) : Except AccessError (ℕ × Tables) := do
  let rows := owners workspaces
  let userIds := (rows.map Owner.ownerUserId).dedup
  let granted := tables.grants.length
  let tables ← userIds.foldlM (fun tables userId => ensureLocalPrincipal userId tables) tables
  let tables ← userIds.foldlM (fun tables userId => ensureLocalBinding userId tables) tables
  let tables ← rows.foldlM (fun tables owner => ensurePolicy (workspace owner.workspaceId) tables)
    tables
  let tables ← rows.foldlM (fun tables owner => insertGrant id (ownerGrant p actorId owner) tables)
    tables
  .ok (tables.grants.length - granted, tables)

/-- `import_verified_grant` of the repository: whether a grant was inserted. -/
def importVerifiedGrant (principalId bindingId grantId : String) (identity : VerifiedIdentity)
    (verifiedEmail : Option String) (scope : Scope) (roleKey : Role) (actorId : String)
    (tables : Tables) : Except AccessError (Bool × Tables) := do
  let granted := tables.grants.length
  let tables ← ensurePrincipal
    (fun principal => { principal with
      displayEmail := verifiedEmail <|> principal.displayEmail, status := .active })
    ⟨principalId, .human, verifiedEmail, .active⟩ tables
  let tables ← ensureBinding
    (fun binding => { binding with
      verifiedEmail := verifiedEmail <|> binding.verifiedEmail, status := .active })
    ⟨bindingId, principalId, identity, verifiedEmail, .active⟩ tables
  let tables ← ensurePolicy scope tables
  let tables ← insertGrant id (activeGrant grantId principalId scope roleKey actorId) tables
  .ok (tables.grants.length ≠ granted, tables)

/-! ### The facade -/

def stableKey (identity : VerifiedIdentity) : String :=
  "|".intercalate [identity.provider, identity.issuer, identity.subject]

def ScopeType.text : ScopeType → String
  | .localCore => "local_core"
  | .workspace => "workspace"

def Role.key : Role → String
  | .localCoreSuperAdmin => "local_core_super_admin"
  | .workspaceOwner => "workspace_owner"
  | .workspaceAdmin => "workspace_admin"
  | .workspaceEditor => "workspace_editor"
  | .workspaceViewer => "workspace_viewer"

def importedPrincipalId (p : Platform) (identity : VerifiedIdentity) : String :=
  p.sha256 ("principal|" ++ stableKey identity)

def importedBindingId (p : Platform) (identity : VerifiedIdentity) : String :=
  p.sha256 ("binding|" ++ stableKey identity)

def importedGrantId (p : Platform) (identity : VerifiedIdentity) (scope : Scope)
    (roleKey : Role) : String :=
  p.sha256 ("grant|" ++ stableKey identity ++ "|" ++ ScopeType.text scope.scopeType ++ "|" ++
    scope.scopeId ++ "|" ++ Role.key roleKey)

/-- `import_verified_grant` of the facade, whose ids are digests of its arguments. -/
def importGrant (p : Platform) (identity : VerifiedIdentity) (verifiedEmail : Option String)
    (scope : Scope) (roleKey : Role) (actorId : String) (tables : Tables) :
    Except AccessError (Bool × Tables) := do
  require (roleKey.Fits scope.scopeType) .roleScopeMismatch
  importVerifiedGrant (importedPrincipalId p identity) (importedBindingId p identity)
    (importedGrantId p identity scope roleKey) identity verifiedEmail scope roleKey actorId tables

end MindscapeLocalCore.AccessControl.Repository
