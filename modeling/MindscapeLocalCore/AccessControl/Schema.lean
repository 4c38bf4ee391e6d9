import Mathlib.Algebra.Order.Ring.Int
import MindscapeLocalCore.Library.Table
import MindscapeLocalCore.Library.UniqueInsert
/-!
The tables of workspace access control, with their constraints: primary keys, the unique
identity of a binding, the unique active grant of a principal on a scope, the unique token
of an invitation, and the checks on scopes and roles.
-/

namespace MindscapeLocalCore.AccessControl.Schema

open Library.Table

abbrev Timestamp := ℤ

inductive ScopeType
  | localCore
  | workspace
deriving DecidableEq

structure Scope where
  scopeType : ScopeType
  scopeId : String
deriving DecidableEq

def localCore : Scope := ⟨.localCore, "local-core"⟩

def workspace (workspaceId : String) : Scope := ⟨.workspace, workspaceId⟩

inductive Role
  | localCoreSuperAdmin
  | workspaceOwner
  | workspaceAdmin
  | workspaceEditor
  | workspaceViewer
deriving DecidableEq

/-- `chk_access_scope_policy_id`. -/
def Scope.Valid (scope : Scope) : Prop :=
  match scope.scopeType with
  | .localCore => scope.scopeId = "local-core"
  | .workspace => scope.scopeId ≠ ""

instance : (scope : Scope) → Decidable scope.Valid
  | ⟨.localCore, scopeId⟩ => inferInstanceAs (Decidable (scopeId = "local-core"))
  | ⟨.workspace, scopeId⟩ => inferInstanceAs (Decidable (scopeId ≠ ""))

/-- `chk_access_grant_role_scope`, `chk_access_invitation_role_scope` and
`validate_role_scope`. -/
def Role.Fits (role : Role) (scopeType : ScopeType) : Prop :=
  scopeType = .localCore ↔ role = .localCoreSuperAdmin

instance (role : Role) (scopeType : ScopeType) : Decidable (role.Fits scopeType) :=
  inferInstanceAs (Decidable (_ ↔ _))

structure VerifiedIdentity where
  provider : String
  issuer : String
  subject : String
deriving DecidableEq

/-! ### Rows -/

inductive PrincipalKind
  | human
  | localUser

inductive PrincipalStatus
  | active
  | disabled
deriving DecidableEq

structure Principal where
  id : String
  principalKind : PrincipalKind
  displayEmail : Option String
  status : PrincipalStatus

inductive Status
  | active
  | revoked
deriving DecidableEq

structure Binding where
  id : String
  principalId : String
  identity : VerifiedIdentity
  verifiedEmail : Option String
  status : Status

structure Policy where
  scope : Scope
  revision : ℤ

structure Grant where
  id : String
  principalId : String
  scope : Scope
  roleKey : Role
  status : Status
  expiresAt : Option Timestamp
  createdBy : String

inductive InvitationStatus
  | pending
  | accepted
deriving DecidableEq

structure Invitation where
  id : String
  scope : Scope
  email : String
  roleKey : Role
  tokenHash : String
  status : InvitationStatus
  expiresAt : Timestamp
  createdBy : String
  acceptedPrincipalId : Option String

structure AuditEvent where
  scope : Scope
  actorPrincipalId : String
  action : String
  targetPrincipalId : Option String
  metadata : List (String × String)

structure Tables where
  principals : List Principal
  bindings : List Binding
  policies : List Policy
  grants : List Grant
  invitations : List Invitation
  auditEvents : List AuditEvent

def Tables.empty : Tables := ⟨[], [], [], [], [], []⟩

/-! ### Errors -/

inductive Constraint
  | unique
  | check
  | foreignKey
deriving DecidableEq

inductive AccessError
  | revisionConflict
  | lastOwner
  | lastAdministrator
  | invitationInvalid
  | invitationExpired
  | invitationEmailMismatch
  | roleScopeMismatch
  | integrity (violated : Constraint)
deriving DecidableEq

/-! ### Unique indexes -/

def samePrincipal (row other : Principal) : Prop := row.id = other.id

def sameBindingId (row other : Binding) : Prop := row.id = other.id

/-- `uq_access_identity_provider_issuer_subject`. -/
def sameIdentity (row other : Binding) : Prop := row.identity = other.identity

def sameBinding (row other : Binding) : Prop := sameBindingId row other ∨ sameIdentity row other

def sameScope (row other : Policy) : Prop := row.scope = other.scope

def sameGrantId (row other : Grant) : Prop := row.id = other.id

/-- `uq_access_grant_active_scope`. -/
def sameActive (row other : Grant) : Prop :=
  row.status = .active ∧ other.status = .active ∧ row.principalId = other.principalId ∧
    row.scope = other.scope

/-- The primary key and `uq_access_invitation_token_hash`. -/
def sameInvitation (row other : Invitation) : Prop :=
  row.id = other.id ∨ row.tokenHash = other.tokenHash

instance : DecidableRel samePrincipal := fun _ _ => inferInstanceAs (Decidable (_ = _))
instance : DecidableRel sameBindingId := fun _ _ => inferInstanceAs (Decidable (_ = _))
instance : DecidableRel sameIdentity := fun _ _ => inferInstanceAs (Decidable (_ = _))
instance : DecidableRel sameBinding := fun _ _ => inferInstanceAs (Decidable (_ ∨ _))
instance : DecidableRel sameScope := fun _ _ => inferInstanceAs (Decidable (_ = _))
instance : DecidableRel sameGrantId := fun _ _ => inferInstanceAs (Decidable (_ = _))
instance : DecidableRel sameActive := fun _ _ => inferInstanceAs (Decidable (_ ∧ _))
instance : DecidableRel sameInvitation := fun _ _ => inferInstanceAs (Decidable (_ ∨ _))

/-- The rows that an insertion leaves, or the violation that ends it. -/
def stored {α : Type} : Option (List α) → Except AccessError (List α)
  | none => .error (.integrity .unique)
  | some rows => .ok rows

@[simp] theorem stored_eq_ok {α : Type} {result : Option (List α)} {rows : List α} :
    stored result = .ok rows ↔ result = some rows := by
  cases result <;> simp [stored]

def never {α : Type} (_ _ : α) : Prop := False

instance {α : Type} : DecidableRel (never : α → α → Prop) :=
  fun _ _ => inferInstanceAs (Decidable False)

/-! ### What a table holds -/

def Grant.Active (principalId : String) (scope : Scope) (grant : Grant) : Prop :=
  grant.status = .active ∧ grant.principalId = principalId ∧ grant.scope = scope

instance (principalId : String) (scope : Scope) (grant : Grant) :
    Decidable (grant.Active principalId scope) := inferInstanceAs (Decidable (_ ∧ _))

/-- `expires_at IS NULL OR expires_at > NOW()`. -/
def Grant.Unexpired (now : Timestamp) (grant : Grant) : Prop :=
  ∀ time ∈ grant.expiresAt, now < time

instance (now : Timestamp) (grant : Grant) : Decidable (grant.Unexpired now) :=
  inferInstanceAs (Decidable (∀ time ∈ grant.expiresAt, now < time))

def Tables.revision (tables : Tables) (scope : Scope) : ℤ :=
  ((lookup Policy.scope scope tables.policies).map Policy.revision).getD 0

end MindscapeLocalCore.AccessControl.Schema
